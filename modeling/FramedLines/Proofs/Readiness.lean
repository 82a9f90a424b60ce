import FramedLines.Poller
import FramedLines.Proofs.Calls

-- What is seen of a line over pipes from outside, and what a call at it comes to without waiting.

namespace FramedLines.Connection

-- An attempt to write one octet takes it.
def Takes (c : Connection) (side : End) (left : Option Duration) (octet : UInt8) : Prop :=
  (c.attempt side left ⟨[octet], 0⟩).1 = some (.ended (.ok ⟨1, 1⟩))

-- What is reported of a line that its owner has not closed, to those who watch for `interest`.
structure Reports (c : Connection) (side : End) (interest events : Events) : Prop where
  read : ∀ room, 0 < room → (events.read = true ↔
    interest.read = true ∧ ∃ octets next, c.read? side room = some (.ok octets, next))
  -- however long it takes to get to the pipe
  write : ∀ spent, (c.left side spent).any Duration.isZero = false → ∀ octet,
    (events.write = true ↔ interest.write = true ∧ c.Takes side (c.left side spent) octet) ∧
      (c.Takes side (c.left side spent) octet ↔
        (c.write side [octet] spent).1 = some (.ok ⟨1, 1⟩))
  -- nobody asks the pipe when the time is up by then
  late : ∀ spent, (c.left side spent).any Duration.isZero = true → ∀ octet,
    (events.write = true ↔ interest.write = true ∧ c.Takes side none octet) ∧
      c.write side [octet] spent =
        (some (.error (Fault.timeout.withContext "no bytes accepted before send timeout")), c)
  error : events.error = true ↔ (c.line side.other).closed = true ∧ interest.read = false

namespace Piped

variable {c : Connection} {duplex : Duplex} {side : End} {left : Option Duration}

theorem connected_of_open (h : c.Piped duplex) (hopen : (c.line side).closed = false)
    (viewer : End) : (duplex.incoming viewer).connected = !(c.line side.other).closed := by
  rw [h.connected, joined_eq c side, hopen, Bool.false_or]

theorem reads_iff (h : c.Piped duplex) (hopen : (c.line side).closed = false) {room : Nat}
    (hroom : 0 < room) :
    (∃ octets next, c.read? side room = some (.ok octets, next)) ↔
      (duplex.incoming side).buffer ≠ [] ∨ (duplex.incoming side).connected = false := by
  have hzero : room ≠ 0 := Nat.ne_of_gt hroom
  simp only [read?, hzero, hopen, h.link, Link.read?, Duplex.read?, Pipe.read?, if_false,
    Bool.false_eq_true, List.isEmpty_iff]
  by_cases hempty : (duplex.incoming side).buffer = []
  · cases hconnected : (duplex.incoming side).connected <;> simp [hempty, mapError_ok]
  · simp [hempty, mapError_ok]

theorem takes_iff (h : c.Piped duplex) (hleft : left.any Duration.isZero = false)
    (octet : UInt8) :
    c.Takes side left octet ↔
      (duplex.outgoing side).connected = true ∧ 0 < (duplex.outgoing side).space := by
  obtain ⟨told, hputs, htold, -⟩ := told_pipes h.link left
  have hsame : told.outgoing side = duplex.outgoing side := by
    rw [hputs.outgoing, Pipe.put_nil]
  simp only [Takes, Connection.attempt, hleft, Bool.false_eq_true, if_false, htold, Link.write?,
    Duplex.write?, hsame, Pipe.write?, List.isEmpty_cons]
  cases hconnected : (duplex.outgoing side).connected with
  | false => simp [Sending.advance_brokenPipe]
  | true =>
      by_cases hspace : (duplex.outgoing side).space = 0
      · simp [hspace]
      · have hpos : 0 < (duplex.outgoing side).space := Nat.pos_of_ne_zero hspace
        have hpiece : [octet].take (duplex.outgoing side).space = [octet] :=
          List.take_of_length_le hpos
        simp [hspace, hpos, hpiece, Sending.advance, Sending.outcome]

-- No attempt takes an octet in part.
theorem attempt_octet (h : c.Piped duplex) (octet : UInt8) (sending : Sending) :
    (c.attempt side left ⟨[octet], 0⟩).1 ≠ some (.going sending) := by
  intro hgoing
  obtain ⟨next, taken, rest, -, hsplit, hattempt | ⟨htaken, hrest, -⟩ | ⟨-, -, hattempt⟩ |
    ⟨-, -, fault, hattempt⟩⟩ := attempt_cases h.link left ⟨[octet], 0⟩
  · cases (congrArg Prod.fst hattempt).symm.trans hgoing
  · rcases List.append_eq_singleton_iff.mp hsplit.symm with ⟨hnone, -⟩ | ⟨-, hnone⟩
    · exact htaken hnone
    · exact hrest hnone
  · cases (congrArg Prod.fst hattempt).symm.trans hgoing
  · cases (congrArg Prod.fst hattempt).symm.trans hgoing

-- A write of one octet that is not taken at once fails, or waits and fails.
theorem write_octet (h : c.Piped duplex) (hopen : (c.line side).closed = false) (spent : Nat)
    (octet : UInt8) :
    c.Takes side (c.left side spent) octet ↔
      (c.write side [octet] spent).1 = some (.ok ⟨1, 1⟩) := by
  have hbegin : c.begin side [octet] = .ok ⟨[octet], 0⟩ := by simp [begin, hopen]
  simp only [Takes, Connection.write, hbegin, List.length_singleton]
  rcases hattempt : c.attempt side (c.left side spent) ⟨[octet], 0⟩ with
    ⟨_ | sending | result, next⟩
  all_goals simp only [Connection.finish, hattempt]
  · have hfails (error : IoError) (outcome : WriteOutcome) :
        Sending.advance ⟨[octet], 0⟩ (.failed error) ≠ .ended (.ok outcome) := by
      simp only [Sending.advance, Sending.outcome, if_true]
      split
      · simp
      · split <;> simp
    refine iff_of_false (by simp) ?_
    cases Duration.endsWait (next.link.writeLimit side) with
    | false => simp
    | true =>
        cases hadvance : Sending.advance ⟨[octet], 0⟩ (.failed next.link.timedOut) with
        | going sending => simp
        | ended result =>
            intro hanswer
            simp only [if_true, Option.some.injEq] at hanswer
            rw [hanswer] at hadvance
            exact hfails _ _ hadvance
  · exact absurd (congrArg Prod.fst hattempt) (h.attempt_octet octet sending)
  · simp

theorem write_octet_late (hopen : (c.line side).closed = false) {spent : Nat}
    (hlate : (c.left side spent).any Duration.isZero = true) (octet : UInt8) :
    c.write side [octet] spent =
      (some (.error (Fault.timeout.withContext "no bytes accepted before send timeout")), c) := by
  have hbegin : c.begin side [octet] = .ok ⟨[octet], 0⟩ := by simp [begin, hopen]
  simp only [Connection.write, hbegin, List.length_singleton, Connection.finish,
    Connection.attempt, hlate, if_true]
  rfl

theorem reports (h : c.Piped duplex) (hopen : (c.line side).closed = false) (interest : Events) :
    c.Reports side interest ((c.link.readiness side).events interest) := by
  have hincoming := h.connected_of_open hopen side
  have houtgoing : (duplex.outgoing side).connected = _ := h.connected_of_open hopen side.other
  have hready : c.link.readiness side = duplex.readiness side := by rw [h.link, Link.readiness]
  have hwritable : ((duplex.readiness side).events interest).write = true ↔
      interest.write = true ∧
        (duplex.outgoing side).connected = true ∧ 0 < (duplex.outgoing side).space := by
    simp [Readiness.events, Duplex.readiness]
  rw [hready]
  refine ⟨fun room hroom => ?_, fun spent hprompt octet => ⟨?_, h.write_octet hopen spent octet⟩,
    fun spent hlate octet => ⟨?_, write_octet_late hopen hlate octet⟩, ?_⟩
  · rw [h.reads_iff hopen hroom]
    simp [Readiness.events, Duplex.readiness]
  · rw [hwritable, h.takes_iff hprompt]
  · rw [hwritable, h.takes_iff rfl]
  · simp [Readiness.events, Duplex.readiness, hincoming]

end Piped

end FramedLines.Connection
