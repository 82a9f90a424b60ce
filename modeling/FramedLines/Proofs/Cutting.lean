import FramedLines.Proofs.Course

-- Scripts with the same octets and the same halts among them. However each cuts its octets, no
-- sequence of reads can tell one from the other.

namespace FramedLines

namespace Script

def eventOctets : Event → Bytes
  | .data bytes => bytes
  | _ => []

-- All octets that a script still has for its readers.
def octets (script : Script) : Bytes := script.ready ++ script.events.flatMap eventOctets

-- How events halt a reader, and behind how many octets. Those before the first event are `passed`.
def halts (passed : Nat) : List Event → List (Nat × Halt)
  | [] => []
  | .data bytes :: events => halts (passed + bytes.length) events
  | .ended :: events => (passed, .ended) :: halts passed events
  | .failed fault :: events => (passed, .failed fault) :: halts passed events

-- Where a script halts its readers, counted in octets from here.
def marks (script : Script) : List (Nat × Halt) := halts script.ready.length script.events

-- Octets divided at such places.
def divide (passed : Nat) (octets : Bytes) : List (Nat × Halt) → Supply
  | [] => [⟨octets, .ended⟩]
  | (place, halt) :: marks =>
      ⟨octets.take (place - passed), halt⟩ :: divide place (octets.drop (place - passed)) marks

theorem stretches_eq_divide (passed : Nat) (front : Bytes) (events : List Event) :
    stretches front events =
      divide passed (front ++ events.flatMap eventOctets)
        (halts (passed + front.length) events) := by
  -- A halt divides off what is in front of it, and the same holds of the events behind it.
  have hdivide (place : Nat) (octets : Bytes) (halt : Halt) (later : Bytes)
      (marks : List (Nat × Halt)) :
      divide place (octets ++ later) ((place + octets.length, halt) :: marks) =
        ⟨octets, halt⟩ :: divide (place + octets.length) later marks := by
    simp [divide]
  induction events generalizing passed front with
  | nil => simp [stretches, halts, divide]
  | cons event events ih =>
      cases event with
      | data bytes =>
          have hrest := ih passed (front ++ bytes)
          rw [List.length_append, ← Nat.add_assoc, List.append_assoc] at hrest
          exact hrest
      | ended =>
          have hrest := ih (passed + front.length) []
          rw [List.nil_append, List.length_nil, Nat.add_zero] at hrest
          rw [stretches, hrest]
          exact (hdivide passed front .ended _ _).symm
      | failed fault =>
          have hrest := ih (passed + front.length) []
          rw [List.nil_append, List.length_nil, Nat.add_zero] at hrest
          rw [stretches, hrest]
          exact (hdivide passed front (.failed fault) _ _).symm

theorem supply_eq_divide (script : Script) :
    script.supply = divide 0 script.octets script.marks := by
  have h := stretches_eq_divide 0 script.ready script.events
  rwa [Nat.zero_add] at h

theorem flatMap_stretches (front : Bytes) (events : List Event) :
    (stretches front events).flatMap Stretch.octets = front ++ events.flatMap eventOctets := by
  induction events generalizing front with
  | nil => simp [stretches]
  | cons event events ih => cases event <;> simp [stretches, ih, eventOctets]

theorem left_eq_length (script : Script) : script.left = script.octets.length := by
  obtain ⟨events, ready, _, _, _⟩ := script
  simp only [left, octets, List.length_append]
  induction events with
  | nil => rfl
  | cons event events ih =>
      rw [List.foldr_cons, ih, List.flatMap_cons, List.length_append]
      cases event <;> simp only [eventSize, eventOctets, List.length_nil] <;> omega

-- A script has as many octets left as there are in what it stands for.
theorem Holds.left_eq {script : Script} {supply : Supply} (h : script.Holds supply)
    (hne : supply ≠ []) : script.left = (supply.flatMap Stretch.octets).length := by
  obtain ⟨ends, hsupply⟩ := h.2 hne
  have hends : (List.replicate ends spent).flatMap Stretch.octets = [] := by simp [spent]
  rw [left_eq_length, hsupply, List.flatMap_append, hends, List.append_nil, Script.supply,
    flatMap_stretches]
  rfl

end Script

namespace Message

-- One read uses up one halt at most.
theorem Course.length_le {limits : Limits} {octets : Bytes} {halt : Halt} {later left : Supply}
    {outcome : Except Fault (Option Message)}
    (h : Course limits octets halt later outcome left) : later.length ≤ left.length := by
  cases h with
  | whole => simp
  | tooBig => simp
  | halted => exact Nat.le_refl _

variable (limits : Limits)

-- So many reads come to the same on every line with a supply that has more halts.
theorem runTimes_receive_supply {times : Nat} {supply : Supply} (hlong : times < supply.length) :
    ∃ (outcomes : List (Except Fault (Option Message))) (rest : Supply), rest ≠ [] ∧
      ∀ {σ : Type} {line : ByteLine σ} {holds : σ → Supply → Prop}, line.Faithful holds →
        ∀ {state : σ}, holds state supply →
          ∃ last, Dialogue.runTimes line (receive limits) times state =
            (outcomes.map some, last) ∧ holds last rest := by
  induction times generalizing supply with
  | zero =>
      refine ⟨[], supply, List.ne_nil_of_length_pos hlong, ?_⟩
      intro σ line holds hline state hstate
      exact ⟨state, rfl, hstate⟩
  | succ times ih =>
      cases supply with
      | nil => exact absurd hlong (Nat.not_lt_zero _)
      | cons stretch later =>
          obtain ⟨octets, halt⟩ := stretch
          obtain ⟨outcome, left, hfeed, hcourse⟩ := feed_receive_course limits octets halt later
          have hleft := hcourse.length_le
          rw [List.length_cons] at hlong
          obtain ⟨outcomes, rest, hne, hruns⟩ := ih (show times < left.length by omega)
          refine ⟨outcome :: outcomes, rest, hne, ?_⟩
          intro σ line holds hline state hstate
          obtain ⟨middle, hrun, hmiddle⟩ := seamless_receive limits hfeed hline hstate
          obtain ⟨last, hlast, hrest⟩ := hruns hline hmiddle
          exact ⟨last, by simp only [Dialogue.runTimes, hrun, hlast, List.map_cons], hrest⟩

-- Two scripts with the same octets and the same halts at the same places are read alike, read by
-- read, and have the same number of octets left after each, however they cut their octets.
theorem reads_ignore_cuts {one other : Script} (hone : one.chunk ≠ some 0)
    (hother : other.chunk ≠ some 0) (hoctets : one.octets = other.octets)
    (hmarks : one.marks = other.marks) (times : Nat) :
    ∃ (outcomes : List (Except Fault (Option Message))) (oneLast otherLast : Script),
      Dialogue.runTimes Script.line (receive limits) times one =
        (outcomes.map some, oneLast) ∧
      Dialogue.runTimes Script.line (receive limits) times other =
        (outcomes.map some, otherLast) ∧
      oneLast.left = otherLast.left := by
  have hsame : one.supply = other.supply := by
    rw [one.supply_eq_divide, other.supply_eq_divide, hoctets, hmarks]
  have hlong : times < (one.supply ++ List.replicate times Script.spent).length := by
    obtain ⟨_, _, _, hall⟩ := Script.exists_stretches one.events
    rw [Script.supply, hall, List.length_append, List.length_cons, List.length_replicate]
    omega
  obtain ⟨outcomes, rest, hne, hruns⟩ := runTimes_receive_supply limits hlong
  obtain ⟨oneLast, honeRuns, honeLeft⟩ :=
    hruns Script.line_faithful (show one.Holds _ from ⟨hone, fun _ => ⟨times, rfl⟩⟩)
  obtain ⟨otherLast, hotherRuns, hotherLeft⟩ :=
    hruns Script.line_faithful (show other.Holds _ from ⟨hother, fun _ => ⟨times, by rw [hsame]⟩⟩)
  exact ⟨outcomes, oneLast, otherLast, honeRuns, hotherRuns,
    by rw [honeLeft.left_eq hne, hotherLeft.left_eq hne]⟩

-- A message that is drained, a timeout behind it, and a message that a lost connection cuts short:
-- once octet by octet, and once in pieces that run over the ends of the messages.
theorem reads_ignore_cuts_around_halts :
    let limits : Limits := { maxFrameLen := 1, drainOversizeUpTo := 3 }
    let drained := wire ⟨[[1], [2, 3, 4], []]⟩
    let cut := (wire ⟨[[5], [6]]⟩).take 10
    let one : Script :=
      { events := [.data drained, .failed Fault.timeout, .data cut,
          .failed Fault.connectionLost, .data [7, 8], .ended]
        chunk := some 1 }
    let other : Script :=
      { events := [.data (drained.drop 2), .failed Fault.timeout, .data [], .data (cut.take 3),
          .data (cut.drop 3), .failed Fault.connectionLost, .data [7], .data [], .data [8], .ended]
        ready := drained.take 2
        chunk := some 5 }
    one.octets = other.octets ∧ one.marks = other.marks ∧
    ∃ (outcomes : List (Except Fault (Option Message))) (oneLast otherLast : Script),
      Dialogue.runTimes Script.line (receive limits) 5 one = (outcomes.map some, oneLast) ∧
      Dialogue.runTimes Script.line (receive limits) 5 other = (outcomes.map some, otherLast) ∧
      oneLast.left = otherLast.left := by
  intro limits drained cut one other
  have hoctets : one.octets = other.octets := by decide
  have hmarks : one.marks = other.marks := by decide
  exact ⟨hoctets, hmarks,
    reads_ignore_cuts limits (by decide) (by decide) hoctets hmarks 5⟩

end Message

end FramedLines
