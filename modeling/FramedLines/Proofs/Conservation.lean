import FramedLines.Proofs.Duplex

-- Octets between two ends. Whatever the ends do, in whatever order, what goes into a pipe comes
-- out of it at the other end, once and in order, and there is never more in it than it holds.

namespace FramedLines

namespace Duplex

-- A read takes something off its pipe, or else it comes to nothing and changes nothing.
theorem read_cases (duplex : Duplex) (side : End) (room : Nat) :
    (∃ octets rest, (duplex.incoming side).buffer = octets ++ rest ∧
      duplex.read side room = (some (.ok octets),
        duplex.setIncoming side { duplex.incoming side with buffer := rest })) ∨
    ∃ fault? : Option IoError, duplex.read side room = (fault?.map .error, duplex) := by
  rcases hread : (duplex.incoming side).read? room with _ | ⟨octets, next⟩
  · exact .inr ⟨overdue (duplex.half side).readLimit,
      by simp only [read, read?, hread, Option.map_none]⟩
  · obtain ⟨rest, hbuffer, rfl⟩ := Pipe.read?_cases hread
    exact .inl ⟨octets, rest, hbuffer, by simp only [read, read?, hread, Option.map_some]⟩

theorem write_cases (duplex : Duplex) (side : End) (data : Bytes) :
    (∃ count, count = min (duplex.outgoing side).space data.length ∧
      duplex.write side data = (some (.ok count),
        duplex.setIncoming side.other ((duplex.outgoing side).put (data.take count)))) ∨
    ∃ fault? : Option IoError, duplex.write side data = (fault?.map .error, duplex) := by
  rcases hwrite : (duplex.outgoing side).write? data with _ | ⟨result, next⟩
  · exact .inr ⟨overdue (duplex.half side).writeLimit,
      by simp only [write, write?, hwrite, Option.map_none]⟩
  · rcases Pipe.write?_cases hwrite with ⟨-, rfl, rfl⟩ | ⟨count, rfl, hcount, -, rfl⟩
    · exact .inr ⟨some (.bare .brokenPipe),
        by simp only [write, write?, hwrite, Option.map_some, setIncoming_outgoing]⟩
    · exact .inl ⟨count, hcount, by simp only [write, write?, hwrite, Option.map_some]⟩

-- What an end can do. A call that has to wait is made when its wait is over, and an end that is
-- dropped lets go of both pipes.
inductive Op where
  | read (room : Nat)
  | write (data : Bytes)
  | setReadLimit (limit : Option Duration)
  | setWriteLimit (limit : Option Duration)
  | disconnect
  | drop

structure Act where
  side : End
  op : Op

-- What an act came to. A call without an answer waits for ever.
inductive Outcome where
  | read (answer : Option (Except IoError Bytes))
  | wrote (answer : Option (Except IoError Nat))
  | done

def Outcome.fault? : Outcome → Option IoError
  | read (some (.error fault)) => some fault
  | wrote (some (.error fault)) => some fault
  | _ => none

def Act.perform : Act → Duplex → Outcome × Duplex
  | ⟨side, .read room⟩, duplex => Prod.map .read id (duplex.read side room)
  | ⟨side, .write data⟩, duplex => Prod.map .wrote id (duplex.write side data)
  | ⟨side, .setReadLimit limit⟩, duplex => (.done, duplex.setReadLimit side limit)
  | ⟨side, .setWriteLimit limit⟩, duplex => (.done, duplex.setWriteLimit side limit)
  | ⟨_, .disconnect⟩, duplex | ⟨_, .drop⟩, duplex => (.done, duplex.disconnect)

-- An act with the connection before and after it.
structure Step where
  before : Duplex
  act : Act
  outcome : Outcome
  after : Duplex

-- The acts one after another, and how they leave the connection.
def performAll : List Act → Duplex → List Step × Duplex
  | [], duplex => ([], duplex)
  | act :: acts, duplex =>
      let (outcome, after) := act.perform duplex
      let (steps, last) := performAll acts after
      (⟨duplex, act, outcome, after⟩ :: steps, last)

-- What can happen to the pipes.
inductive Effect (before : Duplex) (act : Act) : Outcome → Duplex → Prop where
  | took (octets rest : Bytes) (hbuffer : (before.incoming act.side).buffer = octets ++ rest) :
      Effect before act (.read (some (.ok octets)))
        (before.setIncoming act.side { before.incoming act.side with buffer := rest })
  | put (data : Bytes) (count : Nat) (hop : act.op = .write data)
      (hcount : count = min (before.outgoing act.side).space data.length) :
      Effect before act (.wrote (some (.ok count)))
        (before.setIncoming act.side.other ((before.outgoing act.side).put (data.take count)))
  | readNothing (fault? : Option IoError) : Effect before act (.read (fault?.map .error)) before
  | wroteNothing (fault? : Option IoError) : Effect before act (.wrote (fault?.map .error)) before
  | adjusted (after : Duplex) (hsame : ∀ side, ∃ connected,
      after.incoming side = { before.incoming side with connected }) :
      Effect before act .done after

theorem perform_effect (act : Act) (before : Duplex) :
    Effect before act (act.perform before).1 (act.perform before).2 := by
  obtain ⟨side, op⟩ := act
  cases op with
  | read room =>
      rcases read_cases before side room with ⟨octets, rest, hbuffer, hread⟩ | ⟨fault?, hread⟩
      all_goals simp only [Act.perform, hread, Prod.map]
      · exact .took octets rest hbuffer
      · exact .readNothing fault?
  | write data =>
      rcases write_cases before side data with ⟨count, hcount, hwrite⟩ | ⟨fault?, hwrite⟩
      all_goals simp only [Act.perform, hwrite, Prod.map]
      · exact .put data count rfl hcount
      · exact .wroteNothing fault?
  | setReadLimit limit => exact .adjusted _ fun viewer => ⟨_, incoming_setReadLimit ..⟩
  | setWriteLimit limit => exact .adjusted _ fun viewer => ⟨_, incoming_setWriteLimit ..⟩
  | disconnect => exact .adjusted _ fun viewer => ⟨false, incoming_disconnect before viewer⟩
  | drop => exact .adjusted _ fun viewer => ⟨false, incoming_disconnect before viewer⟩

namespace Step

-- What the step took from a writer at this end.
def accepted (side : End) (step : Step) : Bytes :=
  match step.act.op, step.outcome with
  | .write data, .wrote (some (.ok count)) => if step.act.side = side then data.take count else []
  | _, _ => []

-- What a reader at this end was answered, if there was one.
def answer? (side : End) (step : Step) : Option (Option (Except IoError Bytes)) :=
  match step.outcome with
  | .read answer => if step.act.side = side then some answer else none
  | _ => none

-- What the step gave to a reader at this end.
def returned (side : End) (step : Step) : Bytes :=
  match step.answer? side with
  | some (some (.ok octets)) => octets
  | _ => []

end Step

-- The octets in front of a reader, and all that goes in behind them, come to the reader or are
-- left for it.
theorem Effect.conserves {before after : Duplex} {act : Act} {outcome : Outcome}
    (h : Effect before act outcome after) (side : End) :
    (before.incoming side).buffer ++ Step.accepted side.other ⟨before, act, outcome, after⟩ =
      Step.returned side ⟨before, act, outcome, after⟩ ++ (after.incoming side).buffer := by
  cases h with
  | took octets rest hbuffer =>
      by_cases hside : act.side = side
      · simp [Step.accepted, Step.returned, Step.answer?, hbuffer, ← hside]
      · simp [Step.accepted, Step.returned, Step.answer?, hside, setIncoming, incoming_setHalf]
  | put data count hop hcount =>
      rcases End.eq_or_eq_other act.side side with hside | hside
      · simp [Step.accepted, Step.returned, Step.answer?, hop, hside, setIncoming, incoming_setHalf]
      · simp [Step.accepted, Step.returned, Step.answer?, hop, hside, outgoing, Pipe.put]
  | readNothing fault? =>
      have hreturned :
          Step.returned side ⟨before, act, .read (fault?.map .error), before⟩ = [] := by
        cases fault? <;> by_cases hside : act.side = side <;>
          simp [Step.returned, Step.answer?, hside]
      simp [hreturned, Step.accepted]
  | wroteNothing fault? =>
      cases fault? <;> simp [Step.accepted, Step.returned, Step.answer?]
  | adjusted _ hsame =>
      obtain ⟨connected, hafter⟩ := hsame side
      simp [Step.accepted, Step.returned, Step.answer?, hafter]

-- Both pipes hold so much, and neither has more in it.
def Within (capacity : Nat) (duplex : Duplex) : Prop :=
  ∀ side, (duplex.incoming side).capacity = capacity ∧
    (duplex.incoming side).buffer.length ≤ capacity

theorem Effect.within {before after : Duplex} {act : Act} {outcome : Outcome} {capacity : Nat}
    (h : Effect before act outcome after) (hwithin : before.Within capacity) :
    after.Within capacity := by
  intro side
  obtain ⟨hcapacity, hlength⟩ := hwithin side
  cases h with
  | took octets rest hbuffer =>
      by_cases hside : act.side = side
      · subst hside
        rw [hbuffer, List.length_append] at hlength
        simp only [incoming_setIncoming]
        exact ⟨hcapacity, by omega⟩
      · simp only [setIncoming, incoming_setHalf, if_neg hside]
        exact ⟨hcapacity, hlength⟩
  | put data count hop hcount =>
      rcases End.eq_or_eq_other side act.side.other with rfl | hside
      · rw [Pipe.space, outgoing] at hcount
        simp only [incoming_setIncoming, Pipe.put, outgoing, List.length_append, List.length_take]
        exact ⟨hcapacity, by omega⟩
      · have hother : act.side.other ≠ side := by simp [hside]
        simp only [setIncoming, incoming_setHalf, if_neg hother]
        exact ⟨hcapacity, hlength⟩
  | readNothing => exact ⟨hcapacity, hlength⟩
  | wroteNothing => exact ⟨hcapacity, hlength⟩
  | adjusted _ hsame =>
      obtain ⟨connected, hafter⟩ := hsame side
      rw [hafter]
      exact ⟨hcapacity, hlength⟩

-- A write that was taken put in just what it says, which is all that there was space for. An act
-- that fails changes nothing.
structure Step.Exact (step : Step) : Prop where
  wrote : ∀ data count, step.act.op = .write data → step.outcome = .wrote (some (.ok count)) →
    count = min (step.before.outgoing step.act.side).space data.length ∧
    step.after.outgoing step.act.side =
      (step.before.outgoing step.act.side).put (data.take count) ∧
    step.after.incoming step.act.side = step.before.incoming step.act.side
  failed : step.outcome.fault?.isSome → step.after = step.before

theorem Effect.exact {before after : Duplex} {act : Act} {outcome : Outcome}
    (h : Effect before act outcome after) : Step.Exact ⟨before, act, outcome, after⟩ := by
  cases h with
  | took octets rest hbuffer => exact ⟨by simp, by simp [Outcome.fault?]⟩
  | put data count hop hcount =>
      refine ⟨fun other count' hother hcount' => ?_, by simp [Outcome.fault?]⟩
      simp only at hother hcount'
      cases hop.symm.trans hother
      cases hcount'
      exact ⟨hcount, by simp, by simp [setIncoming, incoming_setHalf]⟩
  | readNothing fault? => exact ⟨by simp, fun _ => rfl⟩
  | wroteNothing fault? => exact ⟨by cases fault? <;> simp, fun _ => rfl⟩
  | adjusted _ hsame => exact ⟨by simp, by simp [Outcome.fault?]⟩

section View

variable {one other : Duplex} {side : End}

-- All that a reader depends on is its own half of the connection.
theorem read_congr (hsame : one.half side = other.half side) (room : Nat) :
    (one.read side room).1 = (other.read side room).1 ∧
      (one.read side room).2.half side = (other.read side room).2.half side := by
  simp only [read, read?, incoming, hsame]
  cases (other.half side).incoming.read? room <;> simp [setIncoming, half_setHalf, hsame]

theorem half_read_of_ne {duplex : Duplex} {reader : End} (hne : reader ≠ side) (room : Nat) :
    (duplex.read reader room).2.half side = duplex.half side := by
  rcases read_cases duplex reader room with ⟨octets, rest, -, hread⟩ | ⟨fault?, hread⟩
  all_goals simp [hread, setIncoming, half_setHalf, hne]

theorem half_write_congr (hsame : one.half side = other.half side) (data : Bytes) :
    (one.write side.other data).2.half side = (other.write side.other data).2.half side := by
  simp only [write, write?, outgoing, incoming, End.other_other, hsame]
  cases (other.half side).incoming.write? data <;> simp [setIncoming, half_setHalf, hsame]

theorem half_write (duplex : Duplex) (side : End) (data : Bytes) :
    (duplex.write side data).2.half side = duplex.half side := by
  rcases write_cases duplex side data with ⟨count, -, hwrite⟩ | ⟨fault?, hwrite⟩
  all_goals simp [hwrite, setIncoming, half_setHalf]

def Act.writesAt (side : End) (act : Act) : Bool :=
  match act.op with
  | .write _ => act.side = side
  | _ => false

theorem perform_own_write {act : Act} (hown : act.writesAt side = true) (duplex : Duplex) :
    (act.perform duplex).2.half side = duplex.half side ∧
      Step.answer? side ⟨duplex, act, (act.perform duplex).1, (act.perform duplex).2⟩ = none := by
  obtain ⟨actor, op⟩ := act
  cases op with
  | write data =>
      obtain rfl : actor = side := of_decide_eq_true hown
      exact ⟨half_write duplex actor data, rfl⟩
  | _ => cases hown

theorem perform_congr (hsame : one.half side = other.half side) {act : Act}
    (hother : act.writesAt side = false) :
    (act.perform one).2.half side = (act.perform other).2.half side ∧
      Step.answer? side ⟨one, act, (act.perform one).1, (act.perform one).2⟩ =
        Step.answer? side ⟨other, act, (act.perform other).1, (act.perform other).2⟩ := by
  obtain ⟨actor, op⟩ := act
  cases op with
  | read room =>
      by_cases hactor : actor = side
      · subst hactor
        obtain ⟨hanswer, hhalf⟩ := read_congr hsame room
        exact ⟨hhalf, by simp [Step.answer?, Act.perform, hanswer]⟩
      · refine ⟨?_, by simp [Step.answer?, Act.perform, hactor]⟩
        change (one.read actor room).2.half side = (other.read actor room).2.half side
        rw [half_read_of_ne hactor, half_read_of_ne hactor, hsame]
  | write data =>
      have hactor : actor = side.other :=
        (End.eq_or_eq_other actor side).resolve_left (of_decide_eq_false hother)
      subst hactor
      exact ⟨half_write_congr hsame data, rfl⟩
  | setReadLimit limit =>
      refine ⟨?_, rfl⟩
      by_cases hactor : actor = side <;>
        simp [Act.perform, setReadLimit, half_setHalf, hactor, hsame]
  | setWriteLimit limit =>
      refine ⟨?_, rfl⟩
      by_cases hactor : actor = side <;>
        simp [Act.perform, setWriteLimit, half_setHalf, hactor, hsame]
  | disconnect => exact ⟨by simp [Act.perform, half_disconnect, incoming, hsame], rfl⟩
  | drop => exact ⟨by simp [Act.perform, half_disconnect, incoming, hsame], rfl⟩

-- A reader is answered as if its own end had never written anything.
theorem answers_without_own_writes (acts : List Act) (hsame : one.half side = other.half side) :
    (performAll acts one).1.filterMap (Step.answer? side) =
      (performAll (acts.filter fun act => !act.writesAt side) other).1.filterMap
        (Step.answer? side) := by
  induction acts generalizing one other with
  | nil => rfl
  | cons act acts ih =>
      cases hwrites : act.writesAt side with
      | true =>
          obtain ⟨hhalf, hanswer⟩ := perform_own_write hwrites one
          rw [List.filter_cons_of_neg (by simp [hwrites]), performAll,
            List.filterMap_cons_none hanswer]
          exact ih (hhalf.trans hsame)
      | false =>
          obtain ⟨hhalf, hanswer⟩ := perform_congr hsame hwrites
          rw [List.filter_cons_of_pos (by simp [hwrites]), performAll, performAll,
            List.filterMap_cons, List.filterMap_cons, hanswer, ih hhalf]

end View

-- What has come to a reader and what is left for it is what it began with and all that the other
-- end was taken from.
theorem performAll_conserves (acts : List Act) (start : Duplex) (side : End) :
    (start.incoming side).buffer ++
        (performAll acts start).1.flatMap (Step.accepted side.other) =
      (performAll acts start).1.flatMap (Step.returned side) ++
        ((performAll acts start).2.incoming side).buffer := by
  induction acts generalizing start with
  | nil => simp [performAll]
  | cons act acts ih =>
      have hstep := (perform_effect act start).conserves side
      simp only [performAll, List.flatMap_cons]
      rw [← List.append_assoc, hstep, List.append_assoc, ih, List.append_assoc]

theorem performAll_within {capacity : Nat} (acts : List Act) {start : Duplex}
    (hstart : start.Within capacity) : (performAll acts start).2.Within capacity := by
  induction acts generalizing start with
  | nil => exact hstart
  | cons act acts ih => exact ih ((perform_effect act start).within hstart)

theorem performAll_exact (acts : List Act) (start : Duplex) :
    ∀ step ∈ (performAll acts start).1, step.Exact := by
  induction acts generalizing start with
  | nil => simp [performAll]
  | cons act acts ih =>
      rw [performAll, List.forall_mem_cons]
      exact ⟨(perform_effect act start).exact, ih _⟩

-- What holds of a pair of ends after any acts.
structure Conserved (capacity : Nat) (start : Duplex) (acts : List Act) : Prop where
  within : (performAll acts start).2.Within capacity
  conserves : ∀ side : End, (performAll acts start).1.flatMap (Step.accepted side.other) =
    (performAll acts start).1.flatMap (Step.returned side) ++
      ((performAll acts start).2.incoming side).buffer
  exact : ∀ step ∈ (performAll acts start).1, step.Exact
  -- no end ever meets its own octets
  apart : ∀ side, (performAll acts start).1.filterMap (Step.answer? side) =
    (performAll (acts.filter fun act => !act.writesAt side) start).1.filterMap (Step.answer? side)

theorem pair_conserves_octets {capacity : Nat} {start : Duplex}
    (hstart : pair capacity = .ok start) (acts : List Act) : Conserved capacity start acts := by
  unfold pair at hstart
  split at hstart
  · cases hstart
    refine ⟨performAll_within acts fun side => ?_, fun side => ?_, performAll_exact acts _,
      fun side => answers_without_own_writes acts rfl⟩
    · cases side <;> exact ⟨rfl, Nat.zero_le _⟩
    · have hconserves := performAll_conserves acts
        ⟨{ incoming := { capacity } }, { incoming := { capacity } }⟩ side
      have hempty : (incoming ⟨{ incoming := { capacity } }, { incoming := { capacity } }⟩
          side).buffer = [] := by
        cases side <;> rfl
      rwa [hempty, List.nil_append] at hconserves
  · cases hstart

-- Both ends write, one of them more than there is space for, and again in vain under a limit. It
-- reads and lets go, and the other end reads what is left and fails to write.
theorem pair_conserves_octets_full_and_broken :
    let acts : List Act :=
      [⟨.first, .write [1, 2, 3]⟩, ⟨.second, .write [7]⟩, ⟨.first, .setWriteLimit (some .zero)⟩,
        ⟨.first, .write [3]⟩, ⟨.second, .read 1⟩, ⟨.first, .write [3]⟩, ⟨.first, .read 4⟩,
        ⟨.first, .drop⟩, ⟨.second, .read 4⟩, ⟨.second, .write [8]⟩]
    ∃ start, pair 2 = .ok start ∧ Conserved 2 start acts := by
  intro acts
  exact ⟨_, rfl, pair_conserves_octets rfl acts⟩

end Duplex

end FramedLines
