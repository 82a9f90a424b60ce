import FramedLines.Proofs.Course
import FramedLines.Proofs.Realignment

-- Whether a read was over before its message began, or in the middle of it: its outcome tells. A
-- reader that was only kept waiting between two messages can read again as if nothing had been.

namespace FramedLines.Message

variable (limits : Limits)

theorem Quits.returns {x : Reading α} (hx : Quits x) {line : ByteLine σ}
    (hanswers : ∀ room state, (line.read room state).1.isSome) (state : σ) :
    (Dialogue.run line x state).1.isSome := by
  induction hx generalizing state with
  | done result => rfl
  | @read room next hfailed hended _ ih =>
      have hanswered := hanswers room state
      rcases hread : line.read room state with ⟨_ | own | piece, middle⟩
      all_goals simp only [hread, Dialogue.run] at hanswered ⊢
      · cases hanswered
      · obtain ⟨stop, hstop⟩ := hfailed own
        rw [hstop]
        rfl
      · cases piece with
        | nil =>
            obtain ⟨stop, hstop⟩ := hended
            rw [hstop]
            rfl
        | cons octet piece => exact ih octet piece middle

-- On a line that answers every read, a read of a message comes to an end.
theorem receive_returns {line : ByteLine σ}
    (hanswers : ∀ room state, (line.read room state).1.isSome) (state : σ) :
    ((receive limits).run line state).1.isSome := by
  rw [run_receive, Prod.map_fst, Option.isSome_map]
  exact (sectional_readMessage limits).quits.returns hanswers state

-- An outcome as it has to be for what the line answered and for the octets among it.
structure TellsBoundary (answers : List (Except Fault Bytes)) (taken : Bytes)
    (outcome : Except Fault (Option Message)) : Prop where
  ended : outcome = .ok none ↔ .ok [] ∈ answers ∧ taken = []
  truncated : .ok [] ∈ answers → taken ≠ [] →
    ∃ got want, outcome = .error (Fault.truncated got want)
  timedOut : ∀ own, .error own ∈ answers → own.isTimeout →
    outcome = .error (if taken = [] then own
      else own.withContext "timed out mid-message; framing lost")

theorem tellsBoundary_pieces {pieces : List Bytes} (hne : ∀ piece ∈ pieces, piece ≠ [])
    {outcome : Except Fault (Option Message)} (hmessage : outcome ≠ .ok none) :
    TellsBoundary (pieces.map .ok) pieces.flatten outcome := by
  have hended : .ok [] ∉ pieces.map (.ok : Bytes → Except Fault Bytes) := by
    simpa using fun hmem => hne [] hmem rfl
  exact ⟨iff_of_false hmessage fun h => hended h.1, fun h => absurd h hended,
    fun own hown => by simp at hown⟩

theorem tellsBoundary_halt {pieces : List Bytes} (hne : ∀ piece ∈ pieces, piece ≠ [])
    (halt : Halt) (got want : Nat) :
    TellsBoundary (pieces.map .ok ++ [halt.answer]) pieces.flatten
      (account (.error (halt.stop pieces.isEmpty got want))) := by
  have hended : [] ∉ pieces := fun hmem => hne [] hmem rfl
  cases pieces with
  | nil => cases halt <;> constructor <;> simp [Halt.answer, Halt.stop, account]
  | cons piece pieces =>
      have hpiece := hne piece List.mem_cons_self
      cases halt with
      | ended => constructor <;> simp [Halt.answer, Halt.stop, Halt.fault, account, hpiece]
      | failed fault =>
          have hnot : .ok [] ∉ (piece :: pieces).map .ok ++ [(Halt.failed fault).answer] := by
            simpa [Halt.answer] using hended
          refine ⟨iff_of_false (by simp [Halt.stop, account]) fun h => hnot h.1,
            fun h => absurd h hnot, fun own hown htime => ?_⟩
          obtain rfl : own = fault := by simpa [Halt.answer] using hown
          simp [Halt.stop, Halt.fault, account, htime, hpiece]

theorem receive_tellsBoundary {line : ByteLine σ} (hline : line.Bounded) {state next : σ}
    {outcome : Except Fault (Option Message)}
    (hrun : (receive limits).run line state = (some outcome, next)) :
    TellsBoundary ((receive limits).answers line state) ((receive limits).taken line state)
      outcome := by
  obtain ⟨pieces, hne, hanswers⟩ := receive_answers limits hline hrun
  rcases hanswers with ⟨hanswers, hmessage⟩ | ⟨halt, got, want, hanswers, rfl⟩
  · rw [Dialogue.taken_eq_flatten none (by simpa using hanswers), hanswers]
    exact tellsBoundary_pieces hne hmessage
  · rw [Dialogue.taken_eq_flatten (some halt) hanswers, hanswers]
    exact tellsBoundary_halt hne halt got want

-- Whether a read was kept waiting for too long.
def timedOut : Option (Except Fault (Option Message)) → Bool
  | some (.error fault) => fault.isTimeout
  | _ => false

-- What reads come to, the timeouts left out.
def settled (outcomes : List (Option (Except Fault (Option Message)))) :
    List (Option (Except Fault (Option Message))) :=
  outcomes.filter fun outcome => !timedOut outcome

@[simp] theorem settled_append (outcomes more : List (Option (Except Fault (Option Message)))) :
    settled (outcomes ++ more) = settled outcomes ++ settled more :=
  List.filter_append ..

@[simp] theorem settled_verdicts (messages : List Message) :
    settled (messages.map fun message => some (verdict limits message)) =
      messages.map fun message => some (verdict limits message) := by
  refine List.filter_eq_self.mpr fun outcome houtcome => ?_
  obtain ⟨message, -, rfl⟩ := List.mem_map.mp houtcome
  simp only [verdict]
  split <;> rfl

-- Messages, and a line that falls silent behind them.
structure Batch where
  messages : List Message
  silence : Fault

namespace Batch

-- Batches as they come off a line, in front of what comes behind them.
def supply (batches : List Batch) (behind : Supply) : Supply :=
  batches.map (fun batch => ⟨batch.messages.flatMap wire, .failed batch.silence⟩) ++ behind

-- Every silence is a timeout, and every message can be taken off the line whole.
structure Orderly (limits : Limits) (batches : List Batch) : Prop where
  timeout : ∀ batch ∈ batches, batch.silence.isTimeout
  passable : ∀ batch ∈ batches, ∀ message ∈ batch.messages, Passable limits message

variable {limits : Limits} {batch : Batch} {batches : List Batch}

theorem Orderly.tail (h : Orderly limits (batch :: batches)) : Orderly limits batches :=
  ⟨fun other hother => h.timeout other (List.mem_cons_of_mem batch hother),
    fun other hother => h.passable other (List.mem_cons_of_mem batch hother)⟩

end Batch

variable {limits}

-- A read for the silence behind every batch, and one for each message, take batches off the line.
theorem runTimes_batches {line : ByteLine σ} {batches : List Batch}
    (horderly : Batch.Orderly limits batches) {state : σ} {behind : Supply}
    (hcarries : line.Carries state (Batch.supply batches behind)) :
    ∃ outcomes last,
      Dialogue.runTimes line (receive limits)
        ((batches.flatMap Batch.messages).length + batches.length) state = (outcomes, last) ∧
      settled outcomes =
        (batches.flatMap Batch.messages).map (fun message => some (verdict limits message)) ∧
      line.Carries last behind := by
  induction batches generalizing state with
  | nil => exact ⟨[], state, rfl, rfl, hcarries⟩
  | cons batch batches ih =>
      have hbatch : line.Carries state
          (⟨batch.messages.flatMap wire ++ [], .failed batch.silence⟩ ::
            Batch.supply batches behind) := by
        rwa [List.append_nil]
      obtain ⟨silent, hmessages, hsilent⟩ :=
        runTimes_passable limits (horderly.passable batch List.mem_cons_self) hbatch
      obtain ⟨middle, hsilence, hmiddle⟩ := hsilent.run (seamless_receive limits)
        (feed_receive_noCount limits (.failed batch.silence) _
          (show ([] : Bytes).length < Wire.wordLen by decide))
      obtain ⟨outcomes, last, hruns, hsettled, hlast⟩ := ih horderly.tail hmiddle
      have hcount : ((batch :: batches).flatMap Batch.messages).length + (batch :: batches).length =
          batch.messages.length + 1 +
            ((batches.flatMap Batch.messages).length + batches.length) := by
        rw [List.flatMap_cons, List.length_append, List.length_cons]
        omega
      have hquiet : settled [some (.error batch.silence)] = [] := by
        simp [settled, timedOut, horderly.timeout batch List.mem_cons_self]
      have hsilence : Dialogue.runTimes line (receive limits) 1 silent =
          ([some (.error batch.silence)], middle) := Dialogue.runTimes_one hsilence
      have hall := Dialogue.runTimes_trans (Dialogue.runTimes_trans hmessages hsilence) hruns
      refine ⟨_, last, by rw [hcount]; exact hall, ?_, hlast⟩
      rw [settled_append, settled_append, settled_verdicts, hquiet, hsettled, List.append_nil,
        List.flatMap_cons, List.map_append]

variable (limits)

-- The outcome of a read shows whether the line is still at the start of a message. So a reader who
-- reads again after a timeout between two messages gets what it would have got without it.
theorem outcome_tells_boundary {σ : Type} (line : ByteLine σ) :
    ((∀ room state, (line.read room state).1.isSome) → ∀ state,
      ((receive limits).run line state).1.isSome) ∧
    (line.Bounded → ∀ state next outcome,
      (receive limits).run line state = (some outcome, next) →
      TellsBoundary ((receive limits).answers line state) ((receive limits).taken line state)
        outcome) ∧
    ∀ (batches : List Batch) (messages : List Message) (rest : Bytes) (halt : Halt)
      (later : Supply) (plain interrupted : σ),
      Batch.Orderly limits batches → (∀ message ∈ messages, Passable limits message) →
      line.Carries plain
        (⟨(batches.flatMap Batch.messages ++ messages).flatMap wire ++ rest, halt⟩ :: later) →
      line.Carries interrupted
        (Batch.supply batches (⟨messages.flatMap wire ++ rest, halt⟩ :: later)) →
      let count := (batches.flatMap Batch.messages ++ messages).length
      ∃ outcomes others plainLast interruptedLast,
        Dialogue.runTimes line (receive limits) count plain = (outcomes, plainLast) ∧
        Dialogue.runTimes line (receive limits) (count + batches.length) interrupted =
          (others, interruptedLast) ∧
        settled others = outcomes ∧
        List.Forall₂ (Told limits) (batches.flatMap Batch.messages ++ messages) outcomes ∧
        line.Carries plainLast (⟨rest, halt⟩ :: later) ∧
        line.Carries interruptedLast (⟨rest, halt⟩ :: later) := by
  refine ⟨fun hanswers => receive_returns limits hanswers,
    fun hline _ _ _ hrun => receive_tellsBoundary limits hline hrun, ?_⟩
  intro batches messages rest halt later plain interrupted horderly hpassable hplain hinterrupted
  have hall : ∀ message ∈ batches.flatMap Batch.messages ++ messages, Passable limits message := by
    intro message hmessage
    rcases List.mem_append.mp hmessage with hmessage | hmessage
    · obtain ⟨batch, hbatch, hmessage⟩ := List.mem_flatMap.mp hmessage
      exact horderly.passable batch hbatch message hmessage
    · exact hpassable message hmessage
  obtain ⟨plainLast, hplainRuns, hplainLast⟩ := runTimes_passable limits hall hplain
  obtain ⟨front, middle, hfront, hsettled, hmiddle⟩ := runTimes_batches horderly hinterrupted
  obtain ⟨interruptedLast, hback, hlast⟩ := runTimes_passable limits hpassable hmiddle
  have hcount : (batches.flatMap Batch.messages ++ messages).length + batches.length =
      (batches.flatMap Batch.messages).length + batches.length + messages.length := by
    rw [List.length_append]
    omega
  have hruns := Dialogue.runTimes_trans hfront hback
  rw [← hcount] at hruns
  refine ⟨_, _, plainLast, interruptedLast, hplainRuns, hruns, ?_, forall₂_told limits _,
    hplainLast, hlast⟩
  rw [settled_append, hsettled, settled_verdicts, List.map_append]

-- Twice a line falls silent behind a message that has to be drained. Another falls silent in the
-- middle of one.
theorem outcome_tells_boundary_silent_scripts :
    let limits : Limits := { maxFrames := 2, maxFrameLen := 1, drainOversizeUpTo := 3 }
    let drained : Message := ⟨[[1, 2, 3], []]⟩
    let kept : Message := ⟨[[4]]⟩
    let cut : Script := { events := [.data (kept.wire.take 6), .failed Fault.timeout] }
    let plain : Script := { events := [.data ([drained, kept].flatMap wire)] }
    let interrupted : Script :=
      { events := [.data drained.wire, .failed Fault.timeout, .failed Fault.timeout,
          .data kept.wire]
        chunk := some 3 }
    ((receive limits).run Script.line cut).1.isSome ∧
    TellsBoundary ((receive limits).answers Script.line cut)
      ((receive limits).taken Script.line cut)
      (.error (Fault.timeout.withContext "timed out mid-message; framing lost")) ∧
    ∃ outcomes others plainLast interruptedLast,
      Dialogue.runTimes Script.line (receive limits) 2 plain = (outcomes, plainLast) ∧
      Dialogue.runTimes Script.line (receive limits) 4 interrupted = (others, interruptedLast) ∧
      settled others = outcomes ∧
      List.Forall₂ (Told limits) [drained, kept] outcomes ∧
      Script.line.Carries plainLast [⟨[], .ended⟩] ∧
      Script.line.Carries interruptedLast [⟨[], .ended⟩] := by
  intro limits drained kept cut plain interrupted
  obtain ⟨hreturns, htells, hretry⟩ := outcome_tells_boundary limits Script.line
  have hrun : (receive limits).run Script.line cut =
      (some (.error (Fault.timeout.withContext "timed out mid-message; framing lost")),
        ((receive limits).run Script.line cut).2) :=
    Prod.ext (by decide +kernel) rfl
  refine ⟨hreturns (fun _ _ => rfl) cut, htells Script.line_bounded cut _ _ hrun, ?_⟩
  exact hretry [⟨[drained], Fault.timeout⟩, ⟨[], Fault.timeout⟩] [kept] [] .ended [] plain
    interrupted ⟨by decide, by decide⟩ (by decide) (Script.carries (by decide) 0)
    (Script.carries (by decide) 0)

-- The messages among what reads come to.
def arrived (outcomes : List (Option (Except Fault (Option Message)))) : List Message :=
  outcomes.filterMap fun
    | some (.ok message?) => message?
    | _ => none

-- A message that is too big is left on the line where there is no drain. What is left of it reads
-- like messages, and then a timeout behind it makes a difference.
theorem timeout_behind_undrained_message :
    let limits : Limits := { maxFrameLen := 1 }
    let undrained : Message := ⟨[[1, 0, 0, 0, 1, 0, 0, 0]]⟩
    let plain : Script := { events := [.data undrained.wire, .data empty.wire] }
    let interrupted : Script :=
      { events := [.data undrained.wire, .failed Fault.timeout, .data empty.wire] }
    arrived (Dialogue.runTimes Script.line (receive limits) 4 plain).1 = [⟨[[0]]⟩] ∧
    arrived (Dialogue.runTimes Script.line (receive limits) 4 interrupted).1 = [empty] := by
  decide +kernel

end FramedLines.Message
