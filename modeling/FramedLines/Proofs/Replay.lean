import FramedLines.Proofs.Reception
import FramedLines.Proofs.Script

-- What a message cost. A reading takes nothing after the first halt, so all it took can be
-- written down as a script, and the script read in place of the line.

namespace FramedLines

-- What a line answers to the reads of a dialogue.
def Dialogue.answers (line : ByteLine σ) : Dialogue α → σ → List (Except Fault Bytes)
  | .done _, _ => []
  | .read room next, state =>
      match line.read room state with
      | (none, _) => []
      | (some answer, state) => answer :: (next answer).answers line state
  | .write data next, state =>
      match line.write data state with
      | (none, _) => []
      | (some answer, state) => (next answer).answers line state

-- The octets among it.
def Dialogue.taken (line : ByteLine σ) (d : Dialogue α) (state : σ) : Bytes :=
  (d.answers line state).flatMap fun
    | .ok piece => piece
    | .error _ => []

theorem Dialogue.answers_bind (line : ByteLine σ) (d : Dialogue α) (f : α → Dialogue β)
    (state : σ) :
    (d.bind f).answers line state = d.answers line state ++
      match d.run line state with
      | (some result, state) => (f result).answers line state
      | (none, _) => [] := by
  induction d generalizing state with
  | done result => rfl
  | read room next ih =>
      simp only [read_bind, answers, run]
      split <;> simp [*]
  | write data next ih =>
      simp only [write_bind, answers, run]
      split <;> simp [*]

theorem Dialogue.exists_read_of_mem_answers {line : ByteLine σ} {d : Dialogue α} {state : σ}
    {answer : Except Fault Bytes} (hanswer : answer ∈ d.answers line state) :
    ∃ room before after, line.read room before = (some answer, after) := by
  induction d generalizing state with
  | done result => cases hanswer
  | read room next ih =>
      rw [answers] at hanswer
      split at hanswer
      · cases hanswer
      · next other after hread =>
          rcases List.mem_cons.mp hanswer with rfl | hanswer
          · exact ⟨room, state, after, hread⟩
          · exact ih _ hanswer
  | write data next ih =>
      rw [answers] at hanswer
      split at hanswer
      · cases hanswer
      · exact ih _ hanswer

theorem Dialogue.taken_eq_flatten {line : ByteLine σ} {d : Dialogue α} {state : σ}
    {pieces : List Bytes} (halt? : Option Halt)
    (hanswers : d.answers line state = pieces.map .ok ++ (halt?.map Halt.answer).toList) :
    d.taken line state = pieces.flatten := by
  have hhalt : ∀ halt : Halt, (match halt.answer with
      | .ok piece => piece
      | .error _ => []) = ([] : Bytes) := by
    rintro (_ | fault) <;> rfl
  rw [taken, hanswers, List.flatMap_append, List.flatMap_map, List.flatMap_id']
  cases halt? <;> simp [hhalt]

theorem Script.line_bounded : Script.line.Bounded := by
  intro room script next piece hread
  have hdeliver {ready : Bytes} {script : Script}
      (h : deliver room ready script = (.ok piece, next)) : piece.length ≤ room := by
    simp only [deliver, Prod.mk.injEq, Except.ok.injEq] at h
    obtain ⟨rfl, -⟩ := h
    rw [List.length_take]
    cases script.chunk <;> simp only <;> omega
  simp only [line, Prod.mk.injEq, Option.some.injEq] at hread
  obtain ⟨hanswer, hnext⟩ := hread
  have hread : script.read room = (.ok piece, next) := Prod.ext hanswer hnext
  unfold read at hread
  split at hread
  · split at hread
    · exact hdeliver hread
    · cases hread
      exact Nat.zero_le _
    · cases hread
  · exact hdeliver hread

theorem Script.read_whole_piece {piece : Bytes} {room : Nat} (hne : piece ≠ [])
    (hroom : piece.length ≤ room) (events : List Event) :
    Script.line.read room { events := .data piece :: events } =
      (some (.ok piece), { events }) := by
  cases piece with
  | nil => exact absurd rfl hne
  | cons octet piece =>
      have htake := List.take_of_length_le hroom
      have hdrop := List.drop_of_length_le hroom
      simp [line, read, advance, deliver, htake, hdrop]

namespace Message

-- Readings that give up where there are no octets to be had.
inductive Quits : Reading α → Prop where
  | done (result : Except Stop α) : Quits (Dialogue.done result)
  | read {room : Nat} {next : Except Fault Bytes → Dialogue (Except Stop α)}
      (hfailed : ∀ own, ∃ stop, next (.error own) = Dialogue.done (.error stop))
      (hended : ∃ stop, next (.ok []) = Dialogue.done (.error stop))
      (hpiece : ∀ octet piece, Quits (next (.ok (octet :: piece)))) :
      Quits (Dialogue.read room next)

theorem quits_bind {x : Reading α} {f : α → Reading β} (hx : Quits x)
    (hf : ∀ value, Quits (f value)) : Quits (x >>= f : Reading β) := by
  induction hx with
  | done result =>
      cases result with
      | ok value => exact hf value
      | error stop => exact .done (.error stop)
  | @read room next hfailed hended _ ih =>
      change Quits (Dialogue.read room fun answer =>
        Dialogue.bind (next answer) (ExceptT.bindCont f))
      apply Quits.read
      · intro own
        obtain ⟨stop, hstop⟩ := hfailed own
        exact ⟨stop, by rw [hstop]; rfl⟩
      · obtain ⟨stop, hstop⟩ := hended
        exact ⟨stop, by rw [hstop]; rfl⟩
      · exact ih

theorem quits_collect (untouched : Bool) (want missing : Nat) (done : Bytes) :
    Quits (collect untouched want missing done) := by
  induction missing using Nat.strongRecOn generalizing untouched done with
  | _ missing ih =>
      unfold collect
      by_cases hzero : missing = 0
      · rw [if_pos hzero]
        exact .done _
      · rw [if_neg hzero]
        refine .read (fun own => ?_) ?_ fun octet piece => ih _ (by omega) _ _
        · dsimp only
          split <;> exact ⟨_, rfl⟩
        · dsimp only
          split <;> exact ⟨_, rfl⟩

theorem Sectional.quits {x : Reading α} (hx : Sectional x) : Quits x := by
  induction hx with
  | pure value => exact .done _
  | throw stop => exact .done _
  | fill untouched want => exact quits_collect untouched want want []
  | bind _ _ hx hf => exact quits_bind hx hf

-- A reading gets pieces and then one halt at most. The script of these leads to the same result,
-- and nothing of it is left over.
theorem Quits.replay {x : Reading α} (hx : Quits x) {line : ByteLine σ} (hline : line.Bounded)
    {state next : σ} {result : Except Stop α}
    (hrun : Dialogue.run line x state = (some result, next)) :
    ∃ (pieces : List Bytes) (halt? : Option Halt), (∀ piece ∈ pieces, piece ≠ []) ∧
      Dialogue.answers line x state = pieces.map .ok ++ (halt?.map Halt.answer).toList ∧
      ∀ tail, Dialogue.run Script.line x
          { events := pieces.map .data ++ ((halt?.map Halt.event).toList ++ tail) } =
        (some result, { events := tail }) := by
  induction hx generalizing state with
  | done result =>
      cases hrun
      exact ⟨[], none, by simp, rfl, fun tail => rfl⟩
  | @read room rest hfailed hended _ ih =>
      rcases hread : line.read room state with ⟨_ | own | piece, middle⟩
      all_goals simp only [Dialogue.run, Dialogue.answers, hread] at hrun ⊢
      · cases hrun
      · obtain ⟨stop, hstop⟩ := hfailed own
        rw [hstop] at hrun
        cases hrun
        refine ⟨[], some (.failed own), by simp, ?_, fun tail => ?_⟩
        · rw [hstop]
          rfl
        · simp [Halt.event, Script.line, Script.read, Script.advance, hstop, Dialogue.run]
      · cases piece with
        | nil =>
            obtain ⟨stop, hstop⟩ := hended
            rw [hstop] at hrun
            cases hrun
            refine ⟨[], some .ended, by simp, ?_, fun tail => ?_⟩
            · rw [hstop]
              rfl
            · simp [Halt.event, Script.line, Script.read, Script.advance, hstop, Dialogue.run]
        | cons octet piece =>
            obtain ⟨pieces, halt?, hne, hanswers, hscript⟩ := ih octet piece hrun
            refine ⟨(octet :: piece) :: pieces, halt?, by simpa using hne, by simp [hanswers],
              fun tail => ?_⟩
            rw [List.map_cons, List.cons_append,
              Script.read_whole_piece (List.cons_ne_nil octet piece) (hline hread)]
            exact hscript tail

-- Reading a whole message is no different: it only puts the result in other words.
theorem receive_replay (limits : Limits) {line : ByteLine σ} (hline : line.Bounded)
    {state next : σ} {outcome : Except Fault (Option Message)}
    (hrun : (receive limits).run line state = (some outcome, next)) :
    ∃ (pieces : List Bytes) (halt? : Option Halt), (∀ piece ∈ pieces, piece ≠ []) ∧
      (receive limits).answers line state = pieces.map .ok ++ (halt?.map Halt.answer).toList ∧
      ∀ tail, (receive limits).run Script.line
          { events := pieces.map .data ++ ((halt?.map Halt.event).toList ++ tail) } =
        (some outcome, { events := tail }) := by
  rcases hread : Dialogue.run line (readMessage limits) state with ⟨_ | result, middle⟩
  · rw [run_receive, hread] at hrun
    cases hrun
  · have hanswers : (receive limits).answers line state =
        Dialogue.answers line (readMessage limits) state := by
      rw [receive, Dialogue.answers_bind, hread]
      rcases result with (_ | fault) | message <;> simp [Dialogue.answers]
    obtain ⟨pieces, halt?, hne, hsame, hscript⟩ :=
      (sectional_readMessage limits).quits.replay hline hread
    refine ⟨pieces, halt?, hne, hanswers.trans hsame, fun tail => ?_⟩
    rw [run_receive, hread] at hrun
    cases hrun
    rw [run_receive, hscript]
    rfl

end Message

end FramedLines
