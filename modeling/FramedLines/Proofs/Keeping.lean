import FramedLines.Proofs.Course

-- Reading a message into one that is there already: it comes to the same as reading a new one, and
-- nothing of the old one or of a message that broke off is left in it.

namespace FramedLines.Message

theorem bind_reading (reading : Reading α) (f : α → Reading β) (k : Except Stop β → Dialogue γ) :
    Dialogue.bind (reading >>= f : Reading β) k = Dialogue.bind reading fun
      | .ok value => Dialogue.bind (f value) k
      | .error stop => k (.error stop) := by
  change Dialogue.bind (Dialogue.bind reading (ExceptT.bindCont f)) k = _
  rw [Dialogue.bind_assoc]
  congr 1
  funext outcome
  cases outcome <;> rfl

section Filling

variable {k : Except Stop β × Message → Dialogue γ}

theorem bind_aside (reading : Reading α) (f : α → Filling β) (held : Message) :
    Dialogue.bind ((aside reading >>= f : Filling β) held) k = Dialogue.bind reading fun
      | .ok value => Dialogue.bind (f value held) k
      | .error stop => k (.error stop, held) := by
  change Dialogue.bind (Dialogue.bind (Dialogue.bind reading fun outcome =>
    .done (outcome, held)) fun outcome => ExceptT.bindCont f outcome.1 outcome.2) k = _
  rw [Dialogue.bind_assoc, Dialogue.bind_assoc]
  congr 1
  funext outcome
  cases outcome <;> rfl

theorem bind_keep (frame : Bytes) (f : Unit → Filling β) (held : Message) :
    Dialogue.bind ((keep frame >>= f : Filling β) held) k =
      Dialogue.bind (f () (held.add frame)) k := rfl

end Filling

-- What the outcome of reading a new message is in the same words.
def settleNew (outcome : Except Stop Message) : Except Fault Bool × Message :=
  ((account outcome).map Option.isSome, afterRead (account outcome))

theorem settle_error (stop : Stop) (held : Message) :
    settle (.error stop, held) = settleNew (.error stop) := by
  cases stop <;> rfl

variable (limits : Limits)

-- A message that is given up never comes.
theorem bind_abandon_congr {f g : Except Stop Message → Dialogue γ}
    (hstop : ∀ stop, f (.error stop) = g (.error stop)) (length remaining : Nat) :
    Dialogue.bind (abandon limits length remaining) f =
      Dialogue.bind (abandon limits length remaining) g := by
  by_cases hdrains : limits.drains length = true
  · simp only [abandon, if_pos hdrains, bind_reading]
    congr 1
    funext outcome
    cases outcome with
    | error stop => exact hstop stop
    | ok _ =>
        simp only
        congr 1
        funext outcome
        cases outcome with
        | error stop => exact hstop stop
        | ok aligned => exact hstop _
  · simp only [abandon, if_neg hdrains]
    exact hstop _

-- The frames that came before are in the message already.
theorem keepFrames_settle (count : Nat) (done : List Bytes) :
    Dialogue.bind (keepFrames limits count ⟨done.reverse⟩) (fun outcome => .done (settle outcome)) =
      Dialogue.bind (readFrames limits count done) fun outcome => .done (settleNew outcome) := by
  induction count generalizing done with
  | zero => rfl
  | succ count ih =>
      rw [keepFrames, readFrames, bind_aside, bind_reading]
      congr 1
      funext outcome
      cases outcome with
      | error stop => simp only [settle_error]
      | ok length =>
          by_cases hlimit : limits.maxFrameLen.toNat < length
          · simp only [if_pos hlimit, bind_aside]
            refine bind_abandon_congr limits (fun stop => ?_) length count
            simp only [settle_error]
          · simp only [if_neg hlimit, bind_aside, bind_reading]
            congr 1
            funext outcome
            cases outcome with
            | error stop => simp only [settle_error]
            | ok frame =>
                simp only [bind_keep]
                rw [← ih (frame :: done), List.reverse_cons]
                rfl

theorem receiveInto_eq (held : Message) :
    receiveInto limits held = (receive limits).bind fun outcome =>
      .done (outcome.map Option.isSome, afterRead outcome) := by
  have hreceive : (receive limits).bind (fun outcome =>
      Dialogue.done (outcome.map Option.isSome, afterRead outcome)) =
        Dialogue.bind (readMessage limits) fun outcome => .done (settleNew outcome) := by
    rw [receive, Dialogue.bind_assoc]
    congr 1
    funext outcome
    rcases outcome with (_ | fault) | message <;> rfl
  rw [hreceive, receiveInto, keepMessage, readMessage, bind_aside, bind_reading]
  congr 1
  funext outcome
  cases outcome with
  | error stop => simp only [settle_error]
  | ok count =>
      by_cases hcount : limits.maxFrames.toNat < count
      · simp only [if_pos hcount]
        rfl
      · simp only [if_neg hcount]
        exact keepFrames_settle limits count []

theorem taken_receiveInto (held : Message) (line : ByteLine σ) (state : σ) :
    (receiveInto limits held).taken line state = (receive limits).taken line state := by
  rw [Dialogue.taken, Dialogue.taken, receiveInto_eq, Dialogue.answers_bind]
  rcases (receive limits).run line state with ⟨_ | outcome, next⟩ <;>
    simp only [Dialogue.answers, List.append_nil]

theorem run_receiveInto (held : Message) (line : ByteLine σ) (state : σ) :
    (receiveInto limits held).run line state =
      Prod.map (Option.map fun outcome => (outcome.map Option.isSome, afterRead outcome)) id
        ((receive limits).run line state) := by
  rw [receiveInto_eq, Dialogue.run_bind]
  rcases (receive limits).run line state with ⟨_ | outcome, next⟩ <;> rfl

theorem exists_run_receive {held : Message} {line : ByteLine σ} {state next : σ}
    {result : Except Fault Bool} {kept : Message}
    (hrun : (receiveInto limits held).run line state = (some (result, kept), next)) :
    ∃ outcome, (receive limits).run line state = (some outcome, next) ∧
      result = outcome.map Option.isSome ∧ kept = afterRead outcome := by
  rw [run_receiveInto] at hrun
  rcases hreceive : (receive limits).run line state with ⟨_ | outcome, last⟩
  all_goals
    rw [hreceive] at hrun
    cases hrun
  exact ⟨outcome, rfl, rfl, rfl⟩

-- Nothing more is taken for a message than its wire form.
theorem taken_of_message {line : ByteLine σ} (hline : line.Bounded) {state next : σ}
    {message : Message}
    (hrun : (receive limits).run line state = (some (.ok (some message)), next)) :
    message.Writable ∧ limits.Admits message ∧
      (receive limits).taken line state = message.wire := by
  obtain ⟨pieces, halt?, -, hanswers, hscript⟩ := receive_replay limits hline hrun
  obtain ⟨later, hsupply⟩ := Script.exists_supply_replayed pieces halt?
  obtain ⟨left, hcourse, hleft⟩ :=
    course_of_script limits (by simp) pieces.flatten _ later hsupply (hscript [])
  generalize houtcome : (.ok (some message) : Except Fault (Option Message)) = outcome at hcourse
  cases hcourse with
  | whole hw hadmits hsplit =>
      cases houtcome
      obtain ⟨rfl, -⟩ := hleft.of_spent
      rw [List.append_nil] at hsplit
      exact ⟨hw, hadmits, by rw [Dialogue.taken_eq_flatten _ hanswers, hsplit]⟩
  | tooBig => cases houtcome
  | halted got want =>
      cases hstop : (halt?.getD .ended).stop pieces.flatten.isEmpty got want
      all_goals
        rw [hstop] at houtcome
        cases houtcome

-- Read into a message, another one is there in its place, with nothing in it but what has been
-- taken off the line for it, or else there is nothing. What was there before does not matter.
theorem read_is_all_or_nothing (held : Message) {line : ByteLine σ} (hline : line.Bounded)
    {state next : σ} {result : Except Fault Bool} {kept : Message}
    (hrun : (receiveInto limits held).run line state = (some (result, kept), next)) :
    (result = .ok true → kept.Writable ∧ limits.Admits kept ∧
      (receiveInto limits held).taken line state = kept.wire) ∧
    (result ≠ .ok true → kept = empty) ∧
    ∀ old, (receiveInto limits old).run line state = (some (result, kept), next) := by
  obtain ⟨outcome, hreceive, rfl, rfl⟩ := exists_run_receive limits hrun
  rw [taken_receiveInto]
  refine ⟨fun hresult => ?_, fun hresult => ?_, fun old => ?_⟩
  · rcases outcome with fault | _ | message
    · cases hresult
    · cases hresult
    · exact taken_of_message limits hline hreceive
  · rcases outcome with fault | _ | message
    · rfl
    · rfl
    · exact absurd rfl hresult
  · rw [run_receiveInto, hreceive]
    rfl

-- A message of two frames comes in three pieces, and another breaks off in its second frame. Each
-- is read into one that was there.
theorem read_is_all_or_nothing_twice :
    let held : Message := ⟨[[9, 9, 9]]⟩
    let message : Message := ⟨[[1, 2], [3]]⟩
    let pieces := [message.wire.take 5, message.wire.drop 5 ++ [4]]
    let whole : Script := { events := pieces.map .data, chunk := some 7 }
    let broken : Script := { events := [.data message.wire.dropLast], chunk := some 7 }
    ((receiveInto {} held).run Script.line whole =
        (some (.ok true, message), { ready := [4], chunk := some 7 }) ∧
      (receiveInto {} held).taken Script.line whole = message.wire) ∧
    ∃ next, (receiveInto {} held).run Script.line broken =
      (some (.error (Fault.truncated 0 1), empty), next) := by
  intro held message pieces whole broken
  have hwhole : (receiveInto {} held).run Script.line whole =
      (some (.ok true, message), { ready := [4], chunk := some 7 }) := by decide +kernel
  have hbroken : ((receiveInto {} held).run Script.line broken).1.map Prod.fst =
      some (.error (Fault.truncated 0 1)) := by decide +kernel
  obtain ⟨hmessage, -⟩ := read_is_all_or_nothing {} held Script.line_bounded hwhole
  refine ⟨⟨hwhole, (hmessage rfl).2.2⟩, ?_⟩
  rcases hrun : (receiveInto {} held).run Script.line broken with ⟨_ | ⟨result, kept⟩, next⟩
  all_goals
    rw [hrun] at hbroken
    cases hbroken
  obtain ⟨-, hempty, -⟩ := read_is_all_or_nothing {} held Script.line_bounded hrun
  exact ⟨next, by rw [hempty (by simp)]⟩

end FramedLines.Message
