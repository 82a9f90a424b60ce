import FramedLines.Message.Exchange
import FramedLines.Proofs.Wire
import FramedLines.Script

-- Sending a message: what is written, and what the sender is told.

namespace FramedLines

namespace Message

theorem judge_eq_ok_iff {limits : Limits} {message : Message} :
    message.judge limits = .ok () ↔ limits.Admits message := by
  rw [judge, Limits.Admits]
  by_cases hcount : limits.maxFrames.toNat < message.length
  · simp only [if_pos hcount, reduceCtorEq, false_iff, not_and]
    omega
  · rw [if_neg hcount]
    cases hfind : message.frames.find? fun frame => limits.maxFrameLen.toNat < frame.length with
    | none => simpa using ⟨Nat.le_of_not_lt hcount, by simpa using hfind⟩
    | some frame =>
        have hframe := List.mem_of_find?_eq_some hfind
        have hover := List.find?_some hfind
        simp only [decide_eq_true_eq] at hover
        simp only [reduceCtorEq, false_iff, not_and, not_forall, Nat.not_le]
        exact fun _ => ⟨frame, hframe, hover⟩

-- What a sender makes of the answer to its write.
def sendResult : Except Fault WriteOutcome → Except Fault Unit
  | .error fault => .error fault
  | .ok outcome =>
      if outcome.isShort then
        .error (Fault.timeout.withContext
          s!"message cut after {outcome.written} of {outcome.requested} bytes")
      else .ok ()

theorem send_of_admits {limits : Limits} {message : Message} (hw : message.Writable)
    (hadmits : limits.Admits message) :
    message.send limits = .write message.wire fun answer => .done (sendResult answer) := by
  simp only [send, judge_eq_ok_iff.mpr hadmits, encodeInto_of_writable hw, List.nil_append]
  congr 1
  funext answer
  cases answer with
  | error fault => rfl
  | ok outcome =>
      simp only [sendResult]
      split <;> rfl

theorem code_of_judge {limits : Limits} {message : Message} {fault : Fault}
    (h : message.judge limits = .error fault) : fault.code = .bufferTooBig := by
  simp only [judge] at h
  split at h
  · cases h
    rfl
  · split at h
    · cases h
      rfl
    · cases h

theorem code_of_encodeInto {message : Message} {buffer written : Bytes} {fault : Fault}
    (h : message.encodeInto buffer = (.error fault, written)) : fault.code = .bufferTooBig := by
  simp only [encodeInto] at h
  split at h
  · split at h
    · cases h
    · cases h
      rfl
  · cases h
    rfl

-- A message is written whole and as it is, or not at all.
theorem send_cases (limits : Limits) (message : Message) :
    (∃ fault, message.send limits = .done (.error fault) ∧ fault.code = .bufferTooBig) ∨
    message.Writable ∧ limits.Admits message ∧
      message.send limits = .write message.wire fun answer => .done (sendResult answer) := by
  cases hjudge : message.judge limits with
  | error fault => exact .inl ⟨fault, by simp [send, hjudge], code_of_judge hjudge⟩
  | ok _ =>
      rcases hencode : message.encodeInto [] with ⟨fault | _, octets⟩
      · exact .inl ⟨fault, by simp [send, hjudge, hencode], code_of_encodeInto hencode⟩
      · obtain ⟨hw, rfl⟩ := encodeInto_eq_ok_iff.mp hencode
        have hadmits := judge_eq_ok_iff.mp hjudge
        exact .inr ⟨hw, hadmits, send_of_admits hw hadmits⟩

-- More frames than the limits allow or a word can say, or a longer frame.
def Exceeds (message : Message) (limits : Limits) : Prop :=
  limits.maxFrames.toNat < message.length ∨
    (∃ frame ∈ message.frames, limits.maxFrameLen.toNat < frame.length) ∨
    ¬ Wire.fits message.length ∨ ∃ frame ∈ message.frames, ¬ Wire.fits frame.length

theorem exceeds_iff {limits : Limits} {message : Message} :
    message.Exceeds limits ↔ ¬ (message.Writable ∧ limits.Admits message) := by
  simp only [Exceeds, Writable, Limits.Admits, Classical.not_and_iff_not_or_not,
    Classical.not_forall, Nat.not_le, exists_prop]
  rw [← or_assoc]
  exact or_comm

end Message

-- A line that owns up to what it takes: that is the front of what it is offered, and unless it
-- fails it says how much.
structure ByteLine.Owns (line : ByteLine σ) (taken : σ → Bytes) : Prop where
  write : ∀ data state, ∃ front, front <+: data ∧
    taken (line.write data state).2 = taken state ++ front ∧
    ∀ outcome, (line.write data state).1 = some (.ok outcome) →
      outcome = ⟨front.length, data.length⟩

theorem Script.line_owns : line.Owns accepted := by
  constructor
  intro data script
  simp only [line, write]
  cases script.replies with
  | nil => exact ⟨data, data.prefix_rfl, rfl, fun outcome h => by cases h; rfl⟩
  | cons reply replies => cases reply with
    | takes count =>
        refine ⟨data.take count, data.take_prefix count, rfl, fun outcome h => ?_⟩
        cases h
        rw [List.length_take]
    | refuses fault => exact ⟨[], data.nil_prefix, (List.append_nil _).symm, fun _ h => by cases h⟩

namespace Message

-- What a line has taken by the end of a send is some of the front of the message. Only when that
-- is all of it does the sender hear of no fault.
theorem send_all_or_fault (limits : Limits) (message : Message) :
    (message.Exceeds limits →
      ∃ fault, message.send limits = .done (.error fault) ∧ fault.code = .bufferTooBig) ∧
    (¬ message.Exceeds limits →
      (∃ conclude : Except Fault WriteOutcome → Except Fault Unit,
        message.send limits = .write message.wire fun answer => .done (conclude answer)) ∧
      ∀ {σ : Type} {line : ByteLine σ} {taken : σ → Bytes}, line.Owns taken → ∀ state,
        ∃ front, front <+: message.wire ∧
          taken (line.write message.wire state).2 = taken state ++ front ∧
          (message.send limits).run line state =
            ((line.write message.wire state).1.map fun
              | .error fault => .error fault
              | .ok _ =>
                  if front = message.wire then .ok ()
                  else .error (Fault.timeout.withContext
                    s!"message cut after {front.length} of {message.wire.length} bytes"),
              (line.write message.wire state).2)) := by
  rw [exceeds_iff, not_not]
  refine ⟨fun hexceeds => ?_, fun ⟨hw, hadmits⟩ => ?_⟩
  · rcases send_cases limits message with hrefused | ⟨hw, hadmits, -⟩
    · exact hrefused
    · exact absurd ⟨hw, hadmits⟩ hexceeds
  · have hsend := send_of_admits hw hadmits
    refine ⟨⟨sendResult, hsend⟩, ?_⟩
    intro σ line taken howns state
    obtain ⟨front, hfront, htaken, hsaid⟩ := howns.write message.wire state
    refine ⟨front, hfront, htaken, ?_⟩
    rw [hsend, Dialogue.run]
    rcases hwrite : line.write message.wire state with ⟨_ | fault | outcome, after⟩
    · rfl
    · rfl
    · rw [hwrite] at hsaid
      obtain rfl := hsaid outcome rfl
      have hshort : front.length < message.wire.length ↔ front ≠ message.wire := by
        constructor
        · rintro hlt rfl
          exact Nat.lt_irrefl _ hlt
        · intro hne
          exact Nat.lt_of_le_of_ne hfront.length_le fun heq => hne (hfront.eq_of_length heq)
      by_cases hall : front = message.wire
      · simp [Dialogue.run, sendResult, WriteOutcome.isShort, hall]
      · simp [Dialogue.run, sendResult, WriteOutcome.isShort, hshort.mpr hall, hall]

-- Three octets of ten are taken of a message, and none of one that has a frame too many.
theorem send_cut_or_refused :
    let message : Message := ⟨[[7, 8]]⟩
    let script : Script := { replies := [.takes 3] }
    (message.send {}).run Script.line script =
      (some (.error (Fault.timeout.withContext "message cut after 3 of 10 bytes")),
        { accepted := [1, 0, 0] }) ∧
    ∃ fault, message.send { maxFrames := 0 } = .done (.error fault) ∧
      fault.code = .bufferTooBig := by
  intro message script
  have hsound : ¬ message.Exceeds {} := by
    rw [exceeds_iff, not_not]
    exact ⟨by decide, by decide, by decide⟩
  obtain ⟨front, -, htaken, hrun⟩ :=
    ((send_all_or_fault {} message).2 hsound).2 Script.line_owns script
  have hwrite : Script.line.write message.wire script =
      (some (.ok ⟨3, 10⟩), { accepted := [1, 0, 0] }) := by decide
  rw [hwrite] at htaken hrun
  obtain rfl : [1, 0, 0] = front := htaken
  have hlength : message.wire.length = 10 := by decide
  rw [Option.map_some, if_neg (by decide), hlength] at hrun
  exact ⟨hrun, (send_all_or_fault { maxFrames := 0 } message).1 (.inl (by decide))⟩

end Message

end FramedLines
