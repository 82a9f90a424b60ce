import FramedLines.Proofs.Replay

-- How a read of a message can end. It ends before the halt, with the message or over one that is
-- too big, or else at the halt, and then it says how the line halted and whether anything of the
-- message had come.

namespace FramedLines.Message

variable (limits : Limits)

-- What a read comes to and what it leaves of a supply that begins with these octets.
inductive Course (octets : Bytes) (halt : Halt) (later : Supply) :
    Except Fault (Option Message) → Supply → Prop where
  | whole {message : Message} {rest : Bytes} (hw : message.Writable)
      (hadmits : limits.Admits message) (hsplit : octets = message.wire ++ rest) :
      Course octets halt later (.ok (some message)) (⟨rest, halt⟩ :: later)
  | tooBig {fault : Fault} {rest : Bytes} (hcode : fault.code = .bufferTooBig) :
      Course octets halt later (.error fault) (⟨rest, halt⟩ :: later)
  | halted (got want : Nat) :
      Course octets halt later (account (.error (halt.stop octets.isEmpty got want))) later

theorem feed_receive_course (octets : Bytes) (halt : Halt) (later : Supply) :
    ∃ outcome left, Supply.feed (⟨octets, halt⟩ :: later) (receive limits) =
      (some outcome, left) ∧ Course limits octets halt later outcome left := by
  cases opening limits octets with
  | noCount hshort => exact ⟨_, _, feed_receive_noCount limits halt later hshort, .halted _ _⟩
  | tooMany hfits hcount =>
      exact ⟨_, _, feed_receive_tooMany limits halt later hfits hcount _, .tooBig rfl⟩
  | whole hw hadmits =>
      exact ⟨_, _, feed_receive_whole limits halt later hw hadmits _, .whole hw hadmits rfl⟩
  | @blocked front remaining tail hfits hcount hfront htail =>
      have hbegun : (Wire.word (front.length + (remaining + 1)) ++
          (front.flatMap Wire.frame ++ tail)).isEmpty = false :=
        List.isEmpty_eq_false_iff.mpr (Wire.word_append_ne_nil _ _)
      -- Behind the count a halt is met in the middle of the message.
      have hhalted (got want : Nat) : Course limits (Wire.word (front.length + (remaining + 1)) ++
          (front.flatMap Wire.frame ++ tail)) halt later
          (account (.error (halt.stop false got want))) later := by
        have h := @Course.halted limits (Wire.word (front.length + (remaining + 1)) ++
          (front.flatMap Wire.frame ++ tail)) halt later got want
        rwa [hbegun] at h
      cases htail with
      | noWord hshort =>
          exact ⟨_, _, feed_receive_front limits halt later hfits hcount hfront
            (feed_readFrames_noWord limits halt later hshort remaining _), hhalted _ _⟩
      | noFrame hlength hlimit hshort =>
          exact ⟨_, _, feed_receive_front limits halt later hfits hcount hfront
            (feed_readFrames_noFrame limits halt later hlength hlimit hshort remaining _),
            hhalted _ _⟩
      | @oversize length rest hlength hlimit =>
          rcases abandon_cases limits halt later length remaining rest with
            ⟨_, _, _, _, _, _, _, habandon⟩ | ⟨_, habandon⟩ | ⟨_, got, want, habandon⟩
          all_goals
            have hread := feed_receive_oversize limits halt later hfits hcount hfront hlength
              hlimit habandon
          · exact ⟨_, _, hread, .tooBig rfl⟩
          · exact ⟨_, _, hread, .tooBig rfl⟩
          · exact ⟨_, _, hread, hhalted got want⟩

theorem course_of_script {script : Script} (hchunk : script.chunk ≠ some 0) {next : Script}
    {outcome : Except Fault (Option Message)} (octets : Bytes) (halt : Halt) (later : Supply)
    (hsupply : script.supply = ⟨octets, halt⟩ :: later)
    (hrun : (receive limits).run Script.line script = (some outcome, next)) :
    ∃ left, Course limits octets halt later outcome left ∧ next.Holds left := by
  obtain ⟨result, left, hfeed, hcourse⟩ := feed_receive_course limits octets halt later
  rw [← hsupply] at hfeed
  obtain ⟨last, hlast, hleft⟩ :=
    seamless_receive limits hfeed Script.line_faithful (Script.holds_supply hchunk)
  rw [hrun] at hlast
  cases hlast
  exact ⟨left, hcourse, hleft⟩

-- What a read got from any line at all: pieces alone, and then it was not over before it began,
-- or pieces and a halt behind them.
theorem receive_answers {line : ByteLine σ} (hline : line.Bounded) {state next : σ}
    {outcome : Except Fault (Option Message)}
    (hrun : (receive limits).run line state = (some outcome, next)) :
    ∃ pieces : List Bytes, (∀ piece ∈ pieces, piece ≠ []) ∧
      ((receive limits).answers line state = pieces.map .ok ∧ outcome ≠ .ok none ∨
      ∃ (halt : Halt) (got want : Nat),
        (receive limits).answers line state = pieces.map .ok ++ [halt.answer] ∧
        outcome = account (.error (halt.stop pieces.isEmpty got want))) := by
  obtain ⟨pieces, halt?, hne, hanswers, hscript⟩ := receive_replay limits hline hrun
  refine ⟨pieces, hne, ?_⟩
  -- A fault behind the script shows whether the read has met the halt in front of it.
  have hmark := hscript [.failed Fault.timeout]
  cases halt? with
  | none =>
      obtain ⟨left, hcourse, hleft⟩ := course_of_script limits (by simp)
        pieces.flatten (.failed Fault.timeout) [Script.spent]
        (by simp [Script.supply, Script.stretches_pieces, Script.stretches, Script.spent]) hmark
      refine .inl ⟨by simpa using hanswers, ?_⟩
      cases hcourse with
      | whole => simp
      | tooBig => simp
      | halted got want =>
          obtain ⟨ends, hends⟩ := hleft.2 (List.cons_ne_nil _ _)
          simp [Script.supply, Script.stretches, Script.spent] at hends
  | some halt =>
      obtain ⟨left, hcourse, hleft⟩ := course_of_script limits (by simp)
        pieces.flatten halt [⟨[], .failed Fault.timeout⟩, Script.spent]
        (by simp [Script.supply, Script.stretches_pieces, Script.stretches, Script.spent]) hmark
      have hempty : pieces.flatten.isEmpty = pieces.isEmpty := by
        cases pieces with
        | nil => rfl
        | cons piece pieces => simp [hne piece List.mem_cons_self]
      have hmet {rest : Bytes} (hleft : Script.Holds { events := [.failed Fault.timeout] }
          [⟨rest, halt⟩, ⟨[], .failed Fault.timeout⟩, Script.spent]) : False := by
        obtain ⟨ends, hends⟩ := hleft.2 (List.cons_ne_nil _ _)
        simp [Script.supply, Script.stretches, Script.spent] at hends
      cases hcourse with
      | whole => exact absurd hleft hmet
      | tooBig => exact absurd hleft hmet
      | halted got want =>
          exact .inr ⟨halt, got, want, by simpa using hanswers, by rw [hempty]⟩

end FramedLines.Message
