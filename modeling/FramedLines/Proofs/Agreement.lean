import FramedLines.Proofs.Reception
import FramedLines.Proofs.Script

-- A message read off a line that ends, against the same octets decoded in one buffer.

namespace FramedLines.Message

-- What reading octets up to their end comes to, and what it leaves, by what decoding them does.
structure Agrees (limits : Limits) (octets : Bytes) (later : Supply)
    (outcome : Except Fault (Option Message)) (rest : Supply) : Prop where
  empty : octets = [] → outcome = .ok none
  decoded : ∀ message, decode limits octets = .ok message → outcome = .ok (some message) ∧
    message.encodedLen ≤ octets.length ∧
    rest = ⟨octets.drop message.encodedLen, .ended⟩ :: later
  truncated : ∀ fault, decode limits octets = .error fault → fault.code = .truncated →
    octets ≠ [] → ∃ reported, outcome = .error reported ∧ reported.code = .truncated
  tooBig : ∀ fault, decode limits octets = .error fault → fault.code = .bufferTooBig →
    ∃ reported, outcome = .error reported ∧ (reported.code = .bufferTooBig ∨
      limits.drainOversizeUpTo ≠ 0 ∧ reported.code = .truncated)

namespace Agrees

variable {limits : Limits} {octets : Bytes} {later rest : Supply} {fault reported : Fault}

theorem of_truncated {outcome : Except Fault (Option Message)}
    (hdecode : decode limits octets = .error fault) (hcode : fault.code = .truncated)
    (hempty : octets = [] → outcome = .ok none)
    (houtcome : octets ≠ [] → ∃ reported, outcome = .error reported ∧ reported.code = .truncated) :
    Agrees limits octets later outcome rest where
  empty := hempty
  decoded message hmessage := by
    rw [hdecode] at hmessage
    cases hmessage
  truncated _ _ _ hne := houtcome hne
  tooBig other hother htooBig := by
    rw [hdecode] at hother
    cases hother
    rw [hcode] at htooBig
    cases htooBig

theorem of_tooBig (hne : octets ≠ []) (hdecode : decode limits octets = .error fault)
    (hcode : fault.code = .bufferTooBig)
    (hreported : reported.code = .bufferTooBig ∨
      limits.drainOversizeUpTo ≠ 0 ∧ reported.code = .truncated) :
    Agrees limits octets later (.error reported) rest where
  empty hempty := absurd hempty hne
  decoded message hmessage := by
    rw [hdecode] at hmessage
    cases hmessage
  truncated other hother htruncated := by
    rw [hdecode] at hother
    cases hother
    rw [hcode] at htruncated
    cases htruncated
  tooBig _ _ _ := ⟨reported, rfl, hreported⟩

end Agrees

-- Each way of opening is read and decoded alike.
theorem feed_receive_agrees (limits : Limits) (octets : Bytes) (later : Supply) :
    ∃ outcome rest, Supply.feed (⟨octets, .ended⟩ :: later) (receive limits) =
      (some outcome, rest) ∧ Agrees limits octets later outcome rest := by
  cases opening limits octets with
  | noCount hshort =>
      refine ⟨_, _, feed_receive_noCount limits .ended later hshort,
        .of_truncated (decode_noCount limits hshort) rfl ?_ ?_⟩
      · rintro rfl
        rfl
      · intro hne
        refine ⟨Fault.truncated octets.length Wire.wordLen, ?_, rfl⟩
        rw [List.isEmpty_eq_false_iff.mpr hne]
        rfl
  | @tooMany count rest hfits hcount =>
      exact ⟨_, _, feed_receive_tooMany limits .ended later hfits hcount rest,
        .of_tooBig (Wire.word_append_ne_nil count rest) (decode_tooMany limits hfits hcount rest)
          rfl (.inl rfl)⟩
  | @whole message rest hw hadmits =>
      have hdecode := decode_whole limits hw hadmits rest
      refine ⟨_, _, feed_receive_whole limits .ended later hw hadmits rest, ?_⟩
      constructor
      · intro hempty
        exact absurd hempty (List.append_ne_nil_of_left_ne_nil message.wire_ne_nil rest)
      · intro other hother
        rw [hdecode] at hother
        cases hother
        rw [encodedLen_eq, List.drop_left, List.length_append]
        exact ⟨rfl, Nat.le_add_right _ _, rfl⟩
      · intro fault hfault
        rw [hdecode] at hfault
        cases hfault
      · intro fault hfault
        rw [hdecode] at hfault
        cases hfault
  | @blocked front remaining tail hfits hcount hfront htail =>
      have hne := Wire.word_append_ne_nil (front.length + (remaining + 1))
        (front.flatMap Wire.frame ++ tail)
      have hdecode := decode_front limits hfits hcount hfront tail
      cases htail with
      | noWord hshort =>
          rw [decodeFrames_noWord limits hshort] at hdecode
          have hread := feed_receive_front limits .ended later hfits hcount hfront
            (feed_readFrames_noWord limits .ended later hshort remaining _)
          exact ⟨_, _, hread, .of_truncated hdecode rfl (absurd · hne) fun _ => ⟨_, rfl, rfl⟩⟩
      | noFrame hlength hlimit hshort =>
          rw [decodeFrames_noFrame limits hlength hlimit hshort] at hdecode
          have hread := feed_receive_front limits .ended later hfits hcount hfront
            (feed_readFrames_noFrame limits .ended later hlength hlimit hshort remaining _)
          exact ⟨_, _, hread, .of_truncated hdecode rfl (absurd · hne) fun _ => ⟨_, rfl, rfl⟩⟩
      | @oversize length rest hlength hlimit =>
          rw [decodeFrames_oversize limits hlength hlimit] at hdecode
          rcases abandon_cases limits .ended later length remaining rest with
            ⟨_, _, _, _, _, _, _, habandon⟩ | ⟨_, habandon⟩ | ⟨hdrain, _, _, habandon⟩
          all_goals
            have hread := feed_receive_oversize limits .ended later hfits hcount hfront hlength
              hlimit habandon
          · exact ⟨_, _, hread, .of_tooBig hne hdecode rfl (.inl rfl)⟩
          · exact ⟨_, _, hread, .of_tooBig hne hdecode rfl (.inl rfl)⟩
          · exact ⟨_, _, hread, .of_tooBig hne hdecode rfl (.inr ⟨hdrain, rfl⟩)⟩

-- On a line that hands out these octets and then ends, in whatever pieces, reading a message and
-- decoding the octets take the same decisions, and nothing beyond the message is taken.
theorem receive_agrees_with_decode (limits : Limits) {σ : Type} {line : ByteLine σ} {state : σ}
    {octets : Bytes} {later : Supply} (hcarries : line.Carries state (⟨octets, .ended⟩ :: later)) :
    ∃ outcome next, (receive limits).run line state = (some outcome, next) ∧
      (octets = [] → outcome = .ok none) ∧
      (∀ message, decode limits octets = .ok message →
        outcome = .ok (some message) ∧ message.encodedLen ≤ octets.length ∧
          line.Carries next (⟨octets.drop message.encodedLen, .ended⟩ :: later)) ∧
      (∀ fault, decode limits octets = .error fault → fault.code = .truncated → octets ≠ [] →
        ∃ reported, outcome = .error reported ∧ reported.code = .truncated) ∧
      ∀ fault, decode limits octets = .error fault → fault.code = .bufferTooBig →
        ∃ reported, outcome = .error reported ∧ (reported.code = .bufferTooBig ∨
          limits.drainOversizeUpTo ≠ 0 ∧ reported.code = .truncated) := by
  obtain ⟨outcome, rest, hfeed, hagrees⟩ := feed_receive_agrees limits octets later
  obtain ⟨next, hrun, hnext⟩ := hcarries.run (seamless_receive limits) hfeed
  refine ⟨outcome, next, hrun, hagrees.empty, ?_, hagrees.truncated, hagrees.tooBig⟩
  intro message hdecode
  obtain ⟨houtcome, hlen, rfl⟩ := hagrees.decoded message hdecode
  exact ⟨houtcome, hlen, hnext⟩

-- Octet by octet, from a line that has one octet more than the message.
theorem receive_agrees_octet_by_octet :
    let message : Message := ⟨[[97], [], [98, 98]]⟩
    let script : Script := { events := [.data message.wire, .data [7]], chunk := some 1 }
    ∃ next, (receive {}).run Script.line script = (some (.ok (some message)), next) ∧
      Script.line.Carries next [⟨[7], .ended⟩] := by
  intro message script
  have hcarries : Script.line.Carries script [⟨message.wire ++ [7], .ended⟩] :=
    Script.carries (by decide) 0
  obtain ⟨outcome, next, hrun, -, hdecoded, -, -⟩ := receive_agrees_with_decode {} hcarries
  obtain ⟨rfl, -, hnext⟩ := hdecoded message (by decide +kernel)
  exact ⟨next, hrun, hnext⟩

end FramedLines.Message
