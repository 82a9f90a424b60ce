import FramedLines.Proofs.Decoding

-- Buffers that grow. What a buffer has been read as stands whatever comes behind it, and a buffer
-- that is too short says how long it has to be before there is any more to say.

namespace FramedLines

namespace Message

-- What decoding can come to that has got so far: a message, or a refusal, or octets are missing
-- beyond that place.
inductive Outlook (total reached : Nat) : Except Fault Message → Prop where
  | whole (message : Message) : Outlook total reached (.ok message)
  | tooBig {fault : Fault} (hcode : fault.code = .bufferTooBig) :
      Outlook total reached (.error fault)
  | truncated {expected : Nat} (hexpected : reached < expected) :
      Outlook total reached (.error (Fault.truncated total expected))

theorem Outlook.mono {total reached further : Nat} {result : Except Fault Message}
    (h : Outlook total further result) (hfurther : reached ≤ further) :
    Outlook total reached result := by
  cases h with
  | whole message => exact .whole message
  | tooBig hcode => exact .tooBig hcode
  | truncated hexpected => exact .truncated (Nat.lt_of_le_of_lt hfurther hexpected)

section Frames

variable (limits : Limits)

theorem outlook_decodeFrames (total count read : Nat) (done : List Bytes) (octets : Bytes) :
    Outlook total read (decodeFrames limits total count read done octets) := by
  obtain ⟨front, remaining, tail, rfl, rfl, hfront, hstop⟩ :=
    Wire.exists_front limits.maxFrameLen.toNat count octets
  rw [decodeFrames_front limits hfront]
  cases remaining with
  | zero => exact .whole _
  | succ remaining =>
      cases hstop.resolve_left (Nat.succ_ne_zero _) with
      | noWord hshort =>
          rw [decodeFrames_noWord limits hshort]
          exact .truncated (by simp only [Wire.wordLen]; omega)
      | noFrame hfits hlimit hshort =>
          rw [decodeFrames_noFrame limits hfits hlimit hshort]
          exact .truncated (by simp only [Wire.wordLen]; omega)
      | oversize hfits hlimit =>
          rw [decodeFrames_oversize limits hfits hlimit]
          exact .tooBig rfl

-- With the frame there, it is for those behind it that octets can be missing.
theorem outlook_frame {length : Nat} {rest : Bytes} (hfits : Wire.fits length)
    (hlimit : length ≤ limits.maxFrameLen.toNat) (hlength : length ≤ rest.length)
    (total remaining read : Nat) (done : List Bytes) :
    Outlook total (read + Wire.wordLen + length)
      (decodeFrames limits total (remaining + 1) read done (Wire.word length ++ rest)) := by
  obtain ⟨body, others, rfl, rfl⟩ : ∃ body others, rest = body ++ others ∧ length = body.length :=
    ⟨rest.take length, rest.drop length, by simp, by simp; omega⟩
  have hbody : ∀ head ∈ [body], Wire.fits head.length ∧ head.length ≤ limits.maxFrameLen.toNat :=
    List.forall_mem_singleton.mpr ⟨hfits, hlimit⟩
  have hfront := decodeFrames_front limits hbody total remaining read done others
  rw [List.flatMap_singleton, Wire.length_frame, ← Nat.add_assoc, Wire.frame, List.append_assoc,
    List.length_singleton, Nat.add_comm 1] at hfront
  rw [hfront]
  exact outlook_decodeFrames limits total remaining _ _ others

-- With the length of a frame there, it is for the frame or for more.
theorem outlook_word {octets : Bytes} (hword : Wire.wordLen ≤ octets.length)
    (total remaining read : Nat) (done : List Bytes) :
    Outlook total (read + Wire.wordLen)
      (decodeFrames limits total (remaining + 1) read done octets) := by
  obtain ⟨length, rest, hfits, rfl⟩ := Wire.exists_word hword
  by_cases hlimit : limits.maxFrameLen.toNat < length
  · rw [decodeFrames_oversize limits hfits hlimit]
    exact .tooBig rfl
  · by_cases hshort : rest.length < length
    · rw [decodeFrames_noFrame limits hfits (Nat.le_of_not_lt hlimit) hshort]
      exact .truncated (by omega)
    · have hframe := outlook_frame limits hfits (Nat.le_of_not_lt hlimit) (Nat.le_of_not_lt hshort)
        total remaining read done
      exact hframe.mono (Nat.le_add_right _ _)

-- With the count there, it is for the frames.
theorem outlook_count {octets : Bytes} (hcount : Wire.wordLen ≤ octets.length) :
    Outlook octets.length Wire.wordLen (decode limits octets) := by
  obtain ⟨count, rest, hfits, rfl⟩ := Wire.exists_word hcount
  by_cases hmany : limits.maxFrames.toNat < count
  · rw [decode_tooMany limits hfits hmany]
    exact .tooBig rfl
  · rw [decode, takeWord_eq_ok_iff.mpr ⟨hfits, rfl⟩]
    simp only [if_neg hmany]
    exact outlook_decodeFrames limits _ count Wire.wordLen [] rest

end Frames

-- Octets that are no message yet. It takes `expected` of them before there is anything else to be
-- told, and there are as many when nothing is missing of the section in which they break off.
structure Awaits (limits : Limits) (bytes : Bytes) (expected : Nat) : Prop where
  missing : expected = bytes.length + Wire.missing bytes
  beyond : bytes.length < expected
  short : ∀ more, (bytes ++ more).length < expected →
    decode limits (bytes ++ more) = .error (Fault.truncated (bytes ++ more).length expected)
  enough : ∀ more, expected ≤ (bytes ++ more).length →
    Outlook (bytes ++ more).length expected (decode limits (bytes ++ more))

namespace Awaits

variable {limits : Limits} {bytes : Bytes}

theorem told {expected : Nat} (h : Awaits limits bytes expected) :
    decode limits bytes = .error (Fault.truncated bytes.length expected) := by
  have hshort := h.short []
  rw [List.append_nil] at hshort
  exact hshort h.beyond

theorem of_noCount (hshort : bytes.length < Wire.wordLen) :
    Awaits limits bytes Wire.wordLen where
  missing := by
    rw [Wire.missing_noCount hshort]
    omega
  beyond := hshort
  short _ := decode_noCount limits
  enough _ := outlook_count limits

-- Behind whole frames it is all a matter of the octets behind them, `gap` of which are needed.
theorem of_front {front : List Bytes} {remaining gap : Nat} {tail : Bytes}
    (hfits : Wire.fits (front.length + (remaining + 1)))
    (hcount : front.length + (remaining + 1) ≤ limits.maxFrames.toNat)
    (hfront : ∀ head ∈ front, Wire.fits head.length ∧ head.length ≤ limits.maxFrameLen.toNat)
    (hmissing : Wire.missingOfFrames (remaining + 1) tail = gap - tail.length)
    (hbeyond : tail.length < gap)
    (hshort : ∀ more, (tail ++ more).length < gap → ∀ total read done,
      decodeFrames limits total (remaining + 1) read done (tail ++ more) =
        .error (Fault.truncated total (read + gap)))
    (henough : ∀ more, gap ≤ (tail ++ more).length → ∀ total read done,
      Outlook total (read + gap)
        (decodeFrames limits total (remaining + 1) read done (tail ++ more))) :
    Awaits limits
      (Wire.word (front.length + (remaining + 1)) ++ (front.flatMap Wire.frame ++ tail))
      (Wire.wordLen + (front.flatMap Wire.frame).length + gap) := by
  have hlength (tail : Bytes) :
      (Wire.word (front.length + (remaining + 1)) ++ (front.flatMap Wire.frame ++ tail)).length =
        Wire.wordLen + (front.flatMap Wire.frame).length + tail.length := by
    rw [List.length_append, List.length_append, Wire.length_word, Nat.add_assoc]
  refine ⟨?_, ?_, fun more hmore => ?_, fun more hmore => ?_⟩
  · rw [hlength, Wire.missing_front hfits fun head hhead => (hfront head hhead).1, hmissing]
    omega
  · rw [hlength]
    omega
  · simp only [List.append_assoc, hlength] at hmore ⊢
    rw [decode_front limits hfits hcount hfront]
    exact hshort more (by omega) _ _ _
  · simp only [List.append_assoc, hlength] at hmore ⊢
    rw [decode_front limits hfits hcount hfront]
    exact henough more (by omega) _ _ _

end Awaits

-- A message or a refusal is there for good, or else it takes more octets.
theorem decode_cases (limits : Limits) (bytes : Bytes) :
    (∃ message, ∀ more, decode limits (bytes ++ more) = .ok message) ∨
    (∃ fault : Fault, fault.code = .bufferTooBig ∧
      ∀ more, decode limits (bytes ++ more) = .error fault) ∨
    ∃ expected, Awaits limits bytes expected := by
  cases opening limits bytes with
  | noCount hshort => exact .inr (.inr ⟨_, .of_noCount hshort⟩)
  | @tooMany count rest hfits hcount =>
      refine .inr (.inl ⟨(Fault.bufferTooBig count limits.maxFrames.toNat).withContext
        s!"{count} frames", rfl, fun more => ?_⟩)
      rw [List.append_assoc]
      exact decode_tooMany limits hfits hcount _
  | @whole message rest hw hadmits =>
      refine .inl ⟨message, fun more => ?_⟩
      rw [List.append_assoc]
      exact decode_whole limits hw hadmits _
  | @blocked front remaining tail hfits hcount hfront htail =>
      cases htail with
      | noWord hshort =>
          refine .inr (.inr ⟨_, .of_front hfits hcount hfront
            (Wire.missingOfFrames_noWord hshort remaining) hshort ?_ ?_⟩)
          · exact fun more hmore total read done =>
              decodeFrames_noWord limits hmore total remaining read done
          · exact fun more hmore total read done =>
              outlook_word limits hmore total remaining read done
      | @noFrame length rest hlength hlimit hshort =>
          have hgap : (Wire.word length ++ rest).length < Wire.wordLen + length := by
            rw [List.length_append, Wire.length_word]
            omega
          have hmissing : Wire.missingOfFrames (remaining + 1) (Wire.word length ++ rest) =
              Wire.wordLen + length - (Wire.word length ++ rest).length := by
            rw [Wire.missingOfFrames_noFrame hlength hshort, List.length_append, Wire.length_word]
            omega
          refine .inr (.inr ⟨_, .of_front hfits hcount hfront hmissing hgap ?_ ?_⟩)
          all_goals
            intro more hmore total read done
            rw [List.append_assoc, ← Nat.add_assoc]
            rw [List.append_assoc, List.length_append, Wire.length_word] at hmore
          · exact decodeFrames_noFrame limits hlength hlimit (by omega) total remaining read done
          · exact outlook_frame limits hlength hlimit (by omega) total remaining read done
      | @oversize length rest hlength hlimit =>
          refine .inr (.inl ⟨Fault.bufferTooBig length limits.maxFrameLen.toNat, rfl,
            fun more => ?_⟩)
          simp only [List.append_assoc]
          rw [decode_front limits hfits hcount hfront, decodeFrames_oversize limits hlength hlimit]

-- The same, with what there is to be told of them now.
inductive Prospect (limits : Limits) (bytes : Bytes) : Except Fault Message → Prop where
  | whole {message : Message} (hkept : ∀ more, decode limits (bytes ++ more) = .ok message) :
      Prospect limits bytes (.ok message)
  | tooBig {fault : Fault} (hcode : fault.code = .bufferTooBig)
      (hkept : ∀ more, decode limits (bytes ++ more) = .error fault) :
      Prospect limits bytes (.error fault)
  | awaits {expected : Nat} (hawaits : Awaits limits bytes expected) :
      Prospect limits bytes (.error (Fault.truncated bytes.length expected))

theorem prospect_decode (limits : Limits) (bytes : Bytes) :
    Prospect limits bytes (decode limits bytes) := by
  rcases decode_cases limits bytes with ⟨message, hkept⟩ | ⟨fault, hcode, hkept⟩ |
    ⟨expected, hawaits⟩
  · have htold := hkept []
    rw [List.append_nil] at htold
    rw [htold]
    exact .whole hkept
  · have htold := hkept []
    rw [List.append_nil] at htold
    rw [htold]
    exact .tooBig hcode hkept
  · rw [hawaits.told]
    exact .awaits hawaits

-- Somebody who has the first `held` octets of a stream and looks at them. As long as they are too
-- few he waits for as many as he is told and looks again, and this is what he comes to.
inductive Buffers (limits : Limits) (stream : Bytes) : (held : Nat) → Except Fault Message → Prop
    where
  | whole {held : Nat} {message : Message}
      (hlook : decode limits (stream.take held) = .ok message) :
      Buffers limits stream held (.ok message)
  | tooBig {held : Nat} {fault : Fault}
      (hlook : decode limits (stream.take held) = .error fault)
      (hcode : fault.code = .bufferTooBig) : Buffers limits stream held (.error fault)
  | waits {held expected : Nat} {result : Except Fault Message}
      (hlook : decode limits (stream.take held) = .error (Fault.truncated held expected))
      (hmore : held < expected) (hthere : expected ≤ stream.length)
      (hrest : Buffers limits stream expected result) : Buffers limits stream held result
  -- the stream is over before he has them
  | starves {held expected : Nat}
      (hlook : decode limits (stream.take held) = .error (Fault.truncated held expected))
      (hshort : stream.length < expected) :
      Buffers limits stream held (.error (Fault.truncated stream.length expected))

-- He comes to what he would have come to with the whole stream before him.
theorem buffers_decode (limits : Limits) (stream : Bytes) {held : Nat}
    (hheld : held ≤ stream.length) : Buffers limits stream held (decode limits stream) := by
  induction hleft : stream.length - held using Nat.strongRecOn generalizing held with
  | _ left ih =>
      have hlength : (stream.take held).length = held := by simp [hheld]
      have hstream : stream.take held ++ stream.drop held = stream := List.take_append_drop ..
      have hprospect := prospect_decode limits (stream.take held)
      generalize hlook : decode limits (stream.take held) = look at hprospect
      cases hprospect with
      | whole hkept =>
          have hall := hkept (stream.drop held)
          rw [hstream] at hall
          rw [hall]
          exact .whole hlook
      | tooBig hcode hkept =>
          have hall := hkept (stream.drop held)
          rw [hstream] at hall
          rw [hall]
          exact .tooBig hlook hcode
      | @awaits expected hawaits =>
          have hmore := hawaits.beyond
          rw [hlength] at hlook hmore
          by_cases hthere : expected ≤ stream.length
          · exact .waits hlook hmore hthere (ih (stream.length - expected) (by omega) hthere rfl)
          · have hall := hawaits.short (stream.drop held)
            rw [hstream] at hall
            rw [hall (by omega)]
            exact .starves hlook (by omega)

-- A buffer read once need not be read again when more comes in. One that was too short is worth
-- another look when it has the length it asked for, and not before. So whoever waits for that each
-- time gets on, and waits for nothing that does not belong to the message.
theorem decoding_is_incremental (limits : Limits) (bytes : Bytes) :
    (∀ message, decode limits bytes = .ok message →
      ∀ more, decode limits (bytes ++ more) = .ok message) ∧
    (∀ fault, decode limits bytes = .error fault → fault.code = .bufferTooBig →
      ∀ more, decode limits (bytes ++ more) = .error fault) ∧
    (∀ fault, decode limits bytes = .error fault → fault.code = .truncated →
      ∃ expected, fault = Fault.truncated bytes.length expected ∧
        Awaits limits bytes expected) ∧
    (∀ fault, decode limits bytes = .error fault →
      fault.code = .bufferTooBig ∨ fault.code = .truncated) ∧
    ∀ held ≤ bytes.length, Buffers limits bytes held (decode limits bytes) := by
  refine ⟨fun message hlook => ?_, fun fault hlook hcode => ?_, fun fault hlook hcode => ?_,
    fun fault hlook => ?_, fun held hheld => buffers_decode limits bytes hheld⟩
  all_goals
    have hprospect := prospect_decode limits bytes
    rw [hlook] at hprospect
  · cases hprospect with
    | whole hkept => exact hkept
  · cases hprospect with
    | tooBig _ hkept => exact hkept
    | awaits => cases hcode
  · cases hprospect with
    | tooBig hbig => cases hbig.symm.trans hcode
    | awaits hawaits => exact ⟨_, rfl, hawaits⟩
  · cases hprospect with
    | tooBig hcode => exact .inl hcode
    | awaits => exact .inr rfl

-- A message, a count past the limit, and a message cut in its second frame.
theorem decoding_is_incremental_each_way :
    (∀ more, decode {} ([1, 0, 0, 0, 1, 0, 0, 0, 97] ++ more) = .ok ⟨[[97]]⟩) ∧
    (∃ fault : Fault, fault.code = .bufferTooBig ∧
      ∀ more, decode {} ([255, 255, 255, 255] ++ more) = .error fault) ∧
    Awaits {} [2, 0, 0, 0, 0, 0, 0, 0, 2, 0, 0, 0, 97] 14 := by
  have hbig : decode {} [255, 255, 255, 255] = .error
      ((Fault.bufferTooBig 4294967295 ({} : Limits).maxFrames.toNat).withContext
        s!"{4294967295} frames") := rfl
  have hcut : decode {} [2, 0, 0, 0, 0, 0, 0, 0, 2, 0, 0, 0, 97] =
      .error (Fault.truncated 13 14) := rfl
  refine ⟨(decoding_is_incremental {} _).1 _ rfl, ⟨_, rfl,
    (decoding_is_incremental {} _).2.1 _ hbig rfl⟩, ?_⟩
  obtain ⟨expected, -, hawaits⟩ := (decoding_is_incremental {} _).2.2.1 _ hcut rfl
  have hexpected : expected = 14 := hawaits.missing.trans (by decide)
  rwa [hexpected] at hawaits

end Message

end FramedLines
