import FramedLines.Proofs.Wire

-- Reading a message off a buffer: how octets can open under the limits, what decoding makes of
-- each way, and that it accepts exactly the messages whose wire form a buffer begins with.

namespace FramedLines.Message

theorem takeWord_eq_ok_iff {total read value : Nat} {bytes rest : Bytes} :
    takeWord total read bytes = .ok (value, rest) ↔
      Wire.fits value ∧ bytes = Wire.word value ++ rest := by
  constructor
  · intro h
    simp only [takeWord] at h
    split at h
    · next head _ hsplit =>
        obtain ⟨hbytes, hlen⟩ := Bytes.split?_eq_some_iff.mp hsplit
        injection h with h
        injection h with hvalue hrest
        subst hvalue hrest
        exact ⟨Wire.fits_toNat hlen, by rw [Wire.word_toNat hlen, hbytes]⟩
    · cases h
  · rintro ⟨hfits, rfl⟩
    simp only [takeWord, Wire.split?_word, Wire.toNat_word hfits]

-- How octets can open that are to hold a message under the limits.
inductive Opening (limits : Limits) : Bytes → Prop where
  | noCount {octets : Bytes} (hshort : octets.length < Wire.wordLen) : Opening limits octets
  | tooMany {count : Nat} {rest : Bytes} (hfits : Wire.fits count)
      (hcount : limits.maxFrames.toNat < count) : Opening limits (Wire.word count ++ rest)
  | whole {message : Message} {rest : Bytes} (hw : message.Writable)
      (hadmits : limits.Admits message) : Opening limits (message.wire ++ rest)
  -- some frames, and then none where there should be one
  | blocked {front : List Bytes} {remaining : Nat} {tail : Bytes}
      (hfits : Wire.fits (front.length + (remaining + 1)))
      (hcount : front.length + (remaining + 1) ≤ limits.maxFrames.toNat)
      (hfront : ∀ head ∈ front, Wire.fits head.length ∧ head.length ≤ limits.maxFrameLen.toNat)
      (htail : Wire.Blocked limits.maxFrameLen.toNat tail) :
      Opening limits
        (Wire.word (front.length + (remaining + 1)) ++ (front.flatMap Wire.frame ++ tail))

theorem opening (limits : Limits) (octets : Bytes) : Opening limits octets := by
  by_cases hword : octets.length < Wire.wordLen
  · exact .noCount hword
  · obtain ⟨count, rest, hfits, rfl⟩ := Wire.exists_word (Nat.le_of_not_lt hword)
    by_cases hcount : limits.maxFrames.toNat < count
    · exact .tooMany hfits hcount
    · obtain ⟨front, remaining, tail, rfl, rfl, hfront, hstop⟩ :=
        Wire.exists_front limits.maxFrameLen.toNat count rest
      cases remaining with
      | zero =>
          have hw : Writable ⟨front⟩ := ⟨hfits, fun head hhead => (hfront head hhead).1⟩
          have hadmits : limits.Admits ⟨front⟩ :=
            ⟨Nat.le_of_not_lt hcount, fun head hhead => (hfront head hhead).2⟩
          have hwhole : Opening limits (wire ⟨front⟩ ++ tail) := .whole hw hadmits
          rwa [wire, List.append_assoc] at hwhole
      | succ remaining =>
          exact .blocked hfits (Nat.le_of_not_lt hcount) hfront
            (hstop.resolve_left (Nat.succ_ne_zero _))

section Decode

variable (limits : Limits)

theorem decodeFrames_front {front : List Bytes}
    (hfront : ∀ head ∈ front, Wire.fits head.length ∧ head.length ≤ limits.maxFrameLen.toNat)
    (total remaining read : Nat) (done : List Bytes) (tail : Bytes) :
    decodeFrames limits total (front.length + remaining) read done
        (front.flatMap Wire.frame ++ tail) =
      decodeFrames limits total remaining (read + (front.flatMap Wire.frame).length)
        (front.reverse ++ done) tail := by
  induction front generalizing read done with
  | nil => simp
  | cons head front ih =>
      obtain ⟨hfits, hlimit⟩ := hfront head (by simp)
      have hrest := ih (fun other hother => hfront other (by simp [hother]))
        (read + Wire.wordLen + head.length) (head :: done)
      have hword : takeWord total read ((head :: front).flatMap Wire.frame ++ tail) =
          .ok (head.length, head ++ (front.flatMap Wire.frame ++ tail)) :=
        takeWord_eq_ok_iff.mpr ⟨hfits, by simp [Wire.frame]⟩
      have hsplit : Bytes.split? head.length (head ++ (front.flatMap Wire.frame ++ tail)) =
          some (head, front.flatMap Wire.frame ++ tail) :=
        Bytes.split?_eq_some_iff.mpr ⟨rfl, rfl⟩
      rw [List.length_cons, Nat.add_right_comm, decodeFrames, hword]
      simp only [if_neg (Nat.not_lt.mpr hlimit), hsplit]
      rw [hrest, List.flatMap_cons, List.length_append, Wire.length_frame, List.reverse_cons,
        List.append_assoc, List.singleton_append, Nat.add_assoc read, Nat.add_assoc read]

theorem takeWord_short {bytes : Bytes} (hshort : bytes.length < Wire.wordLen)
    (total read : Nat) :
    takeWord total read bytes = .error (Fault.truncated total (read + Wire.wordLen)) := by
  rw [takeWord, Bytes.split?_eq_none_iff.mpr hshort]

theorem decode_noCount {bytes : Bytes} (hshort : bytes.length < Wire.wordLen) :
    decode limits bytes = .error (Fault.truncated bytes.length Wire.wordLen) := by
  rw [decode, takeWord_short hshort, Nat.zero_add]

theorem decode_tooMany {count : Nat} (hfits : Wire.fits count)
    (hcount : limits.maxFrames.toNat < count) (rest : Bytes) :
    decode limits (Wire.word count ++ rest) =
      .error ((Fault.bufferTooBig count limits.maxFrames.toNat).withContext
        s!"{count} frames") := by
  rw [decode, takeWord_eq_ok_iff.mpr ⟨hfits, rfl⟩]
  exact if_pos hcount

theorem decode_front {front : List Bytes} {remaining : Nat}
    (hfits : Wire.fits (front.length + remaining))
    (hcount : front.length + remaining ≤ limits.maxFrames.toNat)
    (hfront : ∀ head ∈ front, Wire.fits head.length ∧ head.length ≤ limits.maxFrameLen.toNat)
    (tail : Bytes) :
    decode limits (Wire.word (front.length + remaining) ++ (front.flatMap Wire.frame ++ tail)) =
      decodeFrames limits (Wire.wordLen + (front.flatMap Wire.frame).length + tail.length)
        remaining (Wire.wordLen + (front.flatMap Wire.frame).length) front.reverse tail := by
  rw [decode, takeWord_eq_ok_iff.mpr ⟨hfits, rfl⟩]
  simp only [if_neg (Nat.not_lt.mpr hcount)]
  rw [decodeFrames_front limits hfront, List.append_nil, List.length_append, List.length_append,
    Wire.length_word, Nat.add_assoc]

theorem decodeFrames_noWord {tail : Bytes} (hshort : tail.length < Wire.wordLen)
    (total remaining read : Nat) (done : List Bytes) :
    decodeFrames limits total (remaining + 1) read done tail =
      .error (Fault.truncated total (read + Wire.wordLen)) := by
  rw [decodeFrames, takeWord_short hshort]

theorem decodeFrames_noFrame {length : Nat} {rest : Bytes} (hfits : Wire.fits length)
    (hlimit : length ≤ limits.maxFrameLen.toNat) (hshort : rest.length < length)
    (total remaining read : Nat) (done : List Bytes) :
    decodeFrames limits total (remaining + 1) read done (Wire.word length ++ rest) =
      .error (Fault.truncated total (read + Wire.wordLen + length)) := by
  rw [decodeFrames, takeWord_eq_ok_iff.mpr ⟨hfits, rfl⟩]
  simp only [if_neg (Nat.not_lt.mpr hlimit), Bytes.split?_eq_none_iff.mpr hshort]

theorem decodeFrames_oversize {length : Nat} (hfits : Wire.fits length)
    (hlimit : limits.maxFrameLen.toNat < length) (rest : Bytes) (total remaining read : Nat)
    (done : List Bytes) :
    decodeFrames limits total (remaining + 1) read done (Wire.word length ++ rest) =
      .error (Fault.bufferTooBig length limits.maxFrameLen.toNat) := by
  rw [decodeFrames, takeWord_eq_ok_iff.mpr ⟨hfits, rfl⟩]
  exact if_pos hlimit

theorem decode_whole {message : Message} (hw : message.Writable)
    (hadmits : limits.Admits message) (rest : Bytes) :
    decode limits (message.wire ++ rest) = .ok message := by
  have hframes : ∀ head ∈ message.frames,
      Wire.fits head.length ∧ head.length ≤ limits.maxFrameLen.toNat :=
    fun head hhead => ⟨hw.2 head hhead, hadmits.2 head hhead⟩
  have hfits : Wire.fits (message.frames.length + 0) := hw.1
  have hfront := decode_front limits hfits hadmits.1 hframes rest
  rw [wire, List.append_assoc]
  rw [Nat.add_zero] at hfront
  rw [length, hfront, decodeFrames, List.reverse_reverse]

end Decode

theorem decode_eq_ok_iff_wire {limits : Limits} {bytes : Bytes} {message : Message} :
    decode limits bytes = .ok message ↔
      limits.Admits message ∧ message.Writable ∧ message.wire <+: bytes := by
  constructor
  · intro h
    cases opening limits bytes with
    | noCount hshort =>
        rw [decode_noCount limits hshort] at h
        cases h
    | tooMany hfits hcount =>
        rw [decode_tooMany limits hfits hcount] at h
        cases h
    | whole hw hadmits =>
        rw [decode_whole limits hw hadmits] at h
        injection h with h
        subst h
        exact ⟨hadmits, hw, List.prefix_append _ _⟩
    | blocked hfits hcount hfront htail =>
        rw [decode_front limits hfits hcount hfront] at h
        cases htail with
        | noWord hshort =>
            rw [decodeFrames_noWord limits hshort] at h
            cases h
        | noFrame hlength hlimit hshort =>
            rw [decodeFrames_noFrame limits hlength hlimit hshort] at h
            cases h
        | oversize hlength hlimit =>
            rw [decodeFrames_oversize limits hlength hlimit] at h
            cases h
  · rintro ⟨hadmits, hw, rest, rfl⟩
    exact decode_whole limits hw hadmits rest

-- Limits that every message with a wire form keeps.
private def loosest : Limits := { maxFrameLen := 4294967295, maxFrames := 4294967295 }

private theorem decode_loosest {message : Message} {bytes : Bytes} (hw : message.Writable)
    (hfront : message.wire <+: bytes) : decode loosest bytes = .ok message := by
  have hbound : ∀ value, Wire.fits value → value ≤ 4294967295 := by
    intro value hfits
    have hlt := Wire.fits_iff.mp hfits
    simp only [UInt32.size] at hlt
    omega
  have hadmits : loosest.Admits message :=
    ⟨hbound _ hw.1, fun frame hframe => hbound _ (hw.2 frame hframe)⟩
  exact decode_eq_ok_iff_wire.mpr ⟨hadmits, hw, hfront⟩

-- A buffer is read as the one message within the limits whose written form it begins with.
-- Even without limits no buffer begins with the forms of two messages.
theorem decode_eq_ok_iff (limits : Limits) (bytes : Bytes) (message : Message) :
    (decode limits bytes = .ok message ↔
      message.length ≤ limits.maxFrames.toNat ∧
        (∀ frame ∈ message.frames, frame.length ≤ limits.maxFrameLen.toNat) ∧
        ∃ written, message.encodeInto [] = (.ok (), written) ∧ written <+: bytes) ∧
      ∀ other written otherWritten, message.encodeInto [] = (.ok (), written) →
        other.encodeInto [] = (.ok (), otherWritten) → written <+: bytes →
        otherWritten <+: bytes → message = other := by
  constructor
  · rw [decode_eq_ok_iff_wire]
    simp only [encodeInto_eq_ok_iff, List.nil_append]
    constructor
    · rintro ⟨⟨hcount, hlimit⟩, hw, hfront⟩
      exact ⟨hcount, hlimit, message.wire, ⟨hw, rfl⟩, hfront⟩
    · rintro ⟨hcount, hlimit, written, ⟨hw, rfl⟩, hfront⟩
      exact ⟨⟨hcount, hlimit⟩, hw, hfront⟩
  · intro other written otherWritten hwritten hother hfront hotherFront
    obtain ⟨hw, rfl⟩ := encodeInto_eq_ok_iff.mp hwritten
    obtain ⟨how, rfl⟩ := encodeInto_eq_ok_iff.mp hother
    have hread := decode_loosest hw hfront
    rw [decode_loosest how hotherFront] at hread
    injection hread with hread
    exact hread.symm

end FramedLines.Message
