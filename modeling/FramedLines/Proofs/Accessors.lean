import FramedLines.Bytes.Lemmas
import FramedLines.Message
import FramedLines.Proofs.Utf8

-- Numbers and text in frames of their own: what is added is read back, and what can be read is
-- added back as it was.

namespace FramedLines

namespace Message

-- What is the same for values of all types. They are written as these octets, and read in the
-- frames that hold such octets. Reading leaves the message alone.
structure Inverse {α : Type} (add : Message → α → Message) (get : Message → Nat → Except Fault α)
    (write : α → Bytes) (Holds : Bytes → Prop) : Prop where
  added : ∀ message value, (add message value).frames = message.frames ++ [write value]
  kept : ∀ message value, ∀ index < message.length,
    (add message value).frame? index = message.frame? index
  got : ∀ message value, get (add message value) message.length = .ok value
  found : ∀ message index, (∃ value, get message index = .ok value) ↔
    ∃ frame, message.frame? index = some frame ∧ Holds frame
  back : ∀ message index value, get message index = .ok value →
    ∃ frame, message.frame? index = some frame ∧
      (add message value).frames = message.frames ++ [frame]
  refused : ∀ message index, (¬ ∃ frame, message.frame? index = some frame ∧ Holds frame) →
    ∃ fault, get message index = .error fault ∧ fault.code = .invalidArgument

theorem frame?_add_self (message : Message) (frame : Bytes) :
    (message.add frame).frame? message.length = some frame := List.getElem?_concat_length

theorem frame?_add_of_lt {message : Message} {index : Nat} (hindex : index < message.length)
    (frame : Bytes) : (message.add frame).frame? index = message.frame? index :=
  List.getElem?_append_left hindex

-- It is enough to know which frames a value is read from.
theorem Inverse.of_get {α : Type} {add : Message → α → Message}
    {get : Message → Nat → Except Fault α} {write : α → Bytes} {Holds : Bytes → Prop}
    (hadd : ∀ message value, add message value = message.add (write value))
    (hget : ∀ message index value, get message index = .ok value ↔
      message.frame? index = some (write value))
    (hfault : ∀ message index fault, get message index = .error fault →
      fault.code = .invalidArgument)
    (hholds : ∀ frame, Holds frame ↔ ∃ value, write value = frame) :
    Inverse add get write Holds := by
  have hfound (message : Message) (index : Nat) : (∃ value, get message index = .ok value) ↔
      ∃ frame, message.frame? index = some frame ∧ Holds frame := by
    simp only [hget, hholds]
    constructor
    · rintro ⟨value, hframe⟩
      exact ⟨write value, hframe, value, rfl⟩
    · rintro ⟨_, hframe, value, rfl⟩
      exact ⟨value, hframe⟩
  refine ⟨fun message value => ?_, fun message value index hindex => ?_, fun message value => ?_,
    hfound, fun message index value hread => ?_, fun message index hnone => ?_⟩
  · rw [hadd]
    rfl
  · rw [hadd, frame?_add_of_lt hindex]
  · rw [hget, hadd, frame?_add_self]
  · refine ⟨write value, (hget message index value).mp hread, ?_⟩
    rw [hadd]
    rfl
  · cases hread : get message index with
    | ok value => exact absurd ((hfound message index).mp ⟨value, hread⟩) hnone
    | error fault => exact ⟨fault, rfl, hfault message index fault hread⟩

section Reading

variable {α : Type} {message : Message} {index width : Nat} {read : Bytes → Except Fault α}

theorem frameAt_eq_ok_iff {frame : Bytes} :
    message.frameAt index = .ok frame ↔ message.frame? index = some frame := by
  unfold frameAt
  cases message.frame? index <;> simp

-- Whatever is read from a frame is read once the frame is there.
theorem frameAt_bind_eq_ok_iff {value : α} : (message.frameAt index >>= read) = .ok value ↔
    ∃ frame, message.frame? index = some frame ∧ read frame = .ok value := by
  simp only [← frameAt_eq_ok_iff]
  cases message.frameAt index <;> simp [bind, Except.bind]

theorem code_of_frameAt_bind {fault : Fault}
    (hcode : ∀ frame fault, read frame = .error fault → fault.code = .invalidArgument)
    (hread : (message.frameAt index >>= read) = .error fault) : fault.code = .invalidArgument := by
  unfold frameAt at hread
  cases hframe : message.frame? index with
  | none =>
      rw [hframe] at hread
      cases hread
      rfl
  | some frame =>
      rw [hframe] at hread
      exact hcode frame fault hread

theorem number_eq_ok_iff {value : Nat} : message.number width index = .ok value ↔
    value < 256 ^ width ∧ message.frame? index = some (Bytes.ofNat width value) := by
  rw [number, frameAt_bind_eq_ok_iff]
  constructor
  · rintro ⟨frame, hframe, hread⟩
    split at hread
    · next hwidth =>
        cases hread
        subst hwidth
        rw [Bytes.ofNat_toNat]
        exact ⟨Bytes.toNat_lt frame, hframe⟩
    · cases hread
  · rintro ⟨hvalue, hframe⟩
    refine ⟨_, hframe, ?_⟩
    rw [if_pos (Bytes.length_ofNat width value), Bytes.toNat_ofNat, Nat.mod_eq_of_lt hvalue]
    rfl

theorem code_of_number {fault : Fault} (hread : message.number width index = .error fault) :
    fault.code = .invalidArgument := by
  refine code_of_frameAt_bind (fun frame other hother => ?_) hread
  split at hother <;> cases hother
  rfl

theorem getText_eq_ok_iff {text : String} : message.getText index = .ok text ↔
    message.frame? index = some (Utf8.encode text.toList) := by
  rw [getText, frameAt_bind_eq_ok_iff]
  constructor
  · rintro ⟨frame, hframe, hread⟩
    split at hread
    · next chars hdecode =>
        cases hread
        rw [String.toList_ofList, Utf8.decode_eq_ok_iff_encode.mp hdecode]
        exact hframe
    · cases hread
  · intro hframe
    refine ⟨_, hframe, ?_⟩
    simp only [Utf8.decode_encode, String.ofList_toList]
    rfl

theorem code_of_getText {fault : Fault} (hread : message.getText index = .error fault) :
    fault.code = .invalidArgument := by
  refine code_of_frameAt_bind (fun frame other hother => ?_) hread
  split at hother <;> cases hother
  rfl

end Reading

-- Words of one width, in as many octets.
theorem Inverse.of_number {α : Type} {add : Message → α → Message}
    {get : Message → Nat → Except Fault α} {write : α → Bytes} {width : Nat}
    {toWord : Nat → α} {ofWord : α → Nat}
    (hadd : ∀ message word, add message word = message.add (Bytes.ofNat width (ofWord word)))
    (hget : ∀ message index, get message index = (message.number width index).map toWord)
    (hwrite : ∀ word, Bytes.ofNat width (ofWord word) = write word)
    (hbound : ∀ word, ofWord word < 256 ^ width) (hto : ∀ word, toWord (ofWord word) = word)
    (hof : ∀ value < 256 ^ width, ofWord (toWord value) = value) :
    Inverse add get write (·.length = width) := by
  refine .of_get (fun message word => ?_) (fun message index word => ?_)
    (fun message index fault hread => ?_) fun frame => ?_
  · rw [hadd, hwrite]
  · rw [hget, ← hwrite]
    constructor
    · intro hread
      cases hnumber : message.number width index with
      | error fault =>
          rw [hnumber] at hread
          cases hread
      | ok value =>
          obtain ⟨hvalue, hframe⟩ := number_eq_ok_iff.mp hnumber
          rw [hnumber] at hread
          cases hread
          rw [hof value hvalue, hframe]
    · intro hframe
      rw [number_eq_ok_iff.mpr ⟨hbound word, hframe⟩, Except.map, hto]
  · rw [hget] at hread
    cases hnumber : message.number width index with
    | error other =>
        rw [hnumber] at hread
        cases hread
        exact code_of_number hnumber
    | ok value =>
        rw [hnumber] at hread
        cases hread
  · simp only [← hwrite]
    constructor
    · rintro rfl
      refine ⟨toWord (Bytes.toNat frame), ?_⟩
      rw [hof _ (Bytes.toNat_lt frame), Bytes.ofNat_toNat]
    · rintro ⟨word, rfl⟩
      exact Bytes.length_ofNat ..

theorem ofNat_two (value : UInt16) :
    Bytes.ofNat 2 value.toNat = [value.toUInt8, (value >>> 8).toUInt8] := by
  simp [Bytes.ofNat, ← UInt8.toNat_inj, Nat.shiftRight_eq_div_pow]

theorem ofNat_four (value : UInt32) : Bytes.ofNat 4 value.toNat =
    [value.toUInt8, (value >>> 8).toUInt8, (value >>> 16).toUInt8, (value >>> 24).toUInt8] := by
  simp [Bytes.ofNat, ← UInt8.toNat_inj, Nat.shiftRight_eq_div_pow, Nat.div_div_eq_div_mul]

theorem inverse_text : Inverse addText getText (fun text => text.toByteArray.data.toList)
    (·.toByteArray.IsValidUTF8) := by
  refine .of_get (fun message text => ?_) (fun message index text => ?_)
    (fun _ _ _ => code_of_getText) fun frame => ?_
  · rw [addText, Utf8.encode_toList]
  · rw [getText_eq_ok_iff, Utf8.encode_toList]
  · rw [Utf8.isValidUTF8_iff]
    constructor
    · rintro ⟨chars, rfl⟩
      exact ⟨String.ofList chars, by rw [← Utf8.encode_toList, String.toList_ofList]⟩
    · rintro ⟨text, rfl⟩
      exact ⟨text.toList, Utf8.encode_toList text⟩

-- Numbers are written with their lowest octet first, and text as strings are stored. A number is
-- in every frame of its width and in no other, text in every frame that could be a string.
theorem reading_inverts_adding :
    Inverse addU8 getU8 (fun value => [value]) (·.length = 1) ∧
    Inverse addU16 getU16 (fun value => [value.toUInt8, (value >>> 8).toUInt8]) (·.length = 2) ∧
    Inverse addU32 getU32 (fun value =>
      [value.toUInt8, (value >>> 8).toUInt8, (value >>> 16).toUInt8, (value >>> 24).toUInt8])
      (·.length = 4) ∧
    Inverse addText getText (fun text => text.toByteArray.data.toList)
      (·.toByteArray.IsValidUTF8) := by
  refine ⟨?_, ?_, ?_, inverse_text⟩
  · exact .of_number (fun _ _ => rfl) (fun _ _ => rfl) (fun _ => by simp [Bytes.ofNat])
      UInt8.toNat_lt (fun _ => UInt8.ofNat_toNat) fun _ => UInt8.toNat_ofNat_of_lt'
  · exact .of_number (fun _ _ => rfl) (fun _ _ => rfl) ofNat_two UInt16.toNat_lt
      (fun _ => UInt16.ofNat_toNat) fun _ => UInt16.toNat_ofNat_of_lt'
  · exact .of_number (fun _ _ => rfl) (fun _ _ => rfl) ofNat_four UInt32.toNat_lt
      (fun _ => UInt32.ofNat_toNat) fun _ => UInt32.toNat_ofNat_of_lt'

-- An overlong form, a surrogate and a text that breaks off are no text.
example : ∀ frame ∈ [[0xC0, 0x80], [0xED, 0xA0, 0x80], [0xE2, 0x82]],
    ((⟨[frame]⟩ : Message).getText 0).isOk = false := by decide

end Message

end FramedLines
