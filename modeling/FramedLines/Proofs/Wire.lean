import FramedLines.Bytes.Lemmas
import FramedLines.Message.Wire
import Mathlib.Data.List.TakeWhile

-- The wire form as a grammar: which octets words, frames and messages are written in, how far any
-- octets can be read as frames, and how many are missing where they break off.

namespace FramedLines

namespace Wire

@[simp] theorem length_word (value : Nat) : (word value).length = wordLen :=
  Bytes.length_ofNat _ _

theorem fits_iff {value : Nat} : fits value = true ↔ value < UInt32.size := by
  simp [fits]

theorem toNat_word {value : Nat} (hfits : fits value) : Bytes.toNat (word value) = value := by
  rw [word, Bytes.toNat_ofNat]
  exact Nat.mod_eq_of_lt (fits_iff.mp hfits)

-- Every four octets are the word of some number, and of one that fits.
theorem word_toNat {octets : Bytes} (hlen : octets.length = wordLen) :
    word (Bytes.toNat octets) = octets := by
  rw [word, ← hlen, Bytes.ofNat_toNat]

theorem fits_toNat {octets : Bytes} (hlen : octets.length = wordLen) :
    fits (Bytes.toNat octets) := by
  have hlt := Bytes.toNat_lt octets
  rw [hlen] at hlt
  exact fits_iff.mpr hlt

theorem word_append_ne_nil (value : Nat) (rest : Bytes) : word value ++ rest ≠ [] := by
  intro h
  have hlen := congrArg List.length h
  simp [wordLen] at hlen

@[simp] theorem length_frame (octets : Bytes) :
    (frame octets).length = wordLen + octets.length := by
  simp [frame]

-- Octets that do not begin with a frame of at most `bound` octets, and why not.
inductive Blocked (bound : Nat) : Bytes → Prop where
  | noWord {octets : Bytes} (hshort : octets.length < wordLen) : Blocked bound octets
  | noFrame {length : Nat} {rest : Bytes} (hfits : fits length) (hbound : length ≤ bound)
      (hshort : rest.length < length) : Blocked bound (word length ++ rest)
  | oversize {length : Nat} {rest : Bytes} (hfits : fits length) (hbound : bound < length) :
      Blocked bound (word length ++ rest)

theorem exists_word {octets : Bytes} (hlen : wordLen ≤ octets.length) :
    ∃ value rest, fits value ∧ octets = word value ++ rest := by
  have hhead : (octets.take wordLen).length = wordLen := by simp [hlen]
  refine ⟨Bytes.toNat (octets.take wordLen), octets.drop wordLen, fits_toNat hhead, ?_⟩
  rw [word_toNat hhead, List.take_append_drop]

theorem blocked_or_frame (bound : Nat) (octets : Bytes) :
    Blocked bound octets ∨ ∃ head rest, octets = frame head ++ rest ∧ fits head.length ∧
      head.length ≤ bound := by
  by_cases hword : octets.length < wordLen
  · exact .inl (.noWord hword)
  · obtain ⟨length, rest, hfits, rfl⟩ := exists_word (Nat.le_of_not_lt hword)
    by_cases hbound : bound < length
    · exact .inl (.oversize hfits hbound)
    · by_cases hshort : rest.length < length
      · exact .inl (.noFrame hfits (Nat.le_of_not_lt hbound) hshort)
      · have hlen : (rest.take length).length = length := by simp; omega
        refine .inr ⟨rest.take length, rest.drop length, ?_, ?_, ?_⟩
        · rw [frame, hlen, List.append_assoc, List.take_append_drop]
        · rwa [hlen]
        · omega

-- How far any octets can be read as `count` frames of at most `bound` octets each.
theorem exists_front (bound count : Nat) (octets : Bytes) :
    ∃ (front : List Bytes) (remaining : Nat) (tail : Bytes),
      octets = front.flatMap frame ++ tail ∧ count = front.length + remaining ∧
      (∀ head ∈ front, fits head.length ∧ head.length ≤ bound) ∧
      (remaining = 0 ∨ Blocked bound tail) := by
  induction count generalizing octets with
  | zero => exact ⟨[], 0, octets, by simp⟩
  | succ count ih =>
      rcases blocked_or_frame bound octets with hblocked | ⟨head, rest, rfl, hfits, hbound⟩
      · exact ⟨[], count + 1, octets, by simp, by simp, by simp, .inr hblocked⟩
      · obtain ⟨front, remaining, tail, rfl, rfl, hfront, hstop⟩ := ih rest
        refine ⟨head :: front, remaining, tail, by simp, ?_, ?_, hstop⟩
        · simp only [List.length_cons]
          omega
        · intro other hother
          rcases List.mem_cons.mp hother with rfl | hother
          · exact ⟨hfits, hbound⟩
          · exact hfront other hother

-- How many octets are missing of the length or the frame in which `count` frames break off.
def missingOfFrames : (count : Nat) → Bytes → Nat
  | 0, _ => 0
  | count + 1, octets =>
      match Bytes.split? wordLen octets with
      | none => wordLen - octets.length
      | some (head, rest) =>
          match Bytes.split? (Bytes.toNat head) rest with
          | none => Bytes.toNat head - rest.length
          | some (_, rest) => missingOfFrames count rest

-- How many octets are missing of the section in which a message breaks off: its count, the length
-- of a frame, or a frame. With nothing missing the message is there.
def missing (octets : Bytes) : Nat :=
  match Bytes.split? wordLen octets with
  | none => wordLen - octets.length
  | some (head, rest) => missingOfFrames (Bytes.toNat head) rest

section Missing

theorem split?_word (value : Nat) (rest : Bytes) :
    Bytes.split? wordLen (word value ++ rest) = some (word value, rest) :=
  Bytes.split?_eq_some_iff.mpr ⟨rfl, length_word value⟩

theorem missing_noCount {octets : Bytes} (hshort : octets.length < wordLen) :
    missing octets = wordLen - octets.length := by
  rw [missing, Bytes.split?_eq_none_iff.mpr hshort]

theorem missingOfFrames_noWord {octets : Bytes} (hshort : octets.length < wordLen)
    (remaining : Nat) : missingOfFrames (remaining + 1) octets = wordLen - octets.length := by
  rw [missingOfFrames, Bytes.split?_eq_none_iff.mpr hshort]

theorem missingOfFrames_noFrame {length : Nat} {rest : Bytes} (hfits : fits length)
    (hshort : rest.length < length) (remaining : Nat) :
    missingOfFrames (remaining + 1) (word length ++ rest) = length - rest.length := by
  rw [missingOfFrames, split?_word]
  simp only [toNat_word hfits, Bytes.split?_eq_none_iff.mpr hshort]

theorem missingOfFrames_front {front : List Bytes} (hfront : ∀ head ∈ front, fits head.length)
    (remaining : Nat) (tail : Bytes) :
    missingOfFrames (front.length + remaining) (front.flatMap frame ++ tail) =
      missingOfFrames remaining tail := by
  induction front with
  | nil => simp
  | cons head front ih =>
      have hrest := ih fun other hother => hfront other (List.mem_cons_of_mem head hother)
      have hsplit : Bytes.split? head.length (head ++ (front.flatMap frame ++ tail)) =
          some (head, front.flatMap frame ++ tail) :=
        Bytes.split?_eq_some_iff.mpr ⟨rfl, rfl⟩
      rw [List.length_cons, Nat.add_right_comm, List.flatMap_cons, frame, List.append_assoc,
        List.append_assoc, missingOfFrames, split?_word]
      simp only [toNat_word (hfront head List.mem_cons_self), hsplit, hrest]

theorem missing_front {front : List Bytes} {remaining : Nat}
    (hfits : fits (front.length + remaining)) (hfront : ∀ head ∈ front, fits head.length)
    (tail : Bytes) :
    missing (word (front.length + remaining) ++ (front.flatMap frame ++ tail)) =
      missingOfFrames remaining tail := by
  rw [missing, split?_word]
  simp only [toNat_word hfits, missingOfFrames_front hfront]

example : missing [2, 0, 0, 0, 3, 0, 0, 0, 7] = 2 := by
  decide

end Missing

end Wire

-- Whether a message keeps the limits.
def Limits.Admits (limits : Limits) (message : Message) : Prop :=
  message.length ≤ limits.maxFrames.toNat ∧
    ∀ frame ∈ message.frames, frame.length ≤ limits.maxFrameLen.toNat

namespace Message

-- Whether a message has a wire form: its count and all its lengths fit into their words.
def Writable (message : Message) : Prop :=
  Wire.fits message.length ∧ ∀ frame ∈ message.frames, Wire.fits frame.length

instance (message : Message) : Decidable message.Writable :=
  inferInstanceAs (Decidable (_ ∧ _))

theorem wire_ne_nil (message : Message) : message.wire ≠ [] :=
  Wire.word_append_ne_nil message.length _

-- A message seen from one of its frames.
theorem writable_split {front others : List Bytes} {body : Bytes} :
    Writable ⟨front ++ body :: others⟩ ↔ Wire.fits (front.length + (others.length + 1)) ∧
      (∀ head ∈ front, Wire.fits head.length) ∧ Wire.fits body.length ∧
      ∀ head ∈ others, Wire.fits head.length := by
  simp only [Writable, length, List.length_append, List.length_cons, List.forall_mem_append,
    List.forall_mem_cons]

theorem wire_split (front others : List Bytes) (body rest : Bytes) :
    wire ⟨front ++ body :: others⟩ ++ rest = Wire.word (front.length + (others.length + 1)) ++
      (front.flatMap Wire.frame ++ (Wire.word body.length ++
        (body ++ (others.flatMap Wire.frame ++ rest)))) := by
  simp [wire, length, Wire.frame]

theorem encodedLen_eq (message : Message) : message.encodedLen = message.wire.length := by
  obtain ⟨frames⟩ := message
  have hframes :
      frames.foldr (fun frame total => Wire.wordLen + frame.length + total) Wire.wordLen =
        Wire.wordLen + (frames.flatMap Wire.frame).length := by
    induction frames with
    | nil => rfl
    | cons frame frames ih =>
        simp only [List.foldr_cons, ih, List.flatMap_cons, List.length_append, Wire.length_frame]
        omega
  simp only [encodedLen, hframes, wire, List.length_append, Wire.length_word]

private theorem drop_takeWhile (p : α → Bool) (list : List α) :
    list.drop (list.takeWhile p).length = list.dropWhile p := by
  have hsplit : list.takeWhile p ++ list.dropWhile p = list := List.takeWhile_append_dropWhile
  calc
    list.drop (list.takeWhile p).length =
        (list.takeWhile p ++ list.dropWhile p).drop (list.takeWhile p).length := by rw [hsplit]
    _ = list.dropWhile p := List.drop_left

theorem encodeInto_of_writable {message : Message} (hw : message.Writable) (buffer : Bytes) :
    message.encodeInto buffer = (.ok (), buffer ++ message.wire) := by
  have hsound : message.frames.takeWhile (fun frame => Wire.fits frame.length) = message.frames :=
    List.takeWhile_eq_self_iff.mpr hw.2
  simp [encodeInto, hw.1, hsound, wire]

-- Writing succeeds for the messages that have a wire form, and then appends that form.
theorem encodeInto_eq_ok_iff {message : Message} {buffer written : Bytes} :
    message.encodeInto buffer = (.ok (), written) ↔
      message.Writable ∧ written = buffer ++ message.wire := by
  constructor
  · intro h
    have hw : message.Writable := by
      simp only [encodeInto] at h
      split at h
      · next hcount =>
          refine ⟨hcount, ?_⟩
          split at h
          · next hrest =>
              rw [drop_takeWhile, List.dropWhile_eq_nil_iff] at hrest
              exact hrest
          · simp at h
      · simp at h
    rw [encodeInto_of_writable hw] at h
    injection h with _ h
    exact ⟨hw, h.symm⟩
  · rintro ⟨hw, rfl⟩
    exact encodeInto_of_writable hw buffer

example : encodeInto ⟨[[97, 98], []]⟩ [7] =
    (.ok (), [7, 2, 0, 0, 0, 2, 0, 0, 0, 97, 98, 0, 0, 0, 0]) := by
  decide

end Message

end FramedLines
