import FramedLines.Text.Utf8
import Mathlib.Tactic.SplitIfs

-- Text written as octets is read back as it was, whatever follows a character, and nothing but the
-- octets of a text is read as text.

namespace FramedLines.Utf8

-- A character is no surrogate and not above U+10FFFF.
theorem toNat_ranges (c : Char) : c.toNat < 0xD800 ∨ 0xDFFF < c.toNat ∧ c.toNat < 0x110000 :=
  c.valid

theorem isContinuation_ofNat {value : Nat} (h : value < 64) :
    isContinuation (UInt8.ofNat (0x80 + value)) = true := by
  simp only [isContinuation, Bool.and_eq_true, decide_eq_true_eq, UInt8.le_iff_toNat_le,
    UInt8.lt_iff_toNat_lt, UInt8.toNat_ofNat_of_lt' (show 0x80 + value < 256 by omega),
    UInt8.reduceToNat]
  omega

theorem low_ofNat {value : Nat} (h : value < 64) : low (UInt8.ofNat (0x80 + value)) = value := by
  rw [low, UInt8.toNat_ofNat_of_lt' (show 0x80 + value < 256 by omega)]
  omega

theorem isSecondOfThree_ofNat {lead second : Nat} (hlead : lead < 16) (hsecond : second < 64)
    (hlow : lead = 0 → 0x20 ≤ second) (hhigh : lead = 0xD → second < 0x20) :
    isSecondOfThree (UInt8.ofNat (0xE0 + lead)) (UInt8.ofNat (0x80 + second)) = true := by
  simp only [isSecondOfThree, isContinuation_ofNat hsecond, Bool.true_and, Bool.and_eq_true,
    Bool.or_eq_true, bne_iff_ne, ne_eq, decide_eq_true_eq, UInt8.le_iff_toNat_le,
    UInt8.lt_iff_toNat_lt, ← UInt8.toNat_inj,
    UInt8.toNat_ofNat_of_lt' (show 0xE0 + lead < 256 by omega),
    UInt8.toNat_ofNat_of_lt' (show 0x80 + second < 256 by omega), UInt8.reduceToNat]
  omega

theorem isSecondOfFour_ofNat {lead second : Nat} (hlead : lead < 5) (hsecond : second < 64)
    (hlow : lead = 0 → 0x10 ≤ second) (hhigh : lead = 4 → second < 0x10) :
    isSecondOfFour (UInt8.ofNat (0xF0 + lead)) (UInt8.ofNat (0x80 + second)) = true := by
  simp only [isSecondOfFour, isContinuation_ofNat hsecond, Bool.true_and, Bool.and_eq_true,
    Bool.or_eq_true, bne_iff_ne, ne_eq, decide_eq_true_eq, UInt8.le_iff_toNat_le,
    UInt8.lt_iff_toNat_lt, ← UInt8.toNat_inj,
    UInt8.toNat_ofNat_of_lt' (show 0xF0 + lead < 256 by omega),
    UInt8.toNat_ofNat_of_lt' (show 0x80 + second < 256 by omega), UInt8.reduceToNat]
  omega

theorem decodeFrom_encodeChar (index : Nat) (done : List Char) (c : Char) (rest : Bytes) :
    decodeFrom index done (encodeChar c ++ rest) =
      decodeFrom (index + (encodeChar c).length) (c :: done) rest := by
  have hranges := toNat_ranges c
  have hchar : ∀ value, value = c.toNat → Char.ofNat value = c := by
    intro value hvalue
    rw [hvalue, Char.ofNat_toNat]
  simp only [encodeChar]
  split_ifs with hone htwo hthree
  · have hlead := UInt8.toNat_ofNat_of_lt' (show c.toNat < 256 by omega)
    rw [decodeFrom.eq_def]
    simp only [List.singleton_append, UInt8.lt_iff_toNat_lt, hlead, UInt8.reduceToNat, if_pos hone,
      Char.ofNat_toNat, List.length_singleton]
  · have hlead := UInt8.toNat_ofNat_of_lt' (show 0xC0 + c.toNat / 64 < 256 by omega)
    have hlast : c.toNat % 64 < 64 := by omega
    have hvalue : (0xC0 + c.toNat / 64) % 32 * 64 + c.toNat % 64 = c.toNat := by omega
    rw [decodeFrom.eq_def]
    simp only [List.cons_append, List.nil_append, UInt8.lt_iff_toNat_lt, hlead,
      UInt8.reduceToNat, isContinuation_ofNat hlast, low_ofNat hlast, hchar _ hvalue, if_true]
    rw [if_neg (by omega), if_neg (by omega), if_pos (by omega)]
    rfl
  · have hlead := UInt8.toNat_ofNat_of_lt' (show 0xE0 + c.toNat / 4096 < 256 by omega)
    have hsecond : c.toNat / 64 % 64 < 64 := by omega
    have hlast : c.toNat % 64 < 64 := by omega
    have hfirst : isSecondOfThree (UInt8.ofNat (0xE0 + c.toNat / 4096))
        (UInt8.ofNat (0x80 + c.toNat / 64 % 64)) = true :=
      isSecondOfThree_ofNat (by omega) hsecond (by omega) (by omega)
    have hvalue : (0xE0 + c.toNat / 4096) % 16 * 4096 + c.toNat / 64 % 64 * 64 + c.toNat % 64 =
        c.toNat := by omega
    rw [decodeFrom.eq_def]
    simp only [List.cons_append, List.nil_append, UInt8.lt_iff_toNat_lt, hlead,
      UInt8.reduceToNat, hfirst, isContinuation_ofNat hlast, low_ofNat hsecond, low_ofNat hlast,
      hchar _ hvalue, if_true]
    rw [if_neg (by omega), if_neg (by omega), if_neg (by omega), if_pos (by omega)]
    rfl
  · have hlead := UInt8.toNat_ofNat_of_lt' (show 0xF0 + c.toNat / 262144 < 256 by omega)
    have hsecond : c.toNat / 4096 % 64 < 64 := by omega
    have hthird : c.toNat / 64 % 64 < 64 := by omega
    have hlast : c.toNat % 64 < 64 := by omega
    have hfirst : isSecondOfFour (UInt8.ofNat (0xF0 + c.toNat / 262144))
        (UInt8.ofNat (0x80 + c.toNat / 4096 % 64)) = true :=
      isSecondOfFour_ofNat (by omega) hsecond (by omega) (by omega)
    have hvalue : (0xF0 + c.toNat / 262144) % 8 * 262144 + c.toNat / 4096 % 64 * 4096 +
        c.toNat / 64 % 64 * 64 + c.toNat % 64 = c.toNat := by omega
    rw [decodeFrom.eq_def]
    simp only [List.cons_append, List.nil_append, UInt8.lt_iff_toNat_lt, hlead,
      UInt8.reduceToNat, hfirst, isContinuation_ofNat hthird, isContinuation_ofNat hlast,
      low_ofNat hsecond, low_ofNat hthird, low_ofNat hlast, hchar _ hvalue, if_true]
    rw [if_neg (by omega), if_neg (by omega), if_neg (by omega), if_neg (by omega),
      if_pos (by omega)]
    rfl

theorem decodeFrom_encode (text : List Char) (index : Nat) (done : List Char) :
    decodeFrom index done (encode text) = .ok (done.reverse ++ text) := by
  induction text generalizing index done with
  | nil => simp [encode, decodeFrom]
  | cons c text ih =>
      have hencode : encode (c :: text) = encodeChar c ++ encode text := rfl
      rw [hencode, decodeFrom_encodeChar, ih, List.reverse_cons, List.append_assoc,
        List.singleton_append]

theorem decode_encode (text : List Char) : decode (encode text) = .ok text :=
  decodeFrom_encode text 0 []

theorem length_encodeChar_le (c : Char) : (encodeChar c).length ≤ 4 := by
  simp only [encodeChar]
  split_ifs <;> simp

-- The octets of a character are the ones that strings are made of.
theorem encodeChar_eq (c : Char) : encodeChar c = String.utf8EncodeChar c := by
  have hranges := toNat_ranges c
  have hvalue : c.val.toNat = c.toNat := rfl
  simp only [encodeChar, String.utf8EncodeChar, hvalue]
  split_ifs
  any_goals omega
  · rfl
  · have hlead : c.toNat / 64 % 0x20 + 0xC0 = 0xC0 + c.toNat / 64 := by omega
    rw [hlead, Nat.add_comm 0x80]
  · have hlead : c.toNat / 4096 % 0x10 + 0xE0 = 0xE0 + c.toNat / 4096 := by omega
    rw [hlead, Nat.add_comm 0x80, Nat.add_comm 0x80]
  · have hlead : c.toNat / 262144 % 0x08 + 0xF0 = 0xF0 + c.toNat / 262144 := by omega
    rw [hlead, Nat.add_comm 0x80, Nat.add_comm 0x80, Nat.add_comm 0x80]

theorem toByteArray_encode (text : List Char) : (encode text).toByteArray = text.utf8Encode := by
  rw [encode, funext encodeChar_eq]
  rfl

theorem encode_toList (text : String) : encode text.toList = text.toByteArray.data.toList := by
  rw [← String.utf8Encode_toList, ← toByteArray_encode, List.toList_data_toByteArray]

-- Octets are UTF-8 just when they are those of some text.
theorem isValidUTF8_iff {bytes : Bytes} :
    bytes.toByteArray.IsValidUTF8 ↔ ∃ text, encode text = bytes := by
  constructor
  · rintro ⟨text, htext⟩
    refine ⟨text, ?_⟩
    have hlist := congrArg (·.data.toList) ((toByteArray_encode text).trans htext.symm)
    simpa only [List.toList_data_toByteArray] using hlist
  · rintro ⟨text, rfl⟩
    exact ⟨text, toByteArray_encode text⟩

section Reading

variable {a b c d : UInt8} {value : Nat}

theorem toNat_ofNat_of_valid (h : value < 0xD800 ∨ 0xDFFF < value ∧ value < 0x110000) :
    (Char.ofNat value).toNat = value := by
  rw [Char.ofNat, dif_pos h]
  rfl

theorem isContinuation_iff : isContinuation a = true ↔ 0x80 ≤ a.toNat ∧ a.toNat < 0xC0 := by
  simp [isContinuation, UInt8.le_iff_toNat_le, UInt8.lt_iff_toNat_lt]

theorem isSecondOfThree_iff : isSecondOfThree a b = true ↔
    (0x80 ≤ b.toNat ∧ b.toNat < 0xC0) ∧ (a.toNat = 0xE0 → 0xA0 ≤ b.toNat) ∧
      (a.toNat = 0xED → b.toNat < 0xA0) := by
  simp only [isSecondOfThree, Bool.and_eq_true, isContinuation_iff, Bool.or_eq_true, bne_iff_ne,
    ne_eq, decide_eq_true_eq, UInt8.le_iff_toNat_le, UInt8.lt_iff_toNat_lt, ← UInt8.toNat_inj,
    UInt8.reduceToNat]
  omega

theorem isSecondOfFour_iff : isSecondOfFour a b = true ↔
    (0x80 ≤ b.toNat ∧ b.toNat < 0xC0) ∧ (a.toNat = 0xF0 → 0x90 ≤ b.toNat) ∧
      (a.toNat = 0xF4 → b.toNat < 0x90) := by
  simp only [isSecondOfFour, Bool.and_eq_true, isContinuation_iff, Bool.or_eq_true, bne_iff_ne,
    ne_eq, decide_eq_true_eq, UInt8.le_iff_toNat_le, UInt8.lt_iff_toNat_lt, ← UInt8.toNat_inj,
    UInt8.reduceToNat]
  omega

theorem encodeChar_one (ha : a < 0x80) : encodeChar (Char.ofNat a.toNat) = [a] := by
  simp only [UInt8.lt_iff_toNat_lt, UInt8.reduceToNat] at ha
  rw [encodeChar, toNat_ofNat_of_valid (by omega), if_pos ha, UInt8.ofNat_toNat]

theorem encodeChar_two (hlow : ¬ a < 0xC2) (hhigh : a < 0xE0) (hb : isContinuation b = true) :
    encodeChar (Char.ofNat (a.toNat % 32 * 64 + low b)) = [a, b] := by
  rw [isContinuation_iff] at hb
  simp only [UInt8.lt_iff_toNat_lt, UInt8.reduceToNat] at hlow hhigh
  generalize hvalue : a.toNat % 32 * 64 + low b = value
  rw [low] at hvalue
  have hread : (Char.ofNat value).toNat = value := toNat_ofNat_of_valid (by omega)
  have ha : 0xC0 + value / 64 = a.toNat := by omega
  have hb : 0x80 + value % 64 = b.toNat := by omega
  simp only [encodeChar, hread, ha, hb, UInt8.ofNat_toNat]
  rw [if_neg (by omega), if_pos (by omega)]

theorem encodeChar_three (hlow : ¬ a < 0xE0) (hhigh : a < 0xF0)
    (hb : isSecondOfThree a b = true) (hc : isContinuation c = true) :
    encodeChar (Char.ofNat (a.toNat % 16 * 4096 + low b * 64 + low c)) = [a, b, c] := by
  rw [isContinuation_iff] at hc
  rw [isSecondOfThree_iff] at hb
  simp only [UInt8.lt_iff_toNat_lt, UInt8.reduceToNat] at hlow hhigh
  generalize hvalue : a.toNat % 16 * 4096 + low b * 64 + low c = value
  rw [low, low] at hvalue
  have hread : (Char.ofNat value).toNat = value := toNat_ofNat_of_valid (by omega)
  have ha : 0xE0 + value / 4096 = a.toNat := by omega
  have hb : 0x80 + value / 64 % 64 = b.toNat := by omega
  have hc : 0x80 + value % 64 = c.toNat := by omega
  simp only [encodeChar, hread, ha, hb, hc, UInt8.ofNat_toNat]
  rw [if_neg (by omega), if_neg (by omega), if_pos (by omega)]

theorem encodeChar_four (hlow : ¬ a < 0xF0) (hhigh : a < 0xF5) (hb : isSecondOfFour a b = true)
    (hc : isContinuation c = true) (hd : isContinuation d = true) :
    encodeChar (Char.ofNat (a.toNat % 8 * 262144 + low b * 4096 + low c * 64 + low d)) =
      [a, b, c, d] := by
  rw [isContinuation_iff] at hc hd
  rw [isSecondOfFour_iff] at hb
  simp only [UInt8.lt_iff_toNat_lt, UInt8.reduceToNat] at hlow hhigh
  generalize hvalue : a.toNat % 8 * 262144 + low b * 4096 + low c * 64 + low d = value
  rw [low, low, low] at hvalue
  have hread : (Char.ofNat value).toNat = value := toNat_ofNat_of_valid (by omega)
  have ha : 0xF0 + value / 262144 = a.toNat := by omega
  have hb : 0x80 + value / 4096 % 64 = b.toNat := by omega
  have hc : 0x80 + value / 64 % 64 = c.toNat := by omega
  have hd : 0x80 + value % 64 = d.toNat := by omega
  simp only [encodeChar, hread, ha, hb, hc, hd, UInt8.ofNat_toNat]
  rw [if_neg (by omega), if_neg (by omega), if_neg (by omega)]

end Reading

-- What has been read as text are the octets of that text.
theorem decodeFrom_eq_ok {index : Nat} {done text : List Char} {bytes : Bytes}
    (h : decodeFrom index done bytes = .ok text) :
    ∃ chars, text = done.reverse ++ chars ∧ encode chars = bytes := by
  have hstep {c : Char} {done : List Char} {front rest : Bytes} (hfront : encodeChar c = front) :
      (∃ chars, text = (c :: done).reverse ++ chars ∧ encode chars = rest) →
        ∃ chars, text = done.reverse ++ chars ∧ encode chars = front ++ rest := by
    rintro ⟨chars, rfl, rfl⟩
    exact ⟨c :: chars, by simp, by rw [← hfront]; rfl⟩
  fun_induction decodeFrom index done bytes with
  | case1 index done => exact ⟨[], by simpa using (Except.ok.inj h).symm, rfl⟩
  | case2 index done a rest ha ih => exact hstep (encodeChar_one ha) (ih h)
  | case5 index done a hone hlow hhigh b rest hb ih =>
      exact hstep (encodeChar_two hlow hhigh hb) (ih h)
  | case9 index done a hone hlow htwo hhigh b hb c rest hc ih =>
      exact hstep (encodeChar_three htwo hhigh hb hc) (ih h)
  | case15 index done a hone hlow htwo hthree hhigh b hb c hc d rest hd ih =>
      exact hstep (encodeChar_four hthree hhigh hb hc hd) (ih h)
  | _ => cases h

theorem decode_eq_ok_iff_encode {bytes : Bytes} {text : List Char} :
    decode bytes = .ok text ↔ encode text = bytes := by
  constructor
  · intro h
    obtain ⟨chars, rfl, hencode⟩ := decodeFrom_eq_ok h
    exact hencode
  · rintro rfl
    exact decode_encode text

end FramedLines.Utf8
