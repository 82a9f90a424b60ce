import FramedLines.Cbor
import FramedLines.Proofs.Items
import FramedLines.Proofs.Rounding

-- Floats stand in the shortest of three widths that says what they say, and come back from it.

namespace FramedLines

def FloatValue.IsNan (value : FloatValue) : Prop :=
  ∃ negative payload, value = .nan negative payload

section Formats

variable {format other : FloatFormat} {bits pattern : Nat} {value same : FloatValue}

-- A pattern that says what a number says is no NaN.
theorem FloatFormat.Says.of_same (h : format.Says bits value)
    (hpattern : pattern < 2 ^ (other.exponentBits + other.fractionBits + 1))
    (hsame : value.Same (other.decode pattern)) : other.Says pattern (other.decode pattern) := by
  rcases FloatFormat.nan_or_said hpattern with ⟨negative, payload, hnan⟩ | hsaid
  · rw [hnan] at hsame
    cases hsame
    cases h
  · exact hsaid

theorem FloatFormat.Says.eq_of_same (h : format.Says bits value) (h' : format.Says pattern same)
    (hsame : value.Same same) : bits = pattern := by
  rw [← h.encode_of_same (hsame.trans hsame.symm), h'.encode_of_same hsame]

-- A pattern that says the same is read as this one, in the format that it stands in as in others.
theorem FloatFormat.Says.bits_of_same (h : format.Says bits value)
    (hpattern : pattern < 2 ^ (other.exponentBits + other.fractionBits + 1))
    (hsame : value.Same (other.decode pattern)) :
    (if format = other then pattern else other.convert format pattern) = bits := by
  have hsaid := h.of_same hpattern hsame
  split
  · next hformat =>
      subst hformat
      exact hsaid.eq_of_same h hsame.symm
  · exact hsaid.convert_eq h hsame.symm

-- A pattern that does not come back from a narrower format says what none there says.
theorem FloatFormat.Within.not_same (h : other.Within format) (hsaid : format.Says bits value)
    (hchanged : other.convert format (format.convert other bits) ≠ bits)
    (hpattern : pattern < 2 ^ (other.exponentBits + other.fractionBits + 1)) :
    ¬ value.Same (other.decode pattern) := by
  intro hsame
  have hshort := hsaid.of_same hpattern hsame
  have hconvert := hsaid.convert_eq hshort hsame
  exact hchanged ((h.convert_convert_eq_iff hsaid).mpr ⟨_, hconvert ▸ hshort, hsame⟩)

end Formats

namespace Cbor

-- An item that says exactly what a float says.
inductive Item.Stores (value : FloatValue) : Item → Prop where
  | half {bits : UInt16} (hsame : value.Same (FloatFormat.half.decode bits.toNat)) :
      Stores value (.float16 bits)
  | single {bits : UInt32} (hsame : value.Same (FloatFormat.single.decode bits.toNat)) :
      Stores value (.float32 bits)
  | double {bits : UInt64} (hsame : value.Same (FloatFormat.double.decode bits.toNat)) :
      Stores value (.float64 bits)

-- No item that says the same takes less room.
structure Item.Shortest (value : FloatValue) (item : Item) : Prop where
  stores : Item.Stores value item
  least : ∀ other, Item.Stores value other → item.write.length ≤ other.write.length

namespace Item

variable {value same : FloatValue} {item : Item}

theorem Stores.of_same (h : Stores value item) (hsame : same.Same value) : Stores same item := by
  cases h with
  | half hvalue => exact .half (hsame.trans hvalue)
  | single hvalue => exact .single (hsame.trans hvalue)
  | double hvalue => exact .double (hsame.trans hvalue)

theorem Shortest.of_same (h : Shortest value item) (hsame : same.Same value) :
    Shortest same item where
  stores := h.stores.of_same hsame
  least other hother := h.least other (hother.of_same hsame.symm)

theorem shortest_half {bits : UInt16} (hsame : value.Same (FloatFormat.half.decode bits.toNat)) :
    Shortest value (.float16 bits) := by
  refine ⟨.half hsame, fun other hother => ?_⟩
  cases hother <;> simp [write, length_bigEndian]

theorem shortest_single {bits : UInt32}
    (hsame : value.Same (FloatFormat.single.decode bits.toNat))
    (hhalf : ∀ short : UInt16, ¬ value.Same (FloatFormat.half.decode short.toNat)) :
    Shortest value (.float32 bits) := by
  refine ⟨.single hsame, fun other hother => ?_⟩
  cases hother with
  | half hshort => exact absurd hshort (hhalf _)
  | single | double => simp [write, length_bigEndian]

theorem shortest_double {bits : UInt64}
    (hsame : value.Same (FloatFormat.double.decode bits.toNat))
    (hhalf : ∀ short : UInt16, ¬ value.Same (FloatFormat.half.decode short.toNat))
    (hsingle : ∀ short : UInt32, ¬ value.Same (FloatFormat.single.decode short.toNat)) :
    Shortest value (.float64 bits) := by
  refine ⟨.double hsame, fun other hother => ?_⟩
  cases hother with
  | half hshort => exact absurd hshort (hhalf _)
  | single hshort => exact absurd hshort (hsingle _)
  | double => simp [write, length_bigEndian]

end Item

namespace Form

open FloatFormat

-- Whatever width a number stands in, it is read back as the pattern it came from.
theorem floatBits?_of_stores {format : FloatFormat} {bits : Nat} {value : FloatValue}
    {item : Item} (hsaid : format.Says bits value) (h : Item.Stores value item) :
    floatBits? format item = some bits := by
  cases h with
  | @half short hsame =>
      have hshort := hsaid.of_same short.toNat_lt hsame
      exact congrArg some (hshort.convert_eq hsaid hsame.symm)
  | @single short hsame => exact congrArg some (hsaid.bits_of_same short.toNat_lt hsame)
  | @double short hsame => exact congrArg some (hsaid.bits_of_same short.toNat_lt hsame)

theorem shortest_nan {value : FloatValue} (hnan : value.IsNan) :
    Item.Shortest value (.float16 0x7E00) := by
  obtain ⟨negative, payload, rfl⟩ := hnan
  have hdecode : FloatFormat.half.decode (0x7E00 : UInt16).toNat = .nan false 0 := by decide
  exact Item.shortest_half (hdecode ▸ .nan)

theorem shortest_singleItem_of_said {bits : Nat} {value : FloatValue}
    (hsaid : FloatFormat.single.Says bits value) : Item.Shortest value (singleItem bits) := by
  have hitem : singleItem bits =
      if FloatFormat.half.convert .single (FloatFormat.single.convert .half bits) = bits then
        .float16 (FloatFormat.single.convert .half bits).toUInt16
      else .float32 bits.toUInt32 := by
    rw [singleItem, hsaid.decode_eq]
    cases hsaid <;> rfl
  rw [hitem]
  split
  · next hback =>
      obtain ⟨same, hshort, hsame⟩ :=
        (FloatFormat.half_within_single.convert_convert_eq_iff hsaid).mp hback
      refine Item.shortest_half ?_
      rw [Nat.toUInt16, UInt16.toNat_ofNat_of_lt' hshort.lt, hshort.decode_eq]
      exact hsame
  · next hchanged =>
      refine Item.shortest_single ?_ fun short =>
        FloatFormat.half_within_single.not_same hsaid hchanged short.toNat_lt
      rw [Nat.toUInt32, UInt32.toNat_ofNat_of_lt' hsaid.lt, hsaid.decode_eq]
      exact .refl value

theorem singleItem_of_nan {bits : Nat} (hnan : (FloatFormat.single.decode bits).IsNan) :
    singleItem bits = .float16 0x7E00 := by
  obtain ⟨negative, payload, hdecode⟩ := hnan
  rw [singleItem, hdecode]

theorem shortest_singleItem {bits : Nat} (hbits : bits < 2 ^ 32) :
    Item.Shortest (FloatFormat.single.decode bits) (singleItem bits) := by
  rcases FloatFormat.single.nan_or_said hbits with hnan | hsaid
  · exact singleItem_of_nan hnan ▸ shortest_nan hnan
  · exact shortest_singleItem_of_said hsaid

-- Which of the two narrower widths will do is found out one after the other.
theorem shortest_doubleItem_of_said {bits : Nat} {value : FloatValue}
    (hsaid : FloatFormat.double.Says bits value) : Item.Shortest value (doubleItem bits) := by
  have hitem : doubleItem bits =
      if FloatFormat.single.convert .double (FloatFormat.double.convert .single bits) = bits then
        singleItem (FloatFormat.double.convert .single bits)
      else .float64 bits.toUInt64 := by
    rw [doubleItem, hsaid.decode_eq]
    cases hsaid <;> rfl
  rw [hitem]
  split
  · next hback =>
      obtain ⟨same, hshort, hsame⟩ :=
        (FloatFormat.single_within_double.convert_convert_eq_iff hsaid).mp hback
      exact (shortest_singleItem_of_said hshort).of_same hsame
  · next hchanged =>
      have hsingle (short : UInt32) : ¬ value.Same (FloatFormat.single.decode short.toNat) :=
        FloatFormat.single_within_double.not_same hsaid hchanged short.toNat_lt
      have hhalf (short : UInt16) : ¬ value.Same (FloatFormat.half.decode short.toNat) := by
        intro hsame
        obtain ⟨wide, same, hwide, hkept⟩ := FloatFormat.half_within_single.exists_said
          (hsaid.of_same short.toNat_lt hsame)
        have hpattern : wide.toUInt32.toNat = wide := UInt32.toNat_ofNat_of_lt' hwide.lt
        refine hsingle wide.toUInt32 ?_
        rw [hpattern, hwide.decode_eq]
        exact hsame.trans hkept
      refine Item.shortest_double ?_ hhalf hsingle
      rw [Nat.toUInt64, UInt64.toNat_ofNat_of_lt' hsaid.lt, hsaid.decode_eq]
      exact .refl value

theorem doubleItem_of_nan {bits : Nat} (hnan : (FloatFormat.double.decode bits).IsNan) :
    doubleItem bits = .float16 0x7E00 := by
  obtain ⟨negative, payload, hdecode⟩ := hnan
  rw [doubleItem, hdecode]

theorem shortest_doubleItem {bits : Nat} (hbits : bits < 2 ^ 64) :
    Item.Shortest (FloatFormat.double.decode bits) (doubleItem bits) := by
  rcases FloatFormat.double.nan_or_said hbits with hnan | hsaid
  · exact doubleItem_of_nan hnan ▸ shortest_nan hnan
  · exact shortest_doubleItem_of_said hsaid

end Form

end Cbor

end FramedLines
