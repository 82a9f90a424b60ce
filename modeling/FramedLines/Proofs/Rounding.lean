import FramedLines.Value.FloatFormat
import Mathlib.Algebra.Field.Rat
import Mathlib.Algebra.Group.Nat.Defs
import Mathlib.Algebra.GroupWithZero.Basic
import Mathlib.Data.Rat.Cast.Order

-- What patterns of bits say, and that rounding gives every number a format can say back as the
-- pattern that says it. So a number keeps through every format that has room for it.

namespace FramedLines

namespace FloatValue

def number (significand : Nat) (exponent : Int) : ℚ := significand * 2 ^ exponent

-- Zeros of different signs are different. All that is not a number is the same.
inductive Same : FloatValue → FloatValue → Prop where
  | nan {one other : Bool} {payload rest : Nat} : Same (.nan one payload) (.nan other rest)
  | infinite (negative : Bool) : Same (.infinite negative) (.infinite negative)
  | finite (negative : Bool) {one other : Nat} {exponent otherExponent : Int}
      (hnumber : number one exponent = number other otherExponent) :
      Same (.finite negative one exponent) (.finite negative other otherExponent)

theorem Same.refl (value : FloatValue) : value.Same value := by
  cases value with
  | nan => exact .nan
  | infinite negative => exact .infinite negative
  | finite negative => exact .finite negative rfl

theorem Same.symm {one other : FloatValue} (h : one.Same other) : other.Same one := by
  cases h with
  | nan => exact .nan
  | infinite negative => exact .infinite negative
  | finite negative hnumber => exact .finite negative hnumber.symm

theorem Same.trans {one other third : FloatValue} (h : one.Same other) (h' : other.Same third) :
    one.Same third := by
  cases h with
  | nan => cases h' with
    | nan => exact .nan
  | infinite negative => exact h'
  | finite negative hnumber => cases h' with
    | finite _ hnumber' => exact .finite negative (hnumber.trans hnumber')

theorem number_mul_two_pow (significand places : Nat) (exponent : Int) :
    number (significand * 2 ^ places) exponent = number significand (exponent + places) := by
  rw [number, number, zpow_add₀ two_ne_zero, zpow_natCast, Nat.cast_mul, Nat.cast_pow,
    Nat.cast_ofNat, mul_assoc, mul_comm (2 ^ places)]

theorem number_zero (exponent : Int) : number 0 exponent = 0 := by
  rw [number, Nat.cast_zero, zero_mul]

theorem number_eq_zero_iff {significand : Nat} (exponent : Int) :
    number significand exponent = 0 ↔ significand = 0 := by
  rw [number, mul_eq_zero, Nat.cast_eq_zero, or_iff_left (zpow_ne_zero exponent two_ne_zero)]

theorem number_inj {one other : Nat} (exponent : Int) :
    number one exponent = number other exponent ↔ one = other := by
  rw [number, number, mul_left_inj' (zpow_ne_zero exponent two_ne_zero), Nat.cast_inj]

-- The significand that goes with the smaller exponent is the other one with zeros behind it.
theorem eq_mul_of_number_eq {one other : Nat} {exponent otherExponent : Int}
    (hnumber : number one exponent = number other otherExponent)
    (hle : exponent ≤ otherExponent) :
    one = other * 2 ^ (otherExponent - exponent).toNat := by
  have hshift : exponent + (otherExponent - exponent).toNat = otherExponent := by omega
  rw [← number_inj exponent, number_mul_two_pow, hshift, hnumber]

theorem log2_mul_two_pow {value : Nat} (hvalue : value ≠ 0) (places : Nat) :
    (value * 2 ^ places).log2 = value.log2 + places := by
  induction places with
  | zero => simp
  | succ places ih =>
      have hne : value * 2 ^ places ≠ 0 :=
        Nat.mul_ne_zero hvalue (Nat.pow_pos (by decide)).ne'
      rw [Nat.pow_succ, ← Nat.mul_assoc, Nat.mul_comm _ 2, Nat.log2_two_mul hne, ih, Nat.add_assoc]

-- The place of the first digit does not depend on how a number is written.
theorem exponent_add_log2 {one other : Nat} {exponent otherExponent : Int}
    (hnumber : number one exponent = number other otherExponent) (hone : one ≠ 0) :
    exponent + one.log2 = otherExponent + other.log2 := by
  have hother : other ≠ 0 := by
    rw [Ne, ← number_eq_zero_iff otherExponent, ← hnumber, number_eq_zero_iff]
    exact hone
  rcases Int.le_total exponent otherExponent with hle | hle
  · rw [eq_mul_of_number_eq hnumber hle, log2_mul_two_pow hother]
    omega
  · rw [eq_mul_of_number_eq hnumber.symm hle, log2_mul_two_pow hone]
    omega

end FloatValue

namespace FloatFormat

open FloatValue (Same number)

variable (format : FloatFormat)

-- What the fields of a finite number say. There is a one in front of the fraction unless the
-- exponent field is zero.
def significand (field fraction : Nat) : Nat :=
  if field = 0 then fraction else 2 ^ format.fractionBits + fraction

def exponent (field : Nat) : Int := format.leastExponent + (field - 1 : Nat)

-- All patterns that say a number, or an infinity.
inductive Says : Nat → FloatValue → Prop where
  | finite (negative : Bool) {field fraction : Nat} (hfield : field < format.specialExponent)
      (hfraction : fraction < 2 ^ format.fractionBits) :
      Says (format.signBit negative + (field * 2 ^ format.fractionBits + fraction))
        (.finite negative (format.significand field fraction) (format.exponent field))
  | infinite (negative : Bool) :
      Says (format.signBit negative + format.infinity) (.infinite negative)

variable {format}

theorem signBit_eq (format : FloatFormat) (negative : Bool) :
    format.signBit negative =
      2 ^ format.fractionBits * (2 ^ format.exponentBits * negative.toNat) := by
  rw [← Nat.mul_assoc, ← Nat.pow_add, Nat.add_comm format.fractionBits]
  cases negative <;> simp [signBit, Nat.one_shiftLeft]

theorem specialExponent_lt (format : FloatFormat) :
    format.specialExponent < 2 ^ format.exponentBits := by
  have hpos : 0 < 2 ^ format.exponentBits := Nat.pow_pos (by decide)
  rw [specialExponent, Nat.one_shiftLeft]
  omega

theorem infinity_eq (format : FloatFormat) :
    format.infinity = format.specialExponent * 2 ^ format.fractionBits :=
  Nat.shiftLeft_eq ..

theorem decode_fields (negative : Bool) {field fraction : Nat}
    (hfield : field < 2 ^ format.exponentBits) (hfraction : fraction < 2 ^ format.fractionBits) :
    format.decode (format.signBit negative + (field * 2 ^ format.fractionBits + fraction)) =
      if field = format.specialExponent then
        if fraction = 0 then .infinite negative
        else .nan negative (fraction % 2 ^ (format.fractionBits - 1))
      else .finite negative (format.significand field fraction) (format.exponent field) := by
  have hpos : 0 < 2 ^ format.fractionBits := Nat.pow_pos (by decide)
  have hbits : format.signBit negative + (field * 2 ^ format.fractionBits + fraction) =
      2 ^ format.fractionBits * (2 ^ format.exponentBits * negative.toNat + field) + fraction := by
    rw [signBit_eq, Nat.mul_add, Nat.mul_comm field, Nat.add_assoc]
  have hnegative : Nat.testBit (2 ^ format.fractionBits *
      (2 ^ format.exponentBits * negative.toNat + field) + fraction)
        (format.exponentBits + format.fractionBits) = negative := by
    rw [Nat.testBit_two_pow_mul_add _ hfraction, if_neg (by omega), Nat.add_sub_cancel,
      Nat.testBit_two_pow_mul_add _ hfield, if_neg (by omega), Nat.sub_self]
    cases negative <;> rfl
  have hmost : (2 ^ format.fractionBits * (2 ^ format.exponentBits * negative.toNat + field) +
      fraction) / 2 ^ format.fractionBits % 2 ^ format.exponentBits = field := by
    rw [Nat.mul_add_div hpos, Nat.div_eq_of_lt hfraction, Nat.add_zero, Nat.mul_add_mod,
      Nat.mod_eq_of_lt hfield]
  have hleast : (2 ^ format.fractionBits * (2 ^ format.exponentBits * negative.toNat + field) +
      fraction) % 2 ^ format.fractionBits = fraction := by
    rw [Nat.mul_add_mod, Nat.mod_eq_of_lt hfraction]
  rw [hbits]
  simp only [decode, Nat.one_shiftLeft, Nat.shiftRight_eq_div_pow, hnegative, hmost, hleast,
    significand, exponent]
  by_cases hzero : field = 0 <;> simp [hzero]

-- Every pattern consists of its fields.
theorem exists_fields {bits : Nat}
    (hbits : bits < 2 ^ (format.exponentBits + format.fractionBits + 1)) :
    ∃ negative field fraction, field < 2 ^ format.exponentBits ∧
      fraction < 2 ^ format.fractionBits ∧
      bits = format.signBit negative + (field * 2 ^ format.fractionBits + fraction) := by
  have hfraction : 0 < 2 ^ format.fractionBits := Nat.pow_pos (by decide)
  have hexponent : 0 < 2 ^ format.exponentBits := Nat.pow_pos (by decide)
  let upper := bits / 2 ^ format.fractionBits
  have hupper : upper < 2 ^ format.exponentBits * 2 := by
    rw [← Nat.pow_succ]
    exact Nat.div_lt_of_lt_mul (by rw [← Nat.pow_add]; convert hbits using 2; omega)
  have hsign : upper / 2 ^ format.exponentBits < 2 := Nat.div_lt_of_lt_mul hupper
  refine ⟨decide (upper / 2 ^ format.exponentBits = 1), upper % 2 ^ format.exponentBits,
    bits % 2 ^ format.fractionBits, Nat.mod_lt _ hexponent, Nat.mod_lt _ hfraction, ?_⟩
  have htoNat : (decide (upper / 2 ^ format.exponentBits = 1)).toNat =
      upper / 2 ^ format.exponentBits := by
    rcases Nat.le_one_iff_eq_zero_or_eq_one.mp (Nat.le_of_lt_succ hsign) with h | h <;> simp [h]
  rw [signBit_eq, htoNat, Nat.mul_comm (upper % _), ← Nat.add_assoc, ← Nat.mul_add,
    Nat.div_add_mod, Nat.div_add_mod]

-- A pattern that says no number and no infinity is not a number.
theorem nan_or_said {bits : Nat}
    (hbits : bits < 2 ^ (format.exponentBits + format.fractionBits + 1)) :
    (∃ negative payload, format.decode bits = .nan negative payload) ∨
      format.Says bits (format.decode bits) := by
  obtain ⟨negative, field, fraction, hfield, hfraction, rfl⟩ := exists_fields hbits
  rw [decode_fields negative hfield hfraction]
  by_cases hspecial : field = format.specialExponent
  · rw [if_pos hspecial]
    by_cases hzero : fraction = 0
    · rw [if_pos hzero, hzero, hspecial, Nat.add_zero, ← infinity_eq]
      exact .inr (.infinite negative)
    · rw [if_neg hzero]
      exact .inl ⟨_, _, rfl⟩
  · rw [if_neg hspecial]
    exact .inr (.finite negative (by rw [specialExponent, Nat.one_shiftLeft] at *; omega) hfraction)

theorem Says.decode_eq {bits : Nat} {value : FloatValue} (h : format.Says bits value) :
    format.decode bits = value := by
  cases h with
  | finite negative hfield hfraction =>
      rw [decode_fields negative (hfield.trans format.specialExponent_lt) hfraction,
        if_neg hfield.ne]
  | infinite negative =>
      have hfields := decode_fields negative format.specialExponent_lt
        (show 0 < 2 ^ format.fractionBits from Nat.pow_pos (by decide))
      rwa [if_pos rfl, if_pos rfl, Nat.add_zero, ← infinity_eq] at hfields

theorem shiftRightEven_mul_two_pow (value places : Nat) :
    shiftRightEven (value * 2 ^ places) places = value := by
  have hpos : 0 < 2 ^ places := Nat.pow_pos (by decide)
  simp only [shiftRightEven, Nat.shiftRight_eq_div_pow, Nat.one_shiftLeft,
    Nat.mul_div_cancel _ hpos, Nat.mul_mod_left]
  simp [hpos.ne]

section Round

variable {field fraction : Nat}

theorem significand_lt (hfraction : fraction < 2 ^ format.fractionBits) :
    format.significand field fraction < 2 ^ (format.fractionBits + 1) := by
  rw [significand, Nat.pow_succ]
  split <;> omega

-- The last place of a number is where its exponent says, whether it begins with a one or not.
theorem max_leastExponent (hfraction : fraction < 2 ^ format.fractionBits)
    (hne : format.significand field fraction ≠ 0) :
    max format.leastExponent (format.exponent field +
      (format.significand field fraction).log2 - format.fractionBits) =
        format.exponent field := by
  by_cases hzero : field = 0
  · subst hzero
    have hlog : (format.significand 0 fraction).log2 < format.fractionBits :=
      (Nat.log2_lt hne).mpr hfraction
    simp only [exponent]
    omega
  · have hlog : (format.significand field fraction).log2 = format.fractionBits := by
      refine (Nat.log2_eq_iff hne).mpr ⟨?_, significand_lt hfraction⟩
      rw [significand, if_neg hzero]
      exact Nat.le_add_right _ _
    simp only [hlog, exponent]
    omega

theorem shift_add_significand (field fraction : Nat) :
    ((format.exponent field - format.leastExponent).toNat <<< format.fractionBits) +
      format.significand field fraction = field * 2 ^ format.fractionBits + fraction := by
  have hshift : (format.exponent field - format.leastExponent).toNat = field - 1 := by
    simp only [exponent]
    omega
  rw [hshift, Nat.shiftLeft_eq, significand]
  cases field with
  | zero => simp
  | succ field => simp [Nat.succ_mul, Nat.add_assoc]

theorem fields_le_infinity (hfield : field < format.specialExponent)
    (hfraction : fraction < 2 ^ format.fractionBits) :
    field * 2 ^ format.fractionBits + fraction ≤ format.infinity := by
  rw [infinity_eq]
  calc
    field * 2 ^ format.fractionBits + fraction ≤ (field + 1) * 2 ^ format.fractionBits := by
      rw [Nat.succ_mul]
      omega
    _ ≤ format.specialExponent * 2 ^ format.fractionBits := Nat.mul_le_mul_right _ hfield

-- However a number is written that the format has a pattern for, it is rounded to that pattern.
theorem round_eq {one : Nat} {place : Int} (negative : Bool)
    (hfield : field < format.specialExponent) (hfraction : fraction < 2 ^ format.fractionBits)
    (hnumber : number one place =
      number (format.significand field fraction) (format.exponent field)) :
    format.round negative one place =
      format.signBit negative + (field * 2 ^ format.fractionBits + fraction) := by
  by_cases hone : one = 0
  · have hzero : format.significand field fraction = 0 := by
      rw [← FloatValue.number_eq_zero_iff (format.exponent field), ← hnumber,
        FloatValue.number_eq_zero_iff, hone]
    rw [round, if_pos hone, ← shift_add_significand, hzero]
    rw [significand] at hzero
    split at hzero
    · next hfield => simp [hfield, exponent]
    · have hpos : 0 < 2 ^ format.fractionBits := Nat.pow_pos (by decide)
      omega
  · have hne : format.significand field fraction ≠ 0 := by
      rw [Ne, ← FloatValue.number_eq_zero_iff (format.exponent field), ← hnumber,
        FloatValue.number_eq_zero_iff]
      exact hone
    have hplace : max format.leastExponent (place + one.log2 - format.fractionBits) =
        format.exponent field := by
      rw [FloatValue.exponent_add_log2 hnumber hone]
      exact max_leastExponent hfraction hne
    have hkept : (if format.exponent field ≤ place then
          one <<< (place - format.exponent field).toNat
        else shiftRightEven one (format.exponent field - place).toNat) =
          format.significand field fraction := by
      split
      · next hle => rw [Nat.shiftLeft_eq, FloatValue.eq_mul_of_number_eq hnumber.symm hle]
      · next hnot =>
          rw [FloatValue.eq_mul_of_number_eq hnumber (by omega), shiftRightEven_mul_two_pow]
    simp only [round, if_neg hone, hplace, hkept, shift_add_significand,
      Nat.min_eq_left (fields_le_infinity hfield hfraction)]

end Round

theorem Says.encode_of_same {bits : Nat} {value other : FloatValue} (h : format.Says bits value)
    (hsame : other.Same value) : format.encode other = bits := by
  cases h with
  | finite negative hfield hfraction => cases hsame with
    | finite _ hnumber => exact round_eq negative hfield hfraction hnumber
  | infinite negative => cases hsame with
    | infinite => rfl

theorem Says.lt {bits : Nat} {value : FloatValue} (h : format.Says bits value) :
    bits < 2 ^ (format.exponentBits + format.fractionBits + 1) := by
  have hmagnitude : ∀ negative magnitude, magnitude ≤ format.infinity →
      format.signBit negative + magnitude <
        2 ^ (format.exponentBits + format.fractionBits + 1) := by
    intro negative magnitude hle
    have hlt : format.infinity < 2 ^ format.exponentBits * 2 ^ format.fractionBits := by
      rw [infinity_eq]
      exact Nat.mul_lt_mul_of_pos_right format.specialExponent_lt (Nat.pow_pos (by decide))
    rw [← Nat.pow_add] at hlt
    rw [signBit, Nat.one_shiftLeft, Nat.pow_succ]
    split <;> omega
  cases h with
  | finite negative hfield hfraction => exact hmagnitude _ _ (fields_le_infinity hfield hfraction)
  | infinite negative => exact hmagnitude _ _ (Nat.le_refl _)

-- Whatever is not too big to be an infinity is a number or that infinity.
theorem exists_said (negative : Bool) {magnitude : Nat} (hle : magnitude ≤ format.infinity) :
    ∃ value, format.Says (format.signBit negative + magnitude) value := by
  rcases Nat.lt_or_eq_of_le hle with hlt | rfl
  · have hpos : 0 < 2 ^ format.fractionBits := Nat.pow_pos (by decide)
    rw [infinity_eq] at hlt
    have hfinite : format.Says _ _ := .finite negative
      (Nat.div_lt_of_lt_mul (by rwa [Nat.mul_comm])) (Nat.mod_lt magnitude hpos)
    rw [Nat.div_add_mod'] at hfinite
    exact ⟨_, hfinite⟩
  · exact ⟨_, .infinite negative⟩

section Convert

variable {source target : FloatFormat}

-- What one format can say, the other can too.
structure Within (source target : FloatFormat) : Prop where
  fraction : source.fractionBits ≤ target.fractionBits
  least : target.leastExponent ≤ source.leastExponent
  greatest : source.leastExponent + source.specialExponent + source.fractionBits ≤
    target.leastExponent + target.specialExponent + target.fractionBits
  special : 0 < target.specialExponent

theorem half_within_single : half.Within single := by constructor <;> decide

theorem single_within_double : single.Within double := by constructor <;> decide

theorem Within.exists_fields (h : source.Within target) {field fraction : Nat}
    (hfield : field < source.specialExponent)
    (hfraction : fraction < 2 ^ source.fractionBits) :
    ∃ wide rest, wide < target.specialExponent ∧ rest < 2 ^ target.fractionBits ∧
      number (source.significand field fraction) (source.exponent field) =
        number (target.significand wide rest) (target.exponent wide) := by
  obtain ⟨hbits, hleast, hgreatest, hspecial⟩ := h
  by_cases hzero : source.significand field fraction = 0
  · refine ⟨0, 0, hspecial, Nat.pow_pos (by decide), ?_⟩
    rw [hzero, significand, if_pos rfl, FloatValue.number_zero, FloatValue.number_zero]
  · have hlog : (source.significand field fraction).log2 < source.fractionBits + 1 :=
      (Nat.log2_lt hzero).mpr (significand_lt hfraction)
    have hsubnormal : field = 0 →
        (source.significand field fraction).log2 < source.fractionBits := by
      rintro rfl
      exact (Nat.log2_lt hzero).mpr hfraction
    generalize hone : source.significand field fraction = one at *
    -- The digits are moved up until they begin where they have to in the target.
    obtain ⟨places, hplaces⟩ : ∃ places : Nat, (places : Int) = source.exponent field -
        max target.leastExponent (source.exponent field + one.log2 - target.fractionBits) := by
      refine ⟨_, Int.toNat_of_nonneg ?_⟩
      simp only [exponent]
      omega
    have hlog' := FloatValue.log2_mul_two_pow hzero places
    have hne : one * 2 ^ places ≠ 0 := Nat.mul_ne_zero hzero (Nat.pow_pos (by decide)).ne'
    have hnumber : number one (source.exponent field) =
        number (one * 2 ^ places) (source.exponent field - places) := by
      rw [FloatValue.number_mul_two_pow]
      congr 1
      omega
    by_cases hnormal : target.leastExponent ≤ source.exponent field + one.log2 - target.fractionBits
    · have hbegins : (one * 2 ^ places).log2 = target.fractionBits := by omega
      obtain ⟨hlow, hhigh⟩ := (Nat.log2_eq_iff hne).mp hbegins
      rw [Nat.pow_succ] at hhigh
      refine ⟨(source.exponent field - places - target.leastExponent).toNat + 1,
        one * 2 ^ places - 2 ^ target.fractionBits, ?_, by omega, ?_⟩
      · simp only [exponent] at *
        omega
      · rw [hnumber, significand, if_neg (Nat.succ_ne_zero _), Nat.add_sub_cancel' hlow]
        congr 1
        simp only [exponent] at *
        omega
    · have hbegins : (one * 2 ^ places).log2 < target.fractionBits := by omega
      refine ⟨0, one * 2 ^ places, hspecial, (Nat.log2_lt hne).mp hbegins, ?_⟩
      rw [hnumber, significand, if_pos rfl]
      congr 1
      simp only [exponent] at *
      omega

theorem Within.exists_said (h : source.Within target) {bits : Nat} {value : FloatValue}
    (hsaid : source.Says bits value) : ∃ wide same, target.Says wide same ∧ value.Same same := by
  cases hsaid with
  | finite negative hfield hfraction =>
      obtain ⟨wide, rest, hwide, hrest, hnumber⟩ := h.exists_fields hfield hfraction
      exact ⟨_, _, .finite negative hwide hrest, .finite negative hnumber⟩
  | infinite negative => exact ⟨_, _, .infinite negative, .infinite negative⟩

-- What is said with one pattern is converted to the other that says it.
theorem Says.convert_eq {bits other : Nat} {value same : FloatValue}
    (hsaid : source.Says bits value) (hother : target.Says other same) (hsame : value.Same same) :
    source.convert target bits = other := by
  have halign : alignPayload source target value = value := by
    cases hsaid <;> rfl
  rw [convert, hsaid.decode_eq, halign]
  exact hother.encode_of_same hsame

theorem Says.exists_convert {bits : Nat} {value : FloatValue} (hsaid : source.Says bits value)
    (target : FloatFormat) : ∃ near, target.Says (source.convert target bits) near := by
  rw [convert, hsaid.decode_eq]
  cases hsaid with
  | finite negative =>
      simp only [alignPayload, encode, round]
      split
      · exact FloatFormat.exists_said negative (Nat.zero_le target.infinity)
      · exact FloatFormat.exists_said negative (Nat.min_le_right _ _)
  | infinite negative => exact ⟨_, .infinite negative⟩

theorem Within.says_convert (h : source.Within target) {bits : Nat} {value : FloatValue}
    (hsaid : source.Says bits value) :
    ∃ same, target.Says (source.convert target bits) same ∧ value.Same same := by
  obtain ⟨wide, same, hwide, hsame⟩ := h.exists_said hsaid
  rw [hsaid.convert_eq hwide hsame]
  exact ⟨same, hwide, hsame⟩

-- To come back from a narrower format as it was, a pattern has to say what one there says.
theorem Within.convert_convert_eq_iff (h : source.Within target) {bits : Nat} {value : FloatValue}
    (hsaid : target.Says bits value) :
    source.convert target (target.convert source bits) = bits ↔
      ∃ same, source.Says (target.convert source bits) same ∧ value.Same same := by
  constructor
  · intro hback
    obtain ⟨near, hnear⟩ := hsaid.exists_convert source
    obtain ⟨same, hsame, hkept⟩ := h.says_convert hnear
    rw [hback] at hsame
    refine ⟨near, hnear, ?_⟩
    rw [← hsaid.decode_eq, hsame.decode_eq]
    exact hkept.symm
  · rintro ⟨same, hshort, hsame⟩
    exact hshort.convert_eq hsaid hsame.symm

end Convert

end FloatFormat

end FramedLines
