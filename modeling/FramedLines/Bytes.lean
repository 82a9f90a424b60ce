-- Runs of octets and the fixed-width little-endian numbers written in them.

namespace FramedLines

-- A run of octets, first octet first.
abbrev Bytes := List UInt8

namespace Bytes

-- The little-endian octets of `value`, cut to `width` of them.
def ofNat : Nat → Nat → Bytes
  | 0, _ => []
  | width + 1, value => UInt8.ofNat value :: ofNat width (value / 256)

-- The number whose little-endian octets these are.
def toNat : Bytes → Nat
  | [] => 0
  | octet :: rest => octet.toNat + 256 * toNat rest

-- The first `count` octets and what follows them, when there are that many.
-- A count far beyond the end costs no more than the octets that exist.
def split? (count : Nat) (bytes : Bytes) : Option (Bytes × Bytes) :=
  let head := bytes.take count
  if head.length = count then some (head, bytes.drop count) else none

@[simp] theorem length_ofNat (width value : Nat) : (ofNat width value).length = width := by
  induction width generalizing value with
  | zero => rfl
  | succ width ih => simp [ofNat, ih]

theorem ofNat_toNat (bytes : Bytes) : ofNat bytes.length (toNat bytes) = bytes := by
  induction bytes with
  | nil => rfl
  | cons octet rest ih =>
      have ho := octet.toNat_lt
      have hd : (octet.toNat + 256 * toNat rest) / 256 = toNat rest := by omega
      have hh : UInt8.ofNat (octet.toNat + 256 * toNat rest) = octet := by
        apply UInt8.toNat_inj.mp
        simp only [UInt8.toNat_ofNat']
        omega
      simp only [List.length_cons, ofNat, toNat, hd, ih, hh]

theorem split?_eq_some_iff {count : Nat} {bytes head rest : Bytes} :
    split? count bytes = some (head, rest) ↔ bytes = head ++ rest ∧ head.length = count := by
  constructor
  · intro h
    simp only [split?] at h
    split at h
    · next hl =>
        injection h with h
        injection h with hh hr
        subst hh hr
        exact ⟨(List.take_append_drop _ _).symm, hl⟩
    · cases h
  · rintro ⟨rfl, rfl⟩
    simp [split?]

theorem split?_eq_none_iff {count : Nat} {bytes : Bytes} :
    split? count bytes = none ↔ bytes.length < count := by
  simp only [split?, List.length_take]
  split <;> simp <;> omega

end Bytes

end FramedLines
