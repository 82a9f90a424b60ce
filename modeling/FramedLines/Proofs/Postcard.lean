import FramedLines.Postcard
import FramedLines.Proofs.Codec
import FramedLines.Proofs.Dictionary
import FramedLines.Proofs.Lists
import FramedLines.Proofs.Utf8

-- The compact format is self-delimiting, kind by kind.

namespace FramedLines.Postcard

open Codec

theorem delimits_length {count : Nat} (hcount : count < 2 ^ 64) : length.Delimits count :=
  Varint.delimits (by decide) hcount

-- Items that take no octets could be more than a length can say.
theorem Codec.Lawful.list {item : Codec α} (hitem : item.Lawful)
    (hempty : item.read [] = .error .endOfBuffer) : (list item).Lawful := by
  intro items hlength
  change (length.write items.length ++ items.flatMap item.write).length < 2 ^ 64 at hlength
  rw [List.length_append] at hlength
  have hitems : ∀ value ∈ items, item.Delimits value := by
    intro value hvalue
    have hle := length_le_flatMap_of_mem hvalue item.write
    exact hitem value (by omega)
  have hcount := length_le_length_flatMap fun value hvalue =>
    (hitems value hvalue).write_ne_nil hempty
  exact delimits_counted (delimits_length (by omega)) hitems

theorem lawful_bool : bool.Lawful := by
  intro value _
  constructor
  · intro rest
    cases value <;> rfl
  · intro front lost hcut hlost
    cases front with
    | nil => rfl
    | cons octet front => exact absurd (not_cut_singleton hcut) hlost

theorem lawful_octet : octet.Lawful := by
  intro value _
  constructor
  · intro rest
    rfl
  · intro front lost hcut hlost
    cases front with
    | nil => rfl
    | cons octet front => exact absurd (not_cut_singleton hcut) hlost

section Numbers

theorem delimits_u16 (value : UInt16) : u16.Delimits value :=
  (Varint.delimits (by decide) value.toNat_lt).via value.ofNat_toNat

theorem delimits_u32 (value : UInt32) : u32.Delimits value :=
  (Varint.delimits (by decide) value.toNat_lt).via value.ofNat_toNat

theorem delimits_u64 (value : UInt64) : u64.Delimits value :=
  (Varint.delimits (by decide) value.toNat_lt).via value.ofNat_toNat

theorem delimits_signed {bits : Nat} {value : Int} (hlow : -2 ^ bits ≤ value)
    (hhigh : value < 2 ^ bits) : (signed (bits + 1)).Delimits value :=
  (Varint.delimits (Nat.succ_pos bits) (Varint.zigzag_lt hlow hhigh)).via
    (Varint.unzigzag_zigzag value)

theorem delimits_i16 (value : Int16) : i16.Delimits value :=
  (delimits_signed value.le_toInt value.toInt_lt).via value.ofInt_toInt

theorem delimits_i32 (value : Int32) : i32.Delimits value :=
  (delimits_signed value.le_toInt value.toInt_lt).via value.ofInt_toInt

theorem delimits_i64 (value : Int64) : i64.Delimits value :=
  (delimits_signed value.le_toInt value.toInt_lt).via value.ofInt_toInt

theorem delimits_single (value : Single) : single.Delimits value :=
  (delimits_fixed value.bits.toNat_lt).via (by simp)

theorem delimits_double (value : Double) : double.Delimits value :=
  (delimits_fixed value.bits.toNat_lt).via (by simp)

theorem lawful_i8 : i8.Lawful := lawful_octet.via fun value => value.toInt8_toUInt8

theorem lawful_u32 : u32.Lawful := fun value _ => delimits_u32 value

theorem lawful_single : single.Lawful := fun value _ => delimits_single value

end Numbers

section Texts

theorem lawful_octets : octets.Lawful := by
  intro bytes hlength
  simp only [octets, List.length_append] at hlength
  exact (delimits_length (by omega)).of_parts rfl (fun _ => rfl) (takeOctets_append bytes)
    fun hcut hlost => takeOctets_of_short (length_lt_of_cut hcut hlost)

theorem lawful_string : string.Lawful := by
  intro text hlength
  have hform := lawful_octets (Utf8.encode text.toList) hlength
  constructor
  · intro rest
    simp only [string, hform.whole, ok_bind, Utf8.decode_encode, String.ofList_toList]
    rfl
  · intro front lost hcut hlost
    simp only [string, hform.cut hcut hlost, error_bind]

-- A character takes no more than the four octets that it may.
theorem lawful_char : char.Lawful := by
  intro c _
  have hfour := Utf8.length_encodeChar_le c
  have hchar : Utf8.decode (Utf8.encodeChar c) = .ok [c] := by
    have hdecode := Utf8.decode_encode [c]
    rwa [Utf8.encode, List.flatMap_singleton] at hdecode
  apply (delimits_length (show (Utf8.encodeChar c).length < 2 ^ 64 by omega)).of_parts rfl
    (fun _ => rfl)
  · intro rest
    simp only [if_neg (Nat.not_lt.mpr hfour), takeOctets_append, ok_bind, hchar]
    rfl
  · intro front lost hcut hlost
    have htake := takeOctets_of_short (length_lt_of_cut hcut hlost)
    simp only [if_neg (Nat.not_lt.mpr hfour), htake]
    rfl

end Texts

theorem lawful_dictionary : dictionary.Lawful :=
  ((lawful_string.pair lawful_u32).list rfl).via Dictionary.ofEntries_entries

theorem lawful_telemetry : telemetry.Lawful :=
  (lawful_u32.pair (lawful_string.pair (lawful_single.list rfl))).via fun _ => rfl

-- Behind its number a command is its fields.
theorem lawful_command : command.Lawful := by
  intro value hlength
  cases value with
  | reboot =>
      have hwrite : command.write .reboot = u32.write 0 ++ [] := (List.append_nil _).symm
      apply (delimits_u32 0).of_parts hwrite (fun _ => rfl)
      · intro rest
        rfl
      · intro front lost hcut hlost
        exact absurd (List.append_eq_nil_iff.mp hcut.symm).2 hlost
  | setGain gain =>
      have hgain := delimits_u16 gain
      apply (delimits_u32 1).of_parts rfl (fun _ => rfl)
      · intro rest
        change u16.read _ >>= _ = _
        rw [hgain.whole, ok_bind]
        rfl
      · intro front lost hcut hlost
        change u16.read _ >>= _ = _
        rw [hgain.cut hcut hlost, error_bind]
  | status active battery =>
      simp only [command, List.length_append] at hlength
      have hfields := (lawful_bool active (by omega)).pair (lawful_octet battery (by omega))
      apply (delimits_u32 2).of_parts rfl (fun _ => rfl)
      · intro rest
        change (pair bool octet).read ((pair bool octet).write (active, battery) ++ rest) >>= _ = _
        rw [hfields.whole, ok_bind]
        rfl
      · intro front lost hcut hlost
        change (pair bool octet).read _ >>= _ = _
        rw [hfields.cut hcut hlost, error_bind]

-- Every value of every kind.
theorem lawful_codec (kind : Kind) : (codec kind).Lawful := by
  cases kind with
  | bool => exact lawful_bool
  | u8 => exact lawful_octet
  | u16 => exact fun value _ => delimits_u16 value
  | u32 => exact lawful_u32
  | u64 => exact fun value _ => delimits_u64 value
  | i8 => exact lawful_i8
  | i16 => exact fun value _ => delimits_i16 value
  | i32 => exact fun value _ => delimits_i32 value
  | i64 => exact fun value _ => delimits_i64 value
  | char => exact lawful_char
  | string => exact lawful_string
  | unit => exact lawful_unit
  | maybeU32 => exact lawful_u32.optional
  | u32s => exact lawful_u32.list rfl
  | strings => exact lawful_string.list rfl
  | numberedString => exact lawful_octet.pair lawful_string
  | dictionary => exact lawful_dictionary
  | command => exact lawful_command
  | commands => exact lawful_command.list rfl
  | single => exact lawful_single
  | double => exact fun value _ => delimits_double value
  | telemetry => exact lawful_telemetry

section Frames

variable {kind : Kind} {value : kind.Carrier}

theorem decode_encode_append (hlength : (encode value).length < 2 ^ 64) (rest : Bytes) :
    decode kind (encode value ++ rest) = .ok value := by
  rw [decode, encode, (lawful_codec kind value hlength).whole]
  rfl

theorem decode_cut {front lost : Bytes} (hlength : (encode value).length < 2 ^ 64)
    (hcut : encode value = front ++ lost) (hlost : lost ≠ []) :
    decode kind front = .error .endOfBuffer := by
  rw [decode, (lawful_codec kind value hlength).cut hcut hlost]
  rfl

end Frames

end FramedLines.Postcard
