import FramedLines.Bytes.Lemmas
import FramedLines.Cbor.Item.Reader
import FramedLines.Cbor.Item.Writer
import FramedLines.Proofs.Lists
import FramedLines.Proofs.Utf8

-- Items delimit themselves: a written item is taken off the front of any octets, and none of its
-- beginnings is taken for an item.

namespace FramedLines.Cbor

theorem length_bigEndian (width value : Nat) : (bigEndian width value).length = width := by
  rw [bigEndian, List.length_reverse, Bytes.length_ofNat]

-- What a taker does with octets that stand for one value.
structure Delimits (taker : Taker α) (octets : Bytes) (value : α) : Prop where
  whole : ∀ rest, taker (octets ++ rest) = some (value, rest)
  cut : ∀ {front lost}, octets = front ++ lost → lost ≠ [] → taker front = none

namespace Delimits

theorem nothing (value : α) : Delimits (fun bytes => some (value, bytes)) [] value where
  whole _ := rfl
  cut hcut hlost := absurd (List.append_eq_nil_iff.mp hcut.symm).2 hlost

theorem congr {taker other : Taker α} {octets : Bytes} {value : α}
    (h : Delimits taker octets value) (hsame : ∀ bytes, other bytes = taker bytes) :
    Delimits other octets value where
  whole rest := (hsame _).trans (h.whole rest)
  cut hcut hlost := (hsame _).trans (h.cut hcut hlost)

-- What is lost of two parts is lost of the second one, unless all of it and some of the first are
-- gone.
theorem bind {first : Taker α} {head body : Bytes} {part : α} {value : β}
    (hhead : Delimits first head part) (next : α → Taker β)
    (hbody : Delimits (next part) body value) :
    Delimits (fun bytes => (first bytes).bind fun taken => next taken.1 taken.2) (head ++ body)
      value := by
  constructor
  · intro rest
    rw [List.append_assoc, hhead.whole, Option.bind_some, hbody.whole]
  · intro front lost hcut hlost
    rcases List.append_eq_append_iff.mp hcut with ⟨kept, rfl, hkept⟩ | ⟨gone, hfirst, hgone⟩
    · rw [hhead.whole, Option.bind_some, hbody.cut hkept hlost]
    · by_cases hnone : gone = []
      · rw [hnone, List.append_nil] at hfirst
        rw [hnone, List.nil_append] at hgone
        have hwhole := hhead.whole []
        rw [List.append_nil, hfirst] at hwhole
        rw [hwhole, Option.bind_some, hbody.cut (List.nil_append _ ▸ hgone.symm) hlost]
      · rw [hhead.cut hfirst hnone, Option.bind_none]

theorem map {taker : Taker α} {octets : Bytes} {value : α} (h : Delimits taker octets value)
    (f : α → β) :
    Delimits (fun bytes => (taker bytes).map fun taken => (f taken.1, taken.2)) octets
      (f value) where
  whole rest := by rw [h.whole, Option.map_some]
  cut hcut hlost := by rw [h.cut hcut hlost, Option.map_none]

-- One octet says how the others are taken.
theorem cons {octet : UInt8} {whole body : Taker α} {octets : Bytes} {value : α}
    (h : Delimits body octets value) (hempty : whole [] = none)
    (hread : ∀ rest, whole (octet :: rest) = body rest) :
    Delimits whole (octet :: octets) value := by
  constructor
  · intro rest
    rw [List.cons_append, hread, h.whole]
  · intro front lost hcut hlost
    cases front with
    | nil => exact hempty
    | cons first front =>
        rw [List.cons_append, List.cons.injEq] at hcut
        obtain ⟨rfl, hcut⟩ := hcut
        rw [hread, h.cut hcut hlost]

theorem split (octets : Bytes) : Delimits (Bytes.split? octets.length) octets octets := by
  constructor
  · intro rest
    exact Bytes.split?_eq_some_iff.mpr ⟨rfl, rfl⟩
  · intro front lost hcut hlost
    have hpos := List.length_pos_iff.mpr hlost
    rw [Bytes.split?_eq_none_iff, hcut, List.length_append]
    omega

theorem number {width value : Nat} (hvalue : value < 256 ^ width) :
    Delimits (takeNumber width) (bigEndian width value) value := by
  have hsplit := split (bigEndian width value)
  have htoNat : Bytes.toNat (bigEndian width value).reverse = value := by
    rw [bigEndian, List.reverse_reverse, Bytes.toNat_ofNat, Nat.mod_eq_of_lt hvalue]
  rw [length_bigEndian] at hsplit
  have hmap := hsplit.map fun octets => Bytes.toNat octets.reverse
  rw [htoNat] at hmap
  exact hmap.congr fun _ => rfl

end Delimits

-- A head is an octet with its major type, and perhaps some more for the argument. It shows in that
-- octet whether the argument is one.
theorem exists_head (major : Nat) {argument : Nat} (hargument : argument < 2 ^ 64) :
    ∃ info octets, info < 28 ∧ (info = 1 ↔ argument = 1) ∧
      head major argument = UInt8.ofNat (32 * major + info) :: octets ∧
      Delimits (takeArgument info) octets (some argument) := by
  have hlong {info : Nat} (hshort : ¬ info < 24) (hinfo : info < 28)
      (hfits : argument < 256 ^ (1 <<< (info - 24))) :
      Delimits (takeArgument info) (bigEndian (1 <<< (info - 24)) argument) (some argument) := by
    refine ((Delimits.number hfits).map some).congr fun bytes => ?_
    rw [takeArgument, if_neg hshort, if_pos hinfo]
  rw [head]
  split
  · next hshort =>
      refine ⟨argument, [], by omega, Iff.rfl, rfl, (Delimits.nothing (some argument)).congr ?_⟩
      exact fun bytes => if_pos hshort
  · split
    · next hfits => exact ⟨24, _, by decide, by omega, rfl, hlong (by decide) (by decide) hfits⟩
    · split
      · next hfits => exact ⟨25, _, by decide, by omega, rfl, hlong (by decide) (by decide) hfits⟩
      · split
        · next hfits => exact ⟨26, _, by decide, by omega, rfl, hlong (by decide) (by decide) hfits⟩
        · exact ⟨27, _, by decide, by omega, rfl, hlong (by decide) (by decide) hargument⟩

-- An octet made of a major type and what else it says falls apart into the two again.
theorem div_mod_octet {major info : Nat} (hmajor : major < 8) (hinfo : info < 32) :
    (UInt8.ofNat (32 * major + info)).toNat / 32 = major ∧
      (UInt8.ofNat (32 * major + info)).toNat % 32 = info := by
  rw [UInt8.toNat_ofNat', Nat.mod_eq_of_lt (by omega)]
  omega

namespace Delimits

-- An item is what its head says, with what comes behind it.
theorem headed {nested? : Option (Taker Item)} {major argument : Nat} (hmajor : major < 8)
    (hargument : argument < 2 ^ 64) (next : Option Nat → Taker Item) {body : Bytes} {item : Item}
    (hread : ∀ info octet rest, (info = 1 ↔ argument = 1) → octet.toNat / 32 = major →
      octet.toNat % 32 = info → Item.takeWith nested? (octet :: rest) =
        (takeArgument info rest).bind fun taken => next taken.1 taken.2)
    (hbody : Delimits (next (some argument)) body item) :
    Delimits (Item.takeWith nested?) (head major argument ++ body) item := by
  obtain ⟨info, octets, hinfo, hone, hhead, htake⟩ := exists_head major hargument
  obtain ⟨hdiv, hmod⟩ := div_mod_octet hmajor (show info < 32 by omega)
  rw [hhead, List.cons_append]
  exact (htake.bind next hbody).cons rfl fun rest => hread info _ rest hone hdiv hmod

variable (nested? : Option (Taker Item))

theorem unsigned {value : Nat} (hvalue : value < 2 ^ 64) :
    Delimits (Item.takeWith nested?) (Item.write (.unsigned value)) (.unsigned value) := by
  rw [Item.write, ← List.append_nil (head 0 value)]
  refine headed (by decide) hvalue
    (fun value? rest => value?.map fun value => (.unsigned value, rest)) ?_
    (nothing (Item.unsigned value))
  intro info octet rest _ hdiv hmod
  simp only [Item.takeWith, hdiv, hmod]
  rcases takeArgument info rest with _ | ⟨_ | _, _⟩ <;> rfl

theorem negative {value : Nat} (hvalue : value < 2 ^ 64) :
    Delimits (Item.takeWith nested?) (Item.write (.negative value)) (.negative value) := by
  rw [Item.write, ← List.append_nil (head 1 value)]
  refine headed (by decide) hvalue
    (fun value? rest => value?.map fun value => (.negative value, rest)) ?_
    (nothing (Item.negative value))
  intro info octet rest _ hdiv hmod
  simp only [Item.takeWith, hdiv, hmod]
  rcases takeArgument info rest with _ | ⟨_ | _, _⟩ <;> rfl

-- A run of octets behind its length, of which something is made.
theorem sized {major : Nat} (hmajor : major < 8) {octets : Bytes} (hlength : octets.length < 2 ^ 64)
    (finish : Bytes → Taker Item) {item : Item}
    (hread : ∀ info octet rest, octet.toNat / 32 = major → octet.toNat % 32 = info →
      Item.takeWith nested? (octet :: rest) =
        (takeString major info rest).bind fun taken => finish taken.1 taken.2)
    (hfinish : Delimits (finish octets) [] item) :
    Delimits (Item.takeWith nested?) (Cbor.sized major octets) item := by
  have hbody := (split octets).bind finish hfinish
  rw [List.append_nil] at hbody
  refine headed hmajor hlength (fun length? rest => (length?.elim
    (takePieces major rest.length [] rest) rest.split?).bind fun taken =>
      finish taken.1 taken.2) ?_ hbody
  intro info octet rest _ hdiv hmod
  rw [hread info octet rest hdiv hmod, takeString]
  rcases takeArgument info rest with _ | ⟨_ | _, _⟩ <;> rfl

theorem bytes {octets : Bytes} (hlength : octets.length < 2 ^ 64) :
    Delimits (Item.takeWith nested?) (Item.write (.bytes octets)) (.bytes octets) := by
  rw [Item.write]
  refine sized nested? (by decide) hlength (fun octets rest => some (.bytes octets, rest)) ?_
    (nothing (Item.bytes octets))
  intro info octet rest hdiv hmod
  simp only [Item.takeWith, hdiv, hmod]
  cases takeString 2 info rest <;> rfl

theorem text {chars : List Char} (hlength : (Utf8.encode chars).length < 2 ^ 64) :
    Delimits (Item.takeWith nested?) (Item.write (.text chars)) (.text chars) := by
  rw [Item.write]
  refine sized nested? (by decide) hlength (fun form rest =>
    (Utf8.decode form).toOption.map fun chars => (.text chars, rest)) ?_ ?_
  · intro info octet rest hdiv hmod
    simp only [Item.takeWith, hdiv, hmod]
    rcases takeString 3 info rest with _ | ⟨form, more⟩
    · rfl
    · simp only [Option.bind_some]
      cases Utf8.decode form <;> rfl
  · simp only [Utf8.decode_encode]
    exact nothing (Item.text chars)

section Many

variable {one : Taker α} {write : α → Bytes} {values : List α}

theorem many (hvalues : ∀ value ∈ values, Delimits one (write value) value) (done : List α) :
    Delimits (takeMany one values.length done) (values.flatMap write) (done.reverse ++ values) := by
  induction values generalizing done with
  | nil =>
      rw [List.append_nil]
      exact nothing done.reverse
  | cons value values ih =>
      have hrest := ih (fun other hother => hvalues other (List.mem_cons_of_mem value hother))
        (value :: done)
      rw [List.reverse_cons, List.append_assoc, List.singleton_append] at hrest
      refine ((hvalues value List.mem_cons_self).bind (fun value =>
        takeMany one values.length (value :: done)) hrest).congr fun bytes => ?_
      rw [List.length_cons, takeMany]
      cases one bytes <;> rfl

-- A group of things behind their number, of which an item is made.
theorem group {nested : Taker Item} {major : Nat} (hmajor : major < 8)
    (hlength : values.length < 2 ^ 64)
    (hvalues : ∀ value ∈ values, Delimits one (write value) value) (finish : List α → Item)
    (hread : ∀ info octet rest, (info = 1 ↔ values.length = 1) → octet.toNat / 32 = major →
      octet.toNat % 32 = info → Item.takeWith (some nested) (octet :: rest) =
        (takeGroup one info rest).map fun taken => (finish taken.1, taken.2)) :
    Delimits (Item.takeWith (some nested)) (head major values.length ++ values.flatMap write)
      (finish values) := by
  refine headed hmajor hlength (fun count? rest =>
    (count?.elim (takeUntilStop one rest.length [] rest) fun count =>
      takeMany one count [] rest).map fun taken => (finish taken.1, taken.2)) ?_
    ((many hvalues []).map finish)
  intro info octet rest hone hdiv hmod
  rw [hread info octet rest hone hdiv hmod, takeGroup]
  rcases takeArgument info rest with _ | ⟨_ | _, _⟩ <;> rfl

end Many

theorem entry {nested : Taker Item} {key value : Item} (hkey : Delimits nested key.write key)
    (hvalue : Delimits nested value.write value) :
    Delimits (takeEntry nested) (key.write ++ value.write) (key, value) := by
  refine (hkey.bind (fun key rest => (nested rest).map fun taken => ((key, taken.1), taken.2))
    (hvalue.map fun value => (key, value))).congr ?_
  intro bytes
  rw [takeEntry]
  cases nested bytes <;> rfl

theorem simple {info : Nat} (hinfo : info < 32) {octets : Bytes} {item : Item}
    (h : Delimits (takeSimple info) octets item) :
    Delimits (Item.takeWith nested?) (UInt8.ofNat (32 * 7 + info) :: octets) item := by
  obtain ⟨hdiv, hmod⟩ := div_mod_octet (show 7 < 8 by decide) hinfo
  refine h.cons rfl fun rest => ?_
  simp only [Item.takeWith, hdiv, hmod]

theorem float {info width bits : Nat} (hinfo : info < 32) (hbits : bits < 256 ^ width)
    (finish : Nat → Item) (hread : ∀ rest, takeSimple info rest =
      (takeNumber width rest).map fun taken => (finish taken.1, taken.2)) :
    Delimits (Item.takeWith nested?) (UInt8.ofNat (32 * 7 + info) :: bigEndian width bits)
      (finish bits) :=
  simple nested? hinfo (((number hbits).map finish).congr hread)

-- What needs no nesting is taken whatever nesting there may be.
theorem take {octets : Bytes} {item : Item}
    (h : ∀ nested?, Delimits (Item.takeWith nested?) octets item) (depth : Nat) :
    Delimits (Item.take depth) octets item := by
  cases depth <;> exact h _

end Delimits

namespace Item

theorem writeAll_eq (items : List Item) : writeAll items = items.flatMap write := by
  induction items with
  | nil => rfl
  | cons item items ih => rw [writeAll, List.flatMap_cons, ih]

theorem writeEntries_eq (entries : List (Item × Item)) :
    writeEntries entries = entries.flatMap fun entry => entry.1.write ++ entry.2.write := by
  induction entries with
  | nil => rfl
  | cons entry entries ih => rw [writeEntries, List.flatMap_cons, ih, List.append_assoc]

theorem head_ne_nil (major argument : Nat) : head major argument ≠ [] := by
  simp only [head]
  repeat' split
  all_goals exact List.cons_ne_nil _ _

-- Every item takes some octets.
theorem write_ne_nil : (item : Item) → item.write ≠ []
  | .tagged item => by
      rw [write]
      exact write_ne_nil item
  | .unsigned value => by
      rw [write]
      exact head_ne_nil 0 value
  | .negative value => by
      rw [write]
      exact head_ne_nil 1 value
  | .bytes octets => by
      rw [write]
      exact List.append_ne_nil_of_left_ne_nil (head_ne_nil 2 octets.length) octets
  | .text chars => by
      rw [write]
      exact List.append_ne_nil_of_left_ne_nil (head_ne_nil 3 _) _
  | .array items => by
      rw [write]
      exact List.append_ne_nil_of_left_ne_nil (head_ne_nil 4 items.length) _
  | .map entries => by
      rw [write]
      exact List.append_ne_nil_of_left_ne_nil (head_ne_nil 5 entries.length) _
  | .soleEntry key value => by
      rw [write]
      exact List.append_ne_nil_of_left_ne_nil (head_ne_nil 5 1) _
  | .bool value => by cases value <;> exact List.cons_ne_nil _ _
  | .null => List.cons_ne_nil _ _
  | .undefined => List.cons_ne_nil _ _
  | .float16 _ => List.cons_ne_nil _ _
  | .float32 _ => List.cons_ne_nil _ _
  | .float64 _ => List.cons_ne_nil _ _

-- Items that are read back as they are: their numbers fit, there are no tags, and a map of one
-- entry is known as such. No more than `depth` arrays and maps stand inside each other.
inductive Plain : (depth : Nat) → Item → Prop where
  | unsigned {depth value : Nat} (hvalue : value < 2 ^ 64) : Plain depth (.unsigned value)
  | negative {depth value : Nat} (hvalue : value < 2 ^ 64) : Plain depth (.negative value)
  | bytes {depth : Nat} (octets : Bytes) : Plain depth (.bytes octets)
  | text {depth : Nat} (chars : List Char) : Plain depth (.text chars)
  | array {depth : Nat} {items : List Item} (hitems : ∀ item ∈ items, Plain depth item) :
      Plain (depth + 1) (.array items)
  | map {depth : Nat} {entries : List (Item × Item)} (hone : entries.length ≠ 1)
      (hkeys : ∀ entry ∈ entries, Plain depth entry.1)
      (hvalues : ∀ entry ∈ entries, Plain depth entry.2) : Plain (depth + 1) (.map entries)
  | soleEntry {depth : Nat} {key value : Item} (hkey : Plain depth key)
      (hvalue : Plain depth value) : Plain (depth + 1) (.soleEntry key value)
  | bool {depth : Nat} (value : Bool) : Plain depth (.bool value)
  | null {depth : Nat} : Plain depth .null
  | float16 {depth : Nat} (bits : UInt16) : Plain depth (.float16 bits)
  | float32 {depth : Nat} (bits : UInt32) : Plain depth (.float32 bits)
  | float64 {depth : Nat} (bits : UInt64) : Plain depth (.float64 bits)

namespace Plain

-- A part of an item is no longer than the item, and an item holds no more things than octets.
theorem delimits {depth : Nat} {item : Item} (h : Plain depth item)
    (hlength : item.write.length < 2 ^ 64) : Delimits (take depth) item.write item := by
  induction h with
  | @unsigned depth value hvalue => exact .take (fun nested? => .unsigned nested? hvalue) depth
  | @negative depth value hvalue => exact .take (fun nested? => .negative nested? hvalue) depth
  | @bytes depth octets =>
      rw [write, sized, List.length_append] at hlength
      exact .take (fun nested? => .bytes nested? (by omega)) depth
  | @text depth chars =>
      rw [write, sized, List.length_append] at hlength
      exact .take (fun nested? => .text nested? (by omega)) depth
  | @array depth items hitems ih =>
      rw [write, writeAll_eq] at hlength ⊢
      rw [List.length_append] at hlength
      have hcount := length_le_length_flatMap fun item (_ : item ∈ items) => write_ne_nil item
      have hvalues : ∀ item ∈ items, Delimits (take depth) item.write item := by
        intro item hitem
        have hle := length_le_flatMap_of_mem hitem write
        exact ih item hitem (by omega)
      refine Delimits.group (by decide) (by omega) hvalues .array ?_
      intro info octet rest _ hdiv hmod
      simp only [takeWith, hdiv, hmod]
      rfl
  | @map depth entries hone hkeys hvalues ihkeys ihvalues =>
      rw [write, writeEntries_eq] at hlength ⊢
      rw [List.length_append] at hlength
      have hcount := length_le_length_flatMap fun (entry : Item × Item) (_ : entry ∈ entries) =>
        List.append_ne_nil_of_left_ne_nil (write_ne_nil entry.1) entry.2.write
      have hentries : ∀ entry ∈ entries,
          Delimits (takeEntry (take depth)) (entry.1.write ++ entry.2.write) entry := by
        intro entry hentry
        have hle := length_le_flatMap_of_mem hentry fun entry => entry.1.write ++ entry.2.write
        rw [List.length_append] at hle
        exact (ihkeys entry hentry (by omega)).entry (ihvalues entry hentry (by omega))
      refine Delimits.group (by decide) (by omega) hentries .map ?_
      intro info octet rest hshort hdiv hmod
      have hlong : info ≠ 1 := fun hinfo => hone (hshort.mp hinfo)
      simp only [takeWith, hdiv, hmod, if_neg hlong]
      rfl
  | @soleEntry depth key value hkey hvalue ihkey ihvalue =>
      rw [write] at hlength ⊢
      rw [List.length_append, List.length_append] at hlength
      have hentry : ∀ entry ∈ [(key, value)],
          Delimits (takeEntry (take depth)) (entry.1.write ++ entry.2.write) entry := by
        intro entry hentry
        rw [List.mem_singleton.mp hentry]
        exact (ihkey (by omega)).entry (ihvalue (by omega))
      have hcount : [(key, value)].length < 2 ^ 64 := show 1 < 2 ^ 64 by decide
      rw [← List.append_nil (key.write ++ value.write)]
      refine Delimits.group (show 5 < 8 by decide) hcount hentry ofEntries ?_
      intro info octet rest hshort hdiv hmod
      simp only [takeWith, hdiv, hmod, if_pos (hshort.mpr rfl)]
      rfl
  | @bool depth value =>
      refine .take (fun nested? => ?_) depth
      cases value with
      | false => exact .simple nested? (show 20 < 32 by decide) (.nothing _)
      | true => exact .simple nested? (show 21 < 32 by decide) (.nothing _)
  | @null depth =>
      exact .take (fun nested? => .simple nested? (show 22 < 32 by decide) (.nothing _)) depth
  | @float16 depth bits =>
      have hfloat nested? := Delimits.float nested? (show 25 < 32 by decide) bits.toNat_lt
        (fun bits => .float16 bits.toUInt16) fun _ => rfl
      simp only [Nat.toUInt16, UInt16.ofNat_toNat] at hfloat
      exact .take hfloat depth
  | @float32 depth bits =>
      have hfloat nested? := Delimits.float nested? (show 26 < 32 by decide) bits.toNat_lt
        (fun bits => .float32 bits.toUInt32) fun _ => rfl
      simp only [Nat.toUInt32, UInt32.ofNat_toNat] at hfloat
      exact .take hfloat depth
  | @float64 depth bits =>
      have hfloat nested? := Delimits.float nested? (show 27 < 32 by decide) bits.toNat_lt
        (fun bits => .float64 bits.toUInt64) fun _ => rfl
      simp only [Nat.toUInt64, UInt64.ofNat_toNat] at hfloat
      exact .take hfloat depth

section Parse

variable {item : Item} (h : Plain deepest item) (hlength : item.write.length < 2 ^ 64)
include h hlength

theorem parse?_write : parse? item.write = some item := by
  have hwhole := (h.delimits hlength).whole []
  rw [List.append_nil] at hwhole
  rw [parse?, hwhole]

theorem parse?_append {more : Bytes} (hmore : more ≠ []) : parse? (item.write ++ more) = none := by
  rw [parse?, (h.delimits hlength).whole]
  cases more with
  | nil => exact absurd rfl hmore
  | cons octet more => rfl

theorem parse?_cut {front lost : Bytes} (hcut : item.write = front ++ lost) (hlost : lost ≠ []) :
    parse? front = none := by
  rw [parse?, (h.delimits hlength).cut hcut hlost]

end Parse

end Plain

end Item

end FramedLines.Cbor
