import FramedLines.Proofs.Dictionary
import FramedLines.Proofs.Floats
import Mathlib.Data.List.Forall2

-- Every value of every kind goes into an item that is read back whole, and comes back out of it.

namespace FramedLines

-- The same bits, or no numbers at all.
def Single.Alike (value got : Single) : Prop :=
  got = value ∨ (FloatFormat.single.decode value.bits.toNat).IsNan ∧
    (FloatFormat.single.decode got.bits.toNat).IsNan

def Double.Alike (value got : Double) : Prop :=
  got = value ∨ (FloatFormat.double.decode value.bits.toNat).IsNan ∧
    (FloatFormat.double.decode got.bits.toNat).IsNan

structure Telemetry.Alike (value got : Telemetry) : Prop where
  id : got.id = value.id
  label : got.label = value.label
  values : List.Forall₂ Single.Alike value.values got.values

-- The same value, but for what is not a number in it.
def Kind.Alike : (kind : Kind) → kind.Carrier → kind.Carrier → Prop
  | .single => Single.Alike
  | .double => Double.Alike
  | .telemetry => Telemetry.Alike
  | _ => fun value got => got = value

namespace Cbor

-- A value in an item that is read back whole, with `got` coming back out of it. No more than
-- `levels` arrays and maps stand inside each other there.
structure Form.Keeps (form : Form α) (levels : Nat) (value got : α) : Prop where
  plain : ∀ depth, Item.Plain (depth + levels) (form.toItem value)
  back : form.ofItem? (form.toItem value) = some got

namespace Item

theorem Plain.ofEntries {depth : Nat} {entries : List (Item × Item)}
    (hentries : ∀ entry ∈ entries, Plain depth entry.1 ∧ Plain depth entry.2) :
    Plain (depth + 1) (Item.ofEntries entries) := by
  by_cases hone : entries.length = 1
  · obtain ⟨⟨key, value⟩, rfl⟩ := List.length_eq_one_iff.mp hone
    have hentry := hentries _ List.mem_cons_self
    exact .soleEntry hentry.1 hentry.2
  · have hmap : Item.ofEntries entries = .map entries := by
      rw [Item.ofEntries]
      rintro key value rfl
      exact hone rfl
    rw [hmap]
    exact .map hone (fun entry hentry => (hentries entry hentry).1)
      fun entry hentry => (hentries entry hentry).2

theorem entries?_untag_ofEntries (entries : List (Item × Item)) :
    (Item.ofEntries entries).untag.entries? = some entries := by
  rw [Item.ofEntries.eq_def]
  split <;> rfl

theorem Stores.plain {value : FloatValue} {item : Item} (h : Stores value item) (depth : Nat) :
    Plain depth item := by
  cases h <;> constructor

end Item

namespace Form

variable {form : Form α} {levels : Nat}

theorem Keeps.mono {value got : α} (h : form.Keeps levels value got) {more : Nat}
    (hle : levels ≤ more) : form.Keeps more value got where
  plain depth := by
    have hplain := h.plain (depth + (more - levels))
    rwa [Nat.add_assoc, Nat.sub_add_cancel hle] at hplain
  back := h.back

theorem Keeps.via {value back : β} {got : α} {make : α → β} {view : β → α}
    (h : form.Keeps levels (view value) got) (hmake : make got = back) :
    (form.via make view).Keeps levels value back where
  plain := h.plain
  back := hmake ▸ congrArg (Option.map make) h.back

section Numbers

theorem keeps_integer {least greatest value : Int} (hlow : least ≤ value) (hhigh : value ≤ greatest)
    (hleast : -2 ^ 64 ≤ value) (hgreatest : value < 2 ^ 64) :
    (integer least greatest).Keeps 0 value value := by
  have hinteger : integer? (integerItem value) = some value := by
    rw [integerItem]
    split
    · exact congrArg some (by omega)
    · exact congrArg some (by omega)
  constructor
  · intro depth
    change Item.Plain depth (integerItem value)
    rw [integerItem]
    split
    · exact .unsigned (by omega)
    · exact .negative (by omega)
  · change (integer? (integerItem value)).filter _ = some value
    rw [hinteger, Option.filter_some, if_pos (by simp [hlow, hhigh])]

theorem keeps_natural {bits value : Nat} (hbits : bits ≤ 64) (hvalue : value < 2 ^ bits) :
    (natural bits).Keeps 0 value value := by
  have hle : 2 ^ bits ≤ 2 ^ 64 := Nat.pow_le_pow_right (by decide) hbits
  have hone : 1 <<< bits = 2 ^ bits := Nat.one_shiftLeft bits
  have hkeeps : (integer 0 ((1 <<< bits : Nat) - 1)).Keeps 0 (value : Int) value :=
    keeps_integer (by omega) (by omega) (by omega) (by omega)
  exact hkeeps.via (Int.toNat_natCast value)

theorem keeps_signed {bits : Nat} {value : Int} (hbits : bits < 64) (hlow : -2 ^ bits ≤ value)
    (hhigh : value < 2 ^ bits) : (signed (bits + 1)).Keeps 0 value value := by
  have hle : (2 : Int) ^ bits ≤ 2 ^ 64 := by
    exact_mod_cast Nat.pow_le_pow_right (show 0 < 2 by decide) (Nat.le_of_lt hbits)
  have hone : Int.ofNat (1 <<< (bits + 1 - 1)) = 2 ^ bits := by
    rw [Nat.add_sub_cancel, Nat.one_shiftLeft]
    exact Nat.cast_pow 2 bits
  rw [signed]
  exact keeps_integer (by omega) (by omega) (by omega) (by omega)

theorem keeps_u8 (value : UInt8) : u8.Keeps 0 value value :=
  (keeps_natural (by decide) value.toNat_lt).via value.ofNat_toNat

theorem keeps_u16 (value : UInt16) : u16.Keeps 0 value value :=
  (keeps_natural (by decide) value.toNat_lt).via value.ofNat_toNat

theorem keeps_u32 (value : UInt32) : u32.Keeps 0 value value :=
  (keeps_natural (by decide) value.toNat_lt).via value.ofNat_toNat

theorem keeps_u64 (value : UInt64) : u64.Keeps 0 value value :=
  (keeps_natural (by decide) value.toNat_lt).via value.ofNat_toNat

theorem keeps_i8 (value : Int8) : i8.Keeps 0 value value :=
  (keeps_signed (by decide) value.le_toInt value.toInt_lt).via value.ofInt_toInt

theorem keeps_i16 (value : Int16) : i16.Keeps 0 value value :=
  (keeps_signed (by decide) value.le_toInt value.toInt_lt).via value.ofInt_toInt

theorem keeps_i32 (value : Int32) : i32.Keeps 0 value value :=
  (keeps_signed (by decide) value.le_toInt value.toInt_lt).via value.ofInt_toInt

theorem keeps_i64 (value : Int64) : i64.Keeps 0 value value :=
  (keeps_signed (by decide) value.le_toInt value.toInt_lt).via value.ofInt_toInt

end Numbers

theorem keeps_bool (value : Bool) : bool.Keeps 0 value value where
  plain _ := .bool value
  back := rfl

theorem keeps_string (text : String) : string.Keeps 0 text text where
  plain _ := .text text.toList
  back := congrArg some text.ofList_toList

theorem keeps_char (c : Char) : char.Keeps 0 c c where
  plain _ := .text [c]
  back := rfl

theorem keeps_unit : unit.Keeps 0 () () where
  plain _ := .null
  back := rfl

section Groups

theorem Keeps.list {values gots : List α} (h : List.Forall₂ (form.Keeps levels) values gots) :
    (list form).Keeps (levels + 1) values gots := by
  constructor
  · intro depth
    refine .array fun item hitem => ?_
    induction h with
    | nil => cases hitem
    | cons hvalue _ ih =>
        rcases List.mem_cons.mp hitem with rfl | hrest
        · exact hvalue.plain depth
        · exact ih hrest
  · change (values.map form.toItem).mapM form.ofItem? = some gots
    induction h with
    | nil => rfl
    | cons hvalue _ ih =>
        rw [List.map_cons, List.mapM_cons, hvalue.back, ih]
        rfl

theorem Keeps.same_list (h : ∀ value, form.Keeps levels value value) (values : List α) :
    form.list.Keeps (levels + 1) values values :=
  .list (List.forall₂_same.mpr fun value _ => h value)

theorem Keeps.pair {second : Form β} {one : α} {other : β} (hone : form.Keeps levels one one)
    (hother : second.Keeps levels other other) :
    (pair form second).Keeps (levels + 1) (one, other) (one, other) := by
  constructor
  · intro depth
    refine .array fun item hitem => ?_
    rcases List.mem_pair.mp hitem with rfl | rfl
    · exact hone.plain depth
    · exact hother.plain depth
  · change (do
      let one ← form.ofItem? (form.toItem one)
      let other ← second.ofItem? (second.toItem other)
      return (one, other)) = some (one, other)
    rw [hone.back, hother.back]
    rfl

theorem keeps_dictionary (value : Dictionary) : dictionary.Keeps 1 value value := by
  constructor
  · intro depth
    refine .ofEntries fun entry hentry => ?_
    obtain ⟨⟨key, word⟩, hmem, rfl⟩ := List.mem_map.mp hentry
    exact ⟨(keeps_string key).plain depth, (keeps_u32 word).plain depth⟩
  · change (do
      let entries ← (Item.ofEntries _).untag.entries?
      let entries ← entries.mapM fun entry => do
        let key ← string.ofItem? entry.1
        let word ← u32.ofItem? entry.2
        return (key, word)
      return Dictionary.ofEntries entries) = some value
    have hentries : (value.entries.map fun entry =>
        (string.toItem entry.1, u32.toItem entry.2)).mapM (fun entry => do
          let key ← string.ofItem? entry.1
          let word ← u32.ofItem? entry.2
          return (key, word)) = some value.entries := by
      induction value.entries with
      | nil => rfl
      | cons entry entries ih =>
          rw [List.map_cons, List.mapM_cons, ih]
          simp only [(keeps_string entry.1).back, (keeps_u32 entry.2).back]
          rfl
    rw [Item.entries?_untag_ofEntries, Option.bind_eq_bind, Option.bind_some, hentries]
    exact congrArg some value.ofEntries_entries

-- A value that does not look like none there is one.
theorem keeps_maybe (value : Option UInt32) : (optional u32).Keeps 0 value value := by
  cases value with
  | none => exact ⟨fun _ => .null, rfl⟩
  | some word =>
      refine ⟨(keeps_u32 word).plain, ?_⟩
      have hback := (keeps_u32 word).back
      have hitem : u32.toItem word = .unsigned word.toNat := rfl
      change (optional u32).ofItem? (u32.toItem word) = some (some word)
      rw [hitem] at hback ⊢
      exact congrArg (Option.map some) hback

end Groups

section Floats

theorem exists_keeps_single (value : Single) :
    ∃ got, single.Keeps 0 value got ∧ value.Alike got := by
  have hbits := value.bits.toNat_lt
  have hstores := (shortest_singleItem hbits).stores
  rcases FloatFormat.single.nan_or_said hbits with hnan | hsaid
  · refine ⟨⟨0x7FC00000⟩, ⟨hstores.plain, ?_⟩, .inr ⟨hnan, false, 0, by decide⟩⟩
    change (floatBits? .single (singleItem value.bits.toNat)).map _ = _
    rw [singleItem_of_nan hnan]
    decide
  · refine ⟨value, ⟨hstores.plain, ?_⟩, .inl rfl⟩
    change (floatBits? .single (singleItem value.bits.toNat)).map _ = _
    rw [floatBits?_of_stores hsaid hstores]
    simp

theorem exists_keeps_double (value : Double) :
    ∃ got, double.Keeps 0 value got ∧ value.Alike got := by
  have hbits := value.bits.toNat_lt
  have hstores := (shortest_doubleItem hbits).stores
  rcases FloatFormat.double.nan_or_said hbits with hnan | hsaid
  · refine ⟨⟨0x7FF8000000000000⟩, ⟨hstores.plain, ?_⟩, .inr ⟨hnan, false, 0, by decide⟩⟩
    change (floatBits? .double (doubleItem value.bits.toNat)).map _ = _
    rw [doubleItem_of_nan hnan]
    decide
  · refine ⟨value, ⟨hstores.plain, ?_⟩, .inl rfl⟩
    change (floatBits? .double (doubleItem value.bits.toNat)).map _ = _
    rw [floatBits?_of_stores hsaid hstores]
    simp

end Floats

section Records

-- A command is its name, with what belongs to it under the name.
theorem keeps_command (value : Command) : command.Keeps 2 value value := by
  cases value with
  | reboot => exact ⟨fun _ => .text _, rfl⟩
  | setGain gain =>
      refine ⟨fun depth => .soleEntry (.text _) ((keeps_u16 gain).plain (depth + 1)), ?_⟩
      change (u16.ofItem? (u16.toItem gain)).map Command.setGain = _
      rw [(keeps_u16 gain).back]
      rfl
  | status active battery =>
      constructor
      · intro depth
        refine .soleEntry (.text _) (.map (show 2 ≠ 1 by decide) ?_ ?_)
        · simp only [List.forall_mem_cons]
          exact ⟨.text _, .text _, List.forall_mem_nil _⟩
        · simp only [List.forall_mem_cons]
          exact ⟨(keeps_bool active).plain depth, (keeps_u8 battery).plain depth,
            List.forall_mem_nil _⟩
      · change (do
          let active ← bool.ofItem? (bool.toItem active)
          let battery ← u8.ofItem? (u8.toItem battery)
          return Command.status active battery) = _
        rw [(keeps_bool active).back, (keeps_u8 battery).back]
        rfl

theorem exists_keeps_singles (values : List Single) :
    ∃ gots, List.Forall₂ (single.Keeps 0) values gots ∧ List.Forall₂ Single.Alike values gots := by
  induction values with
  | nil => exact ⟨[], .nil, .nil⟩
  | cons value values ih =>
      obtain ⟨got, hkeeps, halike⟩ := exists_keeps_single value
      obtain ⟨gots, hrest, hlike⟩ := ih
      exact ⟨got :: gots, .cons hkeeps hrest, .cons halike hlike⟩

theorem exists_keeps_telemetry (value : Telemetry) :
    ∃ got, telemetry.Keeps 2 value got ∧ value.Alike got := by
  obtain ⟨gots, hgots, halike⟩ := exists_keeps_singles value.values
  have hid := keeps_u32 value.id
  have hlabel := keeps_string value.label
  have hvalues := Keeps.list hgots
  refine ⟨⟨value.id, value.label, gots⟩, ⟨fun depth => ?_, ?_⟩, ⟨rfl, rfl, halike⟩⟩
  · refine .map (show 3 ≠ 1 by decide) ?_ ?_
    · simp only [List.forall_mem_cons]
      exact ⟨.text _, .text _, .text _, List.forall_mem_nil _⟩
    · simp only [List.forall_mem_cons]
      exact ⟨hid.plain (depth + 1), hlabel.plain (depth + 1), hvalues.plain depth,
        List.forall_mem_nil _⟩
  · change (do
      let id ← u32.ofItem? (u32.toItem value.id)
      let label ← string.ofItem? (string.toItem value.label)
      let values ← single.list.ofItem? (single.list.toItem value.values)
      return { id, label, values : Telemetry }) = _
    rw [hid.back, hlabel.back, hvalues.back]
    rfl

end Records

-- Every value of every kind.
theorem exists_keeps (kind : Kind) (value : kind.Carrier) :
    ∃ got, (Cbor.form kind).Keeps 3 value got ∧ kind.Alike value got := by
  cases kind with
  | bool => exact ⟨value, (keeps_bool value).mono (by decide), rfl⟩
  | u8 => exact ⟨value, (keeps_u8 value).mono (by decide), rfl⟩
  | u16 => exact ⟨value, (keeps_u16 value).mono (by decide), rfl⟩
  | u32 => exact ⟨value, (keeps_u32 value).mono (by decide), rfl⟩
  | u64 => exact ⟨value, (keeps_u64 value).mono (by decide), rfl⟩
  | i8 => exact ⟨value, (keeps_i8 value).mono (by decide), rfl⟩
  | i16 => exact ⟨value, (keeps_i16 value).mono (by decide), rfl⟩
  | i32 => exact ⟨value, (keeps_i32 value).mono (by decide), rfl⟩
  | i64 => exact ⟨value, (keeps_i64 value).mono (by decide), rfl⟩
  | char => exact ⟨value, (keeps_char value).mono (by decide), rfl⟩
  | string => exact ⟨value, (keeps_string value).mono (by decide), rfl⟩
  | unit => exact ⟨value, keeps_unit.mono (by decide), rfl⟩
  | maybeU32 => exact ⟨value, (keeps_maybe value).mono (by decide), rfl⟩
  | u32s => exact ⟨value, (Keeps.same_list keeps_u32 value).mono (by decide), rfl⟩
  | strings => exact ⟨value, (Keeps.same_list keeps_string value).mono (by decide), rfl⟩
  | numberedString =>
      exact ⟨value, ((keeps_u8 value.1).pair (keeps_string value.2)).mono (by decide), rfl⟩
  | dictionary => exact ⟨value, (keeps_dictionary value).mono (by decide), rfl⟩
  | command => exact ⟨value, (keeps_command value).mono (by decide), rfl⟩
  | commands => exact ⟨value, Keeps.same_list keeps_command value, rfl⟩
  | single =>
      obtain ⟨got, hkeeps, halike⟩ := exists_keeps_single value
      exact ⟨got, hkeeps.mono (by decide), halike⟩
  | double =>
      obtain ⟨got, hkeeps, halike⟩ := exists_keeps_double value
      exact ⟨got, hkeeps.mono (by decide), halike⟩
  | telemetry =>
      obtain ⟨got, hkeeps, halike⟩ := exists_keeps_telemetry value
      exact ⟨got, hkeeps.mono (by decide), halike⟩

end Form

end Cbor

end FramedLines
