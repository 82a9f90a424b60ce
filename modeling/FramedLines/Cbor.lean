import FramedLines.Cbor.Item.Reader
import FramedLines.Cbor.Item.Writer
import FramedLines.Value
import FramedLines.Value.FloatFormat

-- Values as CBOR items, kind by kind. What is written names its fields, and what is read may
-- leave out some of that: fields in order, numbers of fields, or numbers of another width.

namespace FramedLines.Cbor

-- How values of a type stand in items.
structure Form (α : Type) where
  toItem : α → Item
  ofItem? : Item → Option α

namespace Form

-- The same items for another type.
def via (form : Form α) (make : α → β) (view : β → α) : Form β where
  toItem value := form.toItem (view value)
  ofItem? item := (form.ofItem? item).map make

-- An integer as an item, and back.
def integerItem (value : Int) : Item :=
  if 0 ≤ value then .unsigned value.toNat else .negative (-value - 1).toNat

def integer? (item : Item) : Option Int :=
  match item.untag with
  | .unsigned value => some value
  | .negative value => some (-1 - value)
  | _ => none

def integer (least greatest : Int) : Form Int where
  toItem := integerItem
  ofItem? item := (integer? item).filter fun value => least ≤ value && value ≤ greatest

def natural (bits : Nat) : Form Nat :=
  (integer 0 ((1 <<< bits : Nat) - 1)).via Int.toNat Int.ofNat

def signed (bits : Nat) : Form Int :=
  let bound := Int.ofNat (1 <<< (bits - 1))
  integer (-bound) (bound - 1)

def u8 : Form UInt8 := (natural 8).via Nat.toUInt8 UInt8.toNat
def u16 : Form UInt16 := (natural 16).via Nat.toUInt16 UInt16.toNat
def u32 : Form UInt32 := (natural 32).via Nat.toUInt32 UInt32.toNat
def u64 : Form UInt64 := (natural 64).via Nat.toUInt64 UInt64.toNat
def i8 : Form Int8 := (signed 8).via Int8.ofInt Int8.toInt
def i16 : Form Int16 := (signed 16).via Int16.ofInt Int16.toInt
def i32 : Form Int32 := (signed 32).via Int32.ofInt Int32.toInt
def i64 : Form Int64 := (signed 64).via Int64.ofInt Int64.toInt

def bool : Form Bool where
  toItem := .bool
  ofItem? item := match item.untag with
    | .bool value => some value
    | _ => none

-- A byte string that is UTF-8 will do for a text.
def string : Form String where
  toItem := .ofString
  ofItem? item := match item.untag with
    | .text text => some (String.ofList text)
    | .bytes bytes => match Utf8.decode bytes with
        | .ok text => some (String.ofList text)
        | .error _ => none
    | _ => none

def char : Form Char where
  toItem c := .text [c]
  ofItem? item := match item.untag with
    | .text [c] => some c
    | _ => none

def unit : Form Unit where
  toItem _ := .null
  ofItem? item := match item.untag with
    | .null | .undefined => some ()
    | _ => none

-- A bare null stands for no value.
def optional (form : Form α) : Form (Option α) where
  toItem
    | none => .null
    | some value => form.toItem value
  ofItem?
    | .null => some none
    | item => (form.ofItem? item).map some

def list (form : Form α) : Form (List α) where
  toItem values := .array (values.map form.toItem)
  ofItem? item := match item.untag with
    | .array items => items.mapM form.ofItem?
    | _ => none

def pair (first : Form α) (second : Form β) : Form (α × β) where
  toItem value := .array [first.toItem value.1, second.toItem value.2]
  ofItem? item := match item.untag with
    | .array [one, other] => do
        let one ← first.ofItem? one
        let other ← second.ofItem? other
        return (one, other)
    | _ => none

def dictionary : Form Dictionary where
  toItem value := .ofEntries (value.entries.map fun (key, word) =>
    (string.toItem key, u32.toItem word))
  ofItem? item := do
    let entries ← item.untag.entries?
    let entries ← entries.mapM fun (key, word) => do
      let key ← string.ofItem? key
      let word ← u32.ofItem? word
      return (key, word)
    return Dictionary.ofEntries entries

-- Whether an item names one of `names`, by its text or its number, and which. Nothing for an
-- item that is no name at all.
def nameIndex? (names : List String) (item : Item) : Option (Option Nat) :=
  match item.untag with
  | .text text => some (names.findIdx? (·.toList == text))
  | .bytes bytes => some (names.findIdx? fun name => Utf8.encode name.toList == bytes)
  | .unsigned value => some (if value < names.length then some value else none)
  | _ => none

-- The items under the names, each exactly once: from an array that gives them all in order, or
-- from a map that may hold other entries too.
def fields? (names : List String) (item : Item) : Option (List Item) :=
  match item.untag with
  | .array items => if items.length = names.length then some items else none
  | item => do
      let entries ← item.entries?
      let entries ← entries.mapM fun (key, value) =>
        (nameIndex? names key).map fun index? => (index?, value)
      (List.range names.length).mapM fun index =>
        match entries.filter (·.1 == some index) with
        | [(_, value)] => some value
        | _ => none

-- The shortest width that keeps the value. Whatever is not a number becomes one and the same.
def singleItem (bits : Nat) : Item :=
  match FloatFormat.single.decode bits with
  | .nan _ _ => .float16 0x7E00
  | _ =>
      let short := FloatFormat.single.convert .half bits
      if FloatFormat.half.convert .single short = bits then .float16 short.toUInt16
      else .float32 bits.toUInt32

def doubleItem (bits : Nat) : Item :=
  match FloatFormat.double.decode bits with
  | .nan _ _ => .float16 0x7E00
  | _ =>
      let short := FloatFormat.double.convert .single bits
      if FloatFormat.single.convert .double short = bits then singleItem short
      else .float64 bits.toUInt64

-- The nearest number in `format` to what an item says. An integer has to fit in 64 bits, with
-- or without a sign.
def floatBits? (format : FloatFormat) (item : Item) : Option Nat :=
  match item.untag with
  | .float16 bits => some (FloatFormat.half.convert format bits.toNat)
  | .float32 bits =>
      some (if format = .single then bits.toNat else FloatFormat.single.convert format bits.toNat)
  | .float64 bits =>
      some (if format = .double then bits.toNat else FloatFormat.double.convert format bits.toNat)
  | item => ((integer? item).filter (Int64.minValue.toInt ≤ ·)).map format.ofInt

def single : Form Single where
  toItem value := singleItem value.bits.toNat
  ofItem? item := (floatBits? .single item).map fun bits => ⟨bits.toUInt32⟩

def double : Form Double where
  toItem value := doubleItem value.bits.toNat
  ofItem? item := (floatBits? .double item).map fun bits => ⟨bits.toUInt64⟩

def commandNames : List String := ["Reboot", "SetGain", "Status"]

def statusNames : List String := ["active", "battery"]

def alternative? (item : Item) : Option Nat := (nameIndex? commandNames item).join

-- A command from the item that names it and the item that goes with it.
def commandWith? (name value : Item) : Option Command := do
  let alternative ← alternative? name
  match alternative with
  | 0 => (unit.ofItem? value).map fun _ => .reboot
  | 1 => (u16.ofItem? value).map .setGain
  | _ =>
      match ← fields? statusNames value with
      | [active, battery] => do
          let active ← bool.ofItem? active
          let battery ← u8.ofItem? battery
          return .status active battery
      | _ => none

-- A command that is only named needs no more. In an array, or as the entry of a map, something
-- always goes with the name. Such a map has no tag and its head takes one octet.
def command : Form Command where
  toItem
    | .reboot => .ofString "Reboot"
    | .setGain gain => .soleEntry (.ofString "SetGain") (u16.toItem gain)
    | .status active battery =>
        .soleEntry (.ofString "Status") (.map [(.ofString "active", bool.toItem active),
          (.ofString "battery", u8.toItem battery)])
  ofItem?
    | .array [name, value] => commandWith? name value
    | .soleEntry name value => commandWith? name value
    | item => if alternative? item = some 0 then some .reboot else none

def telemetryNames : List String := ["id", "label", "values"]

def telemetry : Form Telemetry where
  toItem value := .map [(.ofString "id", u32.toItem value.id),
    (.ofString "label", string.toItem value.label),
    (.ofString "values", (list single).toItem value.values)]
  ofItem? item := do
    match ← fields? telemetryNames item with
    | [id, label, values] => do
        let id ← u32.ofItem? id
        let label ← string.ofItem? label
        let values ← (list single).ofItem? values
        return { id, label, values }
    | _ => none

end Form

open Form in
def form : (kind : Kind) → Form kind.Carrier
  | .bool => bool
  | .u8 => u8
  | .u16 => u16
  | .u32 => u32
  | .u64 => u64
  | .i8 => i8
  | .i16 => i16
  | .i32 => i32
  | .i64 => i64
  | .char => char
  | .string => string
  | .unit => unit
  | .maybeU32 => optional u32
  | .u32s => list u32
  | .strings => list string
  | .numberedString => pair u8 string
  | .dictionary => dictionary
  | .command => command
  | .commands => list command
  | .single => single
  | .double => double
  | .telemetry => telemetry

def encode {kind : Kind} (value : kind.Carrier) : Bytes := ((form kind).toItem value).write

def decode? (kind : Kind) (bytes : Bytes) : Option kind.Carrier :=
  (Item.parse? bytes).bind (form kind).ofItem?

end FramedLines.Cbor
