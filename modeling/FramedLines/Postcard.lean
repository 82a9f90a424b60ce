import FramedLines.Postcard.Varint
import FramedLines.Text.Utf8
import FramedLines.Value

-- The compact format, kind by kind. Nothing in it names a type or a field, so a reader has to
-- know what it reads; what follows the value does not matter.

namespace FramedLines.Postcard

open Codec

def bool : Codec Bool where
  write value := [if value then 1 else 0]
  read
    | [] => .error .endOfBuffer
    | octet :: rest =>
        if octet = 0 then .ok (false, rest)
        else if octet = 1 then .ok (true, rest)
        else .error .badBool

def octet : Codec UInt8 where
  write value := [value]
  read
    | [] => .error .endOfBuffer
    | octet :: rest => .ok (octet, rest)

def signed (bits : Nat) : Codec Int := (Varint.codec bits).via Varint.unzigzag Varint.zigzag

def u16 : Codec UInt16 := (Varint.codec 16).via Nat.toUInt16 UInt16.toNat
def u32 : Codec UInt32 := (Varint.codec 32).via Nat.toUInt32 UInt32.toNat
def u64 : Codec UInt64 := (Varint.codec 64).via Nat.toUInt64 UInt64.toNat
def i8 : Codec Int8 := octet.via UInt8.toInt8 Int8.toUInt8
def i16 : Codec Int16 := (signed 16).via Int16.ofInt Int16.toInt
def i32 : Codec Int32 := (signed 32).via Int32.ofInt Int32.toInt
def i64 : Codec Int64 := (signed 64).via Int64.ofInt Int64.toInt

-- Counts and lengths are numbers of 64 bits.
def length : Codec Nat := Varint.codec 64

def single : Codec Single :=
  (fixed 4).via (fun bits => ⟨bits.toUInt32⟩) fun value => value.bits.toNat

def double : Codec Double :=
  (fixed 8).via (fun bits => ⟨bits.toUInt64⟩) fun value => value.bits.toNat

def octets : Codec Bytes where
  write bytes := length.write bytes.length ++ bytes
  read bytes := do
    let (count, rest) ← length.read bytes
    takeOctets count rest

def string : Codec String where
  write text := octets.write (Utf8.encode text.toList)
  read bytes := do
    let (form, rest) ← octets.read bytes
    match Utf8.decode form with
    | .ok text => return (String.ofList text, rest)
    | .error _ => throw .badText

-- A character is written as a text. Of a longer text that fits in four octets the first
-- character is taken.
def char : Codec Char where
  write c := octets.write (Utf8.encodeChar c)
  read bytes := do
    let (count, rest) ← length.read bytes
    if 4 < count then throw .badChar
    let (form, rest) ← takeOctets count rest
    match Utf8.decode form with
    | .ok (c :: _) => return (c, rest)
    | _ => throw .badChar

def list (item : Codec α) : Codec (List α) := counted length item

def dictionary : Codec Dictionary :=
  (list (pair string u32)).via Dictionary.ofEntries Dictionary.entries

-- The number of the alternative, then its fields.
def command : Codec Command where
  write
    | .reboot => u32.write 0
    | .setGain gain => u32.write 1 ++ u16.write gain
    | .status active battery => u32.write 2 ++ (bool.write active ++ octet.write battery)
  read bytes := do
    let (alternative, rest) ← u32.read bytes
    if alternative = 0 then return (.reboot, rest)
    else if alternative = 1 then
      let (gain, rest) ← u16.read rest
      return (.setGain gain, rest)
    else if alternative = 2 then
      let ((active, battery), rest) ← (pair bool octet).read rest
      return (.status active battery, rest)
    else throw .noSuchValue

def telemetry : Codec Telemetry :=
  (pair u32 (pair string (list single))).via
    (fun (id, label, values) => { id, label, values })
    fun value => (value.id, value.label, value.values)

def codec : (kind : Kind) → Codec kind.Carrier
  | .bool => bool
  | .u8 => octet
  | .u16 => u16
  | .u32 => u32
  | .u64 => u64
  | .i8 => i8
  | .i16 => i16
  | .i32 => i32
  | .i64 => i64
  | .char => char
  | .string => string
  | .unit => unit
  | .maybeU32 => optional u32
  | .u32s => list u32
  | .strings => list string
  | .numberedString => pair octet string
  | .dictionary => dictionary
  | .command => command
  | .commands => list command
  | .single => single
  | .double => double
  | .telemetry => telemetry

def encode {kind : Kind} (value : kind.Carrier) : Bytes := (codec kind).write value

def decode (kind : Kind) (bytes : Bytes) : Except Problem kind.Carrier :=
  ((codec kind).read bytes).map (·.1)

end FramedLines.Postcard
