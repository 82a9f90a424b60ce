import FramedLines.Cbor.Item
import FramedLines.Text.Utf8

-- The octets of an item: every head in its shortest form, and every length given in front.

namespace FramedLines.Cbor

def bigEndian (width value : Nat) : Bytes := (Bytes.ofNat width value).reverse

-- A major type and its argument, which is below 2^64.
def head (major argument : Nat) : Bytes :=
  if argument < 24 then [UInt8.ofNat (32 * major + argument)]
  else if argument < UInt8.size then UInt8.ofNat (32 * major + 24) :: bigEndian 1 argument
  else if argument < UInt16.size then UInt8.ofNat (32 * major + 25) :: bigEndian 2 argument
  else if argument < UInt32.size then UInt8.ofNat (32 * major + 26) :: bigEndian 4 argument
  else UInt8.ofNat (32 * major + 27) :: bigEndian 8 argument

-- A run of octets behind its length.
def sized (major : Nat) (octets : Bytes) : Bytes := head major octets.length ++ octets

namespace Item

mutual

-- A tag that has been left out cannot be written again; the item behind it can.
def write : Item → Bytes
  | .unsigned value => head 0 value
  | .negative value => head 1 value
  | .bytes octets => sized 2 octets
  | .text chars => sized 3 (Utf8.encode chars)
  | .array items => head 4 items.length ++ writeAll items
  | .map entries => head 5 entries.length ++ writeEntries entries
  | .soleEntry key value => head 5 1 ++ (write key ++ write value)
  | .tagged item => write item
  | .bool false => [0xF4]
  | .bool true => [0xF5]
  | .null => [0xF6]
  | .undefined => [0xF7]
  | .float16 bits => 0xF9 :: bigEndian 2 bits.toNat
  | .float32 bits => 0xFA :: bigEndian 4 bits.toNat
  | .float64 bits => 0xFB :: bigEndian 8 bits.toNat

def writeAll : List Item → Bytes
  | [] => []
  | item :: items => write item ++ writeAll items

def writeEntries : List (Item × Item) → Bytes
  | [] => []
  | (key, value) :: entries => write key ++ (write value ++ writeEntries entries)

end

end Item

end FramedLines.Cbor
