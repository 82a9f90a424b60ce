import FramedLines.Bytes

-- CBOR data items, as far as the octets they stand in matter to readers of values.

namespace FramedLines.Cbor

inductive Item where
  | unsigned (value : Nat)
  -- stands for -1 - value
  | negative (value : Nat)
  | bytes (bytes : Bytes)
  | text (text : List Char)
  | array (items : List Item)
  | map (entries : List (Item × Item))
  -- a map of one entry whose head takes one octet
  | soleEntry (key value : Item)
  -- an item behind a tag, whichever it is
  | tagged (item : Item)
  | bool (value : Bool)
  | null
  | undefined
  | float16 (bits : UInt16)
  | float32 (bits : UInt32)
  | float64 (bits : UInt64)

namespace Item

-- The item behind all tags.
def untag : Item → Item
  | tagged item => item.untag
  | item => item

-- A map in its shortest form.
def ofEntries : List (Item × Item) → Item
  | [(key, value)] => soleEntry key value
  | entries => map entries

def entries? : Item → Option (List (Item × Item))
  | map entries => some entries
  | soleEntry key value => some [(key, value)]
  | _ => none

def ofString (text : String) : Item := .text text.toList

end Item

end FramedLines.Cbor
