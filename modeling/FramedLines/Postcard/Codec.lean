import FramedLines.Bytes

-- Codecs for octets that describe themselves as little as possible: a writer for a type and a
-- reader that takes one value off the front. Codecs of parts make codecs of wholes.

namespace FramedLines.Postcard

inductive Problem where
  | endOfBuffer | badVarint | badBool | badChar | badText | badOption
  -- what was read names no value of its type
  | noSuchValue
deriving DecidableEq

def Problem.text : Problem → String
  | endOfBuffer => "Hit the end of buffer, expected more data"
  | badVarint => "Found a varint that didn't terminate. Is the usize too big for this platform?"
  | badBool => "Found a bool that wasn't 0 or 1"
  | badChar => "Found an invalid unicode char"
  | badText => "Tried to parse invalid utf-8"
  | badOption => "Found an Option discriminant that wasn't 0 or 1"
  | noSuchValue => "Serde Deserialization Error"

-- A reader yields a value and the octets behind it.
structure Codec (α : Type) where
  write : α → Bytes
  read : Bytes → Except Problem (α × Bytes)

-- The first `count` octets.
def takeOctets (count : Nat) (bytes : Bytes) : Except Problem (Bytes × Bytes) :=
  match bytes.split? count with
  | some parts => .ok parts
  | none => .error .endOfBuffer

namespace Codec

-- The same octets, read as another type.
def via (codec : Codec α) (make : α → β) (view : β → α) : Codec β where
  write value := codec.write (view value)
  read bytes := (codec.read bytes).map fun (value, rest) => (make value, rest)

def unit : Codec Unit where
  write _ := []
  read bytes := .ok ((), bytes)

-- A number of `width` octets, the lowest first.
def fixed (width : Nat) : Codec Nat where
  write value := Bytes.ofNat width value
  read bytes := (takeOctets width bytes).map fun (octets, rest) => (Bytes.toNat octets, rest)

def pair (first : Codec α) (second : Codec β) : Codec (α × β) where
  write value := first.write value.1 ++ second.write value.2
  read bytes := do
    let (one, rest) ← first.read bytes
    let (other, rest) ← second.read rest
    return ((one, other), rest)

-- A flag octet says whether a value follows.
def optional (item : Codec α) : Codec (Option α) where
  write
    | none => [0]
    | some value => 1 :: item.write value
  read
    | [] => .error .endOfBuffer
    | flag :: rest =>
        if flag = 0 then .ok (none, rest)
        else if flag = 1 then (item.read rest).map fun (value, rest) => (some value, rest)
        else .error .badOption

-- The next `count` items. The ones in `done` came before, the last one first.
def readItems (item : Codec α) :
    (count : Nat) → (done : List α) → Bytes → Except Problem (List α × Bytes)
  | 0, done, bytes => .ok (done.reverse, bytes)
  | count + 1, done, bytes =>
      match item.read bytes with
      | .ok (value, rest) => readItems item count (value :: done) rest
      | .error problem => .error problem

-- As many items as `length` says.
def counted (length : Codec Nat) (item : Codec α) : Codec (List α) where
  write items := length.write items.length ++ items.flatMap item.write
  read bytes := do
    let (count, rest) ← length.read bytes
    readItems item count [] rest

end Codec

end FramedLines.Postcard
