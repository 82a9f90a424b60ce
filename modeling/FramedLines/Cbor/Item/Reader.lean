import FramedLines.Cbor.Item
import FramedLines.Text.Utf8

-- Items read from octets. Heads may be longer than they need to be, and lengths may be left
-- open up to a break.

namespace FramedLines.Cbor

-- A reader of one thing off the front of a run of octets.
abbrev Taker (α : Type) := Bytes → Option (α × Bytes)

def takeNumber (width : Nat) : Taker Nat := fun bytes =>
  (bytes.split? width).map fun (octets, rest) => (Bytes.toNat octets.reverse, rest)

-- What a head says besides its major type. An open length has no number.
def takeArgument (info : Nat) (bytes : Bytes) : Option (Option Nat × Bytes) :=
  if info < 24 then some (some info, bytes)
  else if info < 28 then
    (takeNumber (1 <<< (info - 24)) bytes).map fun (value, rest) => (some value, rest)
  else if info = 31 then some (none, bytes)
  else none

-- The octet that ends what has no length.
def stop : UInt8 := 0xFF

-- The pieces of a string of open length, each with a length of its own. The octets of the ones
-- before are in `done`, the last one first.
def takePieces (major : Nat) : (fuel : Nat) → (done : Bytes) → Taker Bytes
  | 0, _, _ => none
  | _ + 1, _, [] => none
  | fuel + 1, done, octet :: rest =>
      if octet = stop then some (done.reverse, rest)
      else if octet.toNat / 32 = major then
        match takeArgument (octet.toNat % 32) rest with
        | some (some length, rest) =>
            match rest.split? length with
            | some (piece, rest) => takePieces major fuel (piece.reverseAux done) rest
            | none => none
        | _ => none
      else none

def takeString (major info : Nat) (bytes : Bytes) : Option (Bytes × Bytes) :=
  match takeArgument info bytes with
  | some (some length, rest) => rest.split? length
  | some (none, rest) => takePieces major rest.length [] rest
  | none => none

-- The next `count` things. The ones in `done` came before, the last one first.
def takeMany (one : Taker α) : (count : Nat) → (done : List α) → Taker (List α)
  | 0, done, bytes => some (done.reverse, bytes)
  | count + 1, done, bytes =>
      match one bytes with
      | some (value, rest) => takeMany one count (value :: done) rest
      | none => none

-- The things in front of the next break.
def takeUntilStop (one : Taker α) : (fuel : Nat) → (done : List α) → Taker (List α)
  | 0, _, _ => none
  | fuel + 1, done, bytes =>
      match bytes with
      | [] => none
      | octet :: rest =>
          if octet = stop then some (done.reverse, rest)
          else
            match one bytes with
            | some (value, rest) => takeUntilStop one fuel (value :: done) rest
            | none => none

-- As many things as the head says, or all those in front of the break.
def takeGroup (one : Taker α) (info : Nat) (bytes : Bytes) : Option (List α × Bytes) :=
  match takeArgument info bytes with
  | some (some count, rest) => takeMany one count [] rest
  | some (none, rest) => takeUntilStop one rest.length [] rest
  | none => none

def takeEntry (one : Taker Item) : Taker (Item × Item) := fun bytes =>
  match one bytes with
  | none => none
  | some (key, rest) => (one rest).map fun (value, rest) => ((key, value), rest)

def takeSimple (info : Nat) (bytes : Bytes) : Option (Item × Bytes) :=
  match info with
  | 20 => some (.bool false, bytes)
  | 21 => some (.bool true, bytes)
  | 22 => some (.null, bytes)
  | 23 => some (.undefined, bytes)
  | 25 => (takeNumber 2 bytes).map fun (bits, rest) => (.float16 bits.toUInt16, rest)
  | 26 => (takeNumber 4 bytes).map fun (bits, rest) => (.float32 bits.toUInt32, rest)
  | 27 => (takeNumber 8 bytes).map fun (bits, rest) => (.float64 bits.toUInt64, rest)
  | _ => none

namespace Item

-- One item. What it holds is read by `nested?`; without that it can hold nothing.
def takeWith (nested? : Option (Taker Item)) : Taker Item
  | [] => none
  | octet :: rest =>
      let info := octet.toNat % 32
      match octet.toNat / 32 with
      | 0 =>
          match takeArgument info rest with
          | some (some value, rest) => some (.unsigned value, rest)
          | _ => none
      | 1 =>
          match takeArgument info rest with
          | some (some value, rest) => some (.negative value, rest)
          | _ => none
      | 2 => (takeString 2 info rest).map fun (octets, rest) => (.bytes octets, rest)
      | 3 =>
          match takeString 3 info rest with
          | none => none
          | some (form, rest) =>
              match Utf8.decode form with
              | .ok chars => some (.text chars, rest)
              | .error _ => none
      | 4 => nested?.bind fun nested =>
          (takeGroup nested info rest).map fun (items, rest) => (.array items, rest)
      | 5 => nested?.bind fun nested =>
          (takeGroup (takeEntry nested) info rest).map fun (entries, rest) =>
            (if info = 1 then ofEntries entries else .map entries, rest)
      | 6 => nested?.bind fun nested =>
          match takeArgument info rest with
          | some (some _, rest) => (nested rest).map fun (item, rest) => (.tagged item, rest)
          | _ => none
      | _ => takeSimple info rest

-- One item in which no more than `depth` arrays, maps and tags stand inside each other.
def take : (depth : Nat) → Taker Item
  | 0 => takeWith none
  | depth + 1 => takeWith (some (take depth))

def deepest : Nat := 127

-- The item that these octets are, with nothing behind it.
def parse? (octets : Bytes) : Option Item :=
  match take deepest octets with
  | some (item, []) => some item
  | _ => none

end Item

end FramedLines.Cbor
