import FramedLines.Postcard.Codec

-- Numbers in groups of seven bits, lowest first. Every octet but the last has its top bit set.

namespace FramedLines.Postcard.Varint

-- How many octets a number of so many bits can take.
def places (bits : Nat) : Nat := (bits + 6) / 7

-- The octets of a number that fits in `places` groups.
def write : (places : Nat) → Nat → Bytes
  | 0, _ => []
  | places + 1, value =>
      if value < 128 then [UInt8.ofNat value]
      else UInt8.ofNat (128 + value % 128) :: write places (value / 128)

-- Reads on while at most `places` octets are left. The last of them has bits above the number,
-- and none of those may be set.
def readFrom (lastLimit : Nat) : (places : Nat) → Bytes → Except Problem (Nat × Bytes)
  | 0, _ => .error .badVarint
  | _ + 1, [] => .error .endOfBuffer
  | places + 1, octet :: rest =>
      if octet.toNat < 128 then
        if places = 0 ∧ lastLimit ≤ octet.toNat then .error .badVarint
        else .ok (octet.toNat, rest)
      else
        match readFrom lastLimit places rest with
        | .ok (high, rest) => .ok (octet.toNat % 128 + 128 * high, rest)
        | .error problem => .error problem

-- Numbers of `bits` bits.
def codec (bits : Nat) : Codec Nat where
  write := write (places bits)
  read := readFrom (1 <<< (bits - 7 * (places bits - 1))) (places bits)

-- Signed numbers in the order 0, -1, 1, -2, 2, so that small ones stay short.
def zigzag (value : Int) : Nat :=
  if 0 ≤ value then 2 * value.toNat else 2 * (-value).toNat - 1

def unzigzag (code : Nat) : Int :=
  if code % 2 = 0 then (code / 2 : Nat) else -((code / 2 + 1 : Nat) : Int)

end FramedLines.Postcard.Varint
