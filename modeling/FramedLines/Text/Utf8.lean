import FramedLines.Bytes

-- UTF-8: writing characters as octets, and reading octets back with an exact report of
-- where and how a text breaks off.

namespace FramedLines.Utf8

def encodeChar (c : Char) : Bytes :=
  let n := c.toNat
  if n < 0x80 then [UInt8.ofNat n]
  else if n < 0x800 then [UInt8.ofNat (0xC0 + n / 64), UInt8.ofNat (0x80 + n % 64)]
  else if n < 0x10000 then
    [UInt8.ofNat (0xE0 + n / 4096), UInt8.ofNat (0x80 + n / 64 % 64), UInt8.ofNat (0x80 + n % 64)]
  else
    [UInt8.ofNat (0xF0 + n / 262144), UInt8.ofNat (0x80 + n / 4096 % 64),
      UInt8.ofNat (0x80 + n / 64 % 64), UInt8.ofNat (0x80 + n % 64)]

def encode (text : List Char) : Bytes := text.flatMap encodeChar

-- Where a text stops being UTF-8.
structure Breach where
  -- how many octets before it are well formed
  validUpTo : Nat
  -- how many octets can no longer become a character; nothing when the text just ends too soon
  length? : Option Nat
deriving DecidableEq

def Breach.text (breach : Breach) : String :=
  match breach.length? with
  | some length => s!"invalid utf-8 sequence of {length} bytes from index {breach.validUpTo}"
  | none => s!"incomplete utf-8 byte sequence from index {breach.validUpTo}"

def isContinuation (octet : UInt8) : Bool := 0x80 ≤ octet && octet < 0xC0

-- The second octet of a longer form is narrower after some leads: that keeps out overlong
-- forms, surrogates and everything above U+10FFFF.
def isSecondOfThree (lead second : UInt8) : Bool :=
  isContinuation second && (lead != 0xE0 || 0xA0 ≤ second) && (lead != 0xED || second < 0xA0)

def isSecondOfFour (lead second : UInt8) : Bool :=
  isContinuation second && (lead != 0xF0 || 0x90 ≤ second) && (lead != 0xF4 || second < 0x90)

def low (octet : UInt8) : Nat := octet.toNat % 64

-- Reads on behind `index` octets whose characters are in `done`, the last one first.
def decodeFrom (index : Nat) (done : List Char) : Bytes → Except Breach (List Char)
  | [] => .ok done.reverse
  | a :: rest =>
      if a < 0x80 then decodeFrom (index + 1) (Char.ofNat a.toNat :: done) rest
      else if a < 0xC2 then .error ⟨index, some 1⟩
      else if a < 0xE0 then
        match rest with
        | [] => .error ⟨index, none⟩
        | b :: rest =>
            if isContinuation b then
              decodeFrom (index + 2) (Char.ofNat (a.toNat % 32 * 64 + low b) :: done) rest
            else .error ⟨index, some 1⟩
      else if a < 0xF0 then
        match rest with
        | [] => .error ⟨index, none⟩
        | b :: rest =>
            if isSecondOfThree a b then
              match rest with
              | [] => .error ⟨index, none⟩
              | c :: rest =>
                  if isContinuation c then
                    decodeFrom (index + 3)
                      (Char.ofNat (a.toNat % 16 * 4096 + low b * 64 + low c) :: done) rest
                  else .error ⟨index, some 2⟩
            else .error ⟨index, some 1⟩
      else if a < 0xF5 then
        match rest with
        | [] => .error ⟨index, none⟩
        | b :: rest =>
            if isSecondOfFour a b then
              match rest with
              | [] => .error ⟨index, none⟩
              | c :: rest =>
                  if isContinuation c then
                    match rest with
                    | [] => .error ⟨index, none⟩
                    | d :: rest =>
                        if isContinuation d then
                          decodeFrom (index + 4)
                            (Char.ofNat (a.toNat % 8 * 262144 + low b * 4096 + low c * 64 + low d)
                              :: done) rest
                        else .error ⟨index, some 3⟩
                  else .error ⟨index, some 2⟩
            else .error ⟨index, some 1⟩
      else .error ⟨index, some 1⟩

def decode (bytes : Bytes) : Except Breach (List Char) := decodeFrom 0 [] bytes

end FramedLines.Utf8
