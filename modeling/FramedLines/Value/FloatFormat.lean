-- Binary floating-point formats: what a pattern of bits stands for, and rounding to a format.

namespace FramedLines

-- A sign bit, an exponent field and a fraction field, from the top down. Both fields are at
-- least two bits wide in every format below.
structure FloatFormat where
  exponentBits : Nat
  fractionBits : Nat
deriving DecidableEq

-- What a pattern stands for.
inductive FloatValue where
  -- not a number; the payload is the fraction field behind its first bit
  | nan (negative : Bool) (payload : Nat)
  | infinite (negative : Bool)
  -- significand · 2 ^ exponent
  | finite (negative : Bool) (significand : Nat) (exponent : Int)
deriving DecidableEq

namespace FloatFormat

def half : FloatFormat := ⟨5, 10⟩
def single : FloatFormat := ⟨8, 23⟩
def double : FloatFormat := ⟨11, 52⟩

-- The exponent of the last place of the smallest numbers.
def leastExponent (format : FloatFormat) : Int :=
  2 - (1 <<< (format.exponentBits - 1) : Nat) - format.fractionBits

-- The exponent field of everything that is not finite.
def specialExponent (format : FloatFormat) : Nat := (1 <<< format.exponentBits) - 1

-- All bits but the sign of an infinity. The patterns of finite numbers lie below it.
def infinity (format : FloatFormat) : Nat := format.specialExponent <<< format.fractionBits

def signBit (format : FloatFormat) (negative : Bool) : Nat :=
  if negative then 1 <<< (format.exponentBits + format.fractionBits) else 0

def decode (format : FloatFormat) (bits : Nat) : FloatValue :=
  let negative := bits.testBit (format.exponentBits + format.fractionBits)
  let field := (bits >>> format.fractionBits) % (1 <<< format.exponentBits)
  let fraction := bits % (1 <<< format.fractionBits)
  if field = format.specialExponent then
    if fraction = 0 then .infinite negative
    else .nan negative (fraction % (1 <<< (format.fractionBits - 1)))
  else if field = 0 then .finite negative fraction format.leastExponent
  else
    .finite negative ((1 <<< format.fractionBits) + fraction)
      (format.leastExponent + (field - 1 : Nat))

-- A quotient by a power of two, rounded to the nearest integer, a tie to the even one.
def shiftRightEven (value places : Nat) : Nat :=
  let quotient := value >>> places
  let rest := value % (1 <<< places)
  if (1 <<< places) < 2 * rest || (2 * rest == 1 <<< places && quotient % 2 == 1) then quotient + 1
  else quotient

-- The pattern of the nearest number, a tie going to the even one. Successive patterns stand for
-- successive numbers, so a carry out of the significand lands in the exponent, and past the
-- last number lies infinity.
def round (format : FloatFormat) (negative : Bool) (significand : Nat) (exponent : Int) : Nat :=
  if significand = 0 then format.signBit negative
  else
    let place := max format.leastExponent (exponent + significand.log2 - format.fractionBits)
    let kept :=
      if place ≤ exponent then significand <<< (exponent - place).toNat
      else shiftRightEven significand (place - exponent).toNat
    let magnitude := ((place - format.leastExponent).toNat <<< format.fractionBits) + kept
    format.signBit negative + min magnitude format.infinity

-- What is not a number stays so, quietly, with as much of its payload as there is room for.
def encode (format : FloatFormat) : FloatValue → Nat
  | .nan negative payload =>
      format.signBit negative + format.infinity + (1 <<< (format.fractionBits - 1)) + payload
  | .infinite negative => format.signBit negative + format.infinity
  | .finite negative significand exponent => format.round negative significand exponent

-- A payload seen from another format: its upper bits line up.
def alignPayload (source target : FloatFormat) : FloatValue → FloatValue
  | .nan negative payload =>
      .nan negative ((payload <<< target.fractionBits) >>> source.fractionBits)
  | value => value

-- The pattern in `target` of what a pattern in `source` stands for.
def convert (source target : FloatFormat) (bits : Nat) : Nat :=
  target.encode (alignPayload source target (source.decode bits))

-- The nearest number to an integer.
def ofInt (format : FloatFormat) (value : Int) : Nat := format.round (value < 0) value.natAbs 0

end FloatFormat

end FramedLines
