-- Spans of time, counted in nanoseconds.

namespace FramedLines

-- A span below 2^64 seconds, so that its whole seconds fill at most one 64-bit word.
structure Duration where
  nanos : Nat
  bounded : nanos < UInt64.size * 1000000000
deriving DecidableEq

namespace Duration

-- How many nanoseconds each unit has.
abbrev second : Nat := 1000000000
abbrev millisecond : Nat := 1000000
abbrev microsecond : Nat := 1000

def zero : Duration := ⟨0, by decide⟩

-- The longest span there is.
def max : Duration := ⟨UInt64.size * second - 1, by decide⟩

-- A 64-bit count of milliseconds is always in range.
def ofMillis (millis : UInt64) : Duration :=
  ⟨millis.toNat * millisecond, by
    have := millis.toNat_lt_size
    simp only [UInt64.size, millisecond] at *
    omega⟩

-- A count of nanoseconds, or the longest span when there are too many.
def ofNanos (nanos : Nat) : Duration :=
  if h : nanos < UInt64.size * second then ⟨nanos, h⟩ else max

-- Nanoseconds beyond a second carry over. Nothing when the seconds overflow.
def ofParts? (seconds nanos : Nat) : Option Duration :=
  if h : seconds * second + nanos < UInt64.size * second then some ⟨_, h⟩ else none

def isZero (d : Duration) : Bool := d.nanos == 0

-- What is left of a span after so many nanoseconds.
def after (d : Duration) (spent : Nat) : Duration :=
  ⟨d.nanos - spent, Nat.lt_of_le_of_lt (Nat.sub_le ..) d.bounded⟩

def wholeSeconds (d : Duration) : Nat := d.nanos / second

def subsecNanos (d : Duration) : Nat := d.nanos % second

-- Clocks count seconds in a signed 64-bit word. A wait that would end beyond it never ends.
def expires (d : Duration) : Bool := d.wholeSeconds < 1 <<< 63

-- Whether a wait under this limit ever ends by itself.
def endsWait (limit : Option Duration) : Bool := limit.any expires

-- The decimal digits of `value` behind a point, `places` of them, without trailing zeros.
def fractionText (places value : Nat) : String :=
  let digits := Nat.toDigits 10 value
  let padded := List.replicate (places - digits.length) '0' ++ digits
  let kept := (padded.reverse.dropWhile (· == '0')).reverse
  if kept.isEmpty then "" else "." ++ String.ofList kept

-- The largest unit that gives a whole part, then the rest as a decimal fraction: `1.5s`, `50ms`.
def text (d : Duration) : String :=
  if second ≤ d.nanos then
    toString (d.nanos / second) ++ fractionText 9 (d.nanos % second) ++ "s"
  else if millisecond ≤ d.nanos then
    toString (d.nanos / millisecond) ++ fractionText 6 (d.nanos % millisecond) ++ "ms"
  else if microsecond ≤ d.nanos then
    toString (d.nanos / microsecond) ++ fractionText 3 (d.nanos % microsecond) ++ "µs"
  else
    toString d.nanos ++ "ns"

end Duration

end FramedLines
