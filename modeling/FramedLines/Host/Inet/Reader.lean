import FramedLines.Host.Inet
import FramedLines.IoError
import FramedLines.Text.Cut

-- What addresses of TCP sockets look like: a host and a port behind the last colon. A host of the
-- newer family may stand between brackets.

namespace FramedLines.InetAddress

def digitValue (c : Char) : Nat :=
  if c.isDigit then c.toNat - '0'.toNat else c.toLower.toNat - 'a'.toNat + 10

def isHexDigit (c : Char) : Bool := c.isDigit || ('a' ≤ c.toLower && c.toLower ≤ 'f')

def isOctalDigit (c : Char) : Bool := '0' ≤ c && c ≤ '7'

def numeral (base : Nat) (chars : List Char) : Nat :=
  chars.foldl (fun value c => base * value + digitValue c) 0

-- The decimal number that some digits spell, when there are any.
def decimal? (chars : List Char) : Option Nat :=
  if chars.isEmpty || !chars.all Char.isDigit then none else some (numeral 10 chars)

-- A number of 32 bits at most. A zero in front makes it octal, and an x behind that hexadecimal.
def number? (chars : List Char) : Option Nat :=
  let value? := match chars with
    | '0' :: x :: rest =>
        if x == 'x' || x == 'X' then
          if !rest.isEmpty && rest.all isHexDigit then some (numeral 16 rest) else none
        else if (x :: rest).all isOctalDigit then some (numeral 8 (x :: rest)) else none
    | chars => decimal? chars
  value?.filter (· < UInt32.size)

-- The big-endian octets of a number.
def octets : (width : Nat) → Nat → List Nat
  | 0, _ => []
  | width + 1, value => octets width (value / 256) ++ [value % 256]

-- One to four numbers. All but the last are octets, and the last one fills what is left.
def hostNumbers? (numbers : List Nat) : Option (List Nat) :=
  match numbers.reverse with
  | [] => none
  | last :: others =>
      let left := 4 - others.length
      if others.length < 4 && others.all (· < 256) && last < 1 <<< (8 * left) then
        some (others.reverse ++ octets left last)
      else none

def v4? (chars : List Char) : Option IpAddress := do
  let numbers ← (chars.splitOn '.').mapM number?
  return .v4 (← hostNumbers? numbers)

-- One of four decimal numbers, without zeros in front.
def octet? (chars : List Char) : Option Nat :=
  if 1 < chars.length && chars.head? == some '0' then none
  else (decimal? chars).filter (· < 256)

-- The two groups that four octets fill.
def quad? (chars : List Char) : Option (List Nat) := do
  match ← (chars.splitOn '.').mapM octet? with
  | [a, b, c, d] => return [256 * a + b, 256 * c + d]
  | _ => none

def group? (chars : List Char) : Option (List Nat) :=
  if chars.isEmpty || 4 < chars.length || !chars.all isHexDigit then none
  else some [numeral 16 chars]

-- Groups between colons. The last one may be spelled as octets when it ends the address.
def groups? (endsAddress : Bool) (chars : List Char) : Option (List Nat) :=
  if chars.isEmpty then some []
  else
    let parts := chars.splitOn ':'
    match parts.getLast? with
    | none => some []
    | some last => do
        let front ← parts.dropLast.mapM group?
        let back ← (group? last).or (if endsAddress then quad? last else none)
        return front.flatten ++ back

-- Eight groups, or fewer around a double colon that stands for the others.
def allGroups? (chars : List Char) : Option (List Nat) :=
  match Text.cut [':', ':'] chars with
  | none => (groups? true chars).filter (·.length == 8)
  | some (before, after) => do
      let front ← groups? false before
      let back ← groups? true after
      if front.length + back.length < 8 then
        return front ++ List.replicate (8 - front.length - back.length) 0 ++ back
      else none

-- Groups, and perhaps the number of an interface behind a percent sign.
def v6? (chars : List Char) : Option IpAddress :=
  match Text.cut ['%'] chars with
  | none => (allGroups? chars).map (.v6 · 0)
  | some (before, after) => do
      let scope ← (decimal? after).filter (· < UInt32.size)
      return .v6 (← allGroups? before) scope

def port? (chars : List Char) : Option Nat :=
  let chars := match chars with
    | '+' :: rest => rest
    | chars => chars
  (decimal? chars).filter (· < UInt16.size)

-- An address between brackets and a port.
def bracketed? (chars : List Char) : Option InetAddress := do
  let (front, back) ← Text.cut [']', ':'] chars
  match front with
  | '[' :: inside =>
      let host ← v6? inside
      let port ← (decimal? back).filter (· < UInt16.size)
      return { host, port }
  | _ => none

def isLabel (chars : List Char) : Bool :=
  !chars.isEmpty && chars.length ≤ 63 &&
    chars.all fun c => c.isAlphanum || c == '-' || c == '_'

-- Whether somebody could be asked for a host of this name. A dot may close it.
def isName (chars : List Char) : Bool :=
  let bare := if chars.getLast? == some '.' then chars.dropLast else chars
  bare.length ≤ 253 && bare.head? != some '-' && (bare.splitOn '.').all isLabel

def unresolved (words : String) : IoError :=
  .worded .uncategorized ("failed to lookup address information: " ++ words)

-- A host without brackets. Numbers of the older family come first. There is nobody to ask for
-- names, but one is known.
def host? (chars : List Char) : Except IoError IpAddress :=
  if chars.contains '\x00' then
    .error (.worded .invalidInput "file name contained an unexpected NUL byte")
  else
    match (v4? chars).or (v6? chars) with
    | some host => .ok host
    | none =>
        if chars.map Char.toLower = "localhost".toList then .ok .loopback
        else if isName chars then .error (unresolved "Temporary failure in name resolution")
        else .error (unresolved "Name or service not known")

-- The port is judged before the host.
def parse (text : String) : Except IoError InetAddress :=
  match bracketed? text.toList with
  | some address => .ok address
  | none =>
      match Text.cutLast ':' text.toList with
      | none => .error (.worded .invalidInput "invalid socket address")
      | some (host, port) =>
          match port? port with
          | none => .error (.worded .invalidInput "invalid port value")
          | some port => (host? host).map fun host => { host, port }

end FramedLines.InetAddress
