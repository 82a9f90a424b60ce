import FramedLines.Json

-- The pieces a JSON text is made of. White space between them carries no meaning.

namespace FramedLines.Json

inductive Token where
  | openBrace | closeBrace | openBracket | closeBracket | comma | colon
  | null
  | bool (value : Bool)
  | number (spelling : List Char)
  | string (text : Option (List Char))
deriving DecidableEq

-- What stands between quotes, one UTF-16 escape or one character at a time.
inductive StringUnit where
  | char (c : Char)
  | escape (unit : Nat)
deriving DecidableEq

namespace StringUnit

def isLead (unit : Nat) : Bool := 0xD800 ≤ unit && unit < 0xDC00

def isTrail (unit : Nat) : Bool := 0xDC00 ≤ unit && unit < 0xE000

-- Two escapes that form a surrogate pair are one character. Half a pair has no text.
def text? : List StringUnit → Option (List Char)
  | [] => some []
  | char c :: rest => (text? rest).map (c :: ·)
  | escape unit :: rest =>
      if isLead unit then
        match rest with
        | escape trail :: rest =>
            if isTrail trail then
              (text? rest).map
                (Char.ofNat (0x10000 + (unit - 0xD800) * 0x400 + (trail - 0xDC00)) :: ·)
            else none
        | _ => none
      else if isTrail unit then none
      else (text? rest).map (Char.ofNat unit :: ·)

end StringUnit

namespace Token

def isSpace (c : Char) : Bool := c == ' ' || c == '\n' || c == '\t' || c == '\r'

def hexDigit? (c : Char) : Option Nat :=
  if '0' ≤ c && c ≤ '9' then some (c.toNat - '0'.toNat)
  else if 'a' ≤ c && c ≤ 'f' then some (c.toNat - 'a'.toNat + 10)
  else if 'A' ≤ c && c ≤ 'F' then some (c.toNat - 'A'.toNat + 10)
  else none

-- The character a one-letter escape stands for.
def escaped? : Char → Option Char
  | '"' => some '"'
  | '\\' => some '\\'
  | '/' => some '/'
  | 'b' => some '\x08'
  | 'f' => some '\x0c'
  | 'n' => some '\n'
  | 'r' => some '\r'
  | 't' => some '\t'
  | _ => none

-- The units up to the closing quote and the text behind it. Control characters must be escaped.
def scanString : List Char → Option (List StringUnit × List Char)
  | [] => none
  | '"' :: rest => some ([], rest)
  | '\\' :: 'u' :: a :: b :: c :: d :: rest =>
      match hexDigit? a, hexDigit? b, hexDigit? c, hexDigit? d with
      | some a, some b, some c, some d =>
          (scanString rest).map fun (units, rest) =>
            (.escape (((a * 16 + b) * 16 + c) * 16 + d) :: units, rest)
      | _, _, _, _ => none
  | '\\' :: c :: rest =>
      match escaped? c with
      | some c => (scanString rest).map fun (units, rest) => (.char c :: units, rest)
      | none => none
  | c :: rest =>
      if c == '\\' || c.toNat < 0x20 then none
      else (scanString rest).map fun (units, rest) => (.char c :: units, rest)

-- The digits in front, of which there must be one.
def scanDigits? (chars : List Char) : Option (List Char × List Char) :=
  match chars.span Char.isDigit with
  | ([], _) => none
  | split => some split

-- No digit follows a leading zero.
def scanWhole? : List Char → Option (List Char × List Char)
  | '0' :: rest => some (['0'], rest)
  | chars => scanDigits? chars

def scanFraction? : List Char → Option (List Char × List Char)
  | '.' :: rest => (scanDigits? rest).map fun (digits, rest) => ('.' :: digits, rest)
  | chars => some ([], chars)

def scanExponent? : List Char → Option (List Char × List Char)
  | c :: rest =>
      if c == 'e' || c == 'E' then
        match rest with
        | '+' :: rest => (scanDigits? rest).map fun (digits, rest) => (c :: '+' :: digits, rest)
        | '-' :: rest => (scanDigits? rest).map fun (digits, rest) => (c :: '-' :: digits, rest)
        | rest => (scanDigits? rest).map fun (digits, rest) => (c :: digits, rest)
      else some ([], c :: rest)
  | [] => some ([], [])

-- An unsigned number: a whole part, then perhaps a fraction and an exponent.
def scanUnsigned? (chars : List Char) : Option (List Char × List Char) := do
  let (whole, chars) ← scanWhole? chars
  let (fraction, chars) ← scanFraction? chars
  let (exponent, chars) ← scanExponent? chars
  return (whole ++ fraction ++ exponent, chars)

-- The first piece of a text that starts with none of the white space.
def scan? : List Char → Option (Token × List Char)
  | '{' :: rest => some (.openBrace, rest)
  | '}' :: rest => some (.closeBrace, rest)
  | '[' :: rest => some (.openBracket, rest)
  | ']' :: rest => some (.closeBracket, rest)
  | ',' :: rest => some (.comma, rest)
  | ':' :: rest => some (.colon, rest)
  | 'n' :: 'u' :: 'l' :: 'l' :: rest => some (.null, rest)
  | 't' :: 'r' :: 'u' :: 'e' :: rest => some (.bool true, rest)
  | 'f' :: 'a' :: 'l' :: 's' :: 'e' :: rest => some (.bool false, rest)
  | '"' :: rest =>
      (scanString rest).map fun (units, rest) => (.string (StringUnit.text? units), rest)
  | '-' :: rest =>
      (scanUnsigned? rest).map fun (spelling, rest) => (.number ('-' :: spelling), rest)
  | chars => (scanUnsigned? chars).map fun (spelling, rest) => (.number spelling, rest)

-- Each piece takes at least one character, so the text's length bounds the number of pieces.
def scanAll? : Nat → List Char → Option (List Token)
  | fuel, chars =>
      match chars.dropWhile isSpace with
      | [] => some []
      | chars =>
          match fuel with
          | 0 => none
          | fuel + 1 =>
              match scan? chars with
              | none => none
              | some (token, rest) => (scanAll? fuel rest).map (token :: ·)

def ofText? (text : List Char) : Option (List Token) := scanAll? text.length text

end Token

end FramedLines.Json
