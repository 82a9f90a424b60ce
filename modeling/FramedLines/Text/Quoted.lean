-- Quoted text that shows every character: what cannot be seen is written by its number.

namespace FramedLines.Quoted

-- The lower-case hexadecimal digits of a number.
def hexDigits (value : Nat) : List Char := Nat.toDigits 16 value

-- A character by its number.
def numbered (c : Char) : List Char :=
  ['\\', 'u', '\x7b'] ++ hexDigits c.toNat ++ ['\x7d']

def quoteChar (isPlain : Char → Bool) (c : Char) : List Char :=
  match c with
  | '\x00' => ['\\', '0']
  | '\t' => ['\\', 't']
  | '\r' => ['\\', 'r']
  | '\n' => ['\\', 'n']
  | '"' => ['\\', '"']
  | '\\' => ['\\', '\\']
  | c => if isPlain c then [c] else numbered c

def quote (isPlain : Char → Bool) (text : List Char) : List Char :=
  '"' :: text.flatMap (quoteChar isPlain) ++ ['"']

end FramedLines.Quoted
