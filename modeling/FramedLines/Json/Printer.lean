import FramedLines.Json

-- JSON values written without white space.

namespace FramedLines.Json

def hexDigit (value : Nat) : Char := Nat.digitChar (value % 16)

-- Quotes, backslashes and control characters are escaped, with a letter where there is one.
def quoteChar (c : Char) : List Char :=
  match c with
  | '"' => ['\\', '"']
  | '\\' => ['\\', '\\']
  | '\x08' => ['\\', 'b']
  | '\x0c' => ['\\', 'f']
  | '\n' => ['\\', 'n']
  | '\r' => ['\\', 'r']
  | '\t' => ['\\', 't']
  | c =>
      if c.toNat < 0x20 then ['\\', 'u', '0', '0', hexDigit (c.toNat / 16), hexDigit c.toNat]
      else [c]

def quote (text : List Char) : List Char := '"' :: text.flatMap quoteChar ++ ['"']

mutual

-- A string without a text is written as `null`.
def chars : Json → List Char
  | .null => ['n', 'u', 'l', 'l']
  | .bool true => ['t', 'r', 'u', 'e']
  | .bool false => ['f', 'a', 'l', 's', 'e']
  | .number spelling => spelling
  | .string (some text) => quote text
  | .string none => ['n', 'u', 'l', 'l']
  | .array items => '[' :: itemChars items ++ [']']
  | .object members => '{' :: memberChars members ++ ['}']

def itemChars : List Json → List Char
  | [] => []
  | [item] => chars item
  | item :: items => chars item ++ ',' :: itemChars items

def memberChars : List (Option (List Char) × Json) → List Char
  | [] => []
  | [(name, value)] => quote (name.getD []) ++ ':' :: chars value
  | (name, value) :: members =>
      quote (name.getD []) ++ ':' :: chars value ++ ',' :: memberChars members

end

def render (json : Json) : String := String.ofList json.chars

end FramedLines.Json
