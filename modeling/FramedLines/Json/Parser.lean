import FramedLines.Json.Token

-- From the pieces of a JSON text to the value they spell.

namespace FramedLines.Json

mutual

-- One value from the front. Each call on the way takes a piece or is followed by one that does,
-- so twice the number of pieces is fuel enough.
def value? : Nat → List Token → Option (Json × List Token)
  | 0, _ => none
  | fuel + 1, tokens =>
      match tokens with
      | .null :: rest => some (.null, rest)
      | .bool b :: rest => some (.bool b, rest)
      | .number spelling :: rest => some (.number spelling, rest)
      | .string text :: rest => some (.string text, rest)
      | .openBracket :: .closeBracket :: rest => some (.array [], rest)
      | .openBracket :: rest => (items? fuel rest).map fun (items, rest) => (.array items, rest)
      | .openBrace :: .closeBrace :: rest => some (.object [], rest)
      | .openBrace :: rest =>
          (members? fuel rest).map fun (members, rest) => (.object members, rest)
      | _ => none

-- At least one item, up to and with the closing bracket.
def items? : Nat → List Token → Option (List Json × List Token)
  | 0, _ => none
  | fuel + 1, tokens =>
      match value? fuel tokens with
      | some (item, .closeBracket :: rest) => some ([item], rest)
      | some (item, .comma :: rest) =>
          (items? fuel rest).map fun (items, rest) => (item :: items, rest)
      | _ => none

-- At least one member, up to and with the closing brace.
def members? : Nat → List Token → Option (List (Option (List Char) × Json) × List Token)
  | 0, _ => none
  | fuel + 1, tokens =>
      match tokens with
      | .string name :: .colon :: tokens =>
          match value? fuel tokens with
          | some (value, .closeBrace :: rest) => some ([(name, value)], rest)
          | some (value, .comma :: rest) =>
              (members? fuel rest).map fun (members, rest) => ((name, value) :: members, rest)
          | _ => none
      | _ => none

end

-- The value that the pieces spell, all of them.
def ofTokens? (tokens : List Token) : Option Json :=
  match value? (2 * tokens.length + 1) tokens with
  | some (json, []) => some json
  | _ => none

def parse? (text : String) : Option Json := (Token.ofText? text.toList).bind ofTokens?

end FramedLines.Json
