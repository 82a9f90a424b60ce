-- JSON values as they stand in a text: numbers keep their spelling and objects keep the order
-- and the repetitions of their members.

namespace FramedLines

inductive Json where
  | null
  | bool (value : Bool)
  -- the spelling of the number
  | number (spelling : List Char)
  -- nothing when an escape names half of a surrogate pair, so that there is no text
  | string (text : Option (List Char))
  | array (items : List Json)
  | object (members : List (Option (List Char) × Json))

namespace Json

-- The value of a run of decimal digits.
def decimal (digits : List Char) : Nat :=
  digits.foldl (fun value digit => 10 * value + (digit.toNat - '0'.toNat)) 0

-- A number spelled with digits only. A sign, a point or an exponent makes it something else.
def natural? : Json → Option Nat
  | number spelling => if spelling.all Char.isDigit then some (decimal spelling) else none
  | _ => none

-- A natural number below `bound`.
def below? (bound : Nat) (json : Json) : Option Nat :=
  (natural? json).filter (· < bound)

def ofNat (value : Nat) : Json := number (Nat.toDigits 10 value)

def ofString (text : String) : Json := string (some text.toList)

-- One value for each wanted name, from an object with each name at most once or from an array
-- that gives them in order and may stop early. Other names are passed over unless `closed`.
def slots? (names : List String) (closed : Bool) : Json → Option (List (Option Json))
  | array items =>
      if items.length ≤ names.length then
        some (items.map some ++ List.replicate (names.length - items.length) none)
      else none
  | object members =>
      match members.mapM fun (name, value) => name.map (String.ofList ·, value) with
      | none => none
      | some members =>
          if closed && members.any (fun (name, _) => !names.contains name) then none
          else names.mapM fun name =>
            match members.filter (·.1 == name) with
            | [] => some none
            | [(_, value)] => some (some value)
            | _ => none
  | _ => none

end Json

end FramedLines
