-- Texts in two parts, at the first place where a mark stands.

namespace FramedLines

namespace Text

-- What stands before and after the first `mark`.
def cut (mark : List Char) : List Char → Option (List Char × List Char)
  | [] => if mark.isEmpty then some ([], []) else none
  | c :: rest =>
      if mark.isPrefixOf (c :: rest) then some ([], (c :: rest).drop mark.length)
      else (cut mark rest).map fun (before, after) => (c :: before, after)

-- What stands before and after the last `mark`.
def cutLast (mark : Char) (chars : List Char) : Option (List Char × List Char) :=
  (cut [mark] chars.reverse).map fun (after, before) => (before.reverse, after.reverse)

end Text

end FramedLines
