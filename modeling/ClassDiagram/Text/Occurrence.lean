/-!
# Occurrences of one text in another

The readers of source text try their grammar wherever a keyword occurs. An
occurrence is represented by the part of the text that starts there: the
keyword itself and everything behind it. Occurrences are found from left to
right and do not overlap. The empty text occurs before every character and
once more at the end.
-/

namespace ClassDiagram.Text

/-- The parts of the text that start at an occurrence of `needle`, after the
next `skip` characters, which belong to an earlier occurrence. -/
def occurrencesFrom (needle : List Char) : (skip : Nat) → List Char → List (List Char)
  | _, [] => if needle.isEmpty then [[]] else []
  | skip + 1, _ :: cs => occurrencesFrom needle skip cs
  | 0, c :: cs =>
      if needle.isPrefixOf (c :: cs) then
        (c :: cs) :: occurrencesFrom needle (needle.length - 1) cs
      else
        occurrencesFrom needle 0 cs

/-- The parts of the text that start at an occurrence of `needle`, leftmost first. -/
def occurrences (needle cs : List Char) : List (List Char) := occurrencesFrom needle 0 cs

/-- The number of bytes of the text in UTF-8. -/
def byteLength : List Char → Nat
  | [] => 0
  | c :: cs => c.utf8Size + byteLength cs

/-- The positions of the occurrences, in bytes from the start of the text. -/
def occurrenceOffsets (needle cs : List Char) : List Nat :=
  (occurrences needle cs).map fun tail => byteLength cs - byteLength tail

end ClassDiagram.Text
