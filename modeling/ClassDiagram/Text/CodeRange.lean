/-!
# Ranges of code points

The character classes of the later modules are properties of the Unicode
standard, and the standard publishes them as ranges of code points. A class is
kept in the same form: a list of ranges in ascending order, none touching the
next.
-/

namespace ClassDiagram.Text

/-- The code points from `first` to `last`, both included. -/
structure CodeRange where
  /-- The least code point. -/
  first : Nat
  /-- The greatest code point. -/
  last : Nat
deriving DecidableEq

namespace CodeRange

/-- Whether the character lies in the range. -/
def contains (r : CodeRange) (c : Char) : Bool := r.first ≤ c.toNat && c.toNat ≤ r.last

end CodeRange

/-- Whether the character lies in one of the ranges. -/
def inRanges (ranges : List CodeRange) (c : Char) : Bool := ranges.any (·.contains c)

end ClassDiagram.Text
