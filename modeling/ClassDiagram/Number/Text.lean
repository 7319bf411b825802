import ClassDiagram.Number.Shortest

/-!
# How numbers are written

A binary number is written with its shortest digits. The point stands among or
around the digits as long as the leading digit's power of ten is between -5
and 15, and at least one digit follows it. Outside that span the leading digit
stands before the point, and the power of ten is written after an `e`, always
with its sign.
-/

namespace ClassDiagram.Number

namespace Decimal

/-- The layout of written decimals: the powers of ten of the leading digit for
which no exponent is written. -/
structure Layout where
  /-- The least such power. -/
  leastPlain : Int
  /-- The greatest such power. -/
  greatestPlain : Int
deriving DecidableEq, Repr

/-- Exponents are left out from the fifth place after the point to the
sixteenth before it. -/
def layout : Layout := ⟨-5, 15⟩

/-- The digits of a natural number. -/
def digitsOf (n : Nat) : List Char := Nat.toDigits 10 n

/-- The given number of zeros. -/
def zeros (count : Int) : List Char := List.replicate count.toNat '0'

/-- The power of ten with its sign. -/
def exponentText (power : Int) : List Char :=
  'e' :: (if power < 0 then '-' else '+') :: digitsOf power.natAbs

/-- The decimal as text, under the layout. -/
def toChars (d : Decimal) : List Char :=
  let ds := digitsOf d.digits
  let leading := (ds.length : Int) - 1 + d.exponent
  if layout.leastPlain ≤ leading ∧ leading ≤ layout.greatestPlain then
    if 0 ≤ d.exponent then ds ++ zeros d.exponent ++ ['.', '0']
    else if 0 ≤ leading then ds.take (leading.toNat + 1) ++ '.' :: ds.drop (leading.toNat + 1)
    else ['0', '.'] ++ zeros (-leading - 1) ++ ds
  else
    match ds with
    | [] => []
    | [digit] => digit :: exponentText leading
    | digit :: more => digit :: '.' :: more ++ exponentText leading

end Decimal

/-- The number as text. -/
def Binary64.toChars (x : Binary64) : List Char :=
  (if x.negative then ['-'] else []) ++ (Decimal.shortest x.magnitude).toChars

/-- An integer as text. -/
def integerChars (n : Int) : List Char :=
  (if n < 0 then ['-'] else []) ++ Decimal.digitsOf n.natAbs

end ClassDiagram.Number
