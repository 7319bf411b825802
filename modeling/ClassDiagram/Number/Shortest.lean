import ClassDiagram.Number.Binary64

/-!
# The shortest decimal of a binary number

A number of the binary format stands for an interval: all reals that round to
it. It is written with the fewest decimal digits whose value lies in that
interval; of several such decimals the nearest is taken, and of two equally
near ones the one with the even last digit.

For a given count of digits the candidates lie on a grid, and if any point of
the grid is in the interval, one of the two neighbours of the number itself is.
So it is enough to try those two, for one digit, for two, and so on. Seventeen
digits always suffice.
-/

namespace ClassDiagram.Number

/-- The number `digits * 10 ^ exponent`. -/
structure Decimal where
  /-- The digits as one natural number. -/
  digits : Nat
  /-- The power of ten of the last digit. -/
  exponent : Int
deriving DecidableEq, Repr

namespace Decimal

/-- Compares `a * 10 ^ i` with `n * 2 ^ j`. -/
def compareScaled (a : Nat) (i : Int) (n : Nat) (j : Int) : Ordering :=
  compare (a * Nat.pow 10 i.toNat * Nat.pow 2 (-j).toNat)
    (n * Nat.pow 2 j.toNat * Nat.pow 10 (-i).toNat)

/-- Whether the gap to the number below is half the gap to the number above:
so it is at the powers of two, except where the exponent cannot shrink. -/
def hasNarrowGapBelow (m : Magnitude) : Bool :=
  m.significand = significandBound / 2 && decide (Magnitude.minExponent < m.exponent)

/-- Whether the decimal is one of the reals that round to the number. -/
def readsBack (m : Magnitude) (d : Decimal) : Bool :=
  let low := if hasNarrowGapBelow m then 4 * m.significand - 1 else 4 * m.significand - 2
  let high := 4 * m.significand + 2
  -- The ends belong to the interval exactly if the significand is even.
  let closed := m.significand % 2 = 0
  let atLow := compareScaled d.digits d.exponent low (m.exponent - 2)
  let atHigh := compareScaled d.digits d.exponent high (m.exponent - 2)
  (atLow = .gt || (closed && atLow = .eq)) && (atHigh = .lt || (closed && atHigh = .eq))

/-- The number divided by `10 ^ exponent`, rounded down. -/
def floorOnGrid (m : Magnitude) (exponent : Int) : Nat :=
  m.numerator * Nat.pow 10 (-exponent).toNat / (m.denominator * Nat.pow 10 exponent.toNat)

/-- The least `k` between `low` and `low + steps` with the number below
`10 ^ k`, or `low + steps` if there is none. -/
def scaleFrom (m : Magnitude) (low : Int) : (steps : Nat) → Int
  | 0 => low
  | steps + 1 => if floorOnGrid m low = 0 then low else scaleFrom m (low + 1) steps

/-- The least `k` with the number below `10 ^ k`. No number of the format is
below `10 ^ (-323)` except zero, and all are below `10 ^ 309`. -/
def scale (m : Magnitude) : Int := scaleFrom m (-324) 633

/-- The nearer of the two neighbours of the number on the grid, if one reads back. -/
def onGrid? (m : Magnitude) (exponent : Int) : Option Decimal :=
  let below : Decimal := ⟨floorOnGrid m exponent, exponent⟩
  let above : Decimal := ⟨below.digits + 1, exponent⟩
  match readsBack m below, readsBack m above with
  | false, false => none
  | true, false => some below
  | false, true => some above
  | true, true =>
      match compareScaled (2 * below.digits + 1) exponent m.significand (m.exponent + 1) with
      | .gt => some below
      | .lt => some above
      | .eq => if below.digits % 2 = 0 then some below else some above

/-- The first grid that holds a decimal that reads back, with `count` digits
or up to `more` digits more. -/
def search (m : Magnitude) (scale : Int) (count : Nat) : (more : Nat) → Option Decimal
  | 0 => onGrid? m (scale - count)
  | more + 1 =>
      match onGrid? m (scale - count) with
      | some d => some d
      | none => search m scale (count + 1) more

/-- The value without rounding. -/
def exact (m : Magnitude) : Decimal :=
  if 0 ≤ m.exponent then ⟨m.significand * Nat.pow 2 m.exponent.toNat, 0⟩
  else ⟨m.significand * Nat.pow 5 (-m.exponent).toNat, m.exponent⟩

/-- Moves trailing zeros from the digits into the exponent. -/
def stripZeros (d : Decimal) : Decimal :=
  if 0 < d.digits ∧ d.digits % 10 = 0 then stripZeros ⟨d.digits / 10, d.exponent + 1⟩ else d
termination_by d.digits
decreasing_by omega

/-- The shortest decimal that reads back as the number, the nearest of those.
Zero is written with the digit zero. -/
def shortest (m : Magnitude) : Decimal :=
  if m.isZero then ⟨0, 0⟩
  else stripZeros ((search m (scale m) 1 16).getD (exact m))

end Decimal

end ClassDiagram.Number
