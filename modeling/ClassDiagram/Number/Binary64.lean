/-!
# Binary floating point with 53 bits

A finite number of the binary64 format is a significand below `2 ^ 53` times a
power of two not below `2 ^ (-1074)`, with a sign. Arithmetic in the format is
exact arithmetic followed by one rounding, so all that is needed is the
rounding of a ratio of natural numbers: to the nearest number of the format,
and of two equally near ones to the one with the even significand.
-/

namespace ClassDiagram.Number

/-- The number `significand * 2 ^ exponent`. -/
structure Magnitude where
  /-- The significand, below `2 ^ 53`. -/
  significand : Nat
  /-- The power of two. -/
  exponent : Int
deriving DecidableEq, Repr

/-- A finite number of the format: a magnitude with a sign. Zero has both signs. -/
structure Binary64 where
  /-- Whether the sign is negative. -/
  negative : Bool
  /-- The magnitude. -/
  magnitude : Magnitude
deriving DecidableEq, Repr

/-- The bound of the significands, `2 ^ 53`. -/
def significandBound : Nat := 0x20000000000000

namespace Magnitude

/-- The least power of two of the format. -/
def minExponent : Int := -1074

/-- The greatest power of two of the format. -/
def maxExponent : Int := 971

/-- The number zero. -/
def zero : Magnitude := ⟨0, minExponent⟩

/-- Whether the number is zero. -/
def isZero (m : Magnitude) : Bool := m.significand = 0

/-- The numerator of the number as a ratio. -/
def numerator (m : Magnitude) : Nat := m.significand * Nat.pow 2 m.exponent.toNat

/-- The denominator of the number as a ratio. -/
def denominator (m : Magnitude) : Nat := Nat.pow 2 (-m.exponent).toNat

/-- The quotient rounded to the nearest natural number, a half to the even one. -/
def roundQuotient (num den : Nat) : Nat :=
  let quotient := num / den
  let rest := num % den
  if den < 2 * rest ∨ (2 * rest = den ∧ quotient % 2 = 1) then quotient + 1 else quotient

/-- The ratio divided by `2 ^ exponent`, as numerator and denominator. -/
def scaleDown (num den : Nat) (exponent : Int) : Nat × Nat :=
  (num * Nat.pow 2 (-exponent).toNat, den * Nat.pow 2 exponent.toNat)

/-- The power of two by which a ratio has to be divided to leave at most 53
binary digits before the point, but never less than the least one. -/
def exponentOf (num den : Nat) : Int :=
  let guess := max ((num.log2 : Int) - (den.log2 : Int) - 53) minExponent
  let (n, d) := scaleDown num den guess
  if n / d < significandBound then guess else guess + 1

/-- The nearest number of the format, or `none` if the ratio is beyond the
greatest one. The denominator must not be zero. -/
def ofRatio? (num den : Nat) : Option Magnitude :=
  let exponent := exponentOf num den
  let (n, d) := scaleDown num den exponent
  let rounded := roundQuotient n d
  -- Rounding up can carry into a 54th digit, and then halving is exact.
  let result : Magnitude :=
    if rounded < significandBound then ⟨rounded, exponent⟩
    else ⟨significandBound / 2, exponent + 1⟩
  if result.exponent ≤ maxExponent then some result else none

/-- The rounded product, or `none` if it is beyond the greatest number. -/
def mul? (a b : Magnitude) : Option Magnitude :=
  ofRatio? (a.numerator * b.numerator) (a.denominator * b.denominator)

/-- The rounded quotient, or `none` if it is beyond the greatest number. -/
def div? (a b : Magnitude) : Option Magnitude :=
  ofRatio? (a.numerator * b.denominator) (a.denominator * b.numerator)

/-- The number nearest to a power of ten that the format reaches. -/
def powerOfTen? (exponent : Nat) : Option Magnitude := ofRatio? (Nat.pow 10 exponent) 1

/-- The greatest power of ten that the format reaches. -/
def maxPowerOfTen : Nat := 308

/-- Divides by the greatest power of ten the given number of times, and stops
early at zero. -/
def divideByGreatest? (m : Magnitude) : (times : Nat) → Option Magnitude
  | 0 => some m
  | times + 1 =>
      if m.isZero then some m
      else (powerOfTen? maxPowerOfTen).bind fun greatest =>
        (m.div? greatest).bind fun scaled => divideByGreatest? scaled times

/-- The number times a power of ten, or `none` if it is beyond the greatest
number. The power itself is rounded to the format first; one that the format
does not reach is divided out in several steps. -/
def timesPowerOfTen? (m : Magnitude) (exponent : Int) : Option Magnitude :=
  if 0 ≤ exponent then
    if exponent ≤ maxPowerOfTen then (powerOfTen? exponent.toNat).bind m.mul?
    else if m.isZero then some m
    else none
  else
    let steps := (exponent.natAbs - 1) / maxPowerOfTen
    (m.divideByGreatest? steps).bind fun scaled =>
      (powerOfTen? (exponent.natAbs - steps * maxPowerOfTen)).bind scaled.div?

end Magnitude

namespace Binary64

/-- The number that is written as `significand * 10 ^ exponent` with a sign, or
`none` if it is beyond the greatest number. Significand and power are rounded
one after the other. -/
def ofDecimal? (negative : Bool) (significand : Nat) (exponent : Int) : Option Binary64 :=
  match Magnitude.ofRatio? significand 1 with
  | none => none
  | some m => (m.timesPowerOfTen? exponent).map fun scaled => ⟨negative, scaled⟩

end Binary64

end ClassDiagram.Number
