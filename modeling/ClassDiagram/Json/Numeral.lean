import ClassDiagram.Json.Basic
import ClassDiagram.Json.Reader

/-!
# Reading a number

A number is an integer if it is written without a point and without an
exponent and fits 64 bits, with a sign or without. Every other number is a
binary floating point number. Its significand is collected from the digits as
long as it stays below `2 ^ 64`; what does not fit is dropped, and digits that
are dropped before the point still count as places.

A number that is only skipped has to have the right form and nothing else.
-/

namespace ClassDiagram.Json

/-- The value of a decimal digit. -/
def digitValue (c : Char) : Nat := c.toNat - '0'.toNat

/-- The bound on significands. -/
def significandBound : Nat := 0x10000000000000000

/-- Appends digits to a significand as long as it stays within its bound, and
counts the digits that were appended. -/
def collectDigits (significand : Nat) : List Char → Nat × Nat
  | [] => (significand, 0)
  | digit :: digits =>
      let next := 10 * significand + digitValue digit
      if next < significandBound then
        let (final, count) := collectDigits next digits
        (final, count + 1)
      else (significand, 0)

/-- An integer if it fits 64 bits, and the floating point number otherwise. A
negative zero is a floating point number, because no integer is one. -/
def ofInteger (negative : Bool) (n : Nat) : Option Json :=
  if negative then
    if n = 0 ∨ 0x8000000000000000 < n then (Number.Binary64.ofDecimal? true n 0).map float
    else some (integer (-n))
  else some (integer n)

namespace Reader

/-- Shows the next character, blank or not, without taking it. -/
def look : Reader (Option Char) where
  run cs := .ok (cs.head?, cs)
  length_le h := by
    cases h
    exact Nat.le_refl _

/-- Takes the decimal digits that stand next. -/
def digits : Reader (List Char) where
  run cs := .ok (cs.takeWhile Char.isDigit, cs.dropWhile Char.isDigit)
  length_le h := by
    cases h
    exact (List.dropWhile_sublist _).length_le

/-- The number, or the fault that it is out of range. -/
def inRange (number : Option Json) : Reader Json :=
  match number with
  | some value => pure value
  | none => fail (.fault .numberOutOfRange)

/-- Takes the sign of an exponent, and says whether it is negative. -/
def exponentSign : Reader Bool := do
  match ← look with
  | some '+' => do
      advance
      pure false
  | some '-' => do
      advance
      pure true
  | _ => pure false

/-- Reads what may follow the digits of a number: an exponent. -/
def exponentPart (negative : Bool) (significand : Nat) (exponent : Int) : Reader Json := do
  advance
  let down ← exponentSign
  match ← look with
  | none => fault .endInValue
  | some c =>
      if c.isDigit then do
        let ds ← digits
        let power : Int := ds.foldl (fun n d => 10 * n + digitValue d) 0
        inRange ((Number.Binary64.ofDecimal? negative significand
          (if down then exponent - power else exponent + power)).map float)
      else fault .invalidNumber

/-- Whether the character announces an exponent. -/
def marksExponent (c : Option Char) : Bool := c = some 'e' || c = some 'E'

/-- Reads what may follow the integer digits of a number: a point and digits. -/
def fractionPart (negative : Bool) (significand : Nat) (exponent : Int) : Reader Json := do
  advance
  let ds ← digits
  if ds.isEmpty then
    match ← look with
    | none => fault .endInValue
    | some _ => fault .invalidNumber
  else do
    let (longer, count) := collectDigits significand ds
    if marksExponent (← look) then exponentPart negative longer (exponent - count)
    else inRange ((Number.Binary64.ofDecimal? negative longer (exponent - count)).map float)

/-- Reads what may follow the integer digits. Of these, `dropped` did not fit
the significand. -/
def afterInteger (negative : Bool) (significand dropped : Nat) : Reader Json := do
  let next ← look
  if next = some '.' then fractionPart negative significand dropped
  else if marksExponent next then exponentPart negative significand dropped
  else if dropped = 0 then inRange (ofInteger negative significand)
  else inRange ((Number.Binary64.ofDecimal? negative significand dropped).map float)

/-- Reads a number behind its sign. -/
def number (negative : Bool) : Reader Json := do
  match ← look with
  | none => fault .endInValue
  | some '0' => do
      advance
      -- No digit may follow a leading zero.
      match ← look with
      | some c => if c.isDigit then fault .invalidNumber else afterInteger negative 0 0
      | none => afterInteger negative 0 0
  | some c =>
      if c.isDigit then do
        let ds ← digits
        let (significand, count) := collectDigits 0 ds
        afterInteger negative significand (ds.length - count)
      else fault .invalidNumber

/-- Skips at least one digit. -/
def skipDigits : Reader Unit := do
  let ds ← digits
  if ds.isEmpty then fault .invalidNumber else pure ()

/-- Skips an exponent. -/
def skipExponent : Reader Unit := do
  if marksExponent (← look) then do
    advance
    let _ ← exponentSign
    skipDigits
  else pure ()

/-- Skips a number behind its sign. -/
def skipNumber : Reader Unit := do
  if (← look) = some '0' then do
    advance
    match ← look with
    | some c => if c.isDigit then fault .invalidNumber else pure ()
    | none => pure ()
  else skipDigits
  if (← look) = some '.' then do
    advance
    skipDigits
  else pure ()
  skipExponent

end Reader

end ClassDiagram.Json
