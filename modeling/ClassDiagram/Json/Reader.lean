import ClassDiagram.Json.Error
import ClassDiagram.Text.Blank

/-!
# Readers

A reader takes a text and answers with a value and the rest of the text, or
with the first problem. It can only ever drop something from the front: the
rest is not longer than the text, and that is part of the type. This is what
lets repetition be defined by recursion on the length of the text: a loop that
has read a comma goes on with something shorter.

A failure records the rest of the text as well, that is, how far the reader
had come.
-/

namespace ClassDiagram.Json

/-- A problem and what had not been looked at when it was found. -/
structure Failure where
  /-- The problem. -/
  problem : Problem
  /-- The rest of the text. -/
  rest : List Char

/-- A function that reads a value from the front of a text. -/
structure Reader (α : Type) where
  /-- Reads the value and returns it with the rest of the text. -/
  run : List Char → Except Failure (α × List Char)
  /-- The rest is not longer than the text. -/
  length_le : ∀ {cs : List Char} {value : α} {rest : List Char},
    run cs = .ok (value, rest) → rest.length ≤ cs.length

namespace Reader

variable {α β σ : Type}

/-- Reads nothing and returns the value. -/
def succeed (value : α) : Reader α where
  run cs := .ok (value, cs)
  length_le h := by
    cases h
    exact Nat.le_refl _

/-- Reads one thing after the other. -/
def andThen (first : Reader α) (next : α → Reader β) : Reader β where
  run cs :=
    match first.run cs with
    | .error failure => .error failure
    | .ok (value, rest) => (next value).run rest
  length_le {cs _ _} h := by
    cases hfirst : first.run cs with
    | error failure =>
        rw [hfirst] at h
        cases h
    | ok pair =>
        rw [hfirst] at h
        exact Nat.le_trans ((next pair.1).length_le h) (first.length_le hfirst)

instance : Monad Reader where
  pure := succeed
  bind := andThen

@[simp] theorem run_pure (value : α) (cs : List Char) :
    (pure value : Reader α).run cs = .ok (value, cs) := rfl

theorem run_bind (first : Reader α) (next : α → Reader β) (cs : List Char) :
    (first >>= next).run cs =
      match first.run cs with
      | .error failure => .error failure
      | .ok (value, rest) => (next value).run rest := rfl

/-- The reader that `make` makes, made when it is needed. -/
def delay (make : Unit → Reader α) : Reader α where
  run cs := (make ()).run cs
  length_le h := (make ()).length_le h

/-- Fails with the problem, having come this far. -/
def fail (problem : Problem) : Reader α where
  run cs := .error ⟨problem, cs⟩
  length_le h := by cases h

/-- Fails with the problem, having looked at one more character. -/
def failAhead (problem : Problem) : Reader α where
  run cs := .error ⟨problem, cs.tail⟩
  length_le h := by cases h

/-- Fails because the grammar broke, having looked one character ahead. -/
def fault (f : Fault) : Reader α := failAhead (.fault f)

/-- Fails because something of another shape was asked for. -/
def mismatch (m : Mismatch) : Reader α := fail (.mismatch m)

/-- The value, or the failure with the mismatch. -/
def ofExcept : Except Mismatch α → Reader α
  | .ok value => succeed value
  | .error m => mismatch m

/-- Drops the blanks that may stand between the parts of a JSON text. -/
def dropBlanks (cs : List Char) : List Char := cs.dropWhile Text.isLayout

theorem length_dropBlanks_le (cs : List Char) : (dropBlanks cs).length ≤ cs.length :=
  (List.dropWhile_sublist _).length_le

/-- Skips blanks and shows the next character, if there is one, without taking it. -/
def peek : Reader (Option Char) where
  run cs := .ok ((dropBlanks cs).head?, dropBlanks cs)
  length_le h := by
    cases h
    exact length_dropBlanks_le _

/-- Takes one character. -/
def advance : Reader Unit where
  run cs := .ok ((), cs.tail)
  length_le {cs _ _} h := by
    cases h
    simp

/-- The two kinds of bracket that enclose a list of things. -/
inductive Bracket where
  | array
  | object
deriving DecidableEq, Repr

namespace Bracket

/-- The mark that closes the list. -/
def close : Bracket → Char
  | array => ']'
  | object => '\x7d'

/-- The fault of a text that ends inside the list. -/
def endFault : Bracket → Fault
  | array => .endInArray
  | object => .endInObject

/-- The fault of an element that is followed by neither a comma nor the end of
the list. -/
def separatorFault : Bracket → Fault
  | array => .expectedItemOrEnd
  | object => .expectedMemberOrEnd

end Bracket

/-- Reads the element that a comma has announced. -/
def afterComma (bracket : Bracket) (element : Reader α) : Reader α := do
  match ← peek with
  | none => fault .endInValue
  | some c => if c = bracket.close then fault .trailingComma else element

/-- Reads the elements that follow an element, and the closing mark. Each
element takes the state that the elements before it have built up. -/
def moreElements (bracket : Bracket) (element : σ → Reader σ) (state : σ) (cs : List Char) :
    Except Failure (σ × List Char) :=
  match _hcs : dropBlanks cs with
  | [] => .error ⟨.fault bracket.endFault, []⟩
  | c :: rest =>
      if c = bracket.close then .ok (state, rest)
      else if c = ',' then
        match _hnext : (afterComma bracket (element state)).run rest with
        | .error failure => .error failure
        | .ok (next, tail) => moreElements bracket element next tail
      else .error ⟨.fault bracket.separatorFault, rest⟩
termination_by cs.length
decreasing_by
  have h₁ := length_dropBlanks_le cs
  have h₂ := (afterComma bracket (element state)).length_le _hnext
  rw [_hcs] at h₁
  simp only [List.length_cons] at h₁
  omega

theorem length_moreElements_le {bracket : Bracket} {element : σ → Reader σ} {state final : σ}
    {cs rest : List Char} (h : moreElements bracket element state cs = .ok (final, rest)) :
    rest.length ≤ cs.length := by
  fun_induction moreElements bracket element state cs with
  | case1 => cases h
  | case2 state cs tail hcs =>
      cases h
      have h₁ := length_dropBlanks_le cs
      rw [hcs] at h₁
      exact Nat.le_of_succ_le h₁
  | case3 => cases h
  | case4 state cs tail next after hnext hcs hclose ih =>
      have h₁ := length_dropBlanks_le cs
      have h₂ := (afterComma bracket (element state)).length_le hnext
      have h₃ := ih h
      rw [hcs] at h₁
      simp only [List.length_cons] at h₁
      omega
  | case5 => cases h

/-- Reads the elements behind an opening mark, and the closing mark. -/
def elements (bracket : Bracket) (element : σ → Reader σ) (start : σ) : Reader σ := do
  match ← peek with
  | none => fault bracket.endFault
  | some c =>
      if c = bracket.close then do
        advance
        pure start
      else do
        let first ← element start
        { run := moreElements bracket element first
          length_le := length_moreElements_le }

end Reader

end ClassDiagram.Json
