import ClassDiagram.Text.Case

/-!
# Members and public surfaces

A class shows two kinds of things: fields and callables, the latter with the
names of their parameters. A member is one of them under its name. An entry of
the public surface is either a plain field or forwards to a callable of the
class, and then shows that callable's parameters.
-/

namespace ClassDiagram

/-- Whether a member is a plain property or something that can be called. -/
inductive MemberKind where
  | field
  | callable
deriving DecidableEq, Repr

namespace MemberKind

/-- The word for the kind. -/
def name : MemberKind → String
  | field => "field"
  | callable => "callable"

/-- There are two kinds, so one of them tells the other. -/
theorem eq_iff_callable_iff {kind other : MemberKind} :
    kind = other ↔ (kind = callable ↔ other = callable) := by
  cases kind <;> cases other <;> simp

/-- The kind that a declared type implies: `function`, in any mixture of upper
and lower case ASCII letters, is callable and every other type a field. -/
def ofDeclaredType (declared : String) : MemberKind :=
  if declared.toList.map Char.toLower = "function".toList then callable else field

theorem ofDeclaredType_eq_callable_iff {declared : String} :
    ofDeclaredType declared = callable ↔ Text.Spells declared.toList "function".toList := by
  have hsmall : "function".toList.all Char.isLower = true := by decide
  rw [ofDeclaredType, ← Text.map_toLower_eq_iff (List.all_eq_true.1 hsmall)]
  split
  · next h => exact ⟨fun _ => h, fun _ => rfl⟩
  · next h => exact ⟨nofun, fun hword => absurd hword h⟩

end MemberKind

/-- Who can reach a member. -/
inductive Visibility where
  | exposed
  | restricted
deriving DecidableEq, Repr

namespace Visibility

/-- The mark in front of a member line. -/
def mark : Visibility → Char
  | exposed => '+'
  | restricted => '-'

/-- All visibilities, the widest first. -/
def all : List Visibility := [exposed, restricted]

end Visibility

/-- What a member is: a field, or a callable with its parameters. -/
inductive Shape where
  | field
  | callable (params : List String)
deriving DecidableEq, Repr

namespace Shape

/-- The kind of a shape. -/
def kind : Shape → MemberKind
  | field => .field
  | callable _ => .callable

/-- The parameters; a field has none. -/
def params : Shape → List String
  | field => []
  | callable params => params

end Shape

/-- One property or method of a class. -/
structure Member where
  /-- The name of the member. -/
  name : String
  /-- What it is. -/
  shape : Shape
deriving DecidableEq, Repr

/-- What stands behind an entry of a public surface. -/
inductive Exposure where
  | field
  | forwarding (target : String) (params : List String)
deriving DecidableEq, Repr

namespace Exposure

/-- A forwarding entry shows as a callable with the parameters of its target. -/
def shape : Exposure → Shape
  | field => .field
  | forwarding _ params => .callable params

/-- The member that the entry forwards to, if it forwards. -/
def target? : Exposure → Option String
  | field => none
  | forwarding target _ => some target

end Exposure

/-- One entry of the public surface of a class. -/
structure SurfaceEntry where
  /-- The name under which the entry is offered. -/
  name : String
  /-- What it offers. -/
  exposure : Exposure
deriving DecidableEq, Repr

end ClassDiagram
