import ClassDiagram.Relation
import ClassDiagram.Value

/-!
# Models

A model is a realm as it is written down: its values have names, and they
refer to each other by these. Besides the values it states what to do with
them: which scopes to search, which classes to compile, which relations to
add, and whether to write notes.

The value of a field and that of a scalar are written as JSON. Of the former
nothing is kept but that there is one, of the latter its text.
-/

namespace ClassDiagram

/-- An entry of a prototype as it is written. -/
inductive PropertySpec where
  | field (value : Json)
  | callable (definition : Callable)

/-- The property for which the entry is written. -/
def PropertySpec.toProperty : PropertySpec → Property
  | field _ => .field
  | callable definition => .callable definition

/-- A class as it is written. -/
abbrev ClassSpec := ClassDef String PropertySpec

/-- A value as it is written. -/
abbrev ValueSpec := Value String PropertySpec Json

/-- A realm and a session on it, as they are written down. -/
structure Model where
  /-- The values by name. -/
  values : Table String ValueSpec := ∅
  /-- The scopes: behind each name the name of a value. -/
  scopes : Table String String := ∅
  /-- The names of the root classes. -/
  classes : List String := []
  /-- The relations. -/
  relations : List Relation := []
  /-- Whether to write notes. -/
  notes : Bool := true

end ClassDiagram
