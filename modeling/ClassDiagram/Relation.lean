import ClassDiagram.Json.Printer
import ClassDiagram.Json.Shape

/-!
# Relations

A relation is a further edge between two nodes, stated by name and not checked
against the nodes there are. Its label and the cardinalities at its ends are
optional. An empty one shows in the same way as an absent one, and an absent
label shows as a plain arrow, but what is stored and written as JSON keeps
them apart.
-/

namespace ClassDiagram

/-- An edge between two named nodes. -/
structure Relation where
  /-- The node at which the edge starts. -/
  source : String
  /-- The node at which it ends. -/
  target : String
  /-- The arrow between them. -/
  label : Option String := none
  /-- The cardinality at the start. -/
  sourceCardinality : Option String := none
  /-- The cardinality at the end. -/
  targetCardinality : Option String := none
deriving DecidableEq, Repr

/-- The common kinds of relation. -/
inductive RelationKind where
  | dependency
  | association
  | inheritance
  | realization
  | composition
  | aggregation
  | link
deriving DecidableEq, Repr

/-- The arrow of a kind. -/
def RelationKind.arrow : RelationKind → String
  | dependency => "..>"
  | association => "-->"
  | inheritance => "<|--"
  | realization => "..|>"
  | composition => "*--"
  | aggregation => "o--"
  | link => "--"

namespace Relation

/-- The arrow of a relation without a label. -/
def defaultEdge : String := "->"

/-- A text that is there and not empty. -/
def nonempty? (text : Option String) : Option String := text.filter (· ≠ "")

/-- The arrow that shows. -/
def edge (relation : Relation) : String := (nonempty? relation.label).getD defaultEdge

/-- The cardinality that shows at the start. -/
def sourceLabel? (relation : Relation) : Option String := nonempty? relation.sourceCardinality

/-- The cardinality that shows at the end. -/
def targetLabel? (relation : Relation) : Option String := nonempty? relation.targetCardinality

/-- The relation as a JSON value. -/
def toJson (relation : Relation) : Json :=
  .object
    [("from", .text relation.source), ("to", .text relation.target),
      ("label", .ofText? relation.label),
      ("from_cardinality", .ofText? relation.sourceCardinality),
      ("to_cardinality", .ofText? relation.targetCardinality)]

/-- A relation that is being read: the ends may still be missing. -/
structure Draft where
  /-- The start, once it is read. -/
  source : Option String := none
  /-- The end, once it is read. -/
  target : Option String := none
  /-- The label. -/
  label : Option String := none
  /-- The cardinality at the start. -/
  sourceCardinality : Option String := none
  /-- The cardinality at the end. -/
  targetCardinality : Option String := none

/-- The relation, if both ends have been read. -/
def Draft.finish (draft : Draft) : Except Json.Mismatch Relation :=
  match draft.source, draft.target with
  | none, _ => .error (.missingField "from")
  | some _, none => .error (.missingField "to")
  | some source, some target =>
      .ok ⟨source, target, draft.label, draft.sourceCardinality, draft.targetCardinality⟩

/-- The fields of a relation, in the order in which an array states them. -/
def fields : List (Json.FieldReader Draft) :=
  [⟨"from", fun draft => do pure { draft with source := some (← Json.Reader.text) }⟩,
    ⟨"to", fun draft => do pure { draft with target := some (← Json.Reader.text) }⟩,
    ⟨"label", fun draft => do pure { draft with label := ← Json.Reader.optional Json.Reader.text }⟩,
    ⟨"from_cardinality", fun draft => do
      pure { draft with sourceCardinality := ← Json.Reader.optional Json.Reader.text }⟩,
    ⟨"to_cardinality", fun draft => do
      pure { draft with targetCardinality := ← Json.Reader.optional Json.Reader.text }⟩]

/-- Reads a relation. An array must state at least both ends. -/
def reader : Json.Reader Relation :=
  Json.Reader.record "struct Relation" fields {} Draft.finish fun length =>
    if length < 2 then .error (.wrongLength length "struct Relation with 5 elements") else .ok ()

/-- Reads a relation from a text that holds nothing else. -/
def ofText (text : String) : Except Json.Error Relation := Json.readAll reader text

end Relation

end ClassDiagram
