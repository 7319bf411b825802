import ClassDiagram.Graph.Basic
import ClassDiagram.Json.Printer

/-!
# Summaries of nodes

A listing shows for each node of a graph what kind it is, what it is called
and how much it holds. A node with a synthesized name is marked: no scope leads
to it.
-/

namespace ClassDiagram.Command

/-- What a listing shows for a node. -/
structure Summary where
  /-- The name. -/
  name : QualifiedName
  /-- The word for the kind. -/
  kind : String
  /-- The name of the class that it extends. -/
  parent : Option QualifiedName
  /-- The number of members. -/
  members : Nat
  /-- The number of entries in the public surface. -/
  exposed : Nat
  /-- The names of the interfaces that it implements. -/
  interfaces : List QualifiedName
deriving DecidableEq, Repr

namespace Summary

/-- The summary of a node. -/
def ofNode : Node → Summary
  | .classNode node =>
      { name := node.name
        kind := "class"
        parent := node.parent
        members := node.members.size
        exposed := node.surface.size
        interfaces := node.interfaces }
  | .interfaceNode node =>
      { name := node.name
        kind := "interface"
        parent := none
        members := node.required.length
        exposed := 0
        interfaces := [] }

/-- The summary as a JSON value. -/
def toJson (summary : Summary) : Json :=
  .object
    [("name", .text summary.name.text), ("kind", .text summary.kind),
      ("anonymous", .bool summary.name.isAnonymous),
      ("parent", .ofText? (summary.parent.map QualifiedName.text)),
      ("members", .integer summary.members), ("public", .integer summary.exposed),
      ("interfaces", .ofTexts (summary.interfaces.map QualifiedName.text))]

/-- The width of the column for the kind. -/
def kindWidth : Nat := 9

/-- The word for the kind, filled up with spaces to the width of its column. -/
def kindColumn (summary : Summary) : String :=
  String.ofList (summary.kind.toList.rightpad kindWidth ' ')

/-- The summary as a line. -/
def line (summary : Summary) : String :=
  let mark := if summary.name.isAnonymous then " (unscoped)" else ""
  let parent :=
    match summary.parent with
    | some parent => " extends " ++ parent.text
    | none => ""
  let interfaces :=
    match summary.interfaces with
    | [] => ""
    | names => " implements " ++ ", ".intercalate (names.map QualifiedName.text)
  summary.kindColumn ++ " " ++ summary.name.text ++ mark ++ parent ++ interfaces ++ " (" ++
    toString summary.members ++ " member(s), " ++ toString summary.exposed ++ " public)"

end Summary

end ClassDiagram.Command
