import ClassDiagram.Graph.Record
import ClassDiagram.Json.Printer

/-!
# Graphs as JSON

A graph is written as an object with a member for each node, in graph order.
Tables become objects, so that their order is kept, and what is absent is null.
-/

namespace ClassDiagram

/-- The kind as a JSON value. -/
def MemberKind.toJson (kind : MemberKind) : Json := .text kind.name

/-- The name as a JSON value. -/
def QualifiedName.toJson (name : QualifiedName) : Json := .text name.text

/-- The object that has the entries of the table as its members. -/
def Table.toJson {α : Type} (write : α → Json) (t : Table String α) : Json :=
  .object (t.entries.map fun (key, value) => (key, write value))

/-- The record as a JSON value. -/
def MemberRecord.toJson (record : MemberRecord) : Json :=
  .object
    [("name", .text record.name), ("kind", record.kind.toJson), ("params", .ofTexts record.params)]

/-- The record as a JSON value. -/
def SurfaceRecord.toJson (record : SurfaceRecord) : Json :=
  .object
    [("name", .text record.name), ("kind", record.kind.toJson), ("params", .ofTexts record.params),
      ("target", .ofText? record.target)]

/-- The record as a JSON value. -/
def ClassRecord.toJson (record : ClassRecord) : Json :=
  .object
    [("type", .text "class"), ("name", record.name.toJson),
      ("parent", .ofText? (record.parent.map QualifiedName.text)),
      ("members", record.members.toJson MemberRecord.toJson),
      ("public_surface", record.surface.toJson SurfaceRecord.toJson),
      ("interfaces", .array (record.interfaces.map QualifiedName.toJson))]

/-- The interface as a JSON value. -/
def InterfaceNode.toJson (node : InterfaceNode) : Json :=
  .object
    [("type", .text "interface"), ("name", node.name.toJson),
      ("required", .array (node.required.map fun (name, kind) =>
        .array [.text name, kind.toJson]))]

/-- The record as a JSON value. -/
def NodeRecord.toJson : NodeRecord → Json
  | classRecord record => record.toJson
  | interfaceRecord node => node.toJson

/-- The object that has the records as its members, under their names. -/
def Json.ofRecords (records : List NodeRecord) : Json :=
  .object (records.map fun record => (record.name.text, record.toJson))

/-- The graph as a JSON value. -/
def Graph.toJson (graph : Graph) : Json := .ofRecords (graph.nodes.map Node.record)

end ClassDiagram
