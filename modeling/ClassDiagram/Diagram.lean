import ClassDiagram.Graph.Record
import ClassDiagram.Relation

/-!
# Diagrams as text

A diagram is written in the notation of PlantUML, line by line: a block for
each node in graph order, then a line for each interface that a class
implements, then a line for each relation.

A class without a public surface shows all its members as public. A class with
one shows its entries as public, then a separator, then its other members as
protected; a note to that effect may follow the block.
-/

namespace ClassDiagram

namespace Diagram

/-- How a diagram is written. -/
structure Settings where
  /-- Whether a class with a public surface gets a note. -/
  notes : Bool := true
  /-- Whether the diagram stands between a start and an end mark. -/
  enclose : Bool := false
deriving DecidableEq, Repr

/-- The white space in front of a line of a block. -/
def indent : String := "    "

/-- The line that parts the public surface from the other members. -/
def separator : String := indent ++ "...."

/-- The lines of a note. -/
def noteText : List String :=
  ["Class has a public API. Inherited methods are",
    "protected unless specified in this class."]

/-- The name of something of the kind, with its parameters if it can be called. -/
def signature (name : String) (kind : MemberKind) (params : List String) : String :=
  match kind with
  | .field => name
  | .callable => name ++ "(" ++ ", ".intercalate params ++ ")"

/-- The line for something that has a name, a kind and parameters. -/
def memberLine (visibility : Visibility) (name : String) (kind : MemberKind)
    (params : List String) : String :=
  indent ++ String.singleton visibility.mark ++ " " ++ signature name kind params

/-- A heading, lines and the end of the block, with an empty line after it. -/
def block (heading : String) (body : List String) : List String :=
  (heading ++ " \x7b") :: (body ++ ["\x7d", ""])

/-- The heading of a class. -/
def classHeading (record : ClassRecord) : String :=
  match record.parent with
  | some parent => "class " ++ record.name.text ++ " extends " ++ parent.text
  | none => "class " ++ record.name.text

/-- The lines for the surface of a class. -/
def surfaceLines (record : ClassRecord) : List String :=
  record.surface.values.map fun entry => memberLine .exposed entry.name entry.kind entry.params

/-- The lines for the members of a class. -/
def membersLines (visibility : Visibility) (record : ClassRecord) : List String :=
  record.members.values.map fun member =>
    memberLine visibility member.name member.kind member.params

/-- The lines for the surface and the members of a class. -/
def classBody (record : ClassRecord) : List String :=
  if record.hasSurface then surfaceLines record ++ separator :: membersLines .restricted record
  else membersLines .exposed record

/-- The note beside a class with a public surface. -/
def note (record : ClassRecord) : List String :=
  block ("note left of " ++ record.name.text) (noteText.map (indent ++ ·))

/-- The lines for what an interface requires; the parameters are not known. -/
def requiredLines (node : InterfaceNode) : List String :=
  node.required.map fun (name, kind) => memberLine .exposed name kind []

/-- The lines for a node. -/
def nodeLines (settings : Settings) : NodeRecord → List String
  | .classRecord record =>
      block (classHeading record) (classBody record) ++
        if settings.notes && record.hasSurface then note record else []
  | .interfaceRecord node => block ("interface " ++ node.name.text) (requiredLines node)

/-- The lines for the interfaces that a class implements. -/
def realizationLines (record : ClassRecord) : List String :=
  record.interfaces.map fun interface => record.name.text ++ " --|> " ++ interface.text

/-- A cardinality between quotes, with a space before it. -/
def cardinality : Option String → String
  | some text => " \"" ++ text ++ "\""
  | none => ""

/-- The line for a relation. -/
def relationLine (relation : Relation) : String :=
  relation.source ++ cardinality relation.sourceLabel? ++ " " ++ relation.edge ++
    cardinality relation.targetLabel? ++ " " ++ relation.target

/-- The lines of the diagram. -/
def lines (settings : Settings) (records : List NodeRecord) (relations : List Relation) :
    List String :=
  let content := records.flatMap (nodeLines settings) ++
    (records.filterMap NodeRecord.class?).flatMap realizationLines ++ relations.map relationLine
  if settings.enclose then "@startuml" :: (content ++ ["@enduml"]) else content

/-- The text of the diagram for the records; every line is ended. -/
def ofRecords (settings : Settings) (records : List NodeRecord) (relations : List Relation) :
    String :=
  String.join ((lines settings records relations).map (· ++ "\n"))

/-- The text of the diagram for the graph. -/
def text (settings : Settings) (graph : Graph) (relations : List Relation) : String :=
  ofRecords settings (graph.nodes.map Node.record) relations

end Diagram

end ClassDiagram
