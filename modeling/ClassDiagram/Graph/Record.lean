import ClassDiagram.Graph.Basic

/-!
# Records of nodes

What is written of a node, in a diagram or as JSON, is a record of it. In a
record the kind, the parameters and the target of an entry stand side by side,
so a record can also state what no entry is: a field with parameters, or a
callable that forwards to nothing.
-/

namespace ClassDiagram

/-- What is written of a member. -/
structure MemberRecord where
  /-- The name. -/
  name : String
  /-- The kind. -/
  kind : MemberKind
  /-- The parameters. -/
  params : List String
deriving DecidableEq, Repr

/-- What is written of an entry of a surface. -/
structure SurfaceRecord where
  /-- The name. -/
  name : String
  /-- The kind. -/
  kind : MemberKind
  /-- The parameters. -/
  params : List String
  /-- The member that the entry forwards to. -/
  target : Option String
deriving DecidableEq, Repr

/-- What is written of a class. -/
structure ClassRecord where
  /-- The name. -/
  name : QualifiedName
  /-- The name of the class that it extends. -/
  parent : Option QualifiedName
  /-- The members that are not part of the surface. -/
  members : Table String MemberRecord
  /-- The public surface. -/
  surface : Table String SurfaceRecord
  /-- The names of the interfaces that it implements. -/
  interfaces : List QualifiedName
deriving DecidableEq

/-- Whether the record states a public surface. -/
def ClassRecord.hasSurface (record : ClassRecord) : Bool := !record.surface.isEmpty

/-- What is written of a node. -/
inductive NodeRecord where
  | classRecord (record : ClassRecord)
  | interfaceRecord (node : InterfaceNode)
deriving DecidableEq

namespace NodeRecord

/-- The name of the node. -/
def name : NodeRecord → QualifiedName
  | classRecord record => record.name
  | interfaceRecord node => node.name

/-- The record, if it is one of a class. -/
def class? : NodeRecord → Option ClassRecord
  | classRecord record => some record
  | interfaceRecord _ => none

end NodeRecord

/-! ## The records of a graph -/

/-- The record of the member. -/
def Member.record (member : Member) : MemberRecord :=
  ⟨member.name, member.shape.kind, member.shape.params⟩

theorem Member.record_inj {member other : Member} :
    member.record = other.record ↔ member = other := by
  obtain ⟨name, shape⟩ := member
  obtain ⟨name', shape'⟩ := other
  cases shape <;> cases shape' <;> simp [record, Shape.kind, Shape.params]

/-- The record of the entry of a surface. -/
def SurfaceEntry.record (entry : SurfaceEntry) : SurfaceRecord :=
  ⟨entry.name, entry.exposure.shape.kind, entry.exposure.shape.params, entry.exposure.target?⟩

/-- The record of the class. -/
def ClassNode.record (node : ClassNode) : ClassRecord where
  name := node.name
  parent := node.parent
  members := node.members.map fun _ => Member.record
  surface := node.surface.map fun _ => SurfaceEntry.record
  interfaces := node.interfaces

/-- The record of the node. -/
def Node.record : Node → NodeRecord
  | classNode node => .classRecord node.record
  | interfaceNode node => .interfaceRecord node

@[simp] theorem Node.name_record (node : Node) : node.record.name = node.name := by
  cases node <;> rfl

end ClassDiagram
