import ClassDiagram.Member
import ClassDiagram.Name
import ClassDiagram.Table

/-!
# Graphs of classes

A graph is the list of the classes and interfaces that have been compiled, in
the order in which they were added. Every node is found by its name, so the
names are distinct. A node that is inserted under a name that is taken takes
the place of the node that was there.
-/

namespace ClassDiagram

/-- A class in a graph. -/
structure ClassNode where
  /-- The name. -/
  name : QualifiedName
  /-- The name of the class that it extends. -/
  parent : Option QualifiedName
  /-- The members that are not part of the surface. -/
  members : Table String Member
  /-- The public surface; a class without one has it empty. -/
  surface : Table String SurfaceEntry
  /-- The names of the interfaces that it implements, in declaration order. -/
  interfaces : List QualifiedName
deriving DecidableEq

/-- Whether the class has a public surface. -/
def ClassNode.hasSurface (node : ClassNode) : Bool := !node.surface.isEmpty

/-- An interface in a graph. -/
structure InterfaceNode where
  /-- The name. -/
  name : QualifiedName
  /-- The members that it requires, with their kinds. -/
  required : List (String × MemberKind)
deriving DecidableEq

/-- A node of a graph. -/
inductive Node where
  | classNode (node : ClassNode)
  | interfaceNode (node : InterfaceNode)
deriving DecidableEq

namespace Node

/-- The name of the node. -/
def name : Node → QualifiedName
  | classNode node => node.name
  | interfaceNode node => node.name

/-- The node, if it is a class. -/
def class? : Node → Option ClassNode
  | classNode node => some node
  | interfaceNode _ => none

/-- The node, if it is an interface. -/
def interface? : Node → Option InterfaceNode
  | classNode _ => none
  | interfaceNode node => some node

end Node

/-- A list of nodes with distinct names, in the order in which they were added. -/
structure Graph where
  /-- The nodes, oldest first. -/
  nodes : List Node
  /-- No two nodes have the same name. -/
  names_nodup : (nodes.map Node.name).Nodup
deriving DecidableEq

namespace Graph

instance : EmptyCollection Graph := ⟨⟨[], List.nodup_nil⟩⟩

instance : Inhabited Graph := ⟨∅⟩

/-- The names of the nodes, oldest first. -/
def names (graph : Graph) : List QualifiedName := graph.nodes.map Node.name

/-- Whether there is a node of the name. -/
def contains (graph : Graph) (name : QualifiedName) : Bool := graph.names.contains name

theorem contains_iff {graph : Graph} {name : QualifiedName} :
    graph.contains name = true ↔ name ∈ graph.names := by
  simp [contains]

/-- The node of the name, if there is one. -/
def get? (graph : Graph) (name : QualifiedName) : Option Node :=
  graph.nodes.find? (·.name = name)

/-- The class of the name, if the node of the name is a class. -/
def class? (graph : Graph) (name : QualifiedName) : Option ClassNode :=
  (graph.get? name).bind Node.class?

/-- The interface of the name, if the node of the name is an interface. -/
def interface? (graph : Graph) (name : QualifiedName) : Option InterfaceNode :=
  (graph.get? name).bind Node.interface?

/-- The classes, oldest first. -/
def classes (graph : Graph) : List ClassNode := graph.nodes.filterMap Node.class?

/-- The interfaces, oldest first. -/
def interfaces (graph : Graph) : List InterfaceNode := graph.nodes.filterMap Node.interface?

/-- The number of nodes. -/
def size (graph : Graph) : Nat := graph.nodes.length

/-- Puts the node in the place of the one with its name. -/
def replaceNode (node : Node) (nodes : List Node) : List Node :=
  nodes.map fun old => if old.name = node.name then node else old

theorem map_name_replaceNode (node : Node) (nodes : List Node) :
    (replaceNode node nodes).map Node.name = nodes.map Node.name := by
  rw [replaceNode, List.map_map]
  refine List.map_congr_left fun old _ => ?_
  rw [Function.comp_apply]
  split
  · next h => exact h.symm
  · rfl

/-- Adds a node: in the place of the node of its name, or at the end. -/
def insert (graph : Graph) (node : Node) : Graph :=
  if h : node.name ∈ graph.names then
    ⟨replaceNode node graph.nodes, by rw [map_name_replaceNode]; exact graph.names_nodup⟩
  else
    ⟨graph.nodes ++ [node], by
      rw [List.map_append]
      refine List.nodup_append.2 ⟨graph.names_nodup, by simp, ?_⟩
      intro a ha b hb hab
      rw [List.map_cons, List.map_nil, List.mem_singleton] at hb
      exact h (hb ▸ hab ▸ ha)⟩

/-- A new name goes to the end, a name that is taken keeps its place. -/
theorem names_insert (graph : Graph) (node : Node) :
    (graph.insert node).names =
      if node.name ∈ graph.names then graph.names else graph.names ++ [node.name] := by
  simp only [insert]
  split
  · exact map_name_replaceNode node graph.nodes
  · simp [names]

/-- A node of a new name leaves the nodes before it as they are. -/
theorem nodes_insert_of_not_mem {graph : Graph} {node : Node} (h : node.name ∉ graph.names) :
    (graph.insert node).nodes = graph.nodes ++ [node] := by
  rw [insert, dif_neg h]

end Graph

end ClassDiagram
