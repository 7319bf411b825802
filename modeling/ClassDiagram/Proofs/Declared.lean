import ClassDiagram.Graph.Basic
import ClassDiagram.Proofs.Reading
import ClassDiagram.Surface
import Mathlib.Data.List.Nodup
import Mathlib.Logic.Relation
import Mathlib.Tactic.Choose

/-!
# What a realm declares

A graph can be described without saying how it is compiled. The classes to be
drawn are the roots and whatever the chains of parents lead up to from there;
the interfaces are those that one of these classes implements. And what the
node of a value shows can be read off the value, once it is known what each
value is called.

Both descriptions are for any realm. The chain of parents may lead in a circle
or to a value that is no class, and an interface may be none: then the
description still says what should be drawn, and it is for `Conforms` to tell
whether it can be.
-/

namespace ClassDiagram

namespace Realm

variable {realm : Realm} {id other : ValueId}

/-- The value is a class that extends the other one. -/
def HasParent (realm : Realm) (id parent : ValueId) : Prop :=
  ∃ definition, realm.class? id = some definition ∧ definition.parent = some parent

/-- The value is a class that implements the other one. -/
def Implements (realm : Realm) (id interface : ValueId) : Prop :=
  ∃ definition, realm.class? id = some definition ∧ interface ∈ definition.implements

/-- The chain of parents leads from one value to the other. -/
def Ascends (realm : Realm) : ValueId → ValueId → Prop := Relation.ReflTransGen realm.HasParent

/-- The least set that holds the roots and with each class its parent. -/
inductive Ancestral (realm : Realm) (roots : List ValueId) : ValueId → Prop
  | root {id : ValueId} (h : id ∈ roots) : Ancestral realm roots id
  | parent {id parent : ValueId} (h : Ancestral realm roots id)
      (hparent : realm.HasParent id parent) : Ancestral realm roots parent

/-- The value is a class, what it extends is one, and what it implements are
interfaces. -/
structure Conforms (realm : Realm) (id : ValueId) : Prop where
  isClass : (realm.class? id).isSome
  parent : ∀ parent, realm.HasParent id parent → (realm.class? parent).isSome
  interfaces : ∀ interface, realm.Implements id interface → (realm.interface? interface).isSome

theorem HasParent.isClass (h : realm.HasParent id other) : (realm.class? id).isSome := by
  obtain ⟨definition, hclass, _⟩ := h
  exact Option.isSome_of_eq_some hclass

theorem Implements.isClass (h : realm.Implements id other) : (realm.class? id).isSome := by
  obtain ⟨definition, hclass, _⟩ := h
  exact Option.isSome_of_eq_some hclass

theorem HasParent.parent_eq {definition : ClassDef ValueId} (h : realm.HasParent id other)
    (hclass : realm.class? id = some definition) : definition.parent = some other := by
  obtain ⟨definition', hclass', hparent⟩ := h
  cases hclass.symm.trans hclass'
  exact hparent

theorem Implements.mem {definition : ClassDef ValueId} (h : realm.Implements id other)
    (hclass : realm.class? id = some definition) : other ∈ definition.implements := by
  obtain ⟨definition', hclass', hmem⟩ := h
  cases hclass.symm.trans hclass'
  exact hmem

/-- A class has at most one parent. -/
theorem HasParent.unique {parent : ValueId} (h : realm.HasParent id parent)
    (hother : realm.HasParent id other) : parent = other := by
  obtain ⟨definition, hclass, hparent⟩ := h
  exact Option.some.inj (hparent.symm.trans (hother.parent_eq hclass))

theorem Conforms.of_class? {definition : ClassDef ValueId}
    (hclass : realm.class? id = some definition)
    (hparent : ∀ parent, definition.parent = some parent → (realm.class? parent).isSome)
    (hinterfaces : ∀ interface ∈ definition.implements, (realm.interface? interface).isSome) :
    realm.Conforms id where
  isClass := Option.isSome_of_eq_some hclass
  parent parent h := hparent parent (h.parent_eq hclass)
  interfaces interface h := hinterfaces interface (h.mem hclass)

theorem not_conforms_of_class?_eq_none (h : realm.class? id = none) : ¬ realm.Conforms id := by
  intro hconforms
  have hisClass := hconforms.isClass
  rw [h] at hisClass
  cases hisClass

theorem Implements.not_conforms (h : realm.Implements id other)
    (hnone : realm.interface? other = none) : ¬ realm.Conforms id := by
  intro hconforms
  have hisInterface := hconforms.interfaces other h
  rw [hnone] at hisInterface
  cases hisInterface

/-- No value is both a class and an interface. -/
theorem not_isClass_of_isInterface (h : (realm.interface? id).isSome) :
    ¬ (realm.class? id).isSome := by
  unfold interface? at h
  unfold class?
  split at h
  · next hget => simp [hget]
  · cases h

theorem Ancestral.ascends {roots : List ValueId} (h : realm.Ancestral roots id)
    (hascends : realm.Ascends id other) : realm.Ancestral roots other := by
  induction hascends with
  | refl => exact h
  | tail _ hparent ih => exact ih.parent hparent

end Realm

/-! ## Nodes -/

/-- If nodes have different names, and each stands in a relation to a value with
its name, different nodes stand in it to different values. -/
theorem Node.exists_valueOf {naming : ValueId → QualifiedName} {related : ValueId → Node → Prop}
    {nodes : List Node} (hnames : (nodes.map Node.name).Nodup)
    (hname : ∀ id node, related id node → node.name = naming id)
    (hrelated : ∀ node ∈ nodes, ∃ id, related id node) :
    ∃ valueOf : Node → ValueId, (nodes.map valueOf).Nodup ∧
      ∀ node ∈ nodes, related (valueOf node) node := by
  have hinhabited : Nonempty ValueId := ⟨⟨0⟩⟩
  choose! valueOf hvalueOf using hrelated
  refine ⟨valueOf, List.Nodup.of_map naming ?_, hvalueOf⟩
  have hsame : (nodes.map valueOf).map naming = nodes.map Node.name := by
    rw [List.map_map]
    exact List.map_congr_left fun node hnode => (hname _ node (hvalueOf node hnode)).symm
  rw [hsame]
  exact hnames

variable {realm : Realm} {naming later : ValueId → QualifiedName} {id : ValueId} {node : Node}

/-- The node shows the class as it is defined, each value called by its name. -/
structure ClassNode.Shows (realm : Realm) (naming : ValueId → QualifiedName) (id : ValueId)
    (definition : ClassDef ValueId) (node : ClassNode) : Prop where
  name : node.name = naming id
  parent : node.parent = definition.parent.map naming
  interfaces : node.interfaces = definition.implements.map naming
  surface : node.surface = (realm.surface? definition).getD ∅
  members : node.members.entries =
    definition.members.entries.filter fun entry => decide (entry.1 ∉ node.surface.keys)

/-- The node shows the interface with what it requires: the name of each requirement, and
as a callable what is declared to be a function. -/
structure InterfaceNode.Shows (naming : ValueId → QualifiedName) (id : ValueId)
    (requirements : Table String String) (node : InterfaceNode) : Prop where
  name : node.name = naming id
  required : List.Forall₂ (fun entry shown => entry.1 = shown.1 ∧
    (shown.2 = .callable ↔ Text.Spells entry.2.toList "function".toList))
    requirements.entries node.required

theorem InterfaceNode.required_iff {requirements : List (String × String)}
    {required : List (String × MemberKind)} :
    List.Forall₂ (fun entry shown => entry.1 = shown.1 ∧
        (shown.2 = .callable ↔ Text.Spells entry.2.toList "function".toList))
        requirements required ↔
      (requirements.map fun entry => (entry.1, MemberKind.ofDeclaredType entry.2)) = required := by
  refine Text.forall₂_iff_map_eq fun entry shown => ?_
  rw [← MemberKind.ofDeclaredType_eq_callable_iff, ← MemberKind.eq_iff_callable_iff,
    eq_comm (a := shown.2), Prod.ext_iff]

/-- The node is the one that the realm declares for the value. -/
inductive Realm.Declares (realm : Realm) (naming : ValueId → QualifiedName) (id : ValueId) :
    Node → Prop
  | ofClass {definition : ClassDef ValueId} {node : ClassNode}
      (hclass : realm.class? id = some definition)
      (hshows : node.Shows realm naming id definition) : Declares realm naming id (.classNode node)
  | ofInterface {requirements : Table String String} {node : InterfaceNode}
      (hinterface : realm.interface? id = some requirements)
      (hshows : node.Shows naming id requirements) : Declares realm naming id (.interfaceNode node)

namespace Realm.Declares

theorem name_eq (h : realm.Declares naming id node) : node.name = naming id := by
  cases h with
  | ofClass _ hshows => exact hshows.name
  | ofInterface _ hshows => exact hshows.name

/-- The node of a class shows it. -/
theorem exists_shows (h : realm.Declares naming id node) (hisClass : (realm.class? id).isSome) :
    ∃ definition own, node = .classNode own ∧ realm.class? id = some definition ∧
      own.Shows realm naming id definition := by
  cases h with
  | ofClass hclass hshows => exact ⟨_, _, rfl, hclass, hshows⟩
  | ofInterface hinterface _ =>
      exact absurd hisClass (not_isClass_of_isInterface (Option.isSome_of_eq_some hinterface))

/-- Only the names of the value and of those that it refers to matter. -/
theorem congr (h : realm.Declares naming id node) (hname : later id = naming id)
    (hparent : ∀ other, realm.HasParent id other → later other = naming other)
    (himplements : ∀ other, realm.Implements id other → later other = naming other) :
    realm.Declares later id node := by
  cases h with
  | ofClass hclass hshows =>
      refine .ofClass hclass ⟨hshows.name.trans hname.symm, ?_, ?_, hshows.surface, hshows.members⟩
      · rw [hshows.parent]
        exact Option.map_congr fun other hother => (hparent other ⟨_, hclass, hother⟩).symm
      · rw [hshows.interfaces]
        exact List.map_congr_left fun other hother => (himplements other ⟨_, hclass, hother⟩).symm
  | ofInterface hinterface hshows =>
      exact .ofInterface hinterface ⟨hshows.name.trans hname.symm, hshows.required⟩

end Realm.Declares

end ClassDiagram
