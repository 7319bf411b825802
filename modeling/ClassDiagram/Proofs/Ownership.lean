import ClassDiagram.Proofs.Reachable
import Mathlib.Data.List.Forall2

/-!
# Whose node it is

A graph tells its nodes apart by their names, and a node does not record which
value it was added for. As long as no scope is registered that can be told from
the name, since values keep their names. A scope that is registered later can
give a value another name, and then its node is left behind under the old one:
the value will be compiled once more, and the old name may come to be that of
another value.

A value owns a node if the node shows the value and has the name that the value
keeps. `Renamed` counts how often a value with a node has got another name
since the graph was last cleared. It is only by registering scopes that this
happens (`extends_after`), and when it has not happened every node is owned
(`Renamed.owned`). Each time it happens all nodes there are may lose their
owners, but no value can then get more than one node before it happens again.
That is `Layered`: a graph is a layer of nodes that are owned upon older ones,
and among the older ones each value has no more nodes than there were renamings.
-/

namespace ClassDiagram

open Scope

namespace Scope.Resolver

variable {realm : Realm} {resolver later : Resolver} {id : ValueId}

theorem Settled.of_nameOf_eq (h : resolver.Settled realm id)
    (hunscoped : resolver.unscoped <+: later.unscoped)
    (hname : later.nameOf realm id = resolver.nameOf realm id) : later.Settled realm id := by
  intro hnone
  refine hunscoped.mem (h ?_)
  rw [nameOf_eq, hnone, Option.getD_none, nameOf_eq] at hname
  -- The later name is anonymous, and a name that a scope gives never is.
  cases hsearch : (search realm resolver.scopes id).1 with
  | none => rfl
  | some name =>
      rw [hsearch, Option.getD_some] at hname
      obtain ⟨scope, _, steps, hne, _, rfl⟩ := search_sound hsearch
      exact absurd hname.symm (QualifiedName.ofPath_ne_anonymous _ (by simpa using hne) _)

end Scope.Resolver

/-- The node shows the value, whatever the values are called. -/
def Realm.Depicts (realm : Realm) (id : ValueId) (node : Node) : Prop :=
  ∃ naming, realm.Declares naming id node

namespace Session

variable {realm : Realm} {session later : Session realm} {id other : ValueId} {node : Node}
  {times : Nat}

/-! ## Owners -/

/-- The node shows the value and has the name that the value keeps. -/
structure Owns (session : Session realm) (id : ValueId) (node : Node) : Prop where
  settled : session.Settled id
  name_eq : node.name = session.nameOf id
  depicts : realm.Depicts id node

theorem Stands.owns (h : session.Stands id node) : session.Owns id node :=
  ⟨h.settled, h.declares.name_eq, session.nameOf, h.declares⟩

namespace Owns

theorem mono (h : session.Owns id node) (hgrown : Grown session later) : later.Owns id node :=
  ⟨hgrown.settled h.settled, h.name_eq.trans (hgrown.nameOf_eq h.settled).symm, h.depicts⟩

theorem present (h : session.Owns id node) (hmem : node ∈ session.graph.nodes) :
    session.Present id :=
  ⟨h.settled, h.name_eq ▸ List.mem_map_of_mem hmem⟩

theorem edited (h : session.Owns id node) (hedited : Edited session later)
    (hname : later.nameOf id = session.nameOf id) : later.Owns id node :=
  ⟨Resolver.Settled.of_nameOf_eq h.settled hedited.unscoped hname,
    h.name_eq.trans hname.symm, h.depicts⟩

end Owns

/-! ## Layers -/

/-- Behind older nodes, of which no value has more than so many, all nodes are
owned. -/
def Layered (times : Nat) (session : Session realm) : Prop :=
  ∃ (older recent : List Node) (formerly : List ValueId),
    session.graph.nodes = older ++ recent ∧ List.Forall₂ realm.Depicts formerly older ∧
    (∀ id, formerly.count id ≤ times) ∧ ∀ node ∈ recent, ∃ id, session.Owns id node

namespace Layered

/-- In a layer each value has at most one node. -/
theorem represented (h : Layered times session) :
    ∃ owners : List ValueId, List.Forall₂ realm.Depicts owners session.graph.nodes ∧
      ∀ id, owners.count id ≤ times + 1 := by
  obtain ⟨older, recent, formerly, hnodes, hformerly, hcount, howned⟩ := h
  have hnames : (recent.map Node.name).Nodup := by
    have hall := session.graph.names_nodup
    rw [hnodes, List.map_append] at hall
    exact (List.nodup_append.1 hall).2.1
  obtain ⟨ownerOf, hnodup, howns⟩ :=
    Node.exists_valueOf hnames (fun _ _ howns => howns.name_eq) howned
  refine ⟨formerly ++ recent.map ownerOf, ?_, fun id => ?_⟩
  · rw [hnodes]
    refine List.rel_append hformerly ?_
    rw [List.forall₂_map_left_iff, List.forall₂_same]
    exact fun node hnode => (howns node hnode).depicts
  · rw [List.count_append]
    exact Nat.add_le_add (hcount id) (List.nodup_iff_count_le_one.1 hnodup id)

theorem renamed (h : Layered times session) (hgraph : later.graph = session.graph) :
    Layered (times + 1) later := by
  obtain ⟨owners, howners, hcount⟩ := h.represented
  refine ⟨session.graph.nodes, [], owners, ?_, howners, hcount, fun _ hnode => by cases hnode⟩
  rw [hgraph, List.append_nil]

theorem edited (h : Layered times session) (hedited : Edited session later)
    (hkept : ∀ id, session.Present id → later.nameOf id = session.nameOf id) :
    Layered times later := by
  obtain ⟨older, recent, formerly, hnodes, hformerly, hcount, howned⟩ := h
  refine ⟨older, recent, formerly, hedited.graph ▸ hnodes, hformerly, hcount, fun node hnode => ?_⟩
  obtain ⟨id, howns⟩ := howned node hnode
  have hmem : node ∈ session.graph.nodes := hnodes ▸ List.mem_append_right _ hnode
  exact ⟨id, howns.edited hedited (hkept id (howns.present hmem))⟩

theorem mono (h : Layered times session) {more : Nat} (hmore : times ≤ more) :
    Layered more session := by
  obtain ⟨older, recent, formerly, hnodes, hformerly, hcount, howned⟩ := h
  exact ⟨older, recent, formerly, hnodes, hformerly, fun id => Nat.le_trans (hcount id) hmore,
    howned⟩

theorem compile (h : Layered times session) (id : ValueId) :
    Layered times (session.compile id).2 := by
  obtain ⟨older, recent, formerly, hnodes, hformerly, hcount, howned⟩ := h
  obtain ⟨source, excused, hadded⟩ := (session.compile_outcome id).added
  obtain ⟨new, hnew⟩ := hadded.grown.nodes
  refine ⟨older, recent ++ new, formerly, ?_, hformerly, hcount, fun node hnode => ?_⟩
  · rw [← hnew, hnodes, List.append_assoc]
  · rcases List.mem_append.1 hnode with hold | hnode
    · obtain ⟨owner, howns⟩ := howned node hold
      exact ⟨owner, howns.mono hadded.grown⟩
    · have hmem : node ∈ (session.compile id).2.graph.nodes := hnew ▸ List.mem_append_right _ hnode
      rcases hadded.additions node hmem with hold | ⟨owner, haddition⟩
      -- The name would be that of a node before and of one behind.
      · have hall := (session.compile id).2.graph.names_nodup
        rw [← hnew, List.map_append] at hall
        exact absurd rfl ((List.nodup_append.1 hall).2.2 _ (List.mem_map_of_mem hold) _
          (List.mem_map_of_mem hnode))
      · exact ⟨owner, haddition.stands.owns⟩

theorem compileEach (h : Layered times session) (ids : List ValueId) :
    Layered times (session.compileEach ids).2 :=
  compileEach_invariant (fun _ id h => h.compile id) ids session h

theorem of_graph_eq_empty (h : session.graph = ∅) : Layered times session := by
  refine ⟨[], [], [], ?_, .nil, fun id => Nat.zero_le _, fun _ hnode => by cases hnode⟩
  rw [h]
  rfl

/-- What holds for the operations that leave the graph alone is enough. -/
theorem after (h : Layered times session) (operation : Operation)
    (hedited : Edited session (session.after operation) → Layered times (session.after operation)) :
    Layered times (session.after operation) := by
  rcases session.after_cases operation with hleft | ⟨ids, hafter | hafter⟩
  · exact hedited hleft
  · rw [hafter]
    exact h.compileEach ids
  · rw [hafter]
    exact Layered.compileEach (.of_graph_eq_empty rfl) ids

end Layered

/-! ## Renamings -/

/-- The sessions that can come about while no more than so many operations have
given another name to a value with a node. Rendering clears the graph, and the
count begins anew. -/
inductive Renamed : Nat → Session realm → Prop
  | start {roots : List ValueId} {scopes : List (String × ValueId)} {session : Session realm}
      (h : withRoots roots scopes = .ok session) : Renamed 0 session
  | kept {times : Nat} {session : Session realm} (h : Renamed times session)
      (operation : Operation)
      (hkept : ∀ id, session.Present id → (session.after operation).nameOf id = session.nameOf id) :
      Renamed times (session.after operation)
  | renamed {times : Nat} {session : Session realm} (h : Renamed times session)
      (operation : Operation) : Renamed (times + 1) (session.after operation)
  | rendered {times : Nat} {session : Session realm} (h : Renamed times session) :
      Renamed 0 (session.after .render)

/-! Names are kept by all operations but one. -/

/-- Only registering a scope gives another name to a value. -/
theorem extends_after (session : Session realm) (operation : Operation)
    (hscope : ∀ name value, operation ≠ .addScope name value) :
    Resolver.Extends session.resolver (session.after operation).resolver := by
  cases operation with
  | addClass id =>
      rw [Session.after]
      cases hnext : session.addClass id with
      | error error => exact .refl _
      | ok next => exact resolver_addClass hnext ▸ .refl _
  | addClasses ids => exact resolver_addClasses ids session ▸ .refl _
  | addScope name value => exact absurd rfl (hscope name value)
  | addRelation relation => exact .refl _
  | setNotes notes => exact .refl _
  | setEnclose enclose => exact .refl _
  | resolve id => exact Resolver.extends_resolve _ _ _
  | compile id => exact (session.grown_compile id).resolver
  | compileAll => exact (grown_compileEach session.roots session).resolver
  | render =>
      rw [after_render]
      exact (grown_compileEach session.roots session.cleared).resolver

namespace Renamed

theorem empty (realm : Realm) : Renamed 0 (∅ : Session realm) :=
  .start (show withRoots [] [] = .ok ∅ from rfl)

theorem reachable (h : Renamed times session) : Reachable session := by
  induction h with
  | start h => exact .start h
  | kept _ operation _ ih => exact ih.step operation
  | renamed _ operation ih => exact ih.step operation
  | rendered _ ih => exact ih.step .render

theorem step (h : Renamed times session) (operation : Operation)
    (hscope : ∀ name value, operation ≠ .addScope name value) :
    Renamed times (session.after operation) :=
  h.kept operation fun _ hpresent =>
    (session.extends_after operation hscope).nameOf_eq hpresent.settled

theorem step_of_graph_eq_empty (h : Renamed times session) (operation : Operation)
    (hempty : session.graph = ∅) : Renamed times (session.after operation) := by
  refine h.kept operation fun id hpresent => ?_
  have hnamed := hpresent.named
  rw [hempty] at hnamed
  cases hnamed

theorem layered (h : Renamed times session) : Layered times session := by
  induction h with
  | start h => exact .of_graph_eq_empty (edited_withRoots h).graph
  | kept _ operation hkept ih => exact ih.after operation fun hedited => ih.edited hedited hkept
  | renamed _ operation ih =>
      exact (ih.mono (Nat.le_succ _)).after operation fun hedited => ih.renamed hedited.graph
  | rendered _ _ =>
      rw [after_render]
      exact Layered.compileEach (.of_graph_eq_empty rfl) _

/-- Every node is owned as long as no value with a node has got another name. -/
theorem owned (h : Renamed 0 session) :
    ∀ node ∈ session.graph.nodes, ∃ id, session.Owns id node := by
  obtain ⟨older, recent, formerly, hnodes, hformerly, hcount, howned⟩ := h.layered
  have hnone : formerly = [] := List.eq_nil_iff_forall_not_mem.2 fun id hmem =>
    Nat.lt_irrefl _ (Nat.lt_of_lt_of_le (List.count_pos_iff.2 hmem) (hcount id))
  rw [hnone] at hformerly
  cases hformerly
  rw [hnodes]
  exact howned

end Renamed

theorem Reachable.exists_renamed (h : Reachable session) : ∃ times, Renamed times session := by
  induction h with
  | start h => exact ⟨0, .start h⟩
  | step _ operation ih =>
      obtain ⟨times, hrenamed⟩ := ih
      exact ⟨times + 1, hrenamed.renamed operation⟩

end Session

end ClassDiagram
