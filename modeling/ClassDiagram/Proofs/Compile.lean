import ClassDiagram.Proofs.Declared
import ClassDiagram.Proofs.Naming
import ClassDiagram.Session

/-!
# What compiling adds

Compiling a class goes up the chain of its parents and adds the nodes on the
way back. This file says what has been added when it is done, whether it
succeeded or not (`compile_outcome`). It holds of any session, also of one that
is in the middle of compiling other classes.

A node is only ever added for a value that it stands for: it is the node that
the realm declares for the value, and every name in it is settled. This is
where the names being distinct matters. A class is skipped if there is a node
of its name, and names are all that is compared; because settled values of the
same name are the same, no class loses its node to another one, and the node
of a class goes to the end of the graph.

What a new node does not come with is its parent. On a circle the parent may be
a class that is being compiled, and then the node of the parent is still to
come. If the parent fails later, for an interface that is none, it never comes.
So an addition has its parent present, or the parent is in progress, or the
compilation has failed and the parent lies below the culprit.
-/

namespace ClassDiagram.Session

open Scope

variable {realm : Realm} {session later last : Session realm} {id other : ValueId} {node : Node}

/-! ## A session and a later one -/

/-- The name that the value gets when it is asked for next. -/
def nameOf (session : Session realm) (id : ValueId) : QualifiedName :=
  session.resolver.nameOf realm id

/-- The value keeps its name as long as the scopes stay as they are. -/
def Settled (session : Session realm) (id : ValueId) : Prop := session.resolver.Settled realm id

/-- What compiling leaves alone, and that it only appends to the graph. -/
structure Grown (session later : Session realm) : Prop where
  roots : later.roots = session.roots
  relations : later.relations = session.relations
  settings : later.settings = session.settings
  resolver : Resolver.Extends session.resolver later.resolver
  nodes : session.graph.nodes <+: later.graph.nodes

namespace Grown

theorem refl (session : Session realm) : Grown session session :=
  ⟨rfl, rfl, rfl, .refl _, List.prefix_refl _⟩

theorem trans (h : Grown session later) (h' : Grown later last) : Grown session last :=
  ⟨h'.roots.trans h.roots, h'.relations.trans h.relations, h'.settings.trans h.settings,
    h.resolver.trans h'.resolver, h.nodes.trans h'.nodes⟩

theorem settled (h : Grown session later) (hsettled : session.Settled id) : later.Settled id :=
  Resolver.Settled.mono hsettled h.resolver

theorem nameOf_eq (h : Grown session later) (hsettled : session.Settled id) :
    later.nameOf id = session.nameOf id :=
  h.resolver.nameOf_eq hsettled

theorem mem_names (h : Grown session later) {name : QualifiedName}
    (hname : name ∈ session.graph.names) : name ∈ later.graph.names :=
  (h.nodes.map Node.name).mem hname

theorem resolve (session : Session realm) (id : ValueId) : Grown session (session.resolve id).2 :=
  ⟨rfl, rfl, rfl, Resolver.extends_resolve _ _ _, List.prefix_refl _⟩

theorem close (session : Session realm) (id : ValueId) : Grown session (session.close id) :=
  ⟨rfl, rfl, rfl, .refl _, List.prefix_refl _⟩

end Grown

theorem settled_resolve (session : Session realm) (id : ValueId) :
    (session.resolve id).2.Settled id :=
  Resolver.settled_resolve _ _ _

theorem nameOf_resolve (session : Session realm) (id : ValueId) :
    (session.resolve id).2.nameOf id = session.nameOf id :=
  Resolver.nameOf_resolve _ _ _

theorem nameOf_inj (hid : session.Settled id) (hother : session.Settled other)
    (h : session.nameOf id = session.nameOf other) : id = other :=
  Resolver.nameOf_inj hid hother h

/-! ## Nodes and the values they stand for -/

/-- The value keeps its name, and there is a node of that name. -/
structure Present (session : Session realm) (id : ValueId) : Prop where
  settled : session.Settled id
  named : session.nameOf id ∈ session.graph.names

theorem Present.mono (h : session.Present id) (hgrown : Grown session later) :
    later.Present id := by
  refine ⟨hgrown.settled h.settled, ?_⟩
  rw [hgrown.nameOf_eq h.settled]
  exact hgrown.mem_names h.named

/-- The node is the one that the realm declares for the value, and all the
names in it are kept. -/
structure Stands (session : Session realm) (id : ValueId) (node : Node) : Prop where
  declares : realm.Declares session.nameOf id node
  settled : session.Settled id
  parent : ∀ other, realm.HasParent id other → session.Settled other
  interfaces : ∀ other, realm.Implements id other → session.Settled other

namespace Stands

theorem mono (h : session.Stands id node) (hgrown : Grown session later) :
    later.Stands id node where
  declares := h.declares.congr (hgrown.nameOf_eq h.settled)
    (fun other hother => hgrown.nameOf_eq (h.parent other hother))
    (fun other hother => hgrown.nameOf_eq (h.interfaces other hother))
  settled := hgrown.settled h.settled
  parent other hother := hgrown.settled (h.parent other hother)
  interfaces other hother := hgrown.settled (h.interfaces other hother)

theorem present (h : session.Stands id node) (hmem : node ∈ session.graph.nodes) :
    session.Present id :=
  ⟨h.settled, h.declares.name_eq ▸ List.mem_map_of_mem hmem⟩

/-- The name of a node tells what it stands for. -/
theorem eq_of_name_eq (h : session.Stands id node) (hother : session.Settled other)
    (hname : node.name = session.nameOf other) : id = other :=
  nameOf_inj h.settled hother (h.declares.name_eq.symm.trans hname)

end Stands

/-- How a value comes to have its node: it is a class that the chain of parents
leads up to from the source, or an interface of such a class. -/
inductive Addition (session : Session realm) (source : ValueId) (pending : List ValueId)
    (excused : ValueId → Prop) (id : ValueId) (node : Node) : Prop
  | ofClass (stands : session.Stands id node) (ascends : realm.Ascends source id)
      (conforms : realm.Conforms id) (fresh : id ∉ pending)
      (interfaces : ∀ other, realm.Implements id other → session.Present other)
      (parent : ∀ other, realm.HasParent id other →
        session.Present other ∨ other ∈ pending ∨ excused other)
  | ofInterface {owner : ValueId} (stands : session.Stands id node)
      (isInterface : (realm.interface? id).isSome) (ascends : realm.Ascends source owner)
      (implements : realm.Implements owner id)

theorem Addition.stands {source : ValueId} {pending : List ValueId} {excused : ValueId → Prop}
    (h : Addition session source pending excused id node) : session.Stands id node := by
  cases h with
  | ofClass stands => exact stands
  | ofInterface stands => exact stands

theorem Addition.mono {source source' : ValueId} {pending pending' : List ValueId}
    {excused excused' : ValueId → Prop} (h : Addition session source pending excused id node)
    (hgrown : Grown session later) (hsource : realm.Ascends source' source)
    (hpending : ∀ other ∈ pending', other ∈ pending)
    (hexcused : ∀ other, other ∈ pending ∨ excused other →
      later.Present other ∨ other ∈ pending' ∨ excused' other) :
    Addition later source' pending' excused' id node := by
  cases h with
  | ofClass stands ascends conforms fresh interfaces parent =>
      refine .ofClass (stands.mono hgrown) (hsource.trans ascends) conforms
        (fun hmem => fresh (hpending _ hmem))
        (fun other hother => (interfaces other hother).mono hgrown) fun other hother => ?_
      rcases parent other hother with hpresent | hexcuse
      · exact .inl (hpresent.mono hgrown)
      · exact hexcused other hexcuse
  | ofInterface stands isInterface ascends implements =>
      exact .ofInterface (stands.mono hgrown) isInterface (hsource.trans ascends) implements

/-- The later session has gone through what the chain of parents leads up to
from the source, and every node that it has more is an addition. -/
structure Added (session later : Session realm) (source : ValueId)
    (excused : ValueId → Prop) : Prop where
  grown : Grown session later
  inProgress : later.inProgress = session.inProgress
  additions : ∀ node ∈ later.graph.nodes, node ∈ session.graph.nodes ∨
    ∃ id, Addition later source session.inProgress excused id node

/-- What comes of compiling a value. When it fails, the chain of parents leads up
to a culprit that does not conform. All that has been added is above it, and a
parent that is missing there is below it. -/
def Outcome (session : Session realm) (id : ValueId) :
    Except Error QualifiedName × Session realm → Prop
  | (.ok name, later) =>
      Added session later id (fun _ => False) ∧ (realm.class? id).isSome ∧
        name = later.nameOf id ∧ later.Settled id ∧
        (later.Present id ∨ id ∈ session.inProgress)
  | (.error _, later) =>
      ∃ culprit, realm.Ascends id culprit ∧ ¬ realm.Conforms culprit ∧
        Added session later culprit (realm.Ascends · culprit)

theorem Outcome.added {result : Except Error QualifiedName × Session realm}
    (h : Outcome session id result) :
    ∃ source excused, Added session result.2 source excused := by
  obtain ⟨error | name, later⟩ := result
  · obtain ⟨culprit, _, _, hadded⟩ := h
    exact ⟨_, _, hadded⟩
  · exact ⟨_, _, h.1⟩

/-! ## Interfaces -/

/-- The later session has nodes more only for interfaces among the values. -/
structure Interfaced (session later : Session realm) (ids : List ValueId) : Prop where
  grown : Grown session later
  inProgress : later.inProgress = session.inProgress
  additions : ∀ node ∈ later.graph.nodes, node ∈ session.graph.nodes ∨
    ∃ id ∈ ids, (realm.interface? id).isSome ∧ later.Stands id node

theorem Interfaced.refl (session : Session realm) : Interfaced session session [] :=
  ⟨.refl session, rfl, fun _ hnode => .inl hnode⟩

theorem Interfaced.append {first rest : List ValueId} (h : Interfaced session later first)
    (h' : Interfaced later last rest) : Interfaced session last (first ++ rest) := by
  refine ⟨h.grown.trans h'.grown, h'.inProgress.trans h.inProgress, fun node hnode => ?_⟩
  rcases h'.additions node hnode with hnode | ⟨id, hid, hisInterface, hstands⟩
  · rcases h.additions node hnode with hnode | ⟨id, hid, hisInterface, hstands⟩
    · exact .inl hnode
    · exact .inr ⟨id, List.mem_append_left _ hid, hisInterface, hstands.mono h'.grown⟩
  · exact .inr ⟨id, List.mem_append_right _ hid, hisInterface, hstands⟩

/-- The session with one more node. -/
def withNode (session : Session realm) (node : Node) : Session realm :=
  { session with graph := session.graph.insert node }

theorem nodes_withNode (hfresh : node.name ∉ session.graph.names) :
    (session.withNode node).graph.nodes = session.graph.nodes ++ [node] :=
  Graph.nodes_insert_of_not_mem hfresh

theorem mem_nodes_withNode {added : Node} (hfresh : added.name ∉ session.graph.names) :
    node ∈ (session.withNode added).graph.nodes ↔ node ∈ session.graph.nodes ∨ node = added := by
  rw [nodes_withNode hfresh, List.mem_append, List.mem_singleton]

theorem Grown.withNode (hfresh : node.name ∉ session.graph.names) :
    Grown session (session.withNode node) :=
  ⟨rfl, rfl, rfl, .refl _, nodes_withNode hfresh ▸ List.prefix_append _ _⟩

theorem Stands.present_withNode (h : session.Stands id node)
    (hfresh : node.name ∉ session.graph.names) : (session.withNode node).Present id :=
  (h.mono (.withNode hfresh)).present ((mem_nodes_withNode hfresh).2 (.inr rfl))

theorem compileInterface_eq {requirements : Table String String}
    (hinterface : realm.interface? id = some requirements) :
    session.compileInterface id =
      (.ok (session.nameOf id),
        if session.nameOf id ∈ session.graph.names then (session.resolve id).2
        else (session.resolve id).2.withNode
          (.interfaceNode (interfaceNode (session.nameOf id) requirements))) := by
  rw [compileInterface, Realm.expectInterface_eq_ok_iff.2 hinterface]
  by_cases hnamed : session.nameOf id ∈ session.graph.names
  · rw [if_pos hnamed]
    exact if_pos (Graph.contains_iff.2 hnamed)
  · rw [if_neg hnamed]
    exact if_neg fun hcontains => hnamed (Graph.contains_iff.1 hcontains)

theorem compileInterface_spec (session : Session realm) (id : ValueId) :
    match session.compileInterface id with
    | (.ok name, later) => Interfaced session later [id] ∧ (realm.interface? id).isSome ∧
        name = later.nameOf id ∧ later.Present id
    | (.error _, later) => later = session ∧ realm.interface? id = none := by
  cases hinterface : realm.interface? id with
  | none =>
      rw [compileInterface]
      cases hexpect : realm.expectInterface id with
      | error error => exact ⟨rfl, rfl⟩
      | ok requirements =>
          rw [Realm.expectInterface_eq_ok_iff.1 hexpect] at hinterface
          cases hinterface
  | some requirements =>
      have hname := nameOf_resolve session id
      have hsettled := settled_resolve session id
      have hgrown := Grown.resolve session id
      rw [compileInterface_eq hinterface]
      by_cases hnamed : session.nameOf id ∈ session.graph.names
      · rw [if_pos hnamed]
        refine ⟨⟨hgrown, rfl, fun _ hnode => .inl hnode⟩, rfl, hname.symm, hsettled, ?_⟩
        rw [hname]
        exact hnamed
      · rw [if_neg hnamed]
        have hnone : ¬ (realm.class? id).isSome :=
          Realm.not_isClass_of_isInterface (Option.isSome_of_eq_some hinterface)
        have hstands : (session.resolve id).2.Stands id
            (.interfaceNode (interfaceNode (session.nameOf id) requirements)) :=
          ⟨.ofInterface hinterface ⟨hname.symm, InterfaceNode.required_iff.2 rfl⟩, hsettled,
            fun other hother => absurd hother.isClass hnone,
            fun other hother => absurd hother.isClass hnone⟩
        have hfresh : (Node.interfaceNode
            (interfaceNode (session.nameOf id) requirements)).name ∉
              (session.resolve id).2.graph.names := hnamed
        have hinsert := Grown.withNode hfresh
        refine ⟨⟨hgrown.trans hinsert, rfl, fun node hnode => ?_⟩, rfl, hname.symm,
          hstands.present_withNode hfresh⟩
        rcases (mem_nodes_withNode hfresh).1 hnode with hold | rfl
        · exact .inl hold
        · exact .inr ⟨id, List.mem_singleton_self id, Option.isSome_of_eq_some hinterface,
            hstands.mono hinsert⟩

theorem compileInterfaces_spec : ∀ (ids : List ValueId) (session : Session realm),
    match session.compileInterfaces ids with
    | (.ok names, later) => Interfaced session later ids ∧
        (∀ id ∈ ids, (realm.interface? id).isSome ∧ later.Present id) ∧
        names = ids.map later.nameOf
    | (.error _, later) =>
        Interfaced session later ids ∧ ∃ id ∈ ids, realm.interface? id = none := by
  intro ids
  induction ids with
  | nil =>
      intro session
      exact ⟨.refl session, fun _ hmem => (List.not_mem_nil hmem).elim, rfl⟩
  | cons id ids ih =>
      intro session
      rw [compileInterfaces]
      have hfirst := compileInterface_spec session id
      revert hfirst
      rcases session.compileInterface id with ⟨error | name, next⟩
      · intro hfirst
        obtain ⟨rfl, hnone⟩ := hfirst
        refine ⟨⟨.refl _, rfl, fun _ hnode => .inl hnode⟩, id, List.mem_cons_self, hnone⟩
      · intro hfirst
        obtain ⟨hfirst, hisInterface, hname, hpresent⟩ := hfirst
        have hrest := ih next
        simp only []
        revert hrest
        rcases next.compileInterfaces ids with ⟨error | names, final⟩
        · intro hrest
          obtain ⟨hrest, other, hother, hnone⟩ := hrest
          exact ⟨hfirst.append hrest, other, List.mem_cons_of_mem _ hother, hnone⟩
        · intro hrest
          obtain ⟨hrest, hall, hnames⟩ := hrest
          refine ⟨hfirst.append hrest, fun other hother => ?_, ?_⟩
          · rcases List.mem_cons.1 hother with rfl | hother
            · exact ⟨hisInterface, hpresent.mono hrest.grown⟩
            · exact hall other hother
          · rw [hname, hnames, List.map_cons, hrest.grown.nameOf_eq hpresent.settled]

theorem grown_compileInterfaces (ids : List ValueId) (session : Session realm) :
    Grown session (session.compileInterfaces ids).2 := by
  have hspec := compileInterfaces_spec ids session
  revert hspec
  rcases session.compileInterfaces ids with ⟨error | names, later⟩
  · exact fun hspec => hspec.1.grown
  · exact fun hspec => hspec.1.grown

/-! ## One class

The class is named and put on the list, then its parent is compiled, then the
class itself, then it is taken off the list. -/

/-- The session after the class has been named and put on the list. -/
def opening (session : Session realm) (id : ValueId) : Session realm :=
  { (session.resolve id).2 with inProgress := id :: session.inProgress }

/-- There is no node of the name of the class, and it is not in progress. -/
structure Fresh (session : Session realm) (id : ValueId) : Prop where
  unnamed : session.nameOf id ∉ session.graph.names
  idle : id ∉ session.inProgress

/-- The induction that goes with `compile`: over the chain of parents, as far as
it is followed. -/
theorem compile_induction
    {motive : Session realm → ValueId → Except Error QualifiedName × Session realm → Prop}
    (refused : ∀ session id error, realm.expectClass id = .error error →
      motive session id (.error error, session))
    (skipped : ∀ session id definition, realm.class? id = some definition → ¬ Fresh session id →
      motive session id (.ok (session.nameOf id), (session.resolve id).2))
    (rootless : ∀ session id definition, realm.class? id = some definition → Fresh session id →
      definition.parent = none →
      motive session id ((opening session id).compileOwn id definition (session.nameOf id) none))
    (orphaned : ∀ session id definition parent error next, realm.class? id = some definition →
      Fresh session id → definition.parent = some parent →
      (opening session id).compile parent = (.error error, next) →
      motive (opening session id) parent (.error error, next) →
      motive session id (.error error, next.close id))
    (descended : ∀ session id definition parent name next, realm.class? id = some definition →
      Fresh session id → definition.parent = some parent →
      (opening session id).compile parent = (.ok name, next) →
      motive (opening session id) parent (.ok name, next) →
      motive session id (next.compileOwn id definition (session.nameOf id) (some name)))
    (session : Session realm) (id : ValueId) : motive session id (session.compile id) := by
  have hfresh : ∀ {session : Session realm} {id : ValueId},
      ¬ (session.graph.contains (session.nameOf id) = true ∨ id ∈ session.inProgress) →
      Fresh session id := fun hopen =>
    ⟨fun hnamed => hopen (.inl (Graph.contains_iff.2 hnamed)), fun hbusy => hopen (.inr hbusy)⟩
  fun_induction compile session id with
  | case1 session id error hexpect => exact refused session id error hexpect
  | case2 session id definition hexpect named hopen =>
      refine skipped session id definition (Realm.expectClass_eq_ok_iff.1 hexpect) fun hfresh => ?_
      rcases hopen with hnamed | hbusy
      · exact hfresh.unnamed (Graph.contains_iff.1 hnamed)
      · exact hfresh.idle hbusy
  | case3 session id definition hexpect named hopen opened hparent =>
      exact rootless session id definition (Realm.expectClass_eq_ok_iff.1 hexpect) (hfresh hopen)
        hparent
  | case4 session id definition hexpect named hopen opened parent hparent error next hnext ih =>
      refine orphaned session id definition parent error next
        (Realm.expectClass_eq_ok_iff.1 hexpect) (hfresh hopen) hparent hnext ?_
      rw [← hnext]
      exact ih
  | case5 session id definition hexpect named hopen opened parent hparent name next hnext ih =>
      refine descended session id definition parent name next
        (Realm.expectClass_eq_ok_iff.1 hexpect) (hfresh hopen) hparent hnext ?_
      rw [← hnext]
      exact ih

/-- A class that has a node of its name, or is in progress, is only named. -/
theorem compile_of_not_fresh (hisClass : (realm.class? id).isSome) (hfresh : ¬ Fresh session id) :
    session.compile id = (.ok (session.nameOf id), (session.resolve id).2) := by
  induction session, id using compile_induction with
  | refused session id error hexpect =>
      rw [Realm.class?_eq_none_of_error hexpect] at hisClass
      cases hisClass
  | skipped session id definition _ _ => rfl
  | rootless _ _ _ _ h => exact absurd h hfresh
  | orphaned _ _ _ _ _ _ _ h => exact absurd h hfresh
  | descended _ _ _ _ _ _ _ h => exact absurd h hfresh

/-- A value that is no class changes nothing. -/
theorem compile_of_error {error : Error} (hexpect : realm.expectClass id = .error error) :
    session.compile id = (.error error, session) := by
  induction session, id using compile_induction with
  | refused session id other hother =>
      cases hother.symm.trans hexpect
      rfl
  | skipped _ _ _ h | rootless _ _ _ h | orphaned _ _ _ _ _ _ h | descended _ _ _ _ _ _ h =>
      rw [Realm.class?_eq_none_of_error hexpect] at h
      cases h

/-- A class that is fresh is compiled after its parent. -/
theorem compile_of_fresh {definition : ClassDef ValueId}
    (hclass : realm.class? id = some definition) (hfresh : Fresh session id) :
    session.compile id =
      match definition.parent with
      | none => (session.opening id).compileOwn id definition (session.nameOf id) none
      | some parent =>
          match (session.opening id).compile parent with
          | (.error error, next) => (.error error, next.close id)
          | (.ok name, next) =>
              next.compileOwn id definition (session.nameOf id) (some name) := by
  induction session, id using compile_induction with
  | refused session id error hexpect =>
      rw [Realm.class?_eq_none_of_error hexpect] at hclass
      cases hclass
  | skipped _ _ _ _ h => exact absurd hfresh h
  | rootless session id definition' hclass' _ hparent =>
      cases hclass.symm.trans hclass'
      rw [hparent]
  | orphaned session id definition' parent error next hclass' _ hparent hnext _ =>
      cases hclass.symm.trans hclass'
      rw [hparent]
      simp only [hnext]
  | descended session id definition' parent name next hclass' _ hparent hnext _ =>
      cases hclass.symm.trans hclass'
      rw [hparent]
      simp only [hnext]

/-- The name that is returned is the one that the class had before. -/
theorem name_of_compile (session : Session realm) (id : ValueId) :
    ∀ name, (session.compile id).1 = .ok name → name = session.nameOf id := by
  have hown : ∀ {next session : Session realm} {id : ValueId} {definition : ClassDef ValueId}
      {parent : Option QualifiedName} (name : QualifiedName),
      (next.compileOwn id definition (session.nameOf id) parent).1 = .ok name →
        name = session.nameOf id := by
    intro next session id definition parent name hok
    rw [compileOwn] at hok
    split at hok
    · cases hok
    · cases hok
      rfl
  induction session, id using compile_induction with
  | refused session id error hexpect => rintro _ ⟨⟩
  | skipped session id definition hclass hfresh =>
      rintro _ ⟨⟩
      rfl
  | rootless session id definition hclass hfresh hparent => exact hown
  | orphaned session id definition parent error next hclass hfresh hparent hnext ih => rintro _ ⟨⟩
  | descended session id definition parent name next hclass hfresh hparent hnext ih => exact hown

theorem Grown.opening (session : Session realm) (id : ValueId) :
    Grown session (session.opening id) :=
  ⟨rfl, rfl, rfl, Resolver.extends_resolve _ _ _, List.prefix_refl _⟩

theorem settled_opening (session : Session realm) (id : ValueId) :
    (session.opening id).Settled id :=
  Resolver.settled_resolve _ _ _

theorem nameOf_opening (session : Session realm) (id : ValueId) :
    (session.opening id).nameOf id = session.nameOf id :=
  Resolver.nameOf_resolve _ _ _

theorem inProgress_close {pending : List ValueId} (h : session.inProgress = id :: pending) :
    (session.close id).inProgress = pending := by
  rw [close]
  simp only []
  rw [h, List.erase_cons_head]

namespace Added

variable {source : ValueId} {excused excused' : ValueId → Prop}

theorem refl (session : Session realm) (source : ValueId) (excused : ValueId → Prop) :
    Added session session source excused :=
  ⟨.refl session, rfl, fun _ hnode => .inl hnode⟩

theorem mono {source' : ValueId} (h : Added session later source excused)
    (hsource : realm.Ascends source' source)
    (hexcused : ∀ other, excused other → excused' other) :
    Added session later source' excused' := by
  refine ⟨h.grown, h.inProgress, fun node hnode => ?_⟩
  rcases h.additions node hnode with hold | ⟨id, hnew⟩
  · exact .inl hold
  · exact .inr ⟨id, hnew.mono (.refl later) hsource (fun _ hmem => hmem)
      fun other hother => .inr (hother.imp_right (hexcused other))⟩

theorem interfaces {ids : List ValueId} (h : Added session later source excused)
    (hids : Interfaced later last ids) (howner : ∀ other ∈ ids, realm.Implements source other) :
    Added session last source excused := by
  refine ⟨h.grown.trans hids.grown, hids.inProgress.trans h.inProgress, fun node hnode => ?_⟩
  rcases hids.additions node hnode with hold | ⟨other, hother, hisInterface, hstands⟩
  · rcases h.additions node hold with hold | ⟨id, hnew⟩
    · exact .inl hold
    · exact .inr ⟨id, hnew.mono hids.grown .refl (fun _ hmem => hmem) fun _ hother => .inr hother⟩
  · exact .inr ⟨other, .ofInterface hstands hisInterface .refl (howner other hother)⟩

/-- A class that is in progress gets no node from the classes above it. -/
theorem unnamed (h : Added session later source excused) (hclass : (realm.class? id).isSome)
    (hbusy : id ∈ session.inProgress) (hsettled : session.Settled id)
    (hunnamed : session.nameOf id ∉ session.graph.names) :
    later.nameOf id ∉ later.graph.names := by
  intro hnamed
  obtain ⟨node, hnode, hname⟩ := List.mem_map.1 hnamed
  rcases h.additions node hnode with hold | ⟨other, hnew⟩
  · rw [h.grown.nameOf_eq hsettled] at hname
    exact hunnamed (hname ▸ List.mem_map_of_mem hold)
  -- A node of this name would stand for the class itself.
  · cases hnew.stands.eq_of_name_eq (h.grown.settled hsettled) hname
    cases hnew with
    | ofClass _ _ _ fresh => exact fresh hbusy
    | ofInterface _ isInterface => exact Realm.not_isClass_of_isInterface isInterface hclass

/-- Nor does it get one while its ancestors and its interfaces are compiled. -/
theorem unnamed_opening (h : Added (session.opening id) later source excused)
    (hclass : (realm.class? id).isSome) (hfresh : Fresh session id) :
    session.nameOf id ∉ later.graph.names := by
  have hsettled := settled_opening session id
  have hname := nameOf_opening session id
  rw [← hname, ← h.grown.nameOf_eq hsettled]
  exact h.unnamed hclass List.mem_cons_self hsettled (hname.symm ▸ hfresh.unnamed)

/-- A class that has failed is taken off the list. -/
theorem close (h : Added (session.opening id) later source excused) (hid : excused id) :
    Added session (later.close id) source excused := by
  refine ⟨((Grown.opening session id).trans h.grown).trans (.close later id), ?_,
    fun node hnode => ?_⟩
  · exact inProgress_close h.inProgress
  · rcases h.additions node hnode with hold | ⟨added, hnew⟩
    · exact .inl hold
    · refine .inr ⟨added, hnew.mono (.close later id) .refl
        (fun other hother => List.mem_cons_of_mem _ hother) fun other hother => .inr ?_⟩
      rcases hother with hbusy | hexcused
      · rcases List.mem_cons.1 hbusy with rfl | hbusy
        · exact .inr hid
        · exact .inl hbusy
      · exact .inr hexcused

/-- A class gets its node and is taken off the list. -/
theorem finish (h : Added (session.opening id) later id fun _ => False)
    (hidle : id ∉ session.inProgress) (hunnamed : node.name ∉ later.graph.names)
    (hstands : later.Stands id node) (hconforms : realm.Conforms id)
    (hinterfaces : ∀ other, realm.Implements id other → later.Present other)
    (hparent : ∀ other, realm.HasParent id other →
      later.Present other ∨ other ∈ id :: session.inProgress) :
    Added session ((later.withNode node).close id) id fun _ => False := by
  have hgrown := (Grown.withNode hunnamed).trans (.close (later.withNode node) id)
  have hpresent := (hstands.present_withNode hunnamed).mono (.close (later.withNode node) id)
  have hpending : ∀ other ∈ id :: session.inProgress,
      ((later.withNode node).close id).Present other ∨ other ∈ session.inProgress := by
    intro other hother
    rcases List.mem_cons.1 hother with rfl | hbusy
    · exact .inl hpresent
    · exact .inr hbusy
  refine ⟨((Grown.opening session id).trans h.grown).trans hgrown, ?_, fun other hother => ?_⟩
  · exact inProgress_close h.inProgress
  · rcases (mem_nodes_withNode hunnamed).1 hother with hold | rfl
    · rcases h.additions other hold with hold | ⟨added, hnew⟩
      · exact .inl hold
      · refine .inr ⟨added, hnew.mono hgrown .refl (fun _ hbusy => List.mem_cons_of_mem _ hbusy)
          fun other hother => ?_⟩
        rcases hother with hbusy | hfalse
        · exact (hpending other hbusy).imp_right .inl
        · exact hfalse.elim
    · refine .inr ⟨id, .ofClass (hstands.mono hgrown) .refl hconforms hidle
        (fun other hother => (hinterfaces other hother).mono hgrown) fun other hother => ?_⟩
      rcases hparent other hother with hparent | hbusy
      · exact .inl (hparent.mono hgrown)
      · exact (hpending other hbusy).imp_right .inl

end Added

/-! ## The outcome -/

/-- The node of a class under the names of the session. -/
def ownNode (session : Session realm) (id : ValueId) (definition : ClassDef ValueId) : Node :=
  .classNode (classNode realm definition (session.nameOf id)
    (definition.parent.map session.nameOf) (definition.implements.map session.nameOf))

theorem stands_ownNode {definition : ClassDef ValueId} (hclass : realm.class? id = some definition)
    (hsettled : session.Settled id)
    (hparent : ∀ other, definition.parent = some other → session.Settled other)
    (hinterfaces : ∀ other ∈ definition.implements, session.Settled other) :
    session.Stands id (session.ownNode id definition) where
  declares := by
    refine .ofClass hclass ⟨rfl, rfl, rfl, rfl, List.filter_congr fun entry _ => ?_⟩
    rw [Bool.eq_iff_iff, Bool.not_eq_true', decide_eq_true_eq, ← Bool.not_eq_true,
      Table.contains_iff]
    rfl
  settled := hsettled
  parent other h := hparent other (h.parent_eq hclass)
  interfaces other h := hinterfaces other (h.mem hclass)

/-- The class itself, when what the chain of parents leads up to is done. -/
theorem outcome_compileOwn {definition : ClassDef ValueId} {next : Session realm}
    (hclass : realm.class? id = some definition) (hfresh : Fresh session id)
    (h : Added (session.opening id) next id fun _ => False)
    (hparent : ∀ other, definition.parent = some other → (realm.class? other).isSome ∧
      next.Settled other ∧ (next.Present other ∨ other ∈ id :: session.inProgress)) :
    let result := next.compileOwn id definition (session.nameOf id)
      (definition.parent.map next.nameOf)
    Grown next result.2 ∧ Outcome session id result := by
  have himplements : ∀ other ∈ definition.implements, realm.Implements id other :=
    fun other hother => ⟨definition, hclass, hother⟩
  have hspec := compileInterfaces_spec definition.implements next
  intro result
  simp only [result, compileOwn]
  revert hspec
  rcases next.compileInterfaces definition.implements with ⟨error | names, later⟩
  · intro hspec
    obtain ⟨hids, other, hother, hnone⟩ := hspec
    have hadded : Added (session.opening id) later id (realm.Ascends · id) :=
      (h.interfaces hids himplements).mono .refl fun _ hfalse => hfalse.elim
    exact ⟨hids.grown.trans (.close later id), id, .refl,
      (himplements other hother).not_conforms hnone, hadded.close .refl⟩
  · intro hspec
    obtain ⟨hids, hall, rfl⟩ := hspec
    have hlater := h.interfaces hids himplements
    -- All names in the node are settled, so it does not matter that they were
    -- read off sessions that came before.
    have hname : session.nameOf id = later.nameOf id := by
      rw [hlater.grown.nameOf_eq (settled_opening session id), nameOf_opening]
    have hparents : definition.parent.map next.nameOf = definition.parent.map later.nameOf :=
      Option.map_congr fun other hother => (hids.grown.nameOf_eq (hparent other hother).2.1).symm
    have hunnamed : (later.ownNode id definition).name ∉ later.graph.names := by
      show later.nameOf id ∉ later.graph.names
      rw [← hname]
      exact hlater.unnamed_opening (Option.isSome_of_eq_some hclass) hfresh
    have hstands : later.Stands id (later.ownNode id definition) :=
      stands_ownNode hclass (hlater.grown.settled (settled_opening session id))
        (fun other hother => hids.grown.settled (hparent other hother).2.1)
        fun other hother => (hall other hother).2.settled
    have hconforms : realm.Conforms id :=
      .of_class? hclass (fun other hother => (hparent other hother).1)
        fun other hother => (hall other hother).1
    have hpresent := (hstands.present_withNode hunnamed).mono (.close _ id)
    simp only [hname, hparents]
    refine ⟨(hids.grown.trans (.withNode hunnamed)).trans (.close _ id),
      hlater.finish hfresh.idle hunnamed hstands hconforms ?_ ?_,
      hconforms.isClass, rfl, hpresent.settled, .inl hpresent⟩
    · exact fun other hother => (hall other (hother.mem hclass)).2
    · intro other hother
      exact (hparent other (hother.parent_eq hclass)).2.2.imp_left fun h => h.mono hids.grown

/-- The class itself, after its parent. -/
theorem outcome_descended {definition : ClassDef ValueId} {parent : ValueId}
    {name : QualifiedName} {next : Session realm} (hclass : realm.class? id = some definition)
    (hfresh : Fresh session id) (hparent : definition.parent = some parent)
    (h : Outcome (session.opening id) parent (.ok name, next)) :
    let result := next.compileOwn id definition (session.nameOf id) (some name)
    Grown next result.2 ∧ Outcome session id result := by
  obtain ⟨hadded, hisClass, rfl, hsettled, hdone⟩ := h
  have hlink : realm.HasParent id parent := ⟨definition, hclass, hparent⟩
  have habove := hadded.mono (.single hlink) fun _ hfalse => hfalse
  have hown := outcome_compileOwn hclass hfresh habove fun other hother => by
    cases hparent.symm.trans hother
    exact ⟨hisClass, hsettled, hdone⟩
  rw [hparent] at hown
  exact hown

/-- What comes of compiling any value in any session. -/
theorem compile_outcome (session : Session realm) (id : ValueId) :
    Outcome session id (session.compile id) := by
  induction session, id using compile_induction with
  | refused session id error hexpect =>
      have hclass := Realm.class?_eq_none_of_error hexpect
      exact ⟨id, .refl, Realm.not_conforms_of_class?_eq_none hclass, .refl session id _⟩
  | skipped session id definition hclass hfresh =>
      refine ⟨⟨.resolve session id, rfl, fun _ hnode => .inl hnode⟩,
        Option.isSome_of_eq_some hclass, (nameOf_resolve session id).symm,
        settled_resolve session id, ?_⟩
      by_cases hbusy : id ∈ session.inProgress
      · exact .inr hbusy
      · refine .inl ⟨settled_resolve session id, ?_⟩
        rw [nameOf_resolve]
        exact Classical.byContradiction fun hunnamed => hfresh ⟨hunnamed, hbusy⟩
  | rootless session id definition hclass hfresh hparent =>
      have hown := (outcome_compileOwn hclass hfresh (.refl _ id _) (by simp [hparent])).2
      rw [hparent] at hown
      exact hown
  | orphaned session id definition parent error next hclass hfresh hparent _ ih =>
      obtain ⟨culprit, hascends, hculprit, hadded⟩ := ih
      have hstep := Relation.ReflTransGen.head ⟨definition, hclass, hparent⟩ hascends
      exact ⟨culprit, hstep, hculprit, hadded.close hstep⟩
  | descended session id definition parent name next hclass hfresh hparent _ ih =>
      exact (outcome_descended hclass hfresh hparent ih).2

theorem grown_compile (session : Session realm) (id : ValueId) :
    Grown session (session.compile id).2 := by
  obtain ⟨_, _, hadded⟩ := (session.compile_outcome id).added
  exact hadded.grown

theorem inProgress_compile (session : Session realm) (id : ValueId) :
    (session.compile id).2.inProgress = session.inProgress := by
  obtain ⟨_, _, hadded⟩ := (session.compile_outcome id).added
  exact hadded.inProgress

end ClassDiagram.Session
