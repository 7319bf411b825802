import ClassDiagram.Proofs.Reachable
import Mathlib.Data.List.Forall2

/-!
# The graph that is rendered

Rendering clears the graph and compiles the roots. What is left behind is
described without compiling: its nodes are those that the realm declares for
the ancestors of the roots and for the interfaces of these classes, one for
each (`render_declared`). Neither the order of the roots, nor a root that is
also the ancestor of another, nor a circle of parents makes a difference.

That there is a node for everything follows from closure. The roots are
present, and an addition has its interfaces and its parent present; with no
class in progress and no failure there is nothing by which the parent could be
excused. That there is nothing else, and nothing twice, follows from the
additions and from the names of a graph being distinct.
-/

namespace ClassDiagram.Session

variable {realm : Realm} {session later : Session realm}

/-- The graph is the declared one: there is one node for each ancestor of the
roots and for each interface of these classes, and no other. -/
def Declared (session : Session realm) (roots : List ValueId) : Prop :=
  ∃ order : List ValueId, order.Nodup ∧
    List.Forall₂ (realm.Declares session.nameOf) order session.graph.nodes ∧
    (∀ id, id ∈ order ∧ (realm.class? id).isSome ↔ realm.Ancestral roots id) ∧
    (∀ id, id ∈ order ∧ (realm.interface? id).isSome ↔
      ∃ owner, realm.Ancestral roots owner ∧ realm.Implements owner id)

/-- The node is that of the value, which is drawn for the sake of the roots. -/
def Drawn (session : Session realm) (roots : List ValueId) (id : ValueId) (node : Node) : Prop :=
  ∃ root ∈ roots, Addition session root [] (fun _ => False) id node

namespace Drawn

variable {roots : List ValueId} {id : ValueId} {node : Node}

theorem mono {more : List ValueId} (h : session.Drawn roots id node) (hgrown : Grown session later)
    (hroots : ∀ root ∈ roots, root ∈ more) : later.Drawn more id node := by
  obtain ⟨root, hroot, hnode⟩ := h
  exact ⟨root, hroots root hroot, hnode.mono hgrown .refl (fun _ hmem => hmem)
    fun _ hother => .inr hother⟩

theorem stands (h : session.Drawn roots id node) : session.Stands id node := by
  obtain ⟨root, _, haddition⟩ := h
  exact haddition.stands

/-- A class is drawn for the roots it is an ancestor of, and all that it refers
to is drawn with it. -/
theorem ofClass (h : session.Drawn roots id node) (hisClass : (realm.class? id).isSome) :
    realm.Ancestral roots id ∧ realm.Conforms id ∧
      (∀ other, realm.HasParent id other → session.Present other) ∧
      (∀ other, realm.Implements id other → session.Present other) := by
  obtain ⟨root, hroot, haddition⟩ := h
  cases haddition with
  | ofClass _ ascends conforms _ interfaces parent =>
      refine ⟨(Realm.Ancestral.root hroot).ascends ascends, conforms, fun other hother => ?_,
        interfaces⟩
      exact (parent other hother).resolve_right (by simp)
  | ofInterface _ isInterface =>
      exact absurd hisClass (Realm.not_isClass_of_isInterface isInterface)

/-- An interface is drawn for a class that implements it. -/
theorem ofInterface (h : session.Drawn roots id node)
    (hisInterface : (realm.interface? id).isSome) :
    ∃ owner, realm.Ancestral roots owner ∧ realm.Implements owner id := by
  obtain ⟨root, hroot, haddition⟩ := h
  cases haddition with
  | ofClass _ _ conforms =>
      exact absurd conforms.isClass (Realm.not_isClass_of_isInterface hisInterface)
  | ofInterface _ _ ascends implements =>
      exact ⟨_, (Realm.Ancestral.root hroot).ascends ascends, implements⟩

end Drawn

/-- What comes of compiling classes in order when no class is in progress. -/
theorem compileEach_outcome : ∀ (ids : List ValueId) (session : Session realm),
    session.inProgress = [] →
    match session.compileEach ids with
    | (.ok _, later) => Grown session later ∧
        (∀ id ∈ ids, (realm.class? id).isSome ∧ later.Present id) ∧
        ∀ node ∈ later.graph.nodes, node ∈ session.graph.nodes ∨ ∃ id, later.Drawn ids id node
    | (.error _, _) =>
        ∃ id ∈ ids, ∃ culprit, realm.Ascends id culprit ∧ ¬ realm.Conforms culprit := by
  intro ids
  induction ids with
  | nil =>
      intro session _
      exact ⟨.refl session, fun _ hmem => (List.not_mem_nil hmem).elim, fun _ hnode => .inl hnode⟩
  | cons id ids ih =>
      intro session hidle
      have hfirst := session.compile_outcome id
      rw [compileEach]
      revert hfirst
      rcases session.compile id with ⟨error | name, next⟩
      · intro hfirst
        obtain ⟨culprit, hascends, hculprit, _⟩ := hfirst
        exact ⟨id, List.mem_cons_self, culprit, hascends, hculprit⟩
      · intro hfirst
        obtain ⟨hfirst, hisClass, _, _, hdone⟩ := hfirst
        have hrest := ih next (hfirst.inProgress.trans hidle)
        simp only []
        revert hrest
        rcases next.compileEach ids with ⟨error | _, final⟩
        · intro hrest
          obtain ⟨other, hother, hculprit⟩ := hrest
          exact ⟨other, List.mem_cons_of_mem _ hother, hculprit⟩
        · intro hrest
          obtain ⟨hgrown, hpresent, hdrawn⟩ := hrest
          refine ⟨hfirst.grown.trans hgrown, fun other hother => ?_, fun node hnode => ?_⟩
          · rcases List.mem_cons.1 hother with rfl | hother
            · rw [hidle] at hdone
              exact ⟨hisClass, (hdone.resolve_right List.not_mem_nil).mono hgrown⟩
            · exact hpresent other hother
          · rcases hdrawn node hnode with hold | ⟨other, hnew⟩
            · rcases hfirst.additions node hold with hold | ⟨other, hnew⟩
              · exact .inl hold
              · rw [hidle] at hnew
                have hdrawn : next.Drawn [id] other node := ⟨id, List.mem_singleton_self id, hnew⟩
                exact .inr ⟨other, hdrawn.mono hgrown (by simp)⟩
            · exact .inr ⟨other, hnew.mono (.refl final) fun _ hroot =>
                List.mem_cons_of_mem _ hroot⟩

/-! ## Closure -/

section Closure

variable {roots : List ValueId} {id : ValueId}
  (hroots : ∀ id ∈ roots, (realm.class? id).isSome ∧ session.Present id)
  (hdrawn : ∀ node ∈ session.graph.nodes, ∃ id, session.Drawn roots id node)

include hdrawn

theorem drawn_of_present (h : session.Present id) :
    ∃ node ∈ session.graph.nodes, session.Drawn roots id node := by
  obtain ⟨node, hnode, hname⟩ := List.mem_map.1 h.named
  obtain ⟨other, hother⟩ := hdrawn node hnode
  cases hother.stands.eq_of_name_eq h.settled hname
  exact ⟨node, hnode, hother⟩

include hroots

/-- With the roots, all their ancestors are present. -/
theorem present_of_ancestral (h : realm.Ancestral roots id) :
    (realm.class? id).isSome ∧ session.Present id := by
  induction h with
  | root hroot => exact hroots _ hroot
  | parent _ hparent ih =>
      obtain ⟨hisClass, hpresent⟩ := ih
      obtain ⟨node, _, hnode⟩ := drawn_of_present hdrawn hpresent
      obtain ⟨_, hconforms, hparents, _⟩ := hnode.ofClass hisClass
      exact ⟨hconforms.parent _ hparent, hparents _ hparent⟩

/-- A graph in which the roots are present, and nothing but what is drawn for
them, is the declared one. -/
theorem declared_of_drawn : session.Declared roots := by
  -- The values that the nodes are drawn for, in the order of the nodes.
  obtain ⟨valueOf, hnodup, hvalueOf⟩ := Node.exists_valueOf session.graph.names_nodup
    (fun _ _ hnode => hnode.stands.declares.name_eq) hdrawn
  have hmem : ∀ {id}, session.Present id → id ∈ session.graph.nodes.map valueOf := by
    intro id hpresent
    obtain ⟨node, hnode, hid⟩ := drawn_of_present hdrawn hpresent
    refine List.mem_map.2 ⟨node, hnode, ?_⟩
    exact (hvalueOf node hnode).stands.eq_of_name_eq hid.stands.settled hid.stands.declares.name_eq
  refine ⟨session.graph.nodes.map valueOf, hnodup, ?_, fun id => ⟨?_, ?_⟩, fun id => ⟨?_, ?_⟩⟩
  · rw [List.forall₂_map_left_iff, List.forall₂_same]
    exact fun node hnode => (hvalueOf node hnode).stands.declares
  · intro hmem
    obtain ⟨hid, hisClass⟩ := hmem
    obtain ⟨node, hnode, rfl⟩ := List.mem_map.1 hid
    exact ((hvalueOf node hnode).ofClass hisClass).1
  · intro hancestral
    obtain ⟨hisClass, hpresent⟩ := present_of_ancestral hroots hdrawn hancestral
    exact ⟨hmem hpresent, hisClass⟩
  · intro hmem
    obtain ⟨hid, hisInterface⟩ := hmem
    obtain ⟨node, hnode, rfl⟩ := List.mem_map.1 hid
    exact (hvalueOf node hnode).ofInterface hisInterface
  · intro hoffered
    obtain ⟨owner, howner, himplements⟩ := hoffered
    obtain ⟨hisClass, hpresent⟩ := present_of_ancestral hroots hdrawn howner
    obtain ⟨node, _, hnode⟩ := drawn_of_present hdrawn hpresent
    obtain ⟨_, hconforms, _, hinterfaces⟩ := hnode.ofClass hisClass
    exact ⟨hmem (hinterfaces id himplements), hconforms.interfaces id himplements⟩

end Closure

/-! ## Rendering -/

/-- Rendering succeeds if all that it has to draw conforms. -/
theorem render_ok (h : Reachable session)
    (hconforms : ∀ id, realm.Ancestral session.roots id → realm.Conforms id) :
    ∃ text, session.render.1 = .ok text := by
  have hspec := compileEach_outcome session.roots session.cleared h.inProgress_eq_nil
  rw [render_eq]
  revert hspec
  rcases session.cleared.compileEach session.roots with ⟨error | _, final⟩
  · intro hspec
    obtain ⟨root, hroot, culprit, hascends, hculprit⟩ := hspec
    exact absurd (hconforms culprit ((Realm.Ancestral.root hroot).ascends hascends)) hculprit
  · exact fun _ => ⟨_, rfl⟩

/-- What a rendering that succeeds leaves behind, and that the text is written from it. -/
theorem of_render (h : Reachable session) {text : String} (hrender : session.render.1 = .ok text) :
    Grown session.cleared session.render.2 ∧ session.render.2.Declared session.roots ∧
      text = session.render.2.diagram := by
  have hspec := compileEach_outcome session.roots session.cleared h.inProgress_eq_nil
  rw [render_eq] at hrender ⊢
  revert hrender hspec
  rcases session.cleared.compileEach session.roots with ⟨error | _, final⟩
  · intro hrender _
    cases hrender
  · intro hrender hspec
    obtain ⟨hgrown, hroots, hdrawn⟩ := hspec
    cases hrender
    exact ⟨hgrown, declared_of_drawn hroots fun node hnode =>
      (hdrawn node hnode).resolve_left List.not_mem_nil, rfl⟩

/-- When rendering succeeds, the graph that is left is the declared one. -/
theorem render_declared (h : Reachable session) {text : String}
    (hrender : session.render.1 = .ok text) : session.render.2.Declared session.roots :=
  (of_render h hrender).2.1

/-- A class, its parent, which extends the class in turn, a class below both,
and an interface that the first names twice. -/
def circularFamily : Realm where
  values := #[
    .classDef { parent := some ⟨1⟩, implements := [⟨3⟩, ⟨3⟩] },
    .classDef { parent := some ⟨0⟩, implements := [⟨3⟩] },
    .classDef { parent := some ⟨0⟩ },
    .interfaceDef ⟨[("draw", "Function")], by decide⟩]

theorem render_circularFamily_declared :
    let session : Session circularFamily := { roots := [⟨2⟩, ⟨0⟩] }
    Reachable session ∧ (∃ text, session.render.1 = .ok text) ∧
      session.render.2.Declared session.roots := by
  intro session
  have hreachable : Reachable session :=
    .start (show withRoots [⟨2⟩, ⟨0⟩] [] = .ok session from rfl)
  have hconforms : ∀ id ∈ [(⟨0⟩ : ValueId), ⟨1⟩, ⟨2⟩], circularFamily.Conforms id := by
    intro id hid
    simp only [List.mem_cons, List.not_mem_nil, or_false] at hid
    rcases hid with rfl | rfl | rfl
    · exact .of_class? rfl (by rintro _ ⟨⟩; rfl) (by decide)
    · exact .of_class? rfl (by rintro _ ⟨⟩; rfl) (by decide)
    · exact .of_class? rfl (by rintro _ ⟨⟩; rfl) (by decide)
  have hancestral : ∀ id, circularFamily.Ancestral session.roots id →
      id ∈ [(⟨0⟩ : ValueId), ⟨1⟩, ⟨2⟩] := by
    intro id h
    induction h with
    | root h => exact (show [(⟨2⟩ : ValueId), ⟨0⟩] ⊆ [⟨0⟩, ⟨1⟩, ⟨2⟩] by decide) h
    | parent _ hparent ih =>
        obtain ⟨definition, hclass, hparent⟩ := hparent
        simp only [List.mem_cons, List.not_mem_nil, or_false] at ih
        rcases ih with rfl | rfl | rfl <;> cases hclass <;> cases hparent <;> decide
  obtain ⟨text, hrender⟩ := render_ok hreachable fun id hid => hconforms id (hancestral id hid)
  exact ⟨hreachable, ⟨text, hrender⟩, render_declared hreachable hrender⟩

end ClassDiagram.Session
