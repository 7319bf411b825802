import ClassDiagram.Proofs.Reachable

/-!
# When every parent is present

A node names its parent, and one would like the parent to have a node too,
whenever all roots have been compiled. This file says for which realms that is
so in every session: for those in which the classes on a circle of parents
either all conform or all do not (`parentsPresent_iff`).

Without circles the parent is compiled first, and a class whose parent has
failed is never added. On a circle a class may be added while its parent is in
progress. If the parent fails, it is because of a culprit that does not
conform and that the parent leads up to; the class lies above the culprit, so
both are on the circle, and the class does conform. That is the one way in
which a parent goes missing.

A circle that does not agree does lose a parent. Going round it, there is a
class that conforms and extends one that does not. If compiling starts at the
parent, it comes round to the class, which is added, and then fails on the way
back, at the parent itself if not before. The class stays in the graph, and a
later compilation that has nothing to do with the circle succeeds.
-/

namespace ClassDiagram

/-- Every parent that a class names has a node. -/
def Graph.ParentsPresent (graph : Graph) : Prop :=
  ∀ node ∈ graph.classes, ∀ parent, node.parent = some parent → parent ∈ graph.names

namespace Realm

/-- Of two classes that are ancestors of each other, both conform or neither does. -/
def CirclesAgree (realm : Realm) : Prop :=
  ∀ first second, realm.Ascends first second → realm.Ascends second first →
    (realm.Conforms first ↔ realm.Conforms second)

/-- On the way from a class that conforms to one that does not, there is a last
class that conforms. -/
theorem Ascends.exists_last {realm : Realm} {first last : ValueId}
    (h : realm.Ascends first last) (hfirst : realm.Conforms first)
    (hlast : ¬ realm.Conforms last) :
    ∃ id parent, realm.Ascends first id ∧ realm.HasParent id parent ∧
      realm.Ascends parent last ∧ realm.Conforms id ∧ ¬ realm.Conforms parent := by
  induction h using Relation.ReflTransGen.head_induction_on with
  | refl => exact absurd hfirst hlast
  | @head id parent hparent hrest ih =>
      by_cases hconforms : realm.Conforms parent
      · obtain ⟨id', parent', hascends, hlink⟩ := ih hconforms
        exact ⟨id', parent', .head hparent hascends, hlink⟩
      · exact ⟨id, parent, .refl, hparent, hrest, hfirst, hconforms⟩

end Realm

namespace Session

variable {realm : Realm} {session later : Session realm} {id source : ValueId}
  {excused : ValueId → Prop}

/-! ## Circles that agree -/

/-- Additions keep the parents present if none of them is excused. -/
theorem Added.parentsPresent (h : Added session later source excused)
    (hidle : session.inProgress = []) (hpresent : session.graph.ParentsPresent)
    (hexcused : ∀ id parent, realm.Ascends source id → realm.Conforms id →
      realm.HasParent id parent → ¬ excused parent) :
    later.graph.ParentsPresent := by
  intro node hnode parent hparent
  obtain ⟨node', hmem, hclassNode⟩ := List.mem_filterMap.1 hnode
  rcases h.additions node' hmem with hold | ⟨id, haddition⟩
  · exact h.grown.mem_names
      (hpresent node (List.mem_filterMap.2 ⟨node', hold, hclassNode⟩) parent hparent)
  · cases haddition with
    | ofInterface stands isInterface _ _ =>
        cases stands.declares with
        | ofClass hclass _ =>
            exact absurd (Option.isSome_of_eq_some hclass)
              (Realm.not_isClass_of_isInterface isInterface)
        | ofInterface _ _ => cases hclassNode
    | ofClass stands ascends conforms _ _ parents =>
        cases stands.declares with
        | ofInterface _ _ => cases hclassNode
        | ofClass hclass hshows =>
            cases hclassNode
            rw [hshows.parent] at hparent
            obtain ⟨other, hother, rfl⟩ := Option.map_eq_some_iff.1 hparent
            have hlink : realm.HasParent id other := ⟨_, hclass, hother⟩
            rcases parents other hlink with hparent | hbusy | hexcuse
            · exact hparent.named
            · rw [hidle] at hbusy
              cases hbusy
            · exact absurd hexcuse (hexcused id other ascends conforms hlink)

/-- Compiling a class keeps the parents present, also when it fails. -/
theorem parentsPresent_compile (hagree : realm.CirclesAgree) (session : Session realm)
    (id : ValueId) (hidle : session.inProgress = []) (hpresent : session.graph.ParentsPresent) :
    (session.compile id).2.graph.ParentsPresent := by
  have houtcome := session.compile_outcome id
  revert houtcome
  rcases session.compile id with ⟨error | name, later⟩
  · intro houtcome
    obtain ⟨culprit, _, hculprit, hadded⟩ := houtcome
    refine hadded.parentsPresent hidle hpresent ?_
    intro other parent hascends hconforms hlink hexcuse
    exact hculprit ((hagree other culprit (.head hlink hexcuse) hascends).1 hconforms)
  · intro houtcome
    obtain ⟨hadded, _⟩ := houtcome
    exact hadded.parentsPresent hidle hpresent fun _ _ _ _ _ hfalse => hfalse

theorem Reachable.parentsPresent (hagree : realm.CirclesAgree) (h : Reachable session) :
    session.graph.ParentsPresent := by
  have hempty : (∅ : Graph).ParentsPresent := fun _ hnode => by cases hnode
  refine h.invariant_of_idle (motive := fun session => session.graph.ParentsPresent) hempty ?_
    (fun _ _ => hempty) fun session id => parentsPresent_compile hagree session id
  exact fun session later hedited hpresent => hedited.graph ▸ hpresent

/-! ## Circles that do not agree -/

/-- A class that conforms does not fail once its parent is compiled. -/
theorem compileOwn_ok (session : Session realm) {definition : ClassDef ValueId}
    (hclass : realm.class? id = some definition) (hconforms : realm.Conforms id)
    (name : QualifiedName) (parent : Option QualifiedName) :
    ∃ later, session.compileOwn id definition name parent = (.ok name, later) := by
  have hspec := compileInterfaces_spec definition.implements session
  rw [compileOwn]
  revert hspec
  rcases session.compileInterfaces definition.implements with ⟨error | names, later⟩
  · intro hspec
    obtain ⟨_, other, hother, hnone⟩ := hspec
    have himplements : realm.Implements id other := ⟨definition, hclass, hother⟩
    exact absurd hconforms (himplements.not_conforms hnone)
  · exact fun _ => ⟨_, rfl⟩

/-- Compiling `id` will come to the class `last`, whose parent is then in
progress. The classes in progress are a chain, each followed by its parent, so
a class that is not among them lies ahead. -/
structure ComesTo (session : Session realm) (id last parent : ValueId) : Prop where
  ascends : realm.Ascends id last
  ahead : last ∉ session.inProgress
  busy : parent ∈ id :: session.inProgress
  chain : ∀ other ∈ session.inProgress, ∀ above, realm.HasParent other above →
    above ∈ id :: session.inProgress

namespace ComesTo

variable {last parent : ValueId} {definition : ClassDef ValueId}

theorem fresh (h : ComesTo session id last parent) (hempty : session.graph = ∅) :
    Fresh session id := by
  refine ⟨fun hnamed => ?_, fun hbusy => ?_⟩
  · rw [hempty] at hnamed
    cases hnamed
  -- The chain would have come round, and then nothing lies ahead.
  · have hall : ∀ {other}, realm.Ascends id other → other ∈ session.inProgress := by
      intro other hother
      induction hother with
      | refl => exact hbusy
      | tail _ hlink ih =>
          rcases List.mem_cons.1 (h.chain _ ih _ hlink) with rfl | hmem
          · exact hbusy
          · exact hmem
    exact h.ahead (hall h.ascends)

/-- The class itself, or one more step up. -/
theorem opening (h : ComesTo session id last parent) (hclass : realm.class? id = some definition) :
    id = last ∨ ∃ above, definition.parent = some above ∧
      ComesTo (session.opening id) above last parent := by
  by_cases hlast : id = last
  · exact .inl hlast
  · rcases Relation.ReflTransGen.cases_head h.ascends with heq | ⟨above, hlink, hrest⟩
    · exact absurd heq hlast
    · refine .inr ⟨above, hlink.parent_eq hclass, hrest, ?_, List.mem_cons_of_mem _ h.busy, ?_⟩
      · intro hmem
        rcases List.mem_cons.1 hmem with heq | hmem
        · exact hlast heq.symm
        · exact h.ahead hmem
      · intro other hother further hfurther
        rcases List.mem_cons.1 hother with rfl | hother
        · rw [hfurther.unique hlink]
          exact List.mem_cons_self
        · exact List.mem_cons_of_mem _ (h.chain other hother further hfurther)

/-- A class that conforms gets its node when compiling comes to it, whatever
comes of the classes below. -/
theorem present_compile (h : ComesTo session id last parent) (hempty : session.graph = ∅)
    (hconforms : realm.Conforms last) (hlink : realm.HasParent last parent) :
    (session.compile id).2.Present last := by
  have houtcome := session.compile_outcome id
  induction session, id using compile_induction with
  | refused session id error hexpect =>
      have hclass := Realm.class?_eq_none_of_error hexpect
      rcases Relation.ReflTransGen.cases_head h.ascends with rfl | ⟨above, ⟨_, hclass', _⟩, _⟩
      · exact absurd hconforms (Realm.not_conforms_of_class?_eq_none hclass)
      · rw [hclass] at hclass'
        cases hclass'
  | skipped session id definition hclass hfresh => exact absurd (h.fresh hempty) hfresh
  | rootless session id definition hclass hfresh hparent =>
      rcases h.opening hclass with rfl | ⟨above, habove, _⟩
      · have hparent' := hlink.parent_eq hclass
        rw [hparent] at hparent'
        cases hparent'
      · rw [hparent] at habove
        cases habove
  | orphaned session id definition above error next hclass hfresh hparent hnext ih =>
      rcases h.opening hclass with rfl | ⟨above', habove, hclimb⟩
      -- Here the chain has come round, and compiling the parent cannot fail.
      · cases hparent.symm.trans (hlink.parent_eq hclass)
        have hisClass := hconforms.parent _ hlink
        rw [compile_of_not_fresh hisClass fun hfresh => hfresh.idle h.busy] at hnext
        cases hnext
      · cases hparent.symm.trans habove
        have houtcome' := (session.opening id).compile_outcome above
        rw [hnext] at houtcome'
        exact (ih hclimb hempty houtcome').mono (.close next id)
  | descended session id definition above name next hclass hfresh hparent hnext ih =>
      have houtcome' := (session.opening id).compile_outcome above
      rw [hnext] at houtcome'
      rcases h.opening hclass with rfl | ⟨above', habove, hclimb⟩
      · obtain ⟨later, hlater⟩ :=
          next.compileOwn_ok hclass hconforms (session.nameOf id) (some name)
        rw [hlater] at houtcome ⊢
        obtain ⟨_, _, _, _, hdone⟩ := houtcome
        exact hdone.resolve_right hfresh.idle
      · cases hparent.symm.trans habove
        have hgrown := (outcome_descended hclass hfresh hparent houtcome').1
        exact (ih hclimb hempty houtcome').mono hgrown

end ComesTo

/-- What is present after compiling from an empty graph has been added. -/
theorem Added.exists_addition (h : Added session later source excused)
    (hempty : session.graph = ∅) (hpresent : later.Present id) :
    ∃ node ∈ later.graph.nodes, Addition later source session.inProgress excused id node := by
  obtain ⟨node, hnode, hname⟩ := List.mem_map.1 hpresent.named
  rcases h.additions node hnode with hold | ⟨other, hnew⟩
  · rw [hempty] at hold
    cases hold
  · cases hnew.stands.eq_of_name_eq hpresent.settled hname
    exact ⟨node, hnode, hnew⟩

/-- A class with a node conforms. -/
theorem Added.conforms (h : Added session later source excused) (hempty : session.graph = ∅)
    (hpresent : later.Present id) (hisClass : (realm.class? id).isSome) : realm.Conforms id := by
  obtain ⟨node, _, haddition⟩ := h.exists_addition hempty hpresent
  cases haddition with
  | ofClass _ _ conforms => exact conforms
  | ofInterface _ isInterface =>
      exact absurd hisClass (Realm.not_isClass_of_isInterface isInterface)

/-- If all parents are present, so is the parent of a class with a node. -/
theorem Added.present_parent {parent : ValueId} (h : Added session later source excused)
    (hempty : session.graph = ∅) (hpresent : later.Present id)
    (hparents : later.graph.ParentsPresent) (hlink : realm.HasParent id parent) :
    later.Present parent := by
  obtain ⟨node, hnode, haddition⟩ := h.exists_addition hempty hpresent
  have hstands := haddition.stands
  refine ⟨hstands.parent parent hlink, ?_⟩
  obtain ⟨_, _, rfl, hclass, hshows⟩ := hstands.declares.exists_shows hlink.isClass
  refine hparents _ (List.mem_filterMap.2 ⟨_, hnode, rfl⟩) _ ?_
  rw [hshows.parent, hlink.parent_eq hclass]
  rfl

/-- A class that conforms keeps its node when its parent fails. -/
theorem not_parentsPresent_compile {parent : ValueId} (hconforms : realm.Conforms id)
    (hlink : realm.HasParent id parent) (hcircle : realm.Ascends parent id)
    (hparent : ¬ realm.Conforms parent) :
    ¬ ((∅ : Session realm).compile parent).2.graph.ParentsPresent := by
  intro hparents
  have hcomes : ComesTo (∅ : Session realm) parent id parent :=
    ⟨hcircle, List.not_mem_nil, List.mem_cons_self, fun _ hmem => by cases hmem⟩
  have hpresent := hcomes.present_compile rfl hconforms hlink
  obtain ⟨_, _, hadded⟩ := ((∅ : Session realm).compile_outcome parent).added
  exact hparent (hadded.conforms rfl (hadded.present_parent rfl hpresent hparents hlink)
    (hconforms.parent parent hlink))

theorem reachable_compile (realm : Realm) (id : ValueId) :
    Reachable ((∅ : Session realm).compile id).2 :=
  (reachable_empty realm).step (.compile id)

/-- Without roots there is nothing more to compile. -/
theorem compileAll_compile (realm : Realm) (id : ValueId) :
    ((∅ : Session realm).compile id).2.compileAll =
      (.ok (), ((∅ : Session realm).compile id).2) := by
  rw [compileAll, ((∅ : Session realm).grown_compile id).roots]
  rfl

/-- The parents are present in every session in which the roots have been
compiled, exactly if the circles of the realm agree. -/
theorem parentsPresent_iff (realm : Realm) :
    (∀ session : Session realm, Reachable session → session.compileAll.1 = .ok () →
      session.compileAll.2.graph.ParentsPresent) ↔ realm.CirclesAgree := by
  constructor
  · intro hall
    have hhalf : ∀ {first last}, realm.Ascends first last → realm.Ascends last first →
        realm.Conforms first → realm.Conforms last := by
      intro first last hforth hback hfirst
      refine Classical.byContradiction fun hlast => ?_
      obtain ⟨id, parent, hbefore, hlink, hafter, hid, hparent⟩ := hforth.exists_last hfirst hlast
      have hparents := hall _ (reachable_compile realm parent)
      rw [compileAll_compile] at hparents
      exact not_parentsPresent_compile hid hlink (hafter.trans (hback.trans hbefore)) hparent
        (hparents rfl)
    intro first second hforth hback
    exact ⟨hhalf hforth hback, hhalf hback hforth⟩
  · intro hagree session hreachable _
    exact (hreachable.step .compileAll).parentsPresent hagree

/-- Two classes that extend each other. The first is said to implement an
object, and the second conforms. -/
def halfSoundCircle : Realm where
  values := #[
    .classDef { parent := some ⟨1⟩, implements := [⟨2⟩] },
    .classDef { parent := some ⟨0⟩ },
    .object ∅]

theorem parent_missing_of_halfSoundCircle :
    let session := ((∅ : Session halfSoundCircle).compile ⟨0⟩).2
    Reachable session ∧ session.compileAll.1 = .ok () ∧
      ¬ session.compileAll.2.graph.ParentsPresent := by
  intro session
  have hfirst : halfSoundCircle.HasParent ⟨0⟩ ⟨1⟩ := ⟨_, rfl, rfl⟩
  have hsecond : halfSoundCircle.HasParent ⟨1⟩ ⟨0⟩ := ⟨_, rfl, rfl⟩
  have hconforms : halfSoundCircle.Conforms ⟨1⟩ := .of_class? rfl (by rintro _ ⟨⟩; rfl) (by decide)
  have hculprit : ¬ halfSoundCircle.Conforms ⟨0⟩ := by
    have himplements : halfSoundCircle.Implements ⟨0⟩ ⟨2⟩ := ⟨_, rfl, List.mem_singleton_self _⟩
    exact himplements.not_conforms rfl
  have hall : session.compileAll = (.ok (), session) := compileAll_compile halfSoundCircle ⟨0⟩
  rw [hall]
  exact ⟨reachable_compile halfSoundCircle ⟨0⟩, rfl,
    not_parentsPresent_compile hconforms hsecond (.single hfirst) hculprit⟩

end Session

end ClassDiagram
