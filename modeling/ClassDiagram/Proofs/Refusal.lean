import ClassDiagram.Proofs.ParentsPresent
import ClassDiagram.Proofs.Rendered

/-!
# When rendering is refused

Rendering can fail, and it does so exactly if some class that would have to be
drawn does not conform (`render_outcome`). Which classes these are is a matter
of the realm and of the set of the roots. So no order and no repetition of the
roots makes a difference, nor do circles of parents, the scopes, or what the
session went through before.

A compilation stops early at a class that has a node, or that is in progress.
Neither lets a culprit go unnoticed: when all went well the classes that have
been drawn are closed under parents, and a class is only drawn if it conforms.
In the other direction an error always is that of a culprit (`compile_error`),
and the culprit lies on the chain of parents of a root.
-/

namespace ClassDiagram

namespace Realm

variable {realm : Realm} {id : ValueId} {error : Error}

/-- The error is one for which the value is to blame: it is not a class, or it
implements what is not an interface. -/
inductive Blames (realm : Realm) (id : ValueId) (error : Error) : Prop
  | notClass (h : realm.expectClass id = .error error)
  | notInterface {interface : ValueId} (himplements : realm.Implements id interface)
      (h : realm.expectInterface interface = .error error)

theorem kind_of_expectClass_error (h : realm.expectClass id = .error error) :
    error.kind = .reference := by
  unfold expectClass at h
  split at h
  · cases h
  · cases h
    rfl
  · cases h
    rfl

theorem kind_of_expectInterface_error (h : realm.expectInterface id = .error error) :
    error.kind = .reference := by
  unfold expectInterface at h
  split at h
  · cases h
  · cases h
    rfl
  · cases h
    rfl

/-- Whatever a value is to blame for is a matter of references. -/
theorem Blames.kind_eq (h : realm.Blames id error) : error.kind = .reference := by
  cases h with
  | notClass h => exact kind_of_expectClass_error h
  | notInterface _ h => exact kind_of_expectInterface_error h

theorem Ancestral.mono {roots more : List ValueId} (h : realm.Ancestral roots id)
    (hroots : ∀ root ∈ roots, root ∈ more) : realm.Ancestral more id := by
  induction h with
  | root hroot => exact .root (hroots _ hroot)
  | parent _ hparent ih => exact ih.parent hparent

/-- If the roots are classes and all classes above them conform, there is nothing
but classes above them. -/
theorem Ancestral.isClass {roots : List ValueId} (h : realm.Ancestral roots id)
    (hroots : ∀ root ∈ roots, (realm.class? root).isSome)
    (hconforms : ∀ id, realm.Ancestral roots id → (realm.class? id).isSome → realm.Conforms id) :
    (realm.class? id).isSome := by
  induction h with
  | root hroot => exact hroots _ hroot
  | parent hbelow hparent ih => exact (hconforms _ hbelow ih).parent _ hparent

end Realm

namespace Session

variable {realm : Realm} {session : Session realm} {id : ValueId} {error : Error}

/-! ## Errors -/

theorem compileInterface_error (h : (session.compileInterface id).1 = .error error) :
    realm.expectInterface id = .error error := by
  rw [compileInterface] at h
  split at h
  · next hexpect =>
      cases h
      exact hexpect
  · dsimp only at h
    split at h
    · cases h
    · cases h

theorem compileInterfaces_error : ∀ (ids : List ValueId) (session : Session realm),
    (session.compileInterfaces ids).1 = .error error →
    ∃ id ∈ ids, realm.expectInterface id = .error error := by
  intro ids
  induction ids with
  | nil =>
      intro session h
      cases h
  | cons id ids ih =>
      intro session h
      rw [compileInterfaces] at h
      split at h
      · next hfirst =>
          cases h
          exact ⟨id, List.mem_cons_self, compileInterface_error (congrArg Prod.fst hfirst)⟩
      · split at h
        · next hrest =>
            cases h
            obtain ⟨other, hother, hexpect⟩ := ih _ (congrArg Prod.fst hrest)
            exact ⟨other, List.mem_cons_of_mem _ hother, hexpect⟩
        · cases h

theorem compileOwn_error {definition : ClassDef ValueId} {name : QualifiedName}
    {parent : Option QualifiedName} (hclass : realm.class? id = some definition)
    (h : (session.compileOwn id definition name parent).1 = .error error) :
    realm.Blames id error := by
  rw [compileOwn] at h
  split at h
  · next hinterfaces =>
      cases h
      obtain ⟨other, hother, hexpect⟩ :=
        compileInterfaces_error _ _ (congrArg Prod.fst hinterfaces)
      exact .notInterface ⟨definition, hclass, hother⟩ hexpect
  · cases h

/-- An error of compiling a class is that of a culprit above it. -/
theorem compile_error (session : Session realm) (id : ValueId) :
    ∀ error, (session.compile id).1 = .error error →
      ∃ culprit, realm.Ascends id culprit ∧ realm.Blames culprit error := by
  induction session, id using compile_induction with
  | refused session id error hexpect =>
      rintro _ ⟨⟩
      exact ⟨id, .refl, .notClass hexpect⟩
  | skipped session id definition hclass hfresh => rintro _ ⟨⟩
  | rootless session id definition hclass hfresh hparent =>
      exact fun error h => ⟨id, .refl, compileOwn_error hclass h⟩
  | orphaned session id definition parent error next hclass hfresh hparent hnext ih =>
      rintro _ ⟨⟩
      obtain ⟨culprit, hascends, hblames⟩ := ih error rfl
      exact ⟨culprit, .head ⟨definition, hclass, hparent⟩ hascends, hblames⟩
  | descended session id definition parent name next hclass hfresh hparent hnext ih =>
      exact fun error h => ⟨id, .refl, compileOwn_error hclass h⟩

theorem compileEach_error : ∀ (ids : List ValueId) (session : Session realm),
    (session.compileEach ids).1 = .error error →
    ∃ culprit, realm.Ancestral ids culprit ∧ realm.Blames culprit error := by
  intro ids
  induction ids with
  | nil =>
      intro session h
      cases h
  | cons id ids ih =>
      intro session h
      rw [compileEach] at h
      split at h
      · next hfirst =>
          cases h
          obtain ⟨culprit, hascends, hblames⟩ :=
            compile_error _ _ _ (congrArg Prod.fst hfirst)
          exact ⟨culprit, (Realm.Ancestral.root List.mem_cons_self).ascends hascends, hblames⟩
      · obtain ⟨culprit, hancestral, hblames⟩ := ih _ h
        exact ⟨culprit, hancestral.mono fun _ hroot => List.mem_cons_of_mem _ hroot, hblames⟩

theorem render_error (h : session.render.1 = .error error) :
    ∃ culprit, realm.Ancestral session.roots culprit ∧ realm.Blames culprit error := by
  rw [render_eq] at h
  split at h
  · next hall =>
      cases h
      exact compileEach_error _ _ (congrArg Prod.fst hall)
  · cases h

/-! ## Success -/

/-- Only classes are registered as roots. -/
theorem Reachable.isClass_of_mem_roots (h : Reachable session) :
    ∀ id ∈ session.roots, (realm.class? id).isSome := by
  refine h.invariant (motive := fun session => ∀ id ∈ session.roots, (realm.class? id).isSome)
    (fun _ hid => by cases hid) ?_ (fun _ hroots => hroots) ?_
  · intro session later hedited hroots id hid
    exact (hedited.roots id hid).elim (hroots id) fun hisClass => hisClass
  · intro session id hroots
    rw [(session.grown_compile id).roots]
    exact hroots

/-- What has been drawn conforms. -/
theorem conforms_of_render (h : Reachable session) {text : String}
    (hrender : session.render.1 = .ok text) (hid : realm.Ancestral session.roots id) :
    realm.Conforms id := by
  have hspec := compileEach_outcome session.roots session.cleared h.inProgress_eq_nil
  rw [render_eq] at hrender
  split at hrender
  · cases hrender
  · next next hall =>
      rw [hall] at hspec
      obtain ⟨_, hroots, hnodes⟩ := hspec
      have hdrawn : ∀ node ∈ next.graph.nodes, ∃ id, next.Drawn session.roots id node :=
        fun node hnode => (hnodes node hnode).resolve_left List.not_mem_nil
      obtain ⟨hisClass, hpresent⟩ := present_of_ancestral hroots hdrawn hid
      obtain ⟨node, _, hnode⟩ := drawn_of_present hdrawn hpresent
      exact (hnode.ofClass hisClass).2.1

theorem exists_render_ok_iff (h : Reachable session) :
    (∃ text, session.render.1 = .ok text) ↔
      ∀ id, realm.Ancestral session.roots id → (realm.class? id).isSome → realm.Conforms id := by
  constructor
  · intro hok id hid _
    obtain ⟨text, hrender⟩ := hok
    exact conforms_of_render h hrender hid
  · intro hconforms
    exact render_ok h fun id hid =>
      hconforms id hid (hid.isClass h.isClass_of_mem_roots hconforms)

/-- Rendering succeeds exactly if all classes above the roots conform, and
otherwise the error is that of a culprit among them and is about a reference.
Sessions with the same roots succeed or fail together. -/
theorem render_outcome (h : Reachable session) :
    ((∃ text, session.render.1 = .ok text) ↔
      ∀ id, realm.Ancestral session.roots id → (realm.class? id).isSome → realm.Conforms id) ∧
    (∀ error, session.render.1 = .error error → error.kind = .reference ∧
      ∃ culprit, realm.Ancestral session.roots culprit ∧ realm.Blames culprit error) ∧
    ∀ other : Session realm, Reachable other → (∀ id, id ∈ other.roots ↔ id ∈ session.roots) →
      ((∃ text, other.render.1 = .ok text) ↔ ∃ text, session.render.1 = .ok text) := by
  refine ⟨exists_render_ok_iff h, fun error herror => ?_, fun other hother hroots => ?_⟩
  · obtain ⟨culprit, hancestral, hblames⟩ := render_error herror
    exact ⟨hblames.kind_eq, culprit, hancestral, hblames⟩
  · have hsame : ∀ id, realm.Ancestral other.roots id ↔ realm.Ancestral session.roots id :=
      fun id => ⟨fun hid => hid.mono fun root => (hroots root).1,
        fun hid => hid.mono fun root => (hroots root).2⟩
    rw [exists_render_ok_iff hother, exists_render_ok_iff h]
    simp only [hsame]

/-- The root conforms here, and the class that it extends does not. -/
theorem render_halfSoundCircle_refused :
    let session : Session halfSoundCircle := { roots := [⟨1⟩] }
    Reachable session ∧ session.render.1 = .error (.notInterface ⟨2⟩ .object) ∧
      ∃ id, halfSoundCircle.Ancestral session.roots id ∧ (halfSoundCircle.class? id).isSome ∧
        ¬ halfSoundCircle.Conforms id := by
  have hrefused : ({ roots := [⟨1⟩] } : Session halfSoundCircle).render.1 =
      .error (.notInterface ⟨2⟩ .object) := by decide +kernel
  intro session
  have hreachable : Reachable session :=
    .start (show withRoots [⟨1⟩] [] = .ok session from rfl)
  refine ⟨hreachable, hrefused, Classical.byContradiction fun hnone => ?_⟩
  have hall : ∀ id, halfSoundCircle.Ancestral session.roots id →
      (halfSoundCircle.class? id).isSome → halfSoundCircle.Conforms id := fun id hid hisClass =>
    Classical.byContradiction fun hculprit => hnone ⟨id, hid, hisClass, hculprit⟩
  obtain ⟨text, hrender⟩ := (render_outcome hreachable).1.2 hall
  rw [hrefused] at hrender
  cases hrender

end Session

end ClassDiagram
