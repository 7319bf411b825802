import ClassDiagram.Proofs.Compile

/-!
# The sessions that can come about

A session begins with roots and scopes and then goes through operations, in any
order and whatever comes of them. There are many operations, but for the graph
only two things matter: a class is compiled, or the graph is cleared. All else
leaves the graph and the list of the classes in progress alone.
`Reachable.invariant` is the induction that says so, and it is how a property of
one compilation becomes one of all sessions.

The first property is that between operations no class is in progress, also
after an operation that has failed.
-/

namespace ClassDiagram.Session

open Scope

variable {realm : Realm} {session later last : Session realm}

/-- What can be done to a session. -/
inductive Operation where
  | addClass (id : ValueId)
  | addClasses (ids : List ValueId)
  | addScope (name : String) (value : ValueId)
  | addRelation (relation : Relation)
  | setNotes (notes : Bool)
  | setEnclose (enclose : Bool)
  | resolve (id : ValueId)
  | compile (id : ValueId)
  | compileAll
  | render

/-- The session after the operation. What is refused changes nothing, and what
fails on the way leaves what was done before. -/
def after (session : Session realm) : Operation → Session realm
  | .addClass id => (session.addClass id).toOption.getD session
  | .addClasses ids => (session.addClasses ids).2
  | .addScope name value => (session.addScope name value).toOption.getD session
  | .addRelation relation => session.addRelation relation
  | .setNotes notes => session.setNotes notes
  | .setEnclose enclose => session.setEnclose enclose
  | .resolve id => (session.resolve id).2
  | .compile id => (session.compile id).2
  | .compileAll => session.compileAll.2
  | .render => session.render.2

/-- The sessions that can come about. -/
inductive Reachable : Session realm → Prop
  | start {roots : List ValueId} {scopes : List (String × ValueId)} {session : Session realm}
      (h : withRoots roots scopes = .ok session) : Reachable session
  | step {session : Session realm} (h : Reachable session) (operation : Operation) :
      Reachable (session.after operation)

theorem reachable_empty (realm : Realm) : Reachable (∅ : Session realm) :=
  .start (show withRoots [] [] = .ok ∅ from rfl)

/-- The session with an empty graph, from which rendering starts. -/
def cleared (session : Session realm) : Session realm := { session with graph := ∅ }

theorem render_eq (session : Session realm) :
    session.render =
      match session.cleared.compileEach session.roots with
      | (.error error, next) => (.error error, next)
      | (.ok (), next) => (.ok next.diagram, next) := rfl

/-! ## What matters for the graph -/

/-- The later session has the same graph and the same classes in progress. What
roots it has more are classes, and no synthesized name has been taken back. -/
structure Edited (session later : Session realm) : Prop where
  graph : later.graph = session.graph
  inProgress : later.inProgress = session.inProgress
  roots : ∀ id ∈ later.roots, id ∈ session.roots ∨ (realm.class? id).isSome
  unscoped : session.resolver.unscoped <+: later.resolver.unscoped

theorem Edited.refl (session : Session realm) : Edited session session :=
  ⟨rfl, rfl, fun _ hid => .inl hid, List.prefix_refl _⟩

theorem Edited.trans (h : Edited session later) (h' : Edited later last) : Edited session last := by
  refine ⟨h'.graph.trans h.graph, h'.inProgress.trans h.inProgress, fun id hid => ?_,
    h.unscoped.trans h'.unscoped⟩
  rcases h'.roots id hid with hid | hisClass
  · exact h.roots id hid
  · exact .inr hisClass

theorem edited_addClass {id : ValueId} (h : session.addClass id = .ok later) :
    Edited session later := by
  unfold addClass at h
  split at h
  · cases h
  · next definition hexpect =>
      cases h
      refine ⟨rfl, rfl, fun other hother => ?_, List.prefix_refl _⟩
      rcases List.mem_append.1 hother with hold | hnew
      · exact .inl hold
      · rw [List.mem_singleton.1 hnew]
        exact .inr (Option.isSome_of_eq_some (Realm.expectClass_eq_ok_iff.1 hexpect))

theorem edited_addClasses : ∀ (ids : List ValueId) (session : Session realm),
    Edited session (session.addClasses ids).2 := by
  intro ids
  induction ids with
  | nil => exact Edited.refl
  | cons id ids ih =>
      intro session
      rw [addClasses]
      split
      · exact Edited.refl session
      · next next hnext => exact (edited_addClass hnext).trans (ih next)

theorem resolver_addClass {id : ValueId} (h : session.addClass id = .ok later) :
    later.resolver = session.resolver := by
  unfold addClass at h
  split at h
  · cases h
  · cases h
    rfl

theorem resolver_addClasses : ∀ (ids : List ValueId) (session : Session realm),
    (session.addClasses ids).2.resolver = session.resolver := by
  intro ids
  induction ids with
  | nil => exact fun session => rfl
  | cons id ids ih =>
      intro session
      rw [addClasses]
      split
      · rfl
      · next next hnext => exact (ih next).trans (resolver_addClass hnext)

theorem edited_addScope {name : String} {value : ValueId}
    (h : session.addScope name value = .ok later) : Edited session later := by
  unfold addScope at h
  split at h
  · cases h
  · next resolver hresolver =>
      cases h
      obtain ⟨_, _, hunscoped⟩ := Resolver.of_addScope hresolver
      exact ⟨rfl, rfl, fun _ hid => .inl hid, hunscoped ▸ List.prefix_refl _⟩

theorem edited_addScopes : ∀ (scopes : List (String × ValueId)) (session : Session realm),
    session.addScopes scopes = .ok later → Edited session later := by
  intro scopes
  induction scopes with
  | nil =>
      intro session h
      cases h
      exact Edited.refl _
  | cons scope scopes ih =>
      obtain ⟨name, value⟩ := scope
      intro session h
      rw [addScopes] at h
      split at h
      · cases h
      · next next hnext => exact (edited_addScope hnext).trans (ih next h)

theorem edited_withRoots {roots : List ValueId} {scopes : List (String × ValueId)}
    (h : withRoots roots scopes = .ok session) : Edited ∅ session := by
  unfold withRoots at h
  have hroots := edited_addClasses roots (∅ : Session realm)
  split at h
  · cases h
  · next next hnext =>
      rw [hnext] at hroots
      exact hroots.trans (edited_addScopes scopes next h)

/-- What compiling one class keeps, compiling classes in order keeps. -/
theorem compileEach_invariant {motive : Session realm → Prop}
    (compiled : ∀ session id, motive session → motive (session.compile id).2) :
    ∀ (ids : List ValueId) (session : Session realm), motive session →
      motive (session.compileEach ids).2 := by
  intro ids
  induction ids with
  | nil => exact fun session h => h
  | cons id ids ih =>
      intro session h
      have hfirst := compiled session id h
      rw [compileEach]
      revert hfirst
      rcases session.compile id with ⟨error | name, next⟩
      · exact fun hnext => hnext
      · exact fun hnext => ih next hnext

theorem grown_compileEach (ids : List ValueId) (session : Session realm) :
    Grown session (session.compileEach ids).2 :=
  compileEach_invariant (motive := fun later => Grown session later)
    (fun later id h => h.trans (later.grown_compile id)) ids session (.refl session)

theorem inProgress_compileEach (ids : List ValueId) (session : Session realm) :
    (session.compileEach ids).2.inProgress = session.inProgress :=
  compileEach_invariant (motive := fun later => later.inProgress = session.inProgress)
    (fun later id h => (later.inProgress_compile id).trans h) ids session rfl

theorem after_render (session : Session realm) :
    session.after .render = (session.cleared.compileEach session.roots).2 := by
  rw [Session.after, render_eq]
  rcases session.cleared.compileEach session.roots with ⟨error | _, next⟩
  · rfl
  · rfl

/-- What an operation does to the graph: either nothing, or it compiles some
classes, and if it renders it clears the graph before. -/
theorem after_cases (session : Session realm) (operation : Operation) :
    Edited session (session.after operation) ∨
      ∃ ids, session.after operation = (session.compileEach ids).2 ∨
        session.after operation = (session.cleared.compileEach ids).2 := by
  cases operation with
  | addClass id =>
      rw [Session.after]
      cases hnext : session.addClass id with
      | error error => exact .inl (.refl session)
      | ok next => exact .inl (edited_addClass hnext)
  | addClasses ids => exact .inl (edited_addClasses ids session)
  | addScope name value =>
      rw [Session.after]
      cases hnext : session.addScope name value with
      | error error => exact .inl (.refl session)
      | ok next => exact .inl (edited_addScope hnext)
  | addRelation relation => exact .inl ⟨rfl, rfl, fun _ hid => .inl hid, List.prefix_refl _⟩
  | setNotes notes => exact .inl ⟨rfl, rfl, fun _ hid => .inl hid, List.prefix_refl _⟩
  | setEnclose enclose => exact .inl ⟨rfl, rfl, fun _ hid => .inl hid, List.prefix_refl _⟩
  | resolve id =>
      exact .inl ⟨rfl, rfl, fun _ hid => .inl hid, (Grown.resolve session id).resolver.unscoped⟩
  | compile id =>
      refine .inr ⟨[id], .inl ?_⟩
      rw [Session.after, compileEach]
      rcases session.compile id with ⟨error | name, next⟩
      · rfl
      · rfl
  | compileAll => exact .inr ⟨session.roots, .inl rfl⟩
  | render => exact .inr ⟨session.roots, .inr session.after_render⟩

/-- Induction over the sessions that can come about. -/
theorem Reachable.invariant {motive : Session realm → Prop} (empty : motive ∅)
    (edited : ∀ session later, Edited session later → motive session → motive later)
    (cleared : ∀ session, motive session → motive session.cleared)
    (compiled : ∀ session id, motive session → motive (session.compile id).2)
    (h : Reachable session) : motive session := by
  induction h with
  | start h => exact edited _ _ (edited_withRoots h) empty
  | @step session _ operation ih =>
      rcases session.after_cases operation with hedited | ⟨ids, hafter | hafter⟩
      · exact edited _ _ hedited ih
      · rw [hafter]
        exact compileEach_invariant compiled ids session ih
      · rw [hafter]
        exact compileEach_invariant compiled ids _ (cleared session ih)

/-- Between operations no class is in progress. -/
theorem Reachable.inProgress_eq_nil (h : Reachable session) : session.inProgress = [] := by
  refine h.invariant (motive := fun session => session.inProgress = []) rfl ?_ ?_ ?_
  · exact fun session later hedited hnil => hedited.inProgress.trans hnil
  · exact fun session hnil => hnil
  · exact fun session id hnil => (session.inProgress_compile id).trans hnil

/-- Induction over the sessions that can come about, in none of which a class is
in progress. -/
theorem Reachable.invariant_of_idle {motive : Session realm → Prop} (empty : motive ∅)
    (edited : ∀ session later, Edited session later → motive session → motive later)
    (cleared : ∀ session, motive session → motive session.cleared)
    (compiled : ∀ session id, session.inProgress = [] → motive session →
      motive (session.compile id).2)
    (h : Reachable session) : motive session := by
  have hboth : session.inProgress = [] ∧ motive session := by
    refine h.invariant (motive := fun session => session.inProgress = [] ∧ motive session)
      ⟨rfl, empty⟩ ?_ ?_ ?_
    · intro session later hedited hboth
      exact ⟨hedited.inProgress.trans hboth.1, edited _ _ hedited hboth.2⟩
    · exact fun session hboth => ⟨hboth.1, cleared session hboth.2⟩
    · intro session id hboth
      exact ⟨(session.inProgress_compile id).trans hboth.1, compiled session id hboth.1 hboth.2⟩
  exact hboth.2

end ClassDiagram.Session
