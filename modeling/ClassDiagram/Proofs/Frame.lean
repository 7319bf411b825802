import ClassDiagram.Proofs.ParentsPresent

/-!
# What compiling leaves alone

Compiling may fail anywhere on the way up a chain of parents, and then what has
been done stays. So a session is only fit for further use if what stays is never
half done: the nodes there were are still there, in their places and as they
were; a class that failed has no node; and nothing is still in progress
(`compile_framed`).

The first is not to be seen from inserting a node, which puts it in the place of
one of the same name. It holds because a class is only compiled while its name is
free, and because nothing that is compiled for its sake takes that name.

To speak of a class that failed at some depth one has to say that it was compiled
at all. `Takes` follows the way up: the class that is asked for is taken up, if it
is not skipped, and then its parent is asked for. A class that is taken up in some
state has a node in the end exactly if compiling it in that state succeeds. If it
fails, so does everything below it, and no more is done on the way back than to
take the classes off the list.
-/

namespace ClassDiagram.Session

variable {realm : Realm} {session later inner : Session realm} {id other : ValueId}

/-- While one class is compiled another one is taken up, and this is the session
then: the class itself, if it is not skipped, or one that its parent takes up. -/
inductive Takes : Session realm → ValueId → Session realm → ValueId → Prop
  | self {session : Session realm} {id : ValueId} (hclass : (realm.class? id).isSome)
      (hfresh : Fresh session id) : Takes session id session id
  | above {session inner : Session realm} {id parent other : ValueId}
      (hlink : realm.HasParent id parent) (hfresh : Fresh session id)
      (h : Takes (session.opening id) parent inner other) : Takes session id inner other

/-- While classes are compiled in order, one is taken up for the sake of one of
them, and all before that one were compiled. -/
def TakesAmong (session : Session realm) (ids : List ValueId) (inner : Session realm)
    (other : ValueId) : Prop :=
  ∃ before id rest, ids = before ++ id :: rest ∧ (session.compileEach before).1 = .ok () ∧
    Takes (session.compileEach before).2 id inner other

/-- The later session has only got nodes more, none of them for a class that was
taken up and failed, and no class is in progress in it. -/
structure Framed (session later : Session realm) (taken : Session realm → ValueId → Prop) :
    Prop where
  nodes : session.graph.nodes <+: later.graph.nodes
  roots : later.roots = session.roots
  scopes : later.resolver.scopes = session.resolver.scopes
  relations : later.relations = session.relations
  settings : later.settings = session.settings
  inProgress : later.inProgress = []
  taken : ∀ inner other, taken inner other →
    (inner.nameOf other ∈ later.graph.names ↔ ∃ name, (inner.compile other).1 = .ok name)

theorem Grown.framed (h : Grown session later) {taken : Session realm → ValueId → Prop}
    (hidle : later.inProgress = []) (htaken : ∀ inner other, taken inner other →
      (inner.nameOf other ∈ later.graph.names ↔ ∃ name, (inner.compile other).1 = .ok name)) :
    Framed session later taken :=
  ⟨h.nodes, h.roots, h.resolver.scopes, h.relations, h.settings, hidle, htaken⟩

/-! ## One class -/

/-- A class that is fresh and succeeds has its node. -/
theorem named_of_compile_ok (hfresh : Fresh session id) {name : QualifiedName}
    (hok : (session.compile id).1 = .ok name) :
    session.nameOf id ∈ (session.compile id).2.graph.names := by
  have hbefore := session.name_of_compile id name hok
  have houtcome := session.compile_outcome id
  revert hok houtcome
  rcases session.compile id with ⟨error | found, later⟩
  · intro hok
    cases hok
  · intro hok houtcome
    cases hok
    obtain ⟨_, _, hafter, _, hdone⟩ := houtcome
    rw [← hbefore, hafter]
    exact (hdone.resolve_right hfresh.idle).named

theorem unnamed_compileOwn {definition : ClassDef ValueId} {next : Session realm}
    {parent : Option QualifiedName} {excused : ValueId → Prop} {error : Error}
    (hclass : realm.class? id = some definition) (hfresh : Fresh session id)
    (hadded : Added (session.opening id) next id excused)
    (herror : (next.compileOwn id definition (session.nameOf id) parent).1 = .error error) :
    session.nameOf id ∉
      (next.compileOwn id definition (session.nameOf id) parent).2.graph.names := by
  have hspec := compileInterfaces_spec definition.implements next
  rw [compileOwn] at herror ⊢
  revert herror hspec
  rcases next.compileInterfaces definition.implements with ⟨error | names, final⟩
  · intro herror hspec
    obtain ⟨hids, _⟩ := hspec
    have hfinal := hadded.interfaces hids fun other hother => ⟨definition, hclass, hother⟩
    exact hfinal.unnamed_opening (Option.isSome_of_eq_some hclass) hfresh
  · intro herror
    cases herror

/-- A class that is fresh and fails has none. -/
theorem unnamed_of_compile_error (session : Session realm) (id : ValueId) :
    Fresh session id → ∀ error, (session.compile id).1 = .error error →
      session.nameOf id ∉ (session.compile id).2.graph.names := by
  induction session, id using compile_induction with
  | refused session id error hexpect => exact fun hfresh _ _ => hfresh.unnamed
  | skipped session id definition hclass hfresh => exact fun h => absurd h hfresh
  | rootless session id definition hclass hfresh hparent =>
      exact fun _ error herror =>
        unnamed_compileOwn hclass hfresh (.refl _ id fun _ => False) herror
  | orphaned session id definition parent error next hclass hfresh hparent hnext ih =>
      intro _ _ _
      have houtcome := (session.opening id).compile_outcome parent
      rw [hnext] at houtcome
      obtain ⟨culprit, _, _, hadded⟩ := houtcome
      exact hadded.unnamed_opening (Option.isSome_of_eq_some hclass) hfresh
  | descended session id definition parent name next hclass hfresh hparent hnext ih =>
      intro _ error herror
      have houtcome := (session.opening id).compile_outcome parent
      rw [hnext] at houtcome
      have hlink : realm.HasParent id parent := ⟨definition, hclass, hparent⟩
      exact unnamed_compileOwn hclass hfresh
        (houtcome.1.mono (.single hlink) fun _ hfalse => hfalse) herror

/-- On the way back from the parent: a failure is passed on with the graph as it
is, and after a success there are at most more nodes. -/
theorem compile_of_hasParent {parent : ValueId} (hlink : realm.HasParent id parent)
    (hfresh : Fresh session id) :
    match (session.opening id).compile parent with
    | (.error error, next) => session.compile id = (.error error, next.close id)
    | (.ok _, next) => Grown next (session.compile id).2 := by
  obtain ⟨definition, hclass, hparent⟩ := hlink
  have houtcome := (session.opening id).compile_outcome parent
  rw [compile_of_fresh hclass hfresh, hparent]
  dsimp only
  revert houtcome
  rcases (session.opening id).compile parent with ⟨error | name, next⟩
  · exact fun _ => rfl
  · exact fun houtcome => (outcome_descended hclass hfresh hparent houtcome).1

/-- A class that is taken up has a node in the end exactly if it succeeds, and if
it fails it is not alone. -/
theorem Takes.named_iff (h : Takes session id inner other) :
    (inner.nameOf other ∈ (session.compile id).2.graph.names ↔
      ∃ name, (inner.compile other).1 = .ok name) ∧
    ((∃ name, (session.compile id).1 = .ok name) → ∃ name, (inner.compile other).1 = .ok name) := by
  induction h with
  | @self session id hclass hfresh =>
      refine ⟨⟨fun hnamed => ?_, fun hok => ?_⟩, fun hok => hok⟩
      · cases hresult : (session.compile id).1 with
        | error error => exact absurd hnamed (session.unnamed_of_compile_error id hfresh _ hresult)
        | ok name => exact ⟨name, rfl⟩
      · obtain ⟨name, hok⟩ := hok
        exact named_of_compile_ok hfresh hok
  | @above session inner id parent other hlink hfresh _ ih =>
      have hstep := compile_of_hasParent hlink hfresh
      revert ih hstep
      rcases (session.opening id).compile parent with ⟨error | name, next⟩
      · intro ih hstep
        rw [hstep]
        exact ⟨ih.1, fun hok => by obtain ⟨_, ⟨⟩⟩ := hok⟩
      · intro ih hstep
        have hok := ih.2 ⟨name, rfl⟩
        exact ⟨⟨fun _ => hok, fun _ => hstep.mem_names (ih.1.2 hok)⟩, fun _ => hok⟩

/-! ## Classes in order -/

theorem compileEach_append : ∀ (before rest : List ValueId) (session : Session realm),
    session.compileEach (before ++ rest) =
      match session.compileEach before with
      | (.error error, next) => (.error error, next)
      | (.ok (), next) => next.compileEach rest := by
  intro before rest
  induction before with
  | nil => exact fun session => rfl
  | cons id before ih =>
      intro session
      rw [List.cons_append, compileEach, compileEach]
      rcases session.compile id with ⟨error | name, next⟩
      · rfl
      · exact ih next

theorem TakesAmong.named_iff {ids : List ValueId} (h : TakesAmong session ids inner other) :
    inner.nameOf other ∈ (session.compileEach ids).2.graph.names ↔
      ∃ name, (inner.compile other).1 = .ok name := by
  obtain ⟨before, id, rest, rfl, hbefore, htakes⟩ := h
  have hnamed := htakes.named_iff
  rw [compileEach_append]
  revert hbefore hnamed
  rcases session.compileEach before with ⟨error | _, next⟩
  · intro hbefore
    cases hbefore
  · intro _ hnamed
    simp only [compileEach]
    revert hnamed
    rcases next.compile id with ⟨error | name, final⟩
    · exact fun hnamed => hnamed.1
    -- The class for whose sake it was taken up succeeded, so it did too.
    · intro hnamed
      have hok := hnamed.2 ⟨name, rfl⟩
      exact ⟨fun _ => hok, fun _ => (grown_compileEach rest final).mem_names (hnamed.1.2 hok)⟩

/-- Whatever comes of it, compiling one class or all roots only appends to the
graph, for no class that failed at whatever depth, and leaves all else alone. -/
theorem compile_framed (h : Reachable session) :
    (∀ id, Framed session (session.compile id).2 (Takes session id)) ∧
    Framed session session.compileAll.2 (TakesAmong session session.roots) := by
  have hidle := h.inProgress_eq_nil
  refine ⟨fun id => ?_, ?_⟩
  · exact (session.grown_compile id).framed ((session.inProgress_compile id).trans hidle)
      fun inner other htakes => htakes.named_iff.1
  · exact (grown_compileEach _ session).framed ((inProgress_compileEach _ session).trans hidle)
      fun inner other htakes => htakes.named_iff

/-- The class is taken up, then its parent, which succeeds since the class is in
progress, and then the class fails. -/
theorem compile_framed_halfSoundCircle :
    let session : Session halfSoundCircle := ∅
    let inner := session.opening ⟨0⟩
    Reachable session ∧ Takes session ⟨0⟩ session ⟨0⟩ ∧ Takes session ⟨0⟩ inner ⟨1⟩ ∧
      Framed session (session.compile ⟨0⟩).2 (Takes session ⟨0⟩) ∧
      session.nameOf ⟨0⟩ ∉ (session.compile ⟨0⟩).2.graph.names ∧
      inner.nameOf ⟨1⟩ ∈ (session.compile ⟨0⟩).2.graph.names := by
  intro session inner
  have hfresh : Fresh session ⟨0⟩ := ⟨List.not_mem_nil, List.not_mem_nil⟩
  have hinner : Fresh inner ⟨1⟩ := ⟨List.not_mem_nil, by decide⟩
  have hself : Takes session ⟨0⟩ session ⟨0⟩ := .self rfl hfresh
  have habove : Takes session ⟨0⟩ inner ⟨1⟩ := .above ⟨_, rfl, rfl⟩ hfresh (.self rfl hinner)
  have hframed := (compile_framed (reachable_empty halfSoundCircle)).1 ⟨0⟩
  have hrefused : (session.compile ⟨0⟩).1 = .error (.notInterface ⟨2⟩ .object) := by
    decide +kernel
  have hdone : (inner.compile ⟨1⟩).1 = .ok (.anonymous 2) := by decide +kernel
  refine ⟨reachable_empty halfSoundCircle, hself, habove, hframed, fun hnamed => ?_, ?_⟩
  · obtain ⟨name, hok⟩ := (hframed.taken _ _ hself).1 hnamed
    rw [hrefused] at hok
    cases hok
  · exact (hframed.taken _ _ habove).2 ⟨_, hdone⟩

end ClassDiagram.Session
