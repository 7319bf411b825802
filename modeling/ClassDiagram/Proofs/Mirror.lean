import ClassDiagram.Proofs.Embedding
import ClassDiagram.Proofs.Frame

/-!
# Two runs side by side

A session is run in one realm, and another one in a realm that the first is
embedded in. If they agree to begin with they agree all along: they succeed and
fail together, with the same names and errors about the same values, and have the
same graph (`mirrored_compile`, `mirrored_render`).

They need not know the same synthesized names. The second session may have given
some before that the first is still to give, as long as they are the ones that it
will give, in the same order. To say so the statements look ahead to the last
resolver of the first run, and `Ahead` puts the second resolver between what the
first has given so far and what it will have given in the end.

With nothing given before, this compares a realm with a larger one. With
everything given before, it compares a run with its own repetition: the second
time a diagram is rendered all names are known from the first time, even if that
failed, and so nothing is different and nothing changes (`render_render`).
-/

namespace ClassDiagram

open Scope

variable {place : ValueId → ValueId} {realm other : Realm}

/-! ## Resolvers -/

namespace Scope.Resolver

variable {last resolver image : Resolver}

/-- The image has the same scopes. It calls those values by number that the
resolver does, and then perhaps some that the resolver is still to call so before
it becomes the last one. -/
structure Ahead (place : ValueId → ValueId) (last resolver image : Resolver) : Prop where
  scopes : image.scopes = resolver.scopes.map fun _ => place
  given : resolver.unscoped.map place <+: image.unscoped
  foreseen : image.unscoped <+: last.unscoped.map place

theorem idxOf_map (hplace : Function.Injective place) (id : ValueId) (ids : List ValueId) :
    (ids.map place).idxOf (place id) = ids.idxOf id := by
  induction ids with
  | nil => rfl
  | cons first ids ih =>
      rw [List.map_cons, List.idxOf_cons, List.idxOf_cons, ih]
      rw [show (place first == place id) = (first == id) by simp [hplace.eq_iff]]

/-- The image has got as far as the resolver, or it has given the next number too. -/
theorem Ahead.level_or (h : Ahead place last resolver image) {id : ValueId}
    (hnext : resolver.unscoped ++ [id] <+: last.unscoped) :
    image.unscoped = resolver.unscoped.map place ∨
      resolver.unscoped.map place ++ [place id] <+: image.unscoped := by
  have hnext' := hnext.map place
  rw [List.map_append] at hnext'
  by_cases hlevel : image.unscoped.length ≤ (resolver.unscoped.map place).length
  · exact .inl (h.given.eq_of_length_le hlevel).symm
  · refine .inr (List.prefix_of_prefix_length_le hnext' h.foreseen ?_)
    rw [List.length_append]
    exact Nat.lt_of_not_le hlevel

/-- A value is called the same by both, and the image stays ahead. -/
theorem Ahead.step (hembeds : realm.Embeds place other) (h : Ahead place last resolver image)
    {id : ValueId} (hlast : Extends (resolver.resolve realm id).2 last) :
    image.nameOf other (place id) = resolver.nameOf realm id ∧
      Ahead place last (resolver.resolve realm id).2 (image.resolve other (place id)).2 := by
  have hsearch := hembeds.search_map resolver.scopes id
  rw [← h.scopes] at hsearch
  have hidx : ∀ {known : List ValueId}, known.map place <+: image.unscoped → id ∈ known →
      place id ∈ image.unscoped ∧ image.unscoped.idxOf (place id) = known.idxOf id := by
    intro known hprefix hknown
    have hmem : place id ∈ known.map place := List.mem_map_of_mem hknown
    obtain ⟨rest, hrest⟩ := hprefix
    rw [← hrest, List.idxOf_append_of_mem hmem, idxOf_map hembeds.injective]
    exact ⟨List.mem_append_left rest hmem, rfl⟩
  rw [nameOf_eq, nameOf_eq, hsearch]
  rw [resolve] at hlast ⊢
  rw [resolve, hsearch]
  revert hlast
  split
  · next name hname =>
      intro _
      rw [hname]
      exact ⟨rfl, h⟩
  · next hnone =>
      rw [hnone, Option.getD_none, Option.getD_none]
      split
      · next hknown =>
          intro _
          obtain ⟨hmem, hplace⟩ := hidx h.given hknown
          rw [dif_pos hmem, hplace]
          exact ⟨rfl, h⟩
      · next hnew =>
          intro hlast
          rcases h.level_or hlast.unscoped with hlevel | hahead
          · have hmem : place id ∉ image.unscoped := by
              rw [hlevel, List.mem_map_of_injective hembeds.injective]
              exact hnew
            rw [dif_neg hmem, List.idxOf_eq_length hmem, List.idxOf_eq_length hnew]
            refine ⟨by rw [hlevel, List.length_map], h.scopes, ?_, ?_⟩
            · rw [List.map_append, ← hlevel]
              exact List.prefix_refl _
            · have hnext := hlast.unscoped.map place
              rw [List.map_append, ← hlevel] at hnext
              exact hnext
          · have hahead' : (resolver.unscoped ++ [id]).map place <+: image.unscoped := by
              rw [List.map_append]
              exact hahead
            obtain ⟨hmem, hplace⟩ :=
              hidx hahead' (List.mem_append_right _ (List.mem_singleton_self id))
            rw [dif_pos hmem, hplace, List.idxOf_append_of_notMem hnew, List.idxOf_cons_self,
              Nat.add_zero, List.idxOf_eq_length hnew]
            exact ⟨rfl, h.scopes, hahead', h.foreseen⟩

/-- A scope that can be registered can be registered in the image. -/
theorem Ahead.addScope (hembeds : realm.Embeds place other) (h : Ahead place last resolver image)
    {name : String} {value : ValueId} {next : Resolver}
    (hnext : resolver.addScope realm name value = .ok next) :
    ∃ next', image.addScope other name (place value) = .ok next' ∧
      Ahead place last next next' := by
  obtain ⟨_, hscopes, hunscoped⟩ := of_addScope hnext
  obtain ⟨hname, found, hget, hcontainer⟩ := exists_addScope_iff.1 ⟨next, hnext⟩
  have hget' : other.get? (place value) = some (found.map place) := by
    rw [hembeds.get?, hget, Option.map_some]
  have hcontainer' := (found.isContainer_map place).trans hcontainer
  obtain ⟨next', hnext'⟩ := exists_addScope_iff.2 ⟨hname, _, hget', hcontainer'⟩
  obtain ⟨_, hscopes', hunscoped'⟩ := of_addScope hnext'
  refine ⟨next', hnext', ?_, ?_, ?_⟩
  · rw [hscopes', hscopes, Table.map_insert, h.scopes]
  · rw [hunscoped', hunscoped]
    exact h.given
  · rw [hunscoped']
    exact h.foreseen

end Scope.Resolver

/-! ## Sessions -/

namespace Session

variable {last : Resolver} {session : Session realm} {image : Session other}

/-- The image has everything that the session has, at its place. -/
structure Mirrors (place : ValueId → ValueId) (last : Resolver) (session : Session realm)
    (image : Session other) : Prop where
  roots : image.roots = session.roots.map place
  resolver : Resolver.Ahead place last session.resolver image.resolver
  graph : image.graph = session.graph
  relations : image.relations = session.relations
  settings : image.settings = session.settings
  inProgress : image.inProgress = session.inProgress.map place

/-- The same has come of both runs. -/
structure Mirrored {α : Type} (place : ValueId → ValueId) (last : Resolver)
    (result : Except Error α × Session realm) (image : Except Error α × Session other) : Prop where
  outcome : image.1 = result.1.mapError (Error.map place)
  session : Mirrors place last result.2 image.2

namespace Mirrored

variable {α : Type} {error : Error} {value : α} {next : Session realm}
  {image : Except Error α × Session other}

theorem of_error (h : Mirrored place last (.error error, next) image) :
    ∃ next', image = (.error (error.map place), next') ∧ Mirrors place last next next' :=
  ⟨image.2, Prod.ext h.outcome rfl, h.session⟩

theorem of_ok (h : Mirrored place last (.ok value, next) image) :
    ∃ next', image = (.ok value, next') ∧ Mirrors place last next next' :=
  ⟨image.2, Prod.ext h.outcome rfl, h.session⟩

end Mirrored

theorem extends_compileOwn (session : Session realm) (id : ValueId)
    (definition : ClassDef ValueId) (name : QualifiedName) (parent : Option QualifiedName) :
    Resolver.Extends session.resolver
      (session.compileOwn id definition name parent).2.resolver := by
  have hgrown := grown_compileInterfaces definition.implements session
  rw [compileOwn]
  revert hgrown
  rcases session.compileInterfaces definition.implements with ⟨error | names, later⟩
  · exact fun hgrown => hgrown.resolver
  · exact fun hgrown => hgrown.resolver

section Run

variable {id : ValueId} (hembeds : realm.Embeds place other)

include hembeds

theorem Mirrors.resolve (h : Mirrors place last session image)
    (hlast : Resolver.Extends (session.resolve id).2.resolver last) :
    image.nameOf (place id) = session.nameOf id ∧
      Mirrors place last (session.resolve id).2 (image.resolve (place id)).2 := by
  obtain ⟨hname, hresolver⟩ := h.resolver.step hembeds hlast
  exact ⟨hname, h.roots, hresolver, h.graph, h.relations, h.settings, h.inProgress⟩

theorem Mirrors.opening (h : Mirrors place last session image)
    (hlast : Resolver.Extends (session.opening id).resolver last) :
    Mirrors place last (session.opening id) (image.opening (place id)) := by
  obtain ⟨_, hresolver⟩ := h.resolver.step hembeds hlast
  refine ⟨h.roots, hresolver, h.graph, h.relations, h.settings, ?_⟩
  exact congrArg (place id :: ·) h.inProgress

theorem Mirrors.close (h : Mirrors place last session image) :
    Mirrors place last (session.close id) (image.close (place id)) := by
  refine ⟨h.roots, h.resolver, h.graph, h.relations, h.settings, ?_⟩
  show image.inProgress.erase (place id) = (session.inProgress.erase id).map place
  rw [h.inProgress, List.map_erase hembeds.injective]

omit hembeds in
theorem Mirrors.withNode (h : Mirrors place last session image) (node : Node) :
    Mirrors place last (session.withNode node) (image.withNode node) :=
  ⟨h.roots, h.resolver, congrArg (·.insert node) h.graph, h.relations, h.settings, h.inProgress⟩

theorem Mirrors.fresh_iff (h : Mirrors place last session image)
    (hname : image.nameOf (place id) = session.nameOf id) :
    Fresh image (place id) ↔ Fresh session id := by
  have hbusy : place id ∈ image.inProgress ↔ id ∈ session.inProgress := by
    rw [h.inProgress, List.mem_map_of_injective hembeds.injective]
  have hnamed : image.nameOf (place id) ∈ image.graph.names ↔
      session.nameOf id ∈ session.graph.names := by
    rw [hname, h.graph]
  exact ⟨fun hfresh => ⟨fun hmem => hfresh.unnamed (hnamed.2 hmem),
      fun hmem => hfresh.idle (hbusy.2 hmem)⟩,
    fun hfresh => ⟨fun hmem => hfresh.unnamed (hnamed.1 hmem),
      fun hmem => hfresh.idle (hbusy.1 hmem)⟩⟩

theorem mirrored_compileInterface (id : ValueId) (h : Mirrors place last session image)
    (hlast : Resolver.Extends (session.compileInterface id).2.resolver last) :
    Mirrored place last (session.compileInterface id) (image.compileInterface (place id)) := by
  cases hinterface : realm.interface? id with
  | none =>
      rw [compileInterface, compileInterface, hembeds.expectInterface]
      cases hexpect : realm.expectInterface id with
      | error error => exact ⟨rfl, h⟩
      | ok requirements =>
          rw [Realm.expectInterface_eq_ok_iff.1 hexpect] at hinterface
          cases hinterface
  | some requirements =>
      have hinterface' := (hembeds.interface? id).trans hinterface
      rw [compileInterface_eq hinterface] at hlast ⊢
      rw [compileInterface_eq hinterface']
      have hresolver : Resolver.Extends (session.resolve id).2.resolver last := by
        by_cases hnamed : session.nameOf id ∈ session.graph.names
        · rw [if_pos hnamed] at hlast
          exact hlast
        · rw [if_neg hnamed] at hlast
          exact hlast
      obtain ⟨hname, hresolved⟩ := h.resolve hembeds hresolver
      rw [hname, h.graph]
      by_cases hnamed : session.nameOf id ∈ session.graph.names
      · rw [if_pos hnamed, if_pos hnamed]
        exact ⟨rfl, hresolved⟩
      · rw [if_neg hnamed, if_neg hnamed]
        exact ⟨rfl, hresolved.withNode _⟩

theorem mirrored_compileInterfaces : ∀ (ids : List ValueId) {session : Session realm}
    {image : Session other}, Mirrors place last session image →
    Resolver.Extends (session.compileInterfaces ids).2.resolver last →
    Mirrored place last (session.compileInterfaces ids)
      (image.compileInterfaces (ids.map place)) := by
  intro ids
  induction ids with
  | nil => exact fun h _ => ⟨rfl, h⟩
  | cons id ids ih =>
      intro session image h hlast
      have hfirst := mirrored_compileInterface hembeds id h
      rw [compileInterfaces] at hlast ⊢
      rw [List.map_cons, compileInterfaces]
      revert hfirst hlast
      rcases session.compileInterface id with ⟨error | name, next⟩
      · intro hlast hfirst
        obtain ⟨next', himage, hnext⟩ := (hfirst hlast).of_error
        rw [himage]
        exact ⟨rfl, hnext⟩
      · have hgrown := grown_compileInterfaces ids next
        have hrest := @ih next
        dsimp only
        revert hgrown hrest
        rcases next.compileInterfaces ids with ⟨error | names, final⟩
        · intro hgrown hrest hlast hfirst
          obtain ⟨next', himage, hnext⟩ := (hfirst (hgrown.resolver.trans hlast)).of_ok
          obtain ⟨final', himage', hfinal⟩ := (hrest hnext hlast).of_error
          rw [himage]
          dsimp only
          rw [himage']
          exact ⟨rfl, hfinal⟩
        · intro hgrown hrest hlast hfirst
          obtain ⟨next', himage, hnext⟩ := (hfirst (hgrown.resolver.trans hlast)).of_ok
          obtain ⟨final', himage', hfinal⟩ := (hrest hnext hlast).of_ok
          rw [himage]
          dsimp only
          rw [himage']
          exact ⟨rfl, hfinal⟩

theorem classNode_map (definition : ClassDef ValueId) (name : QualifiedName)
    (parent : Option QualifiedName) (interfaces : List QualifiedName) :
    classNode other (definition.map place) name parent interfaces =
      classNode realm definition name parent interfaces := by
  rw [classNode, classNode, hembeds.surface?_map]
  rfl

theorem mirrored_compileOwn {definition : ClassDef ValueId} {name : QualifiedName}
    {parent : Option QualifiedName} (h : Mirrors place last session image)
    (hlast : Resolver.Extends (session.compileOwn id definition name parent).2.resolver last) :
    Mirrored place last (session.compileOwn id definition name parent)
      (image.compileOwn (place id) (definition.map place) name parent) := by
  have hinterfaces := mirrored_compileInterfaces hembeds definition.implements h
  rw [compileOwn] at hlast ⊢
  rw [compileOwn]
  simp only [classNode_map hembeds]
  revert hinterfaces hlast
  rcases session.compileInterfaces definition.implements with ⟨error | names, next⟩
  · intro hlast hinterfaces
    obtain ⟨next', himage, hnext⟩ := (hinterfaces hlast).of_error
    rw [ClassDef.map, himage]
    exact ⟨rfl, hnext.close hembeds⟩
  · intro hlast hinterfaces
    obtain ⟨next', himage, hnext⟩ := (hinterfaces hlast).of_ok
    rw [ClassDef.map, himage]
    exact ⟨rfl, (hnext.withNode _).close hembeds⟩

/-- A class that is taken up in one session is taken up in the other. -/
theorem Mirrors.opened (h : Mirrors place last session image) (hfresh : Fresh session id)
    (hlast : Resolver.Extends (session.opening id).resolver last) :
    image.nameOf (place id) = session.nameOf id ∧ Fresh image (place id) ∧
      Mirrors place last (session.opening id) (image.opening (place id)) := by
  obtain ⟨hname, _⟩ := h.resolve hembeds hlast
  exact ⟨hname, (h.fresh_iff hembeds hname).2 hfresh, h.opening hembeds hlast⟩

/-- What comes of compiling a class is the same for both. -/
theorem mirrored_compile (session : Session realm) (id : ValueId) :
    ∀ image : Session other, Mirrors place last session image →
      Resolver.Extends (session.compile id).2.resolver last →
      Mirrored place last (session.compile id) (image.compile (place id)) := by
  have hclass' : ∀ {id : ValueId} {definition : ClassDef ValueId},
      realm.class? id = some definition →
      other.class? (place id) = some (definition.map place) := by
    intro id definition hclass
    rw [hembeds.class?, hclass, Option.map_some]
  induction session, id using compile_induction with
  | refused session id error hexpect =>
      intro image h _
      have hexpect' : other.expectClass (place id) = .error (error.map place) := by
        rw [hembeds.expectClass, hexpect]
        rfl
      rw [compile_of_error hexpect']
      exact ⟨rfl, h⟩
  | skipped session id definition hclass hfresh =>
      intro image h hlast
      obtain ⟨hname, hresolved⟩ := h.resolve hembeds hlast
      rw [compile_of_not_fresh (Option.isSome_of_eq_some (hclass' hclass))
        fun h' => hfresh ((h.fresh_iff hembeds hname).1 h')]
      exact ⟨congrArg Except.ok hname, hresolved⟩
  | rootless session id definition hclass hfresh hparent =>
      intro image h hlast
      obtain ⟨hname, hfresh', hopening⟩ :=
        h.opened hembeds hfresh ((extends_compileOwn _ _ _ _ _).trans hlast)
      have hparent' : (definition.map place).parent = none := by
        rw [ClassDef.parent_map, hparent, Option.map_none]
      rw [compile_of_fresh (hclass' hclass) hfresh', hparent', hname]
      exact mirrored_compileOwn hembeds hopening hlast
  | orphaned session id definition parent error next hclass hfresh hparent hnext ih =>
      intro image h hlast
      have hgrown := (session.opening id).grown_compile parent
      rw [hnext] at hgrown
      obtain ⟨hname, hfresh', hopening⟩ := h.opened hembeds hfresh (hgrown.resolver.trans hlast)
      obtain ⟨next', himage, hnext'⟩ := (ih _ hopening hlast).of_error
      have hparent' : (definition.map place).parent = some (place parent) := by
        rw [ClassDef.parent_map, hparent, Option.map_some]
      rw [compile_of_fresh (hclass' hclass) hfresh', hparent']
      dsimp only
      rw [himage]
      exact ⟨rfl, hnext'.close hembeds⟩
  | descended session id definition parent name next hclass hfresh hparent hnext ih =>
      intro image h hlast
      have hown := (extends_compileOwn _ _ _ _ _).trans hlast
      have hgrown := (session.opening id).grown_compile parent
      rw [hnext] at hgrown
      obtain ⟨hname, hfresh', hopening⟩ := h.opened hembeds hfresh (hgrown.resolver.trans hown)
      obtain ⟨next', himage, hnext'⟩ := (ih _ hopening hown).of_ok
      have hparent' : (definition.map place).parent = some (place parent) := by
        rw [ClassDef.parent_map, hparent, Option.map_some]
      rw [compile_of_fresh (hclass' hclass) hfresh', hparent', hname]
      dsimp only
      rw [himage]
      exact mirrored_compileOwn hembeds hnext' hlast

theorem mirrored_compileEach : ∀ (ids : List ValueId) {session : Session realm}
    {image : Session other}, Mirrors place last session image →
    Resolver.Extends (session.compileEach ids).2.resolver last →
    Mirrored place last (session.compileEach ids) (image.compileEach (ids.map place)) := by
  intro ids
  induction ids with
  | nil => exact fun h _ => ⟨rfl, h⟩
  | cons id ids ih =>
      intro session image h hlast
      have hfirst := mirrored_compile hembeds session id image h
      rw [compileEach] at hlast ⊢
      rw [List.map_cons, compileEach]
      revert hfirst hlast
      rcases session.compile id with ⟨error | name, next⟩
      · intro hlast hfirst
        obtain ⟨next', himage, hnext⟩ := (hfirst hlast).of_error
        rw [himage]
        exact ⟨rfl, hnext⟩
      · intro hlast hfirst
        have hgrown := grown_compileEach ids next
        obtain ⟨next', himage, hnext⟩ := (hfirst (hgrown.resolver.trans hlast)).of_ok
        rw [himage]
        exact ih hnext hlast

/-- What comes of rendering is the same for both, if they agree but for the graph. -/
theorem mirrored_render (h : Mirrors place last session.cleared image.cleared)
    (hlast : Resolver.Extends session.render.2.resolver last) :
    Mirrored place last session.render image.render := by
  have hall := mirrored_compileEach hembeds session.roots h
  have hroots : image.roots = session.roots.map place := h.roots
  rw [render_eq] at hlast ⊢
  rw [render_eq, hroots]
  revert hall hlast
  rcases session.cleared.compileEach session.roots with ⟨error | _, next⟩
  · intro hlast hall
    obtain ⟨next', himage, hnext⟩ := (hall hlast).of_error
    rw [himage]
    exact ⟨rfl, hnext⟩
  · intro hlast hall
    obtain ⟨next', himage, hnext⟩ := (hall hlast).of_ok
    rw [himage]
    refine ⟨?_, hnext⟩
    show Except.ok next'.diagram = Except.ok next.diagram
    rw [diagram, diagram, hnext.settings, hnext.graph, hnext.relations]

end Run

/-! ## What is registered -/

section Register

variable (hembeds : realm.Embeds place other)

omit hembeds in
/-- Sessions in which nothing is registered mirror each other, whatever comes of them. -/
theorem mirrors_empty (realm other : Realm) (place : ValueId → ValueId) (last : Resolver) :
    Mirrors place last (∅ : Session realm) (∅ : Session other) :=
  ⟨rfl, ⟨rfl, List.prefix_refl _, List.nil_prefix⟩, rfl, rfl, rfl, rfl⟩

include hembeds

theorem mirrored_addClasses : ∀ (ids : List ValueId) {session : Session realm}
    {image : Session other}, Mirrors place last session image →
    Mirrored place last (session.addClasses ids) (image.addClasses (ids.map place)) := by
  intro ids
  induction ids with
  | nil => exact fun h => ⟨rfl, h⟩
  | cons id ids ih =>
      intro session image h
      rw [List.map_cons, addClasses, addClasses, addClass, addClass, hembeds.expectClass]
      cases realm.expectClass id with
      | error error => exact ⟨rfl, h⟩
      | ok definition =>
          refine ih ⟨?_, h.resolver, h.graph, h.relations, h.settings, h.inProgress⟩
          show image.roots ++ [place id] = (session.roots ++ [id]).map place
          rw [h.roots, List.map_append]
          rfl

theorem Mirrors.addScope (h : Mirrors place last session image) {name : String} {value : ValueId}
    {next : Session realm} (hnext : session.addScope name value = .ok next) :
    ∃ next', image.addScope name (place value) = .ok next' ∧ Mirrors place last next next' := by
  rw [Session.addScope] at hnext
  cases hresolver : session.resolver.addScope realm name value with
  | error error =>
      rw [hresolver] at hnext
      cases hnext
  | ok resolver =>
      rw [hresolver] at hnext
      cases hnext
      obtain ⟨resolver', himage, hahead⟩ := h.resolver.addScope hembeds hresolver
      rw [Session.addScope, himage]
      exact ⟨_, rfl, h.roots, hahead, h.graph, h.relations, h.settings, h.inProgress⟩

theorem mirrors_addScopes : ∀ (scopes : List (String × ValueId)) {session next : Session realm}
    {image : Session other}, Mirrors place last session image →
    session.addScopes scopes = .ok next →
    ∃ next', image.addScopes (scopes.map fun scope => (scope.1, place scope.2)) = .ok next' ∧
      Mirrors place last next next' := by
  intro scopes
  induction scopes with
  | nil =>
      intro session next image h hnext
      cases hnext
      exact ⟨image, rfl, h⟩
  | cons scope scopes ih =>
      intro session next image h hnext
      rw [addScopes] at hnext
      cases hscope : session.addScope scope.1 scope.2 with
      | error error =>
          rw [hscope] at hnext
          cases hnext
      | ok between =>
          rw [hscope] at hnext
          obtain ⟨between', himage, hbetween⟩ := h.addScope hembeds hscope
          rw [List.map_cons, addScopes, himage]
          exact ih hbetween hnext

theorem mirrors_withRoots (last : Resolver) {roots : List ValueId}
    {scopes : List (String × ValueId)} (h : withRoots roots scopes = .ok session) :
    ∃ image : Session other, withRoots (roots.map place)
        (scopes.map fun scope => (scope.1, place scope.2)) = .ok image ∧
      Mirrors place last session image := by
  have hroots := mirrored_addClasses hembeds roots (mirrors_empty realm other place last)
  rw [withRoots] at h ⊢
  revert hroots h
  rcases (∅ : Session realm).addClasses roots with ⟨error | _, next⟩
  · intro h
    cases h
  · intro h hroots
    obtain ⟨next', himage, hnext⟩ := hroots.of_ok
    rw [himage]
    exact mirrors_addScopes hembeds scopes hnext h

omit hembeds

theorem Mirrors.addRelations (relations : List Relation) : ∀ {session : Session realm}
    {image : Session other}, Mirrors place last session image →
    Mirrors place last (relations.foldl addRelation session)
      (relations.foldl addRelation image) := by
  induction relations with
  | nil => exact fun h => h
  | cons relation relations ih =>
      intro session image h
      exact ih ⟨h.roots, h.resolver, h.graph, congrArg (· ++ [relation]) h.relations, h.settings,
        h.inProgress⟩

theorem Mirrors.setNotes (h : Mirrors place last session image) (notes : Bool) :
    Mirrors place last (session.setNotes notes) (image.setNotes notes) :=
  ⟨h.roots, h.resolver, h.graph, h.relations,
    congrArg (fun settings => { settings with notes := notes }) h.settings, h.inProgress⟩

theorem Mirrors.cleared (h : Mirrors place last session image) :
    Mirrors place last session.cleared image.cleared :=
  ⟨h.roots, h.resolver, rfl, h.relations, h.settings, h.inProgress⟩

end Register

/-! ## Rendering twice -/

/-- A session is mirrored by a later one that has the last resolver, and has only
been rendered meanwhile. -/
theorem mirrors_render (session : Session realm) :
    Mirrors id session.render.2.resolver session.cleared session.render.2.cleared := by
  have hgrown := grown_compileEach session.roots session.cleared
  have hpending := inProgress_compileEach session.roots session.cleared
  rw [← after_render] at hgrown hpending
  have hscopes := Table.map_id session.resolver.scopes
  refine ⟨?_, ⟨?_, ?_, ?_⟩, rfl, hgrown.relations, hgrown.settings, ?_⟩
  · rw [List.map_id]
    exact hgrown.roots
  · exact hgrown.resolver.scopes.trans hscopes.symm
  · rw [List.map_id]
    exact hgrown.resolver.unscoped
  · rw [List.map_id]
    exact List.prefix_refl _
  · rw [List.map_id]
    exact hpending

/-- A session that has given all its names is mirrored by itself alone. -/
theorem Mirrors.eq_self {session image : Session realm}
    (h : Mirrors id session.resolver session image) : image = session := by
  have hgiven := h.resolver.given
  have hforeseen := h.resolver.foreseen
  have hscopes := h.resolver.scopes
  have hroots := h.roots
  have hpending := h.inProgress
  rw [List.map_id] at hgiven hforeseen hroots hpending
  rw [Table.map_id] at hscopes
  have hunscoped := hforeseen.eq_of_length_le hgiven.length_le
  obtain ⟨roots, ⟨scopes, unscoped, _, _⟩, graph, relations, settings, inProgress⟩ := session
  obtain ⟨roots', ⟨scopes', unscoped', _, _⟩, graph', relations', settings', inProgress'⟩ := image
  cases hroots
  cases hscopes
  cases hunscoped
  cases h.graph
  cases h.relations
  cases h.settings
  cases hpending
  rfl

/-- Rendering again gives the same text or the same error, and changes nothing. -/
theorem render_render (session : Session realm) : session.render.2.render = session.render := by
  have hmirrored := mirrored_render (.refl realm) session.mirrors_render (Resolver.Extends.refl _)
  refine Prod.ext ?_ hmirrored.session.eq_self
  rw [hmirrored.outcome, funext Error.map_id]
  cases session.render.1 with
  | error error => rfl
  | ok text => rfl

end Session

end ClassDiagram
