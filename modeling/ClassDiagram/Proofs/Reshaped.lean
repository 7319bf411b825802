import ClassDiagram.Proofs.Linking
import ClassDiagram.Proofs.Mirror

/-!
# What a model may look like

The names of the values in a model, their order, and values that nothing refers to
are matters of writing. A model may be given other names, the same name for a value
wherever it is referred to; its values may be put in another order; and further
values may stand among them, as long as they can be linked. `Reshaped` relates it to
what it was before. The diagram stays the same to the letter (`drawn_of_reshaped`).

All of this changes every id and the number of values. But a reshaped model is linked
to a realm in which the first one is embedded: `place` looks up the name at an id, and
goes to the position of its new name. A session on the one is mirrored by a session on
the other from the start, and so the same comes of both.

The further values may refer to the values of the model, but they are not referred to.
That need not be asked for, because the model was linked without them.
-/

namespace ClassDiagram

/-- The other model has everything that the first one has, at its place. -/
structure LinkedModel.Embeds (place : ValueId → ValueId) (linked other : LinkedModel) : Prop where
  realm : linked.realm.Embeds place other.realm
  scopes : other.scopes = linked.scopes.map fun _ => place
  classes : other.classes = linked.classes.map place
  relations : other.relations = linked.relations
  notes : other.notes = linked.notes

namespace Model

/-- The other model is the first one with other names for its values, its values in
another order, and the extra values. -/
structure Reshaped (rename : String → String) (extra : List (String × ValueSpec))
    (model other : Model) : Prop where
  values : List.Perm other.values.entries
    ((model.values.entries.map fun entry => (rename entry.1, entry.2.map rename)) ++ extra)
  loadable : ∀ entry ∈ extra,
    ∃ linked, linkValue other.values.keys entry.1 entry.2 = .ok linked
  scopes : other.scopes = model.scopes.map fun _ => rename
  classes : other.classes = model.classes.map rename
  relations : other.relations = model.relations
  notes : other.notes = model.notes

variable {rename : String → String} {names names' : List String}

/-! ## Places -/

/-- Where a value has gone: to the position of its new name. An id that is not that of
a value is kept out of the way. -/
def place (rename : String → String) (names names' : List String) (id : ValueId) : ValueId :=
  match nameOf? names id with
  | some name => ⟨names'.idxOf (rename name)⟩
  | none => ⟨names'.length + id.index⟩

section Place

variable (hsubset : ∀ name ∈ names, rename name ∈ names')

include hsubset

theorem nameOf?_place (id : ValueId) :
    nameOf? names' (place rename names names' id) = (nameOf? names id).map rename := by
  rw [place]
  cases hname : nameOf? names id with
  | none => exact List.getElem?_eq_none (Nat.le_add_right _ _)
  | some name => exact List.getElem?_idxOf (hsubset name (List.mem_of_getElem? hname))

theorem place_injective (hnames : names.Nodup)
    (hrename : ∀ first ∈ names, ∀ second ∈ names, rename first = rename second →
      first = second) :
    Function.Injective (place rename names names') := by
  intro first second heq
  have hname := congrArg (nameOf? names') heq
  rw [nameOf?_place hsubset, nameOf?_place hsubset] at hname
  cases hfirst : nameOf? names first with
  | none =>
      cases hsecond : nameOf? names second with
      | none =>
          rw [place, place, hfirst, hsecond] at heq
          have hindex : first.index = second.index :=
            Nat.add_left_cancel (congrArg ValueId.index heq)
          exact congrArg ValueId.mk hindex
      | some name =>
          rw [hfirst, hsecond] at hname
          cases hname
  | some name =>
      cases hsecond : nameOf? names second with
      | none =>
          rw [hfirst, hsecond] at hname
          cases hname
      | some other =>
          rw [hfirst, hsecond] at hname
          have hother : name = other := hrename name (List.mem_of_getElem? hfirst) other
            (List.mem_of_getElem? hsecond) (Option.some.inj hname)
          rw [← hother, ← hfirst] at hsecond
          obtain ⟨hlt, _⟩ := List.getElem?_eq_some_iff.1 hfirst
          exact congrArg ValueId.mk ((List.getElem?_inj hlt hnames).1 hsecond.symm)

end Place

/-! ## Linking -/

/-- A value that is linked is linked under its new names too, to the new places. -/
theorem linkValue_map {place : ValueId → ValueId}
    (hplace : nameOf? names' ∘ place = Option.map rename ∘ nameOf? names)
    (hnames : names.Nodup) (hnames' : names'.Nodup) {owner owner' : String}
    {value : ValueSpec} {linked : Value ValueId} (h : linkValue names owner value = .ok linked) :
    linkValue names' owner' (value.map rename) = .ok (linked.map place) := by
  obtain ⟨hkeyed, hlinked⟩ := (linkValue_eq_ok_iff hnames).1 h
  refine (linkValue_eq_ok_iff hnames').2 ⟨?_, ?_⟩
  · intro entries hentries
    rw [Value.entries?_map] at hentries
    obtain ⟨original, horiginal, rfl⟩ := Option.map_eq_some_iff.1 hentries
    rw [Table.keys_map]
    exact hkeyed original horiginal
  · calc (linked.map place).map (nameOf? names')
        = linked.map (nameOf? names' ∘ place) := Value.map_map ..
      _ = linked.map (Option.map rename ∘ nameOf? names) := by rw [hplace]
      _ = (linked.map (nameOf? names)).map (Option.map rename) := (Value.map_map ..).symm
      _ = (value.loaded.map some).map (Option.map rename) := by rw [hlinked]
      _ = value.loaded.map (some ∘ rename) := Value.map_map ..
      _ = (value.loaded.map rename).map some := (Value.map_map ..).symm
      _ = (value.map rename).loaded.map some := by rw [Value.loaded_map]

namespace Reshaped

variable {extra : List (String × ValueSpec)} {model other : Model}

section Names

variable (h : Reshaped rename extra model other)

include h

theorem mem_entries {entry : String × ValueSpec} : entry ∈ other.values.entries ↔
    (∃ name value, (name, value) ∈ model.values.entries ∧
      entry = (rename name, value.map rename)) ∨ entry ∈ extra := by
  rw [h.values.mem_iff, List.mem_append, List.mem_map]
  exact or_congr_left ⟨fun ⟨⟨name, value⟩, hmem, heq⟩ => ⟨name, value, hmem, heq.symm⟩,
    fun ⟨name, value, hmem, heq⟩ => ⟨(name, value), hmem, heq.symm⟩⟩

theorem rename_mem {name : String} (hname : name ∈ model.values.keys) :
    rename name ∈ other.values.keys := by
  obtain ⟨⟨_, value⟩, hmem, rfl⟩ := List.mem_map.1 hname
  exact List.mem_map.2 ⟨_, h.mem_entries.2 (.inl ⟨_, value, hmem, rfl⟩), rfl⟩

/-- Different values have different names again, as they do in every model. -/
theorem rename_inj : ∀ first ∈ model.values.keys, ∀ second ∈ model.values.keys,
    rename first = rename second → first = second := by
  have hnodup := (h.values.map Prod.fst).nodup_iff.1 other.values.keys_nodup
  rw [List.map_append, List.map_map] at hnodup
  have hrenamed : (model.values.keys.map rename).Nodup := by
    rw [Table.keys, List.map_map]
    exact hnodup.of_append_left
  exact (List.nodup_map_iff_inj_on model.values.keys_nodup).1 hrenamed

theorem exists_place : ∃ place : ValueId → ValueId, Function.Injective place ∧
    nameOf? other.values.keys ∘ place = Option.map rename ∘ nameOf? model.values.keys := by
  have hsubset : ∀ name ∈ model.values.keys, rename name ∈ other.values.keys :=
    fun _ => h.rename_mem
  exact ⟨_, place_injective hsubset model.values.keys_nodup h.rename_inj,
    funext (nameOf?_place hsubset)⟩

theorem realm_embeds {place : ValueId → ValueId} (hinjective : Function.Injective place)
    (hplace : nameOf? other.values.keys ∘ place = Option.map rename ∘ nameOf? model.values.keys)
    {linked linked' : LinkedModel} (hlinks : LinksTo model linked)
    (hlinks' : LinksTo other linked') : linked.realm.Embeds place linked'.realm := by
  refine ⟨hinjective, fun id => ?_⟩
  have hname : nameOf? other.values.keys (place id) = (nameOf? model.values.keys id).map rename :=
    congrFun hplace id
  cases hvalue : linked.realm.get? id with
  | none =>
      rw [hlinks.get?_eq_none_iff] at hvalue
      rw [hvalue] at hname
      exact hlinks'.get?_eq_none_iff.2 hname
  | some value =>
      obtain ⟨name, written, hmem, hat, hvalue⟩ := hlinks.get?_eq_some_iff.1 hvalue
      rw [hat] at hname
      exact hlinks'.get?_eq_some_iff.2 ⟨rename name, written.map rename,
        h.mem_entries.2 (.inl ⟨name, written, hmem, rfl⟩), hname,
        linkValue_map hplace model.values.keys_nodup other.values.keys_nodup hvalue⟩

/-- A reshaped model can be linked, and what comes of it embeds what came of the model
before. -/
theorem exists_embeds {linked : LinkedModel} (hlink : model.link = .ok linked) :
    ∃ place linked', other.link = .ok linked' ∧ linked.Embeds place linked' := by
  obtain ⟨place, hinjective, hplace⟩ := h.exists_place
  have hlinks := linksTo_of_link hlink
  have hvalues : ∀ entry ∈ other.values.entries,
      ∃ value, linkValue other.values.keys entry.1 entry.2 = .ok value := by
    intro entry hentry
    rcases h.mem_entries.1 hentry with ⟨name, value, hmem, rfl⟩ | hextra
    · obtain ⟨image, hvalue⟩ := hlinks.exists_value hmem
      exact ⟨_, linkValue_map hplace model.values.keys_nodup other.values.keys_nodup hvalue⟩
    · exact h.loadable entry hextra
  -- An id leads to the same name either way: by its own name and the renaming, or by its place.
  have hscopes : ((linked.scopes.map fun _ => place).map fun _ => nameOf? other.values.keys) =
      other.scopes.map fun _ => some := by
    rw [Table.map_map, hplace, ← Table.map_map, hlinks.scopes, Table.map_map, h.scopes,
      Table.map_map]
    rfl
  have hclasses : (linked.classes.map place).map (nameOf? other.values.keys) =
      other.classes.map some := by
    rw [List.map_map, hplace, ← List.map_map, hlinks.classes, List.map_map, h.classes,
      List.map_map]
    rfl
  obtain ⟨linked', hlink', hscopes', hclasses'⟩ := exists_link hvalues hscopes hclasses
  have hlinks' := linksTo_of_link hlink'
  have hrealm := h.realm_embeds hinjective hplace hlinks hlinks'
  exact ⟨place, linked', hlink', hrealm, hscopes', hclasses',
    by rw [hlinks'.relations, hlinks.relations, h.relations],
    by rw [hlinks'.notes, hlinks.notes, h.notes]⟩

end Names

end Reshaped

end Model

/-! ## Drawing -/

/-- The session that the other model states mirrors the one that this model states. -/
theorem LinkedModel.Embeds.exists_session {place : ValueId → ValueId} {linked other : LinkedModel}
    (h : linked.Embeds place other) {session : Session linked.realm}
    (hsession : linked.session = .ok session) (last : Scope.Resolver) :
    ∃ image, other.session = .ok image ∧ Session.Mirrors place last session image := by
  rw [LinkedModel.session] at hsession ⊢
  revert hsession
  cases hroots : Session.withRoots linked.classes linked.scopes.entries with
  | error error => exact fun hsession => by cases hsession
  | ok registered =>
      intro hsession
      obtain ⟨image, himage, hmirrors⟩ := Session.mirrors_withRoots h.realm last hroots
      have hrelated := hmirrors.addRelations linked.relations
      have himage' : Session.withRoots other.classes other.scopes.entries = .ok image := by
        rw [h.classes, h.scopes]
        exact himage
      cases hsession
      rw [himage', h.relations, h.notes]
      refine ⟨_, rfl, ?_⟩
      by_cases hnotes : linked.notes = true
      · rw [if_pos hnotes, if_pos hnotes]
        exact hrelated
      · rw [if_neg hnotes, if_neg hnotes]
        exact hrelated.setNotes false

namespace Model

/-- The diagram of a model: it is linked, and the session that it states is rendered. -/
def drawn (model : Model) : Except Error String := do
  let linked ← model.link
  let session ← linked.session
  session.render.1

theorem drawn_eq_ok_iff {model : Model} {text : String} : model.drawn = .ok text ↔
    ∃ linked session, model.link = .ok linked ∧ linked.session = .ok session ∧
      session.render.1 = .ok text := by
  simp only [drawn, bind_eq_ok_iff]
  exact ⟨fun ⟨linked, hlink, session, hsession, h⟩ => ⟨linked, session, hlink, hsession, h⟩,
    fun ⟨linked, session, hlink, hsession, h⟩ => ⟨linked, hlink, session, hsession, h⟩⟩

/-- If a model can be drawn, so can it be however it is reshaped, and the diagram is the
same. -/
theorem drawn_of_reshaped {rename : String → String} {extra : List (String × ValueSpec)}
    {model other : Model} (h : Reshaped rename extra model other) {text : String}
    (hdrawn : model.drawn = .ok text) : other.drawn = .ok text := by
  obtain ⟨linked, session, hlink, hsession, hrender⟩ := drawn_eq_ok_iff.1 hdrawn
  obtain ⟨place, linked', hlink', hembeds⟩ := h.exists_embeds hlink
  obtain ⟨image, himage, hmirrors⟩ :=
    hembeds.exists_session hsession session.render.2.resolver
  have hmirrored := Session.mirrored_render hembeds.realm hmirrors.cleared (.refl _)
  refine drawn_eq_ok_iff.2 ⟨linked', image, hlink', himage, ?_⟩
  rw [hmirrored.outcome, hrender]
  rfl

/-- A class that a scope leads to, the class that it extends, and the scope. -/
def household : Model where
  values := ⟨[("Root", .classDef {}), ("Base", .classDef { parent := some "Root" }),
    ("app", .object ⟨[("Base", "Base")], by decide⟩)], by decide⟩
  scopes := ⟨[("App", "app")], by decide⟩
  classes := ["Base"]

/-- An object that refers to itself and to a class of the household. -/
def lodger : String × ValueSpec :=
  ("lodger", .object ⟨[("self", "lodger"), ("landlord", "new Root")], by decide⟩)

/-- The household with other names, from back to front, behind a lodger. -/
def newHousehold : Model where
  values := ⟨[lodger, ("new app", .object ⟨[("Base", "new Base")], by decide⟩),
    ("new Base", .classDef { parent := some "new Root" }), ("new Root", .classDef {})], by decide⟩
  scopes := ⟨[("App", "new app")], by decide⟩
  classes := ["new Base"]

theorem drawn_of_reshaped_newHousehold :
    let text := "class Anonymous1 \x7b\n\x7d\n\nclass App.Base extends Anonymous1 \x7b\n\x7d\n\n"
    Reshaped ("new " ++ ·) [lodger] household newHousehold ∧ household.drawn = .ok text ∧
      newHousehold.drawn = .ok text := by
  intro text
  have hloadable : ∀ entry ∈ [lodger],
      ∃ linked, linkValue newHousehold.values.keys entry.1 entry.2 = .ok linked := by
    intro entry hentry
    cases List.mem_singleton.1 hentry
    exact ⟨.object ⟨[("self", ⟨0⟩), ("landlord", ⟨3⟩)], by decide⟩, by decide +kernel⟩
  have hvalues : newHousehold.values.entries =
      ((household.values.entries.map fun entry => ("new " ++ entry.1, entry.2.map ("new " ++ ·))) ++
        [lodger]).reverse := rfl
  have hreshaped : Reshaped ("new " ++ ·) [lodger] household newHousehold :=
    ⟨hvalues ▸ List.reverse_perm _, hloadable, by decide +kernel, by decide +kernel, rfl, rfl⟩
  have hdrawn : household.drawn = .ok text := by decide +kernel
  exact ⟨hreshaped, hdrawn, drawn_of_reshaped hreshaped hdrawn⟩

end Model

end ClassDiagram
