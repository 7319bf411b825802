import ClassDiagram.Model.Link
import ClassDiagram.Proofs.Naming
import Mathlib.Data.List.Forall2
import Mathlib.Data.List.Nodup

/-!
# Linking undone

Linking puts ids in the place of names and changes nothing else. So what comes of it
is known by putting the names back: a value has been linked exactly if it is the
written value again, with what a realm keeps of it (`loaded`), as soon as each of its
ids gives way to the name at that position, and if the keys of its entries are segments
(`linkValue_eq_ok_iff`).

The comparison is made with the names that `nameOf?` finds. It finds none for an id
beyond the names, so to be equal also means that all ids are in range.

What is linked does not depend on who refers to it: the owner of a reference only
occurs in errors. And the order of the values matters for nothing but the ids, since
the value at an id is what has become of the value of the name at that id
(`get?_eq_some_iff`).
-/

namespace ClassDiagram

namespace Table

variable {κ α β ε : Type} {f : κ → α → Except ε β}

theorem traverseEntries_eq_ok_iff : ∀ {entries : List (κ × α)} {out : List (κ × β)},
    (traverseEntries f entries).map Subtype.val = .ok out ↔
      List.Forall₂ (fun entry image => image.1 = entry.1 ∧ f entry.1 entry.2 = .ok image.2)
        entries out := by
  intro entries
  induction entries with
  | nil =>
      intro out
      rw [List.forall₂_nil_left_iff, traverseEntries]
      exact ⟨fun h => by cases h; rfl, fun h => by rw [h]; rfl⟩
  | cons entry rest ih =>
      obtain ⟨key, value⟩ := entry
      intro out
      rw [List.forall₂_cons_left_iff, traverseEntries]
      constructor
      · intro h
        revert h
        cases hvalue : f key value with
        | error error => exact fun h => by cases h
        | ok image =>
            dsimp only
            have hrest := @ih
            revert hrest
            rcases traverseEntries f rest with error | ⟨images, hkeys⟩
            · exact fun _ h => by cases h
            · intro hrest h
              cases h
              exact ⟨(key, image), images, ⟨rfl, rfl⟩, hrest.1 rfl, rfl⟩
      · intro h
        obtain ⟨⟨_, image⟩, images, ⟨rfl, hvalue⟩, himages, rfl⟩ := h
        dsimp only at hvalue ⊢
        rw [hvalue]
        have hrest := ih.2 himages
        revert hrest
        rcases traverseEntries f rest with error | ⟨found, hkeys⟩
        · exact fun hrest => by cases hrest
        · intro hrest
          cases hrest
          rfl

/-- A table is traversed to another one exactly if that has the same keys in the same
order, and the images behind them. -/
theorem traverse_eq_ok_iff {t : Table κ α} {u : Table κ β} : t.traverse f = .ok u ↔
    List.Forall₂ (fun entry image => image.1 = entry.1 ∧ f entry.1 entry.2 = .ok image.2)
      t.entries u.entries := by
  rw [← traverseEntries_eq_ok_iff, traverse]
  rcases traverseEntries f t.entries with error | ⟨out, hkeys⟩
  · exact iff_of_false (fun h => by cases h) fun h => by cases h
  · exact ⟨fun h => by cases h; rfl, fun h => congrArg Except.ok (ext_entries (Except.ok.inj h))⟩

theorem exists_traverse {t : Table κ α}
    (h : ∀ entry ∈ t.entries, ∃ image, f entry.1 entry.2 = .ok image) :
    ∃ u, t.traverse f = .ok u := by
  have hentries : ∀ entries : List (κ × α),
      (∀ entry ∈ entries, ∃ image, f entry.1 entry.2 = .ok image) →
        ∃ out, traverseEntries f entries = .ok out := by
    intro entries
    induction entries with
    | nil => exact fun _ => ⟨_, rfl⟩
    | cons entry rest ih =>
        intro h
        obtain ⟨image, hvalue⟩ := h entry List.mem_cons_self
        obtain ⟨images, hrest⟩ := ih fun other hother => h other (List.mem_cons_of_mem _ hother)
        rw [traverseEntries, hvalue]
        dsimp only
        rw [hrest]
        exact ⟨_, rfl⟩
  obtain ⟨out, hout⟩ := hentries t.entries h
  rw [traverse, hout]
  exact ⟨_, rfl⟩

theorem map_eq_map_iff {γ : Type} {t : Table κ α} {u : Table κ β} {g : α → γ} {h : β → γ} :
    ((t.map fun _ => g) = u.map fun _ => h) ↔
      List.Forall₂ (fun entry other => (entry.1, g entry.2) = (other.1, h other.2))
        t.entries u.entries := by
  have hlists := congrFun₂ List.forall₂_eq_eq_eq
    (t.map fun _ => g).entries (u.map fun _ => h).entries
  rw [map, map, List.forall₂_map_left_iff, List.forall₂_map_right_iff] at hlists
  exact ⟨fun heq => hlists.mpr (congrArg entries heq), fun hall => ext_entries (hlists.mp hall)⟩

end Table

/-! ## What is loaded -/

/-- The class with the properties for which the entries of its prototype are written. -/
def ClassDef.loaded {ρ : Type} (definition : ClassDef ρ PropertySpec) : ClassDef ρ where
  parent := definition.parent
  implements := definition.implements
  prototype := definition.prototype.map fun _ => PropertySpec.toProperty
  surface := definition.surface
  statics := definition.statics

namespace Value

/-- The value as a realm keeps it, with the references as they are. -/
def loaded {ρ : Type} : Value ρ PropertySpec Json → Value ρ
  | object entries => object entries
  | function source entries => function source entries
  | classDef definition => classDef definition.loaded
  | interfaceDef requirements => interfaceDef requirements
  | scalar value => scalar value.literal

theorem loaded_map {ρ σ : Type} (f : ρ → σ) (value : Value ρ PropertySpec Json) :
    (value.map f).loaded = value.loaded.map f := by
  cases value <;> rfl

section Keyed

variable {ρ π τ : Type}

/-- The keys of the entries are segments. -/
def Keyed (value : Value ρ π τ) : Prop :=
  ∀ entries, value.entries? = some entries → ∀ key ∈ entries.keys, IsSegment key

theorem keyed_iff {value : Value ρ π τ} {entries : Table String ρ}
    (h : value.entries? = some entries) :
    value.Keyed ↔ ∀ key ∈ entries.keys, IsSegment key := by
  rw [Keyed, h]
  exact ⟨fun hkeyed => hkeyed entries rfl, fun hkeys _ heq => Option.some.inj heq ▸ hkeys⟩

theorem keyed_loaded {value : Value ρ PropertySpec Json} : value.loaded.Keyed ↔ value.Keyed := by
  cases value <;> rfl

end Keyed

end Value

theorem bind_eq_ok_iff {α β ε : Type} {result : Except ε α} {f : α → Except ε β} {image : β} :
    (result >>= f) = .ok image ↔ ∃ value, result = .ok value ∧ f value = .ok image := by
  cases result with
  | error error => exact iff_of_false (fun h => by cases h) fun h => by obtain ⟨_, ⟨⟩, _⟩ := h
  | ok value => exact ⟨fun h => ⟨value, rfl, h⟩, fun h => by obtain ⟨_, ⟨⟩, h⟩ := h; exact h⟩

theorem map_eq_ok_iff {α β ε : Type} {result : Except ε α} {f : α → β} {image : β} :
    result.map f = .ok image ↔ ∃ value, result = .ok value ∧ f value = image := by
  cases result with
  | error error => exact iff_of_false (fun h => by cases h) fun h => by obtain ⟨_, ⟨⟩, _⟩ := h
  | ok value =>
      exact ⟨fun h => ⟨value, rfl, Except.ok.inj h⟩, fun h => by obtain ⟨_, ⟨⟩, rfl⟩ := h; rfl⟩

namespace Model

/-- The name of the value with the id. -/
def nameOf? (names : List String) (id : ValueId) : Option String := names[id.index]?

variable {names : List String} {owner name : String} {mention : Mention} {id : ValueId}

section Links

variable (hnames : names.Nodup)

include hnames

theorem idOf?_eq_some_iff : idOf? names name = some id ↔ nameOf? names id = some name := by
  obtain ⟨index⟩ := id
  rw [idOf?, nameOf?, Option.map_eq_some_iff, List.getElem?_eq_some_iff]
  constructor
  · intro h
    obtain ⟨_, hindex, hid⟩ := h
    cases hid
    obtain ⟨hlt, hget, _⟩ := List.idxOf?_eq_some_iff.1 hindex
    exact ⟨hlt, hget⟩
  · intro h
    obtain ⟨hlt, hget⟩ := h
    refine ⟨index, List.idxOf?_eq_some_iff.2 ⟨hlt, hget, fun other hother heq => ?_⟩, rfl⟩
    exact Nat.ne_of_lt hother ((hnames.getElem_inj_iff).1 (heq.trans hget.symm))

theorem linkName_eq_ok_iff :
    linkName names mention name = .ok id ↔ nameOf? names id = some name := by
  rw [← idOf?_eq_some_iff hnames, linkName]
  cases idOf? names name with
  | none => exact iff_of_false (fun h => by cases h) fun h => by cases h
  | some found => rw [Except.ok.injEq, Option.some.injEq]

theorem linkNames_eq_ok_iff : ∀ {list : List String} {ids : List ValueId},
    linkNames names mention list = .ok ids ↔ ids.map (nameOf? names) = list.map some := by
  intro list
  induction list with
  | nil =>
      intro ids
      rw [linkNames, List.map_nil, List.map_eq_nil_iff]
      exact ⟨fun h => by cases h; rfl, fun h => by rw [h]⟩
  | cons name list ih =>
      intro ids
      rw [linkNames, List.map_cons]
      constructor
      · intro h
        revert h
        cases hname : linkName names mention name with
        | error error => exact fun h => by cases h
        | ok id =>
            cases hlist : linkNames names mention list with
            | error error => exact fun h => by cases h
            | ok rest =>
                intro h
                cases h
                rw [List.map_cons, (linkName_eq_ok_iff hnames).1 hname, ih.1 hlist]
      · intro h
        obtain ⟨id, rest, rfl, hid, hrest⟩ := List.map_eq_cons_iff.1 h
        rw [(linkName_eq_ok_iff hnames).2 hid, ih.2 hrest]
        rfl

theorem linkEntries_eq_ok_iff {entries : Table String String} {linked : Table String ValueId} :
    linkEntries names owner entries = .ok linked ↔ (∀ key ∈ entries.keys, IsSegment key) ∧
      (linked.map fun _ => nameOf? names) = entries.map fun _ => some := by
  have hforall : linkEntries names owner entries = .ok linked ↔
      List.Forall₂ (fun entry image => IsSegment entry.1 ∧
        (entry.1, some entry.2) = (image.1, nameOf? names image.2))
        entries.entries linked.entries := by
    rw [linkEntries, Table.traverse_eq_ok_iff]
    constructor
    · refine List.Forall₂.imp fun entry image himage => ?_
      obtain ⟨hkey, hvalue⟩ := himage
      revert hvalue
      cases hproblem : SegmentProblem.find? entry.1 with
      | some problem => exact fun hvalue => by cases hvalue
      | none =>
          intro hvalue
          rw [hkey, (linkName_eq_ok_iff hnames).1 hvalue]
          exact ⟨SegmentProblem.find?_eq_none_iff.1 hproblem, rfl⟩
    · refine List.Forall₂.imp fun entry image himage => ?_
      obtain ⟨hsegment, hentry⟩ := himage
      obtain ⟨hkey, hname⟩ := Prod.mk.inj hentry
      rw [SegmentProblem.find?_eq_none_iff.2 hsegment]
      exact ⟨hkey.symm, (linkName_eq_ok_iff hnames).2 hname.symm⟩
  rw [hforall, List.forall₂_and_left, ← Table.map_eq_map_iff, Table.keys, List.forall_mem_map]
  exact and_congr Iff.rfl eq_comm

theorem linkParent_eq_ok_iff {parent : Option String} {linked : Option ValueId} :
    linkParent names owner parent = .ok linked ↔
      linked.map (nameOf? names) = parent.map some := by
  cases parent with
  | none =>
      rw [linkParent, Option.map_none, Option.map_eq_none_iff]
      exact ⟨fun h => by cases h; rfl, fun h => by rw [h]⟩
  | some parent =>
      rw [linkParent, map_eq_ok_iff, Option.map_some, Option.map_eq_some_iff]
      simp only [linkName_eq_ok_iff hnames]
      exact ⟨fun ⟨id, hid, heq⟩ => ⟨id, heq.symm, hid⟩, fun ⟨id, heq, hid⟩ => ⟨id, hid, heq.symm⟩⟩

theorem linkClass_eq_ok_iff {definition : ClassSpec} {linked : ClassDef ValueId} :
    linkClass names owner definition = .ok linked ↔
      (∀ key ∈ definition.statics.keys, IsSegment key) ∧
        linked.map (nameOf? names) = definition.loaded.map some := by
  constructor
  · intro h
    rw [linkClass, bind_eq_ok_iff] at h
    obtain ⟨parent, hparent, h⟩ := h
    obtain ⟨interfaces, hinterfaces, h⟩ := bind_eq_ok_iff.1 h
    obtain ⟨statics, hstatics, h⟩ := bind_eq_ok_iff.1 h
    cases h
    obtain ⟨hkeys, hentries⟩ := (linkEntries_eq_ok_iff hnames).1 hstatics
    refine ⟨hkeys, ?_⟩
    simp only [ClassDef.map, ClassDef.loaded]
    rw [(linkParent_eq_ok_iff hnames).1 hparent, (linkNames_eq_ok_iff hnames).1 hinterfaces,
      hentries]
  · intro h
    obtain ⟨hkeys, hfields⟩ := h
    obtain ⟨parent, interfaces, prototype, surface, statics⟩ := linked
    simp only [ClassDef.map, ClassDef.loaded, ClassDef.mk.injEq] at hfields
    obtain ⟨hparent, hinterfaces, rfl, rfl, hstatics⟩ := hfields
    rw [linkClass, (linkParent_eq_ok_iff hnames).2 hparent,
      (linkNames_eq_ok_iff hnames).2 hinterfaces,
      (linkEntries_eq_ok_iff hnames).2 ⟨hkeys, hstatics⟩]
    rfl

/-- A value has been linked if it is the same again with the names put back. -/
theorem linkValue_eq_ok_iff {value : ValueSpec} {linked : Value ValueId} :
    linkValue names owner value = .ok linked ↔
      value.Keyed ∧ linked.map (nameOf? names) = value.loaded.map some := by
  cases value with
  | object entries =>
      rw [linkValue, map_eq_ok_iff, Value.keyed_iff rfl]
      constructor
      · intro h
        obtain ⟨table, htable, rfl⟩ := h
        obtain ⟨hkeys, hentries⟩ := (linkEntries_eq_ok_iff hnames).1 htable
        exact ⟨hkeys, congrArg Value.object hentries⟩
      · intro h
        obtain ⟨hkeys, hvalue⟩ := h
        cases linked with
        | object table =>
            exact ⟨table, (linkEntries_eq_ok_iff hnames).2 ⟨hkeys, Value.object.inj hvalue⟩, rfl⟩
        | function _ _ | classDef _ | interfaceDef _ | scalar _ => cases hvalue
  | function source entries =>
      rw [linkValue, map_eq_ok_iff, Value.keyed_iff rfl]
      constructor
      · intro h
        obtain ⟨table, htable, rfl⟩ := h
        obtain ⟨hkeys, hentries⟩ := (linkEntries_eq_ok_iff hnames).1 htable
        exact ⟨hkeys, congrArg (Value.function source) hentries⟩
      · intro h
        obtain ⟨hkeys, hvalue⟩ := h
        cases linked with
        | function source' table =>
            obtain ⟨rfl, hentries⟩ := Value.function.inj hvalue
            exact ⟨table, (linkEntries_eq_ok_iff hnames).2 ⟨hkeys, hentries⟩, rfl⟩
        | object _ | classDef _ | interfaceDef _ | scalar _ => cases hvalue
  | classDef definition =>
      rw [linkValue, map_eq_ok_iff, Value.keyed_iff rfl]
      constructor
      · intro h
        obtain ⟨found, hfound, rfl⟩ := h
        obtain ⟨hkeys, hfields⟩ := (linkClass_eq_ok_iff hnames).1 hfound
        exact ⟨hkeys, congrArg Value.classDef hfields⟩
      · intro h
        obtain ⟨hkeys, hvalue⟩ := h
        cases linked with
        | classDef found =>
            exact ⟨found, (linkClass_eq_ok_iff hnames).2 ⟨hkeys, Value.classDef.inj hvalue⟩, rfl⟩
        | object _ | function _ _ | interfaceDef _ | scalar _ => cases hvalue
  | interfaceDef requirements =>
      have hkeyed : (Value.interfaceDef requirements : ValueSpec).Keyed := fun _ h => by cases h
      rw [linkValue, Except.ok.injEq]
      constructor
      · rintro rfl
        exact ⟨hkeyed, rfl⟩
      · intro h
        cases linked with
        | interfaceDef found => exact congrArg Value.interfaceDef (Value.interfaceDef.inj h.2).symm
        | object _ | function _ _ | classDef _ | scalar _ => cases h.2
  | scalar value =>
      have hkeyed : (Value.scalar value : ValueSpec).Keyed := fun _ h => by cases h
      rw [linkValue, Except.ok.injEq]
      constructor
      · rintro rfl
        exact ⟨hkeyed, rfl⟩
      · intro h
        cases linked with
        | scalar found => exact congrArg Value.scalar (Value.scalar.inj h.2).symm
        | object _ | function _ _ | classDef _ | interfaceDef _ => cases h.2

end Links

/-! ## Models -/

/-- The linked model states what the model states, by id. -/
structure LinksTo (model : Model) (linked : LinkedModel) : Prop where
  names : linked.names = model.values.keys
  values : List.Forall₂
    (fun entry value => linkValue model.values.keys entry.1 entry.2 = .ok value)
    model.values.entries linked.realm.values.toList
  scopes : (linked.scopes.map fun _ => nameOf? model.values.keys) =
    model.scopes.map fun _ => some
  classes : linked.classes.map (nameOf? model.values.keys) = model.classes.map some
  relations : linked.relations = model.relations
  notes : linked.notes = model.notes

variable {model : Model} {linked : LinkedModel}

theorem linkScopes_eq_ok_iff (hnames : names.Nodup) {scopes : Table String String}
    {found : Table String ValueId} :
    (scopes.traverse fun scope target => linkName names (.scope scope) target) = .ok found ↔
      (found.map fun _ => nameOf? names) = scopes.map fun _ => some := by
  rw [Table.traverse_eq_ok_iff, eq_comm, Table.map_eq_map_iff]
  simp only [linkName_eq_ok_iff hnames, Prod.mk.injEq, eq_comm]

/-- A model with values that can be linked, and with ids for what it refers to
besides, can be linked to these. -/
theorem exists_link {scopes : Table String ValueId} {classes : List ValueId}
    (hvalues : ∀ entry ∈ model.values.entries,
      ∃ value, linkValue model.values.keys entry.1 entry.2 = .ok value)
    (hscopes : (scopes.map fun _ => nameOf? model.values.keys) = model.scopes.map fun _ => some)
    (hclasses : classes.map (nameOf? model.values.keys) = model.classes.map some) :
    ∃ linked, model.link = .ok linked ∧ linked.scopes = scopes ∧ linked.classes = classes := by
  have hnames : model.values.keys.Nodup := model.values.keys_nodup
  obtain ⟨values, hlinked⟩ := Table.exists_traverse hvalues
  rw [link, hlinked, (linkScopes_eq_ok_iff hnames).2 hscopes,
    (linkNames_eq_ok_iff hnames).2 hclasses]
  exact ⟨_, rfl, rfl, rfl⟩

theorem linksTo_of_link (h : model.link = .ok linked) : LinksTo model linked := by
  have hnames : model.values.keys.Nodup := model.values.keys_nodup
  rw [link, bind_eq_ok_iff] at h
  obtain ⟨values, hvalues, h⟩ := h
  obtain ⟨scopes, hscopes, h⟩ := bind_eq_ok_iff.1 h
  obtain ⟨classes, hclasses, h⟩ := bind_eq_ok_iff.1 h
  cases h
  refine ⟨rfl, ?_, (linkScopes_eq_ok_iff hnames).1 hscopes,
    (linkNames_eq_ok_iff hnames).1 hclasses, rfl, rfl⟩
  show List.Forall₂ _ _ (values.entries.map Prod.snd)
  rw [List.forall₂_map_right_iff]
  exact (Table.traverse_eq_ok_iff.1 hvalues).imp fun _ _ himage => himage.2

namespace LinksTo

variable (h : LinksTo model linked)

include h

theorem exists_value {written : ValueSpec} (hmem : (name, written) ∈ model.values.entries) :
    ∃ value, linkValue model.values.keys name written = .ok value := by
  obtain ⟨index, hlt, hentry⟩ := List.getElem_of_mem hmem
  obtain ⟨hlength, hvalues⟩ := List.forall₂_iff_get.1 h.values
  have hvalue := hvalues index hlt (hlength ▸ hlt)
  rw [List.get_eq_getElem, hentry] at hvalue
  exact ⟨_, hvalue⟩

/-- The value at an id is what has become of the value of the name at that id. -/
theorem get?_eq_some_iff {value : Value ValueId} : linked.realm.get? id = some value ↔
    ∃ name written, (name, written) ∈ model.values.entries ∧
      nameOf? model.values.keys id = some name ∧
      linkValue model.values.keys name written = .ok value := by
  obtain ⟨hlength, hvalues⟩ := List.forall₂_iff_get.1 h.values
  have hget : linked.realm.get? id = linked.realm.values.toList[id.index]? := by
    rw [Realm.get?, Array.getElem?_toList]
  have hname : nameOf? model.values.keys id = (model.values.entries[id.index]?).map Prod.fst := by
    rw [nameOf?, Table.keys, List.getElem?_map]
  rw [hget, hname]
  constructor
  · intro hvalue
    obtain ⟨hlt, rfl⟩ := List.getElem?_eq_some_iff.1 hvalue
    have hlt' := hlength ▸ hlt
    rw [List.getElem?_eq_getElem hlt']
    exact ⟨_, _, List.getElem_mem hlt', rfl, hvalues id.index hlt' hlt⟩
  · intro hvalue
    obtain ⟨name, written, hmem, hat, hlinked⟩ := hvalue
    obtain ⟨⟨_, other⟩, hentry, rfl⟩ := Option.map_eq_some_iff.1 hat
    obtain ⟨hlt, hentry⟩ := List.getElem?_eq_some_iff.1 hentry
    have hlt' := hlength ▸ hlt
    have hother : (_, other) ∈ model.values.entries := hentry ▸ List.getElem_mem hlt
    have hthere := hvalues id.index hlt hlt'
    rw [List.get_eq_getElem, List.get_eq_getElem, hentry,
      Table.eq_of_mem_entries hother hmem, hlinked] at hthere
    rw [List.getElem?_eq_getElem hlt', Except.ok.inj hthere]

theorem get?_eq_none_iff :
    linked.realm.get? id = none ↔ nameOf? model.values.keys id = none := by
  have hlength := h.values.length_eq
  rw [Realm.get?, nameOf?, Table.keys, List.getElem?_eq_none_iff, List.length_map,
    Array.getElem?_eq_none_iff, hlength, Array.length_toList]

end LinksTo

end Model

end ClassDiagram
