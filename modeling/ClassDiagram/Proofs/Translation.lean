import ClassDiagram.Proofs.Embedding
import ClassDiagram.Proofs.Sound

/-!
# A linked model says what the written one says

The ids of a model are fixed before there is any value: the id of a name is its
position among the names. The values come later, one for each name. So a reference
may lead forward, backward or to the value that it stands in, and is right only if
the values turn out to stand where their names do. `Translates` says that they do, and
that each of them has become of the value that is written under the name
(`ValueSpec.Becomes`): its references are replaced, what is written for a property or a
scalar gives way to what a realm keeps of it, and all else is as it was.

Linking makes a sound translation and can make every one (`link_eq_ok_iff`). What
`linkValue_eq_ok_iff` says of a value with its names put back is turned round for that:
looking up ids and looking up names undo each other, so it makes no difference on
which side the look-up stands (`map_some_eq_of`). No id is out of range, because each
one has been found for a name, and there are as many values as names.
-/

namespace ClassDiagram

/-! ## The same value with other references -/

theorem Table.map_congr {κ α β : Type} {f g : α → β} {t : Table κ α}
    (h : ∀ value ∈ t.values, f value = g value) : (t.map fun _ => f) = t.map fun _ => g := by
  refine ext_entries (List.map_congr_left fun entry hentry => ?_)
  exact congrArg (Prod.mk entry.1) (h entry.2 (List.mem_map_of_mem hentry))

namespace Value

variable {ρ σ : Type}

theorem references_map (f : ρ → σ) (value : Value ρ) :
    (value.map f).references = value.references.map f := by
  cases value with
  | object entries | function _ entries => exact Table.values_map f entries
  | classDef definition =>
      simp [map, references, ClassDef.map, Table.values_map, Option.toList_map]
  | interfaceDef _ | scalar _ => rfl

theorem keyed_map {f : ρ → σ} {value : Value ρ} : (value.map f).Keyed ↔ value.Keyed := by
  rw [Keyed, Keyed, entries?_map]
  cases value.entries? with
  | none => simp
  | some entries => simp

/-- What a value is mapped to depends on its references only. -/
theorem map_congr {f g : ρ → σ} {value : Value ρ} (h : ∀ id ∈ value.references, f id = g id) :
    value.map f = value.map g := by
  cases value with
  | object entries => exact congrArg object (Table.map_congr h)
  | function source entries => exact congrArg (function source) (Table.map_congr h)
  | classDef definition =>
      have hparent : definition.parent.map f = definition.parent.map g :=
        Option.map_congr fun id hid =>
          h id (List.mem_append_left _ (Option.mem_toList.2 hid))
      have hinterfaces : definition.implements.map f = definition.implements.map g :=
        List.map_congr_left fun id hid =>
          h id (List.mem_append_right _ (List.mem_append_left _ hid))
      have hstatics : (definition.statics.map fun _ => f) = definition.statics.map fun _ => g :=
        Table.map_congr fun id hid =>
          h id (List.mem_append_right _ (List.mem_append_right _ hid))
      rw [map, map, ClassDef.map, ClassDef.map, hparent, hinterfaces, hstatics]
  | interfaceDef _ | scalar _ => rfl

theorem map_some_injective {value other : Value ValueId} (h : value.map some = other.map some) :
    value = other := by
  have hback := congrArg (map fun id : Option ValueId => id.getD ⟨0⟩) h
  rw [map_map, map_map] at hback
  exact (map_id value).symm.trans (hback.trans (map_id other))

end Value

section LookUps

variable {ρ σ κ : Type} {f : ρ → Option σ} {g : σ → Option ρ}
  (hinverse : ∀ a b, f a = some b → g b = some a)

include hinverse

theorem bind_of_mem_map_some {references : List ρ} {names : List σ}
    (h : references.map f = names.map some) : ∀ a ∈ references, (f a).bind g = some a := by
  intro a ha
  have hmem : f a ∈ names.map some := h ▸ List.mem_map_of_mem ha
  obtain ⟨b, _, hb⟩ := List.mem_map.1 hmem
  rw [← hb, Option.bind_some, hinverse a b hb.symm]

/-- A look-up can be moved to the other side. -/
theorem map_some_eq_of {references : List ρ} {names : List σ}
    (h : references.map f = names.map some) : names.map g = references.map some := by
  have hbind := congrArg (List.map fun name => name.bind g) h
  rw [List.map_map, List.map_map] at hbind
  exact hbind.symm.trans (List.map_congr_left (bind_of_mem_map_some hinverse h))

theorem Table.map_some_eq_of {references : Table κ ρ} {names : Table κ σ}
    (h : (references.map fun _ => f) = names.map fun _ => some) :
    (names.map fun _ => g) = references.map fun _ => some := by
  have hvalues := congrArg Table.values h
  rw [Table.values_map, Table.values_map] at hvalues
  have hbind := congrArg (Table.map fun _ name => name.bind g) h
  rw [Table.map_map f, Table.map_map some] at hbind
  exact hbind.symm.trans (Table.map_congr (bind_of_mem_map_some hinverse hvalues))

theorem Value.map_some_eq_of {value : Value ρ} {written : Value σ}
    (h : value.map f = written.map some) : written.map g = value.map some := by
  have hreferences := congrArg Value.references h
  rw [Value.references_map, Value.references_map] at hreferences
  have hbind := congrArg (Value.map fun name => name.bind g) h
  rw [Value.map_map, Value.map_map] at hbind
  exact hbind.symm.trans (Value.map_congr (bind_of_mem_map_some hinverse hreferences))

end LookUps

/-! ## What becomes of a value -/

/-- Of a field it is kept that there is one, of a callable all that is written. -/
inductive PropertySpec.Becomes : PropertySpec → Property → Prop
  | field (value : Json) : Becomes (.field value) .field
  | callable (definition : Callable) : Becomes (.callable definition) (.callable definition)

/-- A text stands for itself, and every other value is written out without blanks. -/
inductive Json.Becomes : Json → String → Prop
  | text (value : String) : Becomes (.text value) value
  | other {value : Json} (h : ∀ text, value ≠ .text text) :
      Becomes value (compact value.canonical)

/-- The value is what is written, with the ids that are found for the names. -/
inductive ValueSpec.Becomes (idOf? : String → Option ValueId) : ValueSpec → Value ValueId → Prop
  | object {written : Table String String} {entries : Table String ValueId}
      (h : (entries.map fun _ => some) = written.map fun _ => idOf?) :
      Becomes idOf? (.object written) (.object entries)
  | function {source : String} {written : Table String String} {entries : Table String ValueId}
      (h : (entries.map fun _ => some) = written.map fun _ => idOf?) :
      Becomes idOf? (.function source written) (.function source entries)
  | classDef {written : ClassSpec} {definition : ClassDef ValueId}
      (parent : definition.parent.map some = written.parent.map idOf?)
      (implements : definition.implements.map some = written.implements.map idOf?)
      (prototype : List.Forall₂ (fun spec entry => spec.1 = entry.1 ∧ spec.2.Becomes entry.2)
        written.prototype.entries definition.prototype.entries)
      (surface : definition.surface = written.surface)
      (statics : (definition.statics.map fun _ => some) = written.statics.map fun _ => idOf?) :
      Becomes idOf? (.classDef written) (.classDef definition)
  | interfaceDef (requirements : Table String String) :
      Becomes idOf? (.interfaceDef requirements) (.interfaceDef requirements)
  | scalar {written : Json} {literal : String} (h : written.Becomes literal) :
      Becomes idOf? (.scalar written) (.scalar literal)

theorem PropertySpec.becomes_iff {spec : PropertySpec} {property : Property} :
    spec.Becomes property ↔ spec.toProperty = property := by
  constructor
  · rintro (_ | _) <;> rfl
  · rintro rfl
    cases spec with
    | field value => exact .field value
    | callable definition => exact .callable definition

theorem Json.becomes_iff {written : Json} {literal : String} :
    written.Becomes literal ↔ written.literal = literal := by
  constructor
  · intro h
    cases h with
    | text value => rfl
    | other h =>
        cases written with
        | text value => exact absurd rfl (h value)
        | _ => rfl
  · rintro rfl
    cases written with
    | text value => exact .text value
    | _ => exact .other nofun

theorem ClassSpec.forall₂_becomes_iff {written : Table String PropertySpec}
    {prototype : Table String Property} :
    List.Forall₂ (fun spec entry => spec.1 = entry.1 ∧ spec.2.Becomes entry.2)
      written.entries prototype.entries ↔
      prototype = written.map fun _ => PropertySpec.toProperty := by
  rw [← Table.map_id prototype, eq_comm, Table.map_eq_map_iff, Table.map_id]
  simp only [PropertySpec.becomes_iff, Prod.mk.injEq, id]

/-- Ids are put in the place of the names in what a realm keeps of the value. -/
theorem ValueSpec.becomes_iff {idOf? : String → Option ValueId} {written : ValueSpec}
    {value : Value ValueId} :
    written.Becomes idOf? value ↔ value.map some = written.loaded.map idOf? := by
  constructor
  · intro h
    cases h with
    | object h => exact congrArg Value.object h
    | @function source _ _ h => exact congrArg (Value.function source) h
    | @classDef written definition parent implements prototype surface statics =>
        have hprototype := ClassSpec.forall₂_becomes_iff.1 prototype
        simp only [Value.map, Value.loaded, ClassDef.map, ClassDef.loaded, parent, implements,
          hprototype, surface, statics]
    | interfaceDef requirements => rfl
    | scalar h => exact congrArg Value.scalar (Json.becomes_iff.1 h).symm
  · intro h
    cases written with
    | object written =>
        cases value with
        | object entries => exact .object (Value.object.inj h)
        | function _ _ | classDef _ | interfaceDef _ | scalar _ => cases h
    | function source written =>
        cases value with
        | function source' entries =>
            obtain ⟨rfl, hentries⟩ := Value.function.inj h
            exact .function hentries
        | object _ | classDef _ | interfaceDef _ | scalar _ => cases h
    | classDef written =>
        cases value with
        | classDef definition =>
            have hfields := Value.classDef.inj h
            simp only [ClassDef.map, ClassDef.loaded, ClassDef.mk.injEq] at hfields
            obtain ⟨hparent, himplements, hprototype, hsurface, hstatics⟩ := hfields
            exact .classDef hparent himplements (ClassSpec.forall₂_becomes_iff.2 hprototype)
              hsurface hstatics
        | object _ | function _ _ | interfaceDef _ | scalar _ => cases h
    | interfaceDef requirements =>
        cases value with
        | interfaceDef found =>
            cases h
            exact .interfaceDef requirements
        | object _ | function _ _ | classDef _ | scalar _ => cases h
    | scalar written =>
        cases value with
        | scalar literal => exact .scalar (Json.becomes_iff.2 (Value.scalar.inj h).symm)
        | object _ | function _ _ | classDef _ | interfaceDef _ => cases h

namespace ValueSpec.Becomes

variable {idOf? : String → Option ValueId} {written : ValueSpec} {value other : Value ValueId}

theorem keyed_iff (h : written.Becomes idOf? value) : value.Keyed ↔ written.Keyed := by
  rw [← Value.keyed_map, becomes_iff.1 h, Value.keyed_map, Value.keyed_loaded]

theorem unique (h : written.Becomes idOf? value) (hother : written.Becomes idOf? other) :
    value = other :=
  Value.map_some_injective ((becomes_iff.1 h).trans (becomes_iff.1 hother).symm)

end ValueSpec.Becomes

namespace Model

/-- The linked model has a value for each name of the model, at the position of the
name, and states what the model states, each name being replaced by its position. -/
structure Translates (model : Model) (linked : LinkedModel) : Prop where
  names : linked.names = model.values.keys
  idOf? : ∀ name id, linked.idOf? name = some id ↔ model.values.keys[id.index]? = some name
  size : linked.realm.size = model.values.size
  values : ∀ name written, (name, written) ∈ model.values.entries →
    ∃ id value, linked.idOf? name = some id ∧ linked.realm.get? id = some value ∧
      written.Becomes linked.idOf? value
  scopes : (linked.scopes.map fun _ => some) = model.scopes.map fun _ => linked.idOf?
  classes : linked.classes.map some = model.classes.map linked.idOf?
  relations : linked.relations = model.relations
  notes : linked.notes = model.notes

variable {model : Model} {linked other : LinkedModel} {names : List String} {owner : String}

theorem idOf?_eq_of_names (h : linked.names = names) : linked.idOf? = Model.idOf? names :=
  funext fun name => congrArg (Model.idOf? · name) h

theorem linkValue_eq_ok_iff_becomes (hnames : names.Nodup) {written : ValueSpec}
    {value : Value ValueId} : linkValue names owner written = .ok value ↔
      written.Keyed ∧ written.Becomes (idOf? names) value := by
  rw [linkValue_eq_ok_iff hnames, ValueSpec.becomes_iff]
  refine and_congr_right fun _ => ⟨fun h => ?_, fun h => ?_⟩
  · exact (Value.map_some_eq_of (fun id name => (idOf?_eq_some_iff hnames).2) h).symm
  · exact Value.map_some_eq_of (fun name id => (idOf?_eq_some_iff hnames).1) h.symm

theorem translates_of_link (h : model.link = .ok linked) : model.Translates linked := by
  have hnames := model.values.keys_nodup
  have hlinks := linksTo_of_link h
  have hidOf := idOf?_eq_of_names hlinks.names
  have hinverse : ∀ id name, nameOf? model.values.keys id = some name →
      Model.idOf? model.values.keys name = some id := fun _ _ => (idOf?_eq_some_iff hnames).2
  refine ⟨hlinks.names, fun name id => ?_, ?_, fun name written hmem => ?_, ?_, ?_,
    hlinks.relations, hlinks.notes⟩
  · rw [hidOf]
    exact idOf?_eq_some_iff hnames
  · show linked.realm.values.size = model.values.entries.length
    rw [← Array.length_toList, hlinks.values.length_eq]
  · obtain ⟨index, hlt, hentry⟩ := List.getElem_of_mem hmem
    have hname : nameOf? model.values.keys ⟨index⟩ = some name := by
      rw [nameOf?, Table.keys, List.getElem?_map, List.getElem?_eq_getElem hlt, hentry]
      rfl
    obtain ⟨value, hvalue⟩ := hlinks.exists_value hmem
    rw [hidOf]
    exact ⟨⟨index⟩, value, hinverse _ _ hname,
      hlinks.get?_eq_some_iff.2 ⟨name, written, hmem, hname, hvalue⟩,
      ((linkValue_eq_ok_iff_becomes hnames).1 hvalue).2⟩
  · rw [hidOf]
    exact (Table.map_some_eq_of hinverse hlinks.scopes).symm
  · rw [hidOf]
    exact (map_some_eq_of hinverse hlinks.classes).symm

namespace Translates

variable {id : ValueId} {value : Value ValueId}

section Single

variable (h : model.Translates linked)

include h

theorem index_lt_of_idOf? {name : String} (hid : linked.idOf? name = some id) :
    id.index < linked.realm.size := by
  obtain ⟨hlt, _⟩ := List.getElem?_eq_some_iff.1 ((h.idOf? name id).1 hid)
  rw [h.size]
  rwa [Table.keys, List.length_map] at hlt

/-- What has been found for names is in range. -/
theorem index_lt_of_mem {references : List ValueId} {names : List String}
    (hfound : references.map some = names.map linked.idOf?) :
    ∀ id ∈ references, id.index < linked.realm.size := by
  intro id hid
  have hmem : some id ∈ names.map linked.idOf? := hfound ▸ List.mem_map_of_mem hid
  obtain ⟨name, _, hname⟩ := List.mem_map.1 hmem
  exact h.index_lt_of_idOf? hname

/-- Every value of the realm is the translation of a written one. -/
theorem exists_written (hget : linked.realm.get? id = some value) :
    ∃ name written, (name, written) ∈ model.values.entries ∧ linked.idOf? name = some id ∧
      written.Becomes linked.idOf? value := by
  have hlt : id.index < model.values.entries.length := by
    have hrange := Realm.index_lt_size_of_get? hget
    rwa [h.size] at hrange
  have hmem := List.getElem_mem hlt
  have hname : linked.idOf? model.values.entries[id.index].1 = some id := by
    rw [h.idOf?, Table.keys, List.getElem?_map, List.getElem?_eq_getElem hlt]
    rfl
  obtain ⟨found, other, hfound, hother, htranslated⟩ := h.values _ _ hmem
  cases hname.symm.trans hfound
  cases hget.symm.trans hother
  exact ⟨_, _, hmem, hname, htranslated⟩

theorem sound (hkeyed : ∀ entry ∈ model.values.entries, entry.2.Keyed) : linked.realm.Sound where
  keyed id value hget := by
    obtain ⟨name, written, hmem, _, htranslated⟩ := h.exists_written hget
    exact htranslated.keyed_iff.2 (hkeyed _ hmem)
  closed id value hget := by
    obtain ⟨name, written, _, _, htranslated⟩ := h.exists_written hget
    have hreferences := congrArg Value.references (ValueSpec.becomes_iff.1 htranslated)
    rw [Value.references_map, Value.references_map] at hreferences
    exact h.index_lt_of_mem hreferences

end Single

theorem get?_of_get? (h : model.Translates linked) (hother : model.Translates other) (id : ValueId)
    (hget : linked.realm.get? id = some value) : other.realm.get? id = some value := by
  have hidOf := idOf?_eq_of_names (h.names.trans hother.names.symm)
  obtain ⟨name, written, hmem, hname, htranslated⟩ := h.exists_written hget
  obtain ⟨found, value', hfound, hget', htranslated'⟩ := hother.values name written hmem
  rw [hidOf] at hname htranslated
  cases hname.symm.trans hfound
  rw [hget', htranslated.unique htranslated']

/-- There is only one translation with the same scopes and classes. -/
theorem unique (h : model.Translates linked) (hother : model.Translates other)
    (hscopes : linked.scopes = other.scopes) (hclasses : linked.classes = other.classes) :
    linked = other := by
  have hvalues : linked.realm.values = other.realm.values := by
    refine Array.ext_getElem? fun index => Option.ext fun value => ?_
    exact ⟨h.get?_of_get? hother ⟨index⟩, hother.get?_of_get? h ⟨index⟩⟩
  have hnames := h.names.trans hother.names.symm
  have hrelations := h.relations.trans hother.relations.symm
  have hnotes := h.notes.trans hother.notes.symm
  obtain ⟨names, ⟨values⟩, scopes, classes, relations, notes⟩ := linked
  obtain ⟨names', ⟨values'⟩, scopes', classes', relations', notes'⟩ := other
  cases hnames
  cases hvalues
  cases hscopes
  cases hclasses
  cases hrelations
  cases hnotes
  rfl

theorem keyed_of_sound (h : model.Translates linked) (hsound : linked.realm.Sound) :
    ∀ entry ∈ model.values.entries, entry.2.Keyed := by
  intro entry hentry
  obtain ⟨id, value, _, hget, htranslated⟩ := h.values entry.1 entry.2 hentry
  exact htranslated.keyed_iff.1 (hsound.keyed id value hget)

/-- A translation can be had by linking. -/
theorem link_eq (h : model.Translates linked)
    (hkeyed : ∀ entry ∈ model.values.entries, entry.2.Keyed) : model.link = .ok linked := by
  have hnames := model.values.keys_nodup
  have hidOf := idOf?_eq_of_names h.names
  have hinverse : ∀ name id, Model.idOf? model.values.keys name = some id →
      nameOf? model.values.keys id = some name := fun _ _ => (idOf?_eq_some_iff hnames).1
  have hvalues : ∀ entry ∈ model.values.entries,
      ∃ value, linkValue model.values.keys entry.1 entry.2 = .ok value := by
    intro entry hentry
    obtain ⟨id, value, _, _, htranslated⟩ := h.values entry.1 entry.2 hentry
    rw [hidOf] at htranslated
    exact ⟨value, (linkValue_eq_ok_iff_becomes hnames).2 ⟨hkeyed entry hentry, htranslated⟩⟩
  have hscopes := h.scopes
  have hclasses := h.classes
  rw [hidOf] at hscopes hclasses
  obtain ⟨other, hlink, hsame, hsame'⟩ := exists_link hvalues
    (Table.map_some_eq_of hinverse hscopes.symm) (map_some_eq_of hinverse hclasses.symm)
  rw [hlink, (translates_of_link hlink).unique h hsame hsame']

end Translates

/-- Linking comes to a linked model exactly if that is the translation of the written one
and all keys of its entries are segments. Then all ids in it are those of values. -/
theorem link_eq_ok_iff {model : Model} {linked : LinkedModel} : model.link = .ok linked ↔
    model.Translates linked ∧ linked.realm.Sound ∧
      ∀ id ∈ linked.scopes.values ++ linked.classes, id.index < linked.realm.size := by
  constructor
  · intro h
    have htranslates := translates_of_link h
    have hkeyed : ∀ entry ∈ model.values.entries, entry.2.Keyed := by
      intro entry hentry
      obtain ⟨value, hvalue⟩ := (linksTo_of_link h).exists_value hentry
      exact ((linkValue_eq_ok_iff_becomes model.values.keys_nodup).1 hvalue).1
    have hscopes := congrArg Table.values htranslates.scopes
    rw [Table.values_map, Table.values_map] at hscopes
    exact ⟨htranslates, htranslates.sound hkeyed, List.forall_mem_append.2
      ⟨htranslates.index_lt_of_mem hscopes, htranslates.index_lt_of_mem htranslates.classes⟩⟩
  · rintro ⟨h, hsound, _⟩
    exact h.link_eq (h.keyed_of_sound hsound)

-- The references lead forward, backward, and to the value in which they stand.
example : (link { values := ⟨[("Task", .classDef { parent := some "Base" }),
      ("app", .object ⟨[("Self", "app"), ("Task", "Task")], by decide⟩),
      ("Base", .classDef {})], by decide⟩ }).toOption.map (·.realm.values) =
    some #[.classDef { parent := some ⟨2⟩ },
      .object ⟨[("Self", ⟨1⟩), ("Task", ⟨0⟩)], by decide⟩, .classDef {}] := by decide

end Model

end ClassDiagram
