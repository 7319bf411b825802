import ClassDiagram.Proofs.Linking

/-!
# The first fault of a model

Linking walks through a model and stops where something is wrong. What it checks
on the way, and in which order, is said by `items`: the keys of entries and the
names of values, one after the other as they are written. Each of them is sound or
not by itself, whatever stands around it.

So there is nothing more to an error than its place in that list. A link that fails
reports the first item that is not sound (`failure?_link`), step by step: what a
sequence of links reports is what the first one that fails reports, and a table
reports what the first of its entries does. From this both halves of the outcome
follow, when there is an error and which one (`link_reports`).
-/

namespace ClassDiagram

/-! ## What fails first -/

section Failure

variable {α β κ ε : Type}

/-- The error with which it failed. -/
def failure? : Except ε α → Option ε
  | .error error => some error
  | .ok _ => none

theorem failure?_eq_some_iff {result : Except ε α} {error : ε} :
    failure? result = some error ↔ result = .error error := by
  cases result with
  | error other => rw [failure?, Option.some.injEq, Except.error.injEq]
  | ok value => exact iff_of_false (fun h => by cases h) fun h => by cases h

theorem failure?_eq_none_iff {result : Except ε α} :
    failure? result = none ↔ ∃ value, result = .ok value := by
  cases result with
  | error error => exact iff_of_false (fun h => by cases h) fun h => by obtain ⟨_, ⟨⟩⟩ := h
  | ok value => exact iff_of_true rfl ⟨value, rfl⟩

theorem failure?_map (f : α → β) (result : Except ε α) :
    failure? (result.map f) = failure? result := by
  cases result <;> rfl

/-- If what follows fails in the same way for every value, it fails in this way if
nothing failed before. -/
theorem failure?_bind {result : Except ε α} {f : α → Except ε β} {later : Option ε}
    (h : ∀ value, failure? (f value) = later) :
    failure? (result >>= f) = (failure? result).or later := by
  cases result with
  | error error => rfl
  | ok value => exact h value

theorem failure?_traverse (f : κ → α → Except ε β) (t : Table κ α) :
    failure? (t.traverse f) =
      t.entries.findSome? fun entry => failure? (f entry.1 entry.2) := by
  have hentries : ∀ entries : List (κ × α), failure? (Table.traverseEntries f entries) =
      entries.findSome? fun entry => failure? (f entry.1 entry.2) := by
    intro entries
    induction entries with
    | nil => rfl
    | cons entry rest ih =>
        rw [List.findSome?_cons, ← ih, Table.traverseEntries]
        cases f entry.1 entry.2 with
        | error error => rfl
        | ok image => cases Table.traverseEntries f rest <;> rfl
  rw [← hentries, Table.traverse]
  cases Table.traverseEntries f t.entries <;> rfl

theorem findSome?_flatMap (f : β → Option ε) (g : α → List β) (l : List α) :
    (l.flatMap g).findSome? f = l.findSome? fun a => (g a).findSome? f := by
  induction l with
  | nil => rfl
  | cons a l ih =>
      rw [List.flatMap_cons, List.findSome?_append, List.findSome?_cons, ih]
      cases (g a).findSome? f <;> rfl

end Failure

/-! ## Messages -/

theorem Error.message_malformedModelEntry (key : String) (problem : SegmentProblem)
    (owner : String) : (malformedModelEntry key problem owner).message =
      "Malformed scope key '" ++ key ++ "': entry names " ++ problem.message ++
        " (in '" ++ owner ++ "')" := by
  have hheading : (malformedModelEntry key problem owner).kind.heading =
      "Malformed scope key '" ++ key ++ "'" := rfl
  have hdetail : (malformedModelEntry key problem owner).detail =
      "entry names " ++ problem.message ++ " (in '" ++ owner ++ "')" := rfl
  have hjoint : "': entry names " = "'" ++ (": " ++ "entry names ") := rfl
  rw [message, ErrorKind.message, hheading, hdetail, hjoint]
  simp only [String.append_assoc]

theorem Error.message_unknownValue (mention : Mention) (name : String) :
    (unknownValue mention name).message =
      "Model error: " ++ mention.text ++ " refers to unknown value '" ++ name ++ "'" := by
  have hheading : (unknownValue mention name).kind.heading = "Model error" := rfl
  have hdetail : (unknownValue mention name).detail =
      mention.text ++ " refers to unknown value '" ++ name ++ "'" := rfl
  have hjoint : "Model error: " = "Model error" ++ ": " := rfl
  rw [message, ErrorKind.message, hheading, hdetail, hjoint]
  simp only [String.append_assoc]

/-- What a value refers to, as it is written. -/
def Value.references {ρ π τ : Type} : Value ρ π τ → List ρ
  | .object entries | .function _ entries => entries.values
  | .classDef definition =>
      definition.parent.toList ++ (definition.implements ++ definition.statics.values)
  | .interfaceDef _ | .scalar _ => []

namespace Model

/-! ## What is checked -/

/-- What can be wrong with a model: the key of an entry, or a name by which a value
is referred to. -/
inductive Item where
  | entryKey (owner key : String)
  | reference (mention : Mention) (name : String)

namespace Item

/-- The key is a segment, or the name is that of a value. -/
def Sound (names : List String) : Item → Prop
  | entryKey _ key => IsSegment key
  | reference _ name => name ∈ names

/-- The error with which linking stops at the item. -/
inductive Reports (names : List String) : Item → Error → Prop
  | entryKey {owner key : String} {problem : SegmentProblem}
      (h : SegmentProblem.find? key = some problem) :
      Reports names (entryKey owner key) (.malformedModelEntry key problem owner)
  | reference {mention : Mention} {name : String} (h : name ∉ names) :
      Reports names (reference mention name) (.unknownValue mention name)

/-- The rule for segments that the key breaks, in words; of several, the first. -/
inductive Breaks : String → String → Prop
  | empty : Breaks "" "must not be empty"
  | dotted {key : String} (h : '.' ∈ key.toList) : Breaks key "must not contain '.'"
  | blank {key : String} (hdot : '.' ∉ key.toList)
      (h : ∃ c ∈ key.toList, Text.isBlank c = true) : Breaks key "must not contain whitespace"

/-- Where a name stands, in words. -/
inductive Place : Mention → String → Prop
  | entry {owner key : String} : Place (.entry owner key) (owner ++ "." ++ key)
  | parentOf {owner : String} : Place (.parentOf owner) (owner ++ ".extends")
  | interfaceOf {owner : String} : Place (.interfaceOf owner) (owner ++ ".implements")
  | scope {name : String} : Place (.scope name) ("scope " ++ name)
  | classes : Place .classes "classes"

/-- The kind of the error for the item, and its message: what it says of the item, and
where the item stands. -/
inductive Told : Item → ErrorKind → String → Prop
  | entryKey {owner key rule : String} (h : Breaks key rule) : Told (entryKey owner key) (.key key)
      ("Malformed scope key '" ++ key ++ "': entry names " ++ rule ++ " (in '" ++ owner ++ "')")
  | reference {mention : Mention} {name place : String} (h : Place mention place) :
      Told (reference mention name) .model
        ("Model error: " ++ place ++ " refers to unknown value '" ++ name ++ "'")

end Item

/-- A key stands before what it is bound to. -/
def entryItems (owner : String) (entries : Table String String) : List Item :=
  entries.entries.flatMap fun entry =>
    [.entryKey owner entry.1, .reference (.entry owner entry.1) entry.2]

/-- The parent stands before the interfaces, and these before the static members. -/
def valueItems (owner : String) : ValueSpec → List Item
  | .object entries | .function _ entries => entryItems owner entries
  | .classDef definition =>
      definition.parent.toList.map (.reference (.parentOf owner)) ++
        (definition.implements.map (.reference (.interfaceOf owner)) ++
          entryItems owner definition.statics)
  | .interfaceDef _ | .scalar _ => []

/-- The values stand before the scopes, and these before the classes. -/
def items (model : Model) : List Item :=
  model.values.entries.flatMap (fun entry => valueItems entry.1 entry.2) ++
    (model.scopes.entries.map (fun entry => .reference (.scope entry.1) entry.2) ++
      model.classes.map (.reference .classes))

/-- The keys of all entries are segments, and whatever the model refers to is one of
its values. -/
structure Linkable (model : Model) : Prop where
  keyed : ∀ entry ∈ model.values.entries, entry.2.Keyed
  references : ∀ entry ∈ model.values.entries, ∀ name ∈ entry.2.references,
    name ∈ model.values.keys
  scopes : ∀ name ∈ model.scopes.values, name ∈ model.values.keys
  classes : ∀ name ∈ model.classes, name ∈ model.values.keys

/-! ## Items -/

variable {names : List String} {owner : String} {item : Item} {error : Error}

namespace Item

/-- What is wrong with the item, if something is. -/
def fault? (names : List String) : Item → Option Error
  | entryKey owner key =>
      (SegmentProblem.find? key).map fun problem => .malformedModelEntry key problem owner
  | reference mention name => if name ∈ names then none else some (.unknownValue mention name)

theorem fault?_eq_none_iff : item.fault? names = none ↔ item.Sound names := by
  cases item with
  | entryKey owner key =>
      rw [fault?, Option.map_eq_none_iff, SegmentProblem.find?_eq_none_iff, Sound]
  | reference mention name => simp [fault?, Sound]

theorem fault?_eq_some_iff : item.fault? names = some error ↔ item.Reports names error := by
  constructor
  · intro h
    cases item with
    | entryKey owner key =>
        obtain ⟨problem, hproblem, rfl⟩ := Option.map_eq_some_iff.1 h
        exact .entryKey hproblem
    | reference mention name =>
        rw [fault?] at h
        split at h
        · cases h
        · next hunknown =>
            cases h
            exact .reference hunknown
  · intro h
    cases h with
    | entryKey hproblem => rw [fault?, hproblem, Option.map_some]
    | reference hunknown => rw [fault?, if_neg hunknown]

theorem breaks_of_find? {key : String} {problem : SegmentProblem}
    (h : SegmentProblem.find? key = some problem) : Breaks key problem.message := by
  rw [SegmentProblem.find?] at h
  split at h
  · next hempty =>
      cases h
      rw [String.toList_eq_nil_iff.1 hempty]
      exact .empty
  · split at h
    · next hdot =>
        cases h
        exact .dotted hdot
    · next hdot =>
        split at h
        · next hblank =>
            cases h
            exact .blank hdot (List.any_eq_true.1 hblank)
        · cases h

theorem place_text (mention : Mention) : Place mention mention.text := by
  cases mention with
  | entry owner key => exact .entry
  | parentOf owner => exact .parentOf
  | interfaceOf owner => exact .interfaceOf
  | scope name => exact .scope
  | classes => exact .classes

theorem Reports.told (h : item.Reports names error) : item.Told error.kind error.message := by
  cases h with
  | entryKey hproblem =>
      rw [Error.message_malformedModelEntry]
      exact .entryKey (breaks_of_find? hproblem)
  | @reference mention name _ =>
      rw [Error.message_unknownValue]
      exact .reference (place_text mention)

end Item

/-! ## What each step reports -/

theorem failure?_linkName (names : List String) (mention : Mention) (name : String) :
    failure? (linkName names mention name) = (Item.reference mention name).fault? names := by
  have hnone : idOf? names name = none ↔ name ∉ names := by
    rw [idOf?, Option.map_eq_none_iff, List.idxOf?_eq_none_iff]
  rw [linkName, Item.fault?]
  cases hid : idOf? names name with
  | none => rw [if_neg (hnone.1 hid)]; rfl
  | some id =>
      have hmem : name ∈ names := Classical.byContradiction fun hmem => by
        rw [hnone.2 hmem] at hid
        cases hid
      rw [if_pos hmem]
      rfl

theorem failure?_linkNames (names : List String) (mention : Mention) (list : List String) :
    failure? (linkNames names mention list) =
      (list.map (Item.reference mention)).findSome? (Item.fault? names) := by
  induction list with
  | nil => rfl
  | cons name list ih =>
      rw [List.map_cons, List.findSome?_cons, ← failure?_linkName, ← ih, linkNames]
      cases linkName names mention name with
      | error error => rfl
      | ok id => exact failure?_map _ _

theorem failure?_linkEntries (names : List String) (owner : String)
    (entries : Table String String) :
    failure? (linkEntries names owner entries) =
      (entryItems owner entries).findSome? (Item.fault? names) := by
  rw [linkEntries, failure?_traverse, entryItems, findSome?_flatMap]
  congr 1
  funext entry
  rw [List.findSome?_cons, List.findSome?_singleton, ← failure?_linkName, Item.fault?]
  cases SegmentProblem.find? entry.1 <;> rfl

theorem failure?_linkParent (names : List String) (owner : String) (parent : Option String) :
    failure? (linkParent names owner parent) =
      (parent.toList.map (Item.reference (.parentOf owner))).findSome? (Item.fault? names) := by
  cases parent with
  | none => rfl
  | some parent =>
      rw [linkParent, failure?_map, failure?_linkName, Option.toList_some, List.map_singleton,
        List.findSome?_singleton]

theorem failure?_linkClass (names : List String) (owner : String) (definition : ClassSpec) :
    failure? (linkClass names owner definition) =
      (valueItems owner (.classDef definition)).findSome? (Item.fault? names) := by
  rw [valueItems, List.findSome?_append, List.findSome?_append, ← failure?_linkParent,
    ← failure?_linkNames, ← failure?_linkEntries, linkClass]
  -- Whether a step fails does not depend on the ids that the steps before have found.
  refine failure?_bind fun parent => failure?_bind fun interfaces => ?_
  refine (failure?_bind fun statics => ?_).trans Option.or_none
  rfl

theorem failure?_linkValue (names : List String) (owner : String) (value : ValueSpec) :
    failure? (linkValue names owner value) =
      (valueItems owner value).findSome? (Item.fault? names) := by
  cases value with
  | object entries | function source entries =>
      rw [linkValue, failure?_map]
      exact failure?_linkEntries names owner entries
  | classDef definition =>
      rw [linkValue, failure?_map]
      exact failure?_linkClass names owner definition
  | interfaceDef _ | scalar _ => rfl

/-- Linking reports the first item that is at fault. -/
theorem failure?_link (model : Model) :
    failure? model.link = model.items.findSome? (Item.fault? model.values.keys) := by
  have hvalues : failure? (model.values.traverse (linkValue model.values.keys)) =
      (model.values.entries.flatMap fun entry => valueItems entry.1 entry.2).findSome?
        (Item.fault? model.values.keys) := by
    rw [failure?_traverse, findSome?_flatMap]
    simp only [failure?_linkValue]
  have hscopes : failure? (model.scopes.traverse fun scope target =>
        linkName model.values.keys (.scope scope) target) =
      (model.scopes.entries.map fun entry => Item.reference (.scope entry.1) entry.2).findSome?
        (Item.fault? model.values.keys) := by
    rw [failure?_traverse, List.findSome?_map]
    simp only [failure?_linkName, Function.comp_def]
  rw [items, List.findSome?_append, List.findSome?_append, ← hvalues, ← hscopes,
    ← failure?_linkNames, link]
  refine failure?_bind fun values => failure?_bind fun scopes => ?_
  refine (failure?_bind fun classes => ?_).trans Option.or_none
  rfl

/-! ## The outcome -/

theorem sound_entryItems (names : List String) (owner : String) (entries : Table String String) :
    (∀ item ∈ entryItems owner entries, item.Sound names) ↔
      (∀ key ∈ entries.keys, IsSegment key) ∧ ∀ name ∈ entries.values, name ∈ names := by
  rw [entryItems, List.forall_mem_flatMap, Table.keys, Table.values, List.forall_mem_map,
    List.forall_mem_map, ← forall₂_and]
  simp [Item.Sound]

theorem sound_valueItems (names : List String) (owner : String) (value : ValueSpec) :
    (∀ item ∈ valueItems owner value, item.Sound names) ↔
      value.Keyed ∧ ∀ name ∈ value.references, name ∈ names := by
  cases value with
  | object entries | function source entries =>
      rw [Value.keyed_iff rfl]
      exact sound_entryItems names owner entries
  | classDef definition =>
      rw [Value.keyed_iff rfl, valueItems, List.forall_mem_append, List.forall_mem_append,
        sound_entryItems, Value.references, List.forall_mem_append, List.forall_mem_append,
        List.forall_mem_map, List.forall_mem_map]
      simp only [Item.Sound]
      tauto
  | interfaceDef _ | scalar _ => exact iff_of_true nofun ⟨nofun, nofun⟩

theorem linkable_iff {model : Model} :
    model.Linkable ↔ ∀ item ∈ model.items, item.Sound model.values.keys := by
  rw [items, List.forall_mem_append, List.forall_mem_append, List.forall_mem_flatMap,
    List.forall_mem_map, List.forall_mem_map]
  simp only [sound_valueItems]
  constructor
  · intro h
    exact ⟨fun entry hentry => ⟨h.keyed entry hentry, h.references entry hentry⟩,
      fun entry hentry => h.scopes _ (List.mem_map_of_mem hentry), h.classes⟩
  · intro h
    obtain ⟨hvalues, hscopes, hclasses⟩ := h
    exact
      { keyed := fun entry hentry => (hvalues entry hentry).1
        references := fun entry hentry => (hvalues entry hentry).2
        scopes := List.forall_mem_map.2 hscopes
        classes := hclasses }

/-- A model can be linked exactly if all of its keys are segments and all of its
references lead to values. Otherwise linking reports the first item for which that
does not hold. -/
theorem link_reports (model : Model) :
    ((∃ linked, model.link = .ok linked) ↔ model.Linkable) ∧
    ∀ error, model.link = .error error ↔
      ∃ before item after, model.items = before ++ item :: after ∧
        (∀ earlier ∈ before, earlier.Sound model.values.keys) ∧
        item.Reports model.values.keys error ∧ item.Told error.kind error.message := by
  constructor
  · rw [← failure?_eq_none_iff, failure?_link, List.findSome?_eq_none_iff, linkable_iff]
    simp only [Item.fault?_eq_none_iff]
  · intro error
    rw [← failure?_eq_some_iff, failure?_link, List.findSome?_eq_some_iff]
    simp only [Item.fault?_eq_none_iff, Item.fault?_eq_some_iff]
    constructor
    · intro h
      obtain ⟨before, item, after, hitems, hreports, hbefore⟩ := h
      exact ⟨before, item, after, hitems, hbefore, hreports, hreports.told⟩
    · intro h
      obtain ⟨before, item, after, hitems, hbefore, hreports, _⟩ := h
      exact ⟨before, item, after, hitems, hreports, hbefore⟩

-- The interface is looked up before the static members, one of which has a bad key.
example : failure? (link { values := ⟨[("Shop", .classDef
      { implements := ["Open"], statics := ⟨[("a.b", "Shop")], by decide⟩ })], by decide⟩ }) =
    some (.unknownValue (.interfaceOf "Shop") "Open") := rfl

end Model

end ClassDiagram
