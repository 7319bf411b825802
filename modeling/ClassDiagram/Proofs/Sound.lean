import ClassDiagram.Proofs.Binding
import ClassDiagram.Proofs.FirstFault

/-!
# Binding names in a sound realm

A realm is sound if all keys of entries are segments and all ids lead to values. The
type does not ask for it, and a realm that is not sound can be searched and compiled
all the same. But names are only ever bound by `setEntry`, and that keeps a realm
sound: whatever is tried, in whatever order, and whether it is refused or not.

All of it is read off what a successful binding is (`setEntry_eq_ok_iff`). One value
is replaced, and by itself with other entries. So the other values do not change, no
id is lost, and what is new in the realm is one key and one id, which are the two
things that were checked. The container may be the value that is bound in it: it is
looked up before anything is written.
-/

namespace ClassDiagram

namespace Table

variable {κ α : Type} [DecidableEq κ] {t : Table κ α} {key : κ} {value : α}

theorem mem_keys_of_mem_insert {other : κ} (h : other ∈ (t.insert key value).keys) :
    other = key ∨ other ∈ t.keys := by
  rw [keys_insert] at h
  split at h
  · exact .inr h
  · rcases List.mem_append.1 h with hold | hnew
    · exact .inr hold
    · exact .inl (List.mem_singleton.1 hnew)

theorem mem_values_of_mem_insert {found : α} (h : found ∈ (t.insert key value).values) :
    found = value ∨ found ∈ t.values := by
  obtain ⟨entry, hentry, rfl⟩ := List.mem_map.1 h
  rcases mem_entries_of_mem_insert hentry with hold | rfl
  · exact .inr (List.mem_map_of_mem hold)
  · exact .inl rfl

end Table

namespace Value

variable {ρ : Type} {value : Value ρ} {entries : Table String ρ}

theorem exists_entries?_iff :
    (∃ entries, value.entries? = some entries) ↔
      value.kind = .object ∨ value.kind = .function ∨ value.kind = .classDef := by
  cases value <;> simp [entries?, kind]

theorem mem_references_of_entries? {other : ρ} (h : value.entries? = some entries)
    (hmem : other ∈ entries.values) : other ∈ value.references := by
  cases value with
  | object _ | function _ _ =>
      cases h
      exact hmem
  | classDef definition =>
      cases h
      exact List.mem_append_right _ (List.mem_append_right _ hmem)
  | interfaceDef _ | scalar _ => cases h

/-- The two values are of the same kind and have the same in them, but for their entries. -/
inductive SameButEntries : Value ρ → Value ρ → Prop
  | object (before later : Table String ρ) : SameButEntries (.object before) (.object later)
  | function (source : String) (before later : Table String ρ) :
      SameButEntries (.function source before) (.function source later)
  | classDef {before later : ClassDef ρ} (parent : later.parent = before.parent)
      (implements : later.implements = before.implements)
      (prototype : later.prototype = before.prototype) (surface : later.surface = before.surface) :
      SameButEntries (.classDef before) (.classDef later)

theorem sameButEntries_withEntries (h : value.isContainer = true) (later : Table String ρ) :
    value.SameButEntries (value.withEntries later) := by
  cases value with
  | object before => exact .object before later
  | function source before => exact .function source before later
  | classDef definition => exact .classDef rfl rfl rfl rfl
  | interfaceDef _ | scalar _ => cases h

theorem keyed_withEntries (h : ∀ key ∈ entries.keys, IsSegment key) :
    (value.withEntries entries).Keyed := by
  intro found hfound
  cases value with
  | object _ | function _ _ | classDef _ =>
      cases hfound
      exact h
  | interfaceDef _ | scalar _ => cases hfound

theorem mem_references_withEntries {other : ρ}
    (h : other ∈ (value.withEntries entries).references) :
    other ∈ entries.values ∨ other ∈ value.references := by
  cases value with
  | object _ | function _ _ => exact .inl h
  | classDef definition =>
      rcases List.mem_append.1 h with hparent | h
      · exact .inr (List.mem_append_left _ hparent)
      · rcases List.mem_append.1 h with hinterface | hstatic
        · exact .inr (List.mem_append_right _ (List.mem_append_left _ hinterface))
        · exact .inl hstatic
  | interfaceDef _ | scalar _ => exact .inr h

end Value

namespace Realm

variable {realm next : Realm} {container value id : ValueId} {name : String}

/-- The keys of entries are segments, and whatever a value refers to is a value. -/
structure Sound (realm : Realm) : Prop where
  keyed : ∀ id value, realm.get? id = some value → value.Keyed
  closed : ∀ id value, realm.get? id = some value →
    ∀ other ∈ value.references, other.index < realm.size

/-- A name to be bound in a container to a value. -/
structure Binding where
  container : ValueId
  name : String
  value : ValueId

/-- The realm after the attempt to bind the name. What is refused changes nothing. -/
def after (realm : Realm) (binding : Binding) : Realm :=
  (realm.setEntry binding.container binding.name binding.value).toOption.getD realm

/-- The later realm differs in the entries of the container only, and there in what
stands behind the name. -/
structure Rebound (realm next : Realm) (container : ValueId) (name : String)
    (value : ValueId) : Prop where
  size : next.size = realm.size
  others : ∀ id, id ≠ container → next.get? id = realm.get? id
  entries : ∃ found rebound before later, realm.get? container = some found ∧
    next.get? container = some rebound ∧ found.SameButEntries rebound ∧
    found.entries? = some before ∧ rebound.entries? = some later ∧
    later.keys = (if name ∈ before.keys then before.keys else before.keys ++ [name]) ∧
    ∀ key, later.get? key = if key = name then some value else before.get? key

theorem size_replace (realm : Realm) (id : ValueId) (value : Value ValueId) :
    (realm.replace id value).size = realm.size :=
  Array.size_setIfInBounds

theorem get?_replace {old : Value ValueId} (h : realm.get? id = some old)
    (value : Value ValueId) (other : ValueId) :
    (realm.replace id value).get? other = if other = id then some value else realm.get? other := by
  have hindex : id.index = other.index ↔ other = id := by
    cases id
    cases other
    simp [eq_comm]
  have hrange : id.index < realm.values.size := index_lt_size_of_get? h
  rw [get?, replace, Array.getElem?_setIfInBounds, if_pos hrange]
  simp only [hindex]
  rfl

/-- A binding succeeds with one value replaced by itself with other entries. -/
theorem setEntry_eq_ok_iff : realm.setEntry container name value = .ok next ↔
    IsSegment name ∧ (∃ bound, realm.get? value = some bound) ∧
      ∃ found entries, realm.get? container = some found ∧ found.entries? = some entries ∧
        next = realm.replace container (found.withEntries (entries.insert name value)) := by
  rw [← SegmentProblem.find?_eq_none_iff, setEntry]
  constructor
  · intro h
    split at h
    · cases h
    · next hname =>
        split at h
        · cases h
        · next bound hbound =>
            split at h
            · cases h
            · next found hfound =>
                split at h
                · cases h
                · next entries hentries =>
                    exact ⟨hname, ⟨bound, hbound⟩, found, entries, hfound, hentries,
                      (Except.ok.inj h).symm⟩
  · intro h
    obtain ⟨hname, ⟨bound, hbound⟩, found, entries, hfound, hentries, rfl⟩ := h
    simp only [hname, hbound, hfound, hentries]

theorem rebound_of_setEntry (h : realm.setEntry container name value = .ok next) :
    realm.Rebound next container name value := by
  obtain ⟨_, _, found, entries, hfound, hentries, rfl⟩ := setEntry_eq_ok_iff.1 h
  have hget := get?_replace hfound (found.withEntries (entries.insert name value))
  have hcontainer : found.isContainer = true := Option.isSome_of_eq_some hentries
  refine ⟨size_replace _ _ _, fun id hid => ?_, found, _, entries, _, hfound, ?_,
    Value.sameButEntries_withEntries hcontainer _, hentries,
    Value.entries?_withEntries hcontainer _, entries.keys_insert name value,
    fun key => entries.get?_insert name key value⟩
  · rw [hget, if_neg hid]
  · rw [hget, if_pos rfl]

/-! ## Attempts -/

theorem after_cases (realm : Realm) (binding : Binding) :
    realm.after binding = realm ∨
      realm.setEntry binding.container binding.name binding.value = .ok (realm.after binding) := by
  rw [after]
  cases realm.setEntry binding.container binding.name binding.value with
  | error error => exact .inl rfl
  | ok next => exact .inr rfl

theorem Sound.setEntry (h : realm.Sound)
    (hok : realm.setEntry container name value = .ok next) : next.Sound := by
  obtain ⟨hname, ⟨bound, hbound⟩, found, entries, hfound, hentries, rfl⟩ :=
    setEntry_eq_ok_iff.1 hok
  have hget := get?_replace hfound (found.withEntries (entries.insert name value))
  constructor
  · intro id other hother
    rw [hget] at hother
    split at hother
    · cases hother
      refine Value.keyed_withEntries fun key hkey => ?_
      rcases Table.mem_keys_of_mem_insert hkey with rfl | hold
      · exact hname
      · exact h.keyed container found hfound entries hentries key hold
    · exact h.keyed id other hother
  · intro id other hother reference hreference
    rw [size_replace]
    rw [hget] at hother
    split at hother
    · cases hother
      rcases Value.mem_references_withEntries hreference with hentry | hold
      · rcases Table.mem_values_of_mem_insert hentry with rfl | hold
        · exact index_lt_size_of_get? hbound
        · exact h.closed container found hfound reference
            (Value.mem_references_of_entries? hentries hold)
      · exact h.closed container found hfound reference hold
    · exact h.closed id other hother reference hreference

theorem Sound.after (h : realm.Sound) (binding : Binding) : (realm.after binding).Sound := by
  rcases realm.after_cases binding with hsame | hok
  · rw [hsame]
    exact h
  · exact h.setEntry hok

theorem Sound.foldl_after (h : realm.Sound) (bindings : List Binding) :
    (bindings.foldl Realm.after realm).Sound := by
  induction bindings generalizing realm with
  | nil => exact h
  | cons binding bindings ih => exact ih (h.after binding)

/-- A name is bound exactly if it is a segment, the value exists, and the container is
an object, a function or a class. Then nothing else changes, and otherwise nothing
at all. So no attempts take away the soundness of a realm. -/
theorem setEntry_outcome (realm : Realm) (container : ValueId) (name : String) (value : ValueId) :
    ((∃ next, realm.setEntry container name value = .ok next) ↔
      IsSegment name ∧ (∃ bound, realm.get? value = some bound) ∧
        ∃ found, realm.get? container = some found ∧
          (found.kind = .object ∨ found.kind = .function ∨ found.kind = .classDef)) ∧
    (∀ next, realm.setEntry container name value = .ok next →
      realm.after ⟨container, name, value⟩ = next ∧ realm.Rebound next container name value) ∧
    (∀ error, realm.setEntry container name value = .error error →
      realm.after ⟨container, name, value⟩ = realm) ∧
    (realm.Sound → ∀ bindings : List Binding, (bindings.foldl after realm).Sound) := by
  refine ⟨?_, fun next hok => ⟨?_, rebound_of_setEntry hok⟩, fun error herror => ?_,
    fun hsound => hsound.foldl_after⟩
  · simp only [setEntry_eq_ok_iff, ← Value.exists_entries?_iff]
    constructor
    · rintro ⟨_, hname, hbound, found, entries, hfound, hentries, rfl⟩
      exact ⟨hname, hbound, found, hfound, entries, hentries⟩
    · rintro ⟨hname, hbound, found, hfound, entries, hentries⟩
      exact ⟨_, hname, hbound, found, entries, hfound, hentries, rfl⟩
  · rw [after, hok]
    rfl
  · rw [after, herror]
    rfl

/-- An object, a class that extends itself, and a scalar. -/
def toolbox : Realm where
  values := #[.object ⟨[("Hammer", ⟨1⟩), ("Saw", ⟨1⟩)], by decide⟩,
    .classDef { parent := some ⟨1⟩ }, .scalar "42"]

/-- The object is bound in itself in the place of the class, and then in the class. The
others are refused for the name, the container and the value. -/
def attempts : List Binding :=
  [⟨⟨0⟩, "Hammer", ⟨0⟩⟩, ⟨⟨0⟩, "a.b", ⟨1⟩⟩, ⟨⟨2⟩, "Bit", ⟨1⟩⟩, ⟨⟨1⟩, "Box", ⟨0⟩⟩, ⟨⟨1⟩, "Lid", ⟨7⟩⟩]

theorem setEntry_outcome_toolbox :
    toolbox.Sound ∧ (attempts.foldl after toolbox).Sound ∧
      (attempts.foldl after toolbox).entriesOf ⟨0⟩ = [("Hammer", ⟨0⟩), ("Saw", ⟨1⟩)] ∧
      (attempts.foldl after toolbox).entriesOf ⟨1⟩ = [("Box", ⟨0⟩)] := by
  have hsound : toolbox.Sound := by
    constructor
    · rintro ⟨_ | _ | _ | index⟩ value hget
      · cases hget
        exact (Value.keyed_iff rfl).2 (by decide)
      · cases hget
        exact (Value.keyed_iff rfl).2 (by decide)
      · cases hget
        rintro _ ⟨⟩
      · cases hget
    · rintro ⟨_ | _ | _ | index⟩ value hget
      · cases hget
        decide
      · cases hget
        decide
      · cases hget
        decide
      · cases hget
  obtain ⟨_, _, _, hrun⟩ := setEntry_outcome toolbox ⟨0⟩ "Hammer" ⟨0⟩
  exact ⟨hsound, hrun hsound attempts, by decide, by decide⟩

end Realm

end ClassDiagram
