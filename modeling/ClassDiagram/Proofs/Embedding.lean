import ClassDiagram.Proofs.Binding
import ClassDiagram.Proofs.Naming
import ClassDiagram.Proofs.Nearest
import Mathlib.Data.List.Basic

/-!
# Realms within realms

The ids of a realm are positions, so a realm changes all of them when a value is
put in front, and still it is the same realm with something added. `Embeds` says
that: each value stands in the other realm at its place, with its references put
to the places of what it referred to. An id without a value has a place without a
value, so nothing has to be assumed about the references of a realm.

Everything that is read off a realm is read off its copy in the same way: what
kind a value is and why it is not what it was expected to be, the entries, the
names that a search finds by them, and what a class shows. Ids reach a result only
by being compared with each other, and they are compared alike because places are
distinct. The number of values is larger in the other realm, but it only cuts
look-ups that would not end, and the nearest class does not depend on it
(`nearestProperty?_map`).
-/

namespace ClassDiagram

open Scope

/-- The same error about the ids at other places. -/
def Error.map (place : ValueId → ValueId) : Error → Error
  | missingDefinition id => missingDefinition (place id)
  | notClass id kind => notClass (place id) kind
  | notInterface id kind => notInterface (place id) kind
  | missingValue name id => missingValue name (place id)
  | missingContainer name id => missingContainer name (place id)
  | notContainer name id kind => notContainer name (place id) kind
  | error => error

/-- The visit of the value at another place, by the same keys. -/
def Scope.Visit.map (place : ValueId → ValueId) (visit : Visit) : Visit :=
  ⟨visit.keys, place visit.id⟩

/-- The values of the realm stand in the other one at their places. -/
structure Realm.Embeds (place : ValueId → ValueId) (realm other : Realm) : Prop where
  injective : Function.Injective place
  get? : ∀ id, other.get? (place id) = (realm.get? id).map (Value.map place)

theorem Table.map_id {κ α : Type} (t : Table κ α) : (t.map fun _ => id) = t :=
  Table.ext_entries (List.map_id' t.entries)

theorem ClassDef.map_id (definition : ClassDef ValueId) : definition.map id = definition := by
  simp [ClassDef.map, Table.map_id]

theorem Value.map_id (value : Value ValueId) : value.map id = value := by
  cases value <;> simp [Value.map, Table.map_id, ClassDef.map_id]

theorem Table.map_map {κ α β γ : Type} (f : α → β) (g : β → γ) (t : Table κ α) :
    ((t.map fun _ => f).map fun _ => g) = t.map fun _ => g ∘ f :=
  Table.ext_entries List.map_map

theorem Value.map_map {ρ σ τ : Type} (f : ρ → σ) (g : σ → τ) (value : Value ρ) :
    (value.map f).map g = value.map (g ∘ f) := by
  cases value with
  | object entries => exact congrArg Value.object (Table.map_map f g entries)
  | function source entries => exact congrArg (Value.function source) (Table.map_map f g entries)
  | classDef definition => simp [Value.map, ClassDef.map, Table.map_map]
  | interfaceDef _ | scalar _ => rfl

theorem Error.map_id (error : Error) : error.map id = error := by
  cases error <;> rfl

namespace Realm.Embeds

variable {place : ValueId → ValueId} {realm other : Realm}

theorem refl (realm : Realm) : Embeds id realm realm where
  injective := Function.injective_id
  get? key := by
    rw [funext Value.map_id, Option.map_id_fun']
    rfl

variable (h : Embeds place realm other)

include h

theorem class? (id : ValueId) :
    other.class? (place id) = (realm.class? id).map (ClassDef.map place) := by
  rw [Realm.class?, Realm.class?, h.get?]
  cases realm.get? id with
  | none => rfl
  | some value => cases value <;> rfl

theorem interface? (id : ValueId) : other.interface? (place id) = realm.interface? id := by
  rw [Realm.interface?, Realm.interface?, h.get?]
  cases realm.get? id with
  | none => rfl
  | some value => cases value <;> rfl

theorem expectClass (id : ValueId) : other.expectClass (place id) =
    ((realm.expectClass id).map (ClassDef.map place)).mapError (Error.map place) := by
  rw [Realm.expectClass, Realm.expectClass, h.get?]
  cases realm.get? id with
  | none => rfl
  | some value => cases value <;> rfl

theorem expectInterface (id : ValueId) : other.expectInterface (place id) =
    (realm.expectInterface id).mapError (Error.map place) := by
  rw [Realm.expectInterface, Realm.expectInterface, h.get?]
  cases realm.get? id with
  | none => rfl
  | some value => cases value <;> rfl

theorem entriesOf (id : ValueId) : other.entriesOf (place id) =
    (realm.entriesOf id).map fun entry => (entry.1, place entry.2) := by
  rw [Realm.entriesOf, Realm.entriesOf, h.get?]
  cases realm.get? id with
  | none => rfl
  | some value =>
      rw [Option.map_some, Option.bind_some, Option.bind_some, Value.entries?_map]
      cases value.entries? with
      | none => rfl
      | some entries => rfl

/-! ## Names -/

theorem children_map (visit : Visit) :
    (visit.map place).children other = (visit.children realm).map (Visit.map place) := by
  rw [Visit.children, Visit.children, Visit.map, h.entriesOf, List.filter_map, List.map_map,
    List.map_map]
  rfl

omit h in
theorem visitedIds_map (visits : List Visit) :
    visitedIds (visits.map (Visit.map place)) = (visitedIds visits).map place := by
  simp [visitedIds, Visit.map]

theorem explore_map (target : ValueId) (visits pending : List Visit) :
    explore other (place target) (visits.map (Visit.map place)) (pending.map (Visit.map place)) =
      ((explore realm target visits pending).1,
        (explore realm target visits pending).2.map (Visit.map place)) := by
  have hmem : ∀ (visits : List Visit) (visit : Visit),
      (visit.map place).id ∈ visitedIds (visits.map (Visit.map place)) ↔
        visit.id ∈ visitedIds visits := by
    intro visits visit
    rw [visitedIds_map]
    exact List.mem_map_of_injective h.injective
  fun_induction explore realm target visits pending with
  | case1 visits => rw [List.map_nil, explore]
  | case2 visits visit pending hseen ih =>
      rw [List.map_cons, explore_cons_seen ((hmem visits visit).2 hseen), ih]
  | case3 visits visit pending hfresh htarget =>
      have hfresh' := fun hseen => hfresh ((hmem visits visit).1 hseen)
      rw [List.map_cons, explore_cons_found hfresh' (congrArg place htarget)]
      rfl
  | case4 visits visit pending hfresh htarget ih =>
      have hfresh' := fun hseen => hfresh ((hmem visits visit).1 hseen)
      have htarget' : (visit.map place).id ≠ place target := fun heq => htarget (h.injective heq)
      rw [List.map_append, ← h.children_map, List.map_cons] at ih
      rw [List.map_cons, explore, if_neg hfresh', if_neg htarget', ih]

theorem searchFrom_map (target : ValueId) : ∀ (scopes : List (String × ValueId))
    (visits : List Visit),
    (searchFrom other (place target) (visits.map (Visit.map place))
      (scopes.map fun scope => (scope.1, place scope.2))).1 =
        (searchFrom realm target visits scopes).1 := by
  intro scopes
  induction scopes with
  | nil => exact fun visits => rfl
  | cons scope scopes ih =>
      obtain ⟨name, root⟩ := scope
      intro visits
      have hexplore := h.explore_map target (⟨[], root⟩ :: visits)
        (Visit.children realm ⟨[], root⟩)
      rw [← h.children_map, List.map_cons] at hexplore
      rw [List.map_cons, searchFrom, searchFrom]
      simp only [Visit.map] at hexplore
      rw [hexplore]
      rcases explore realm target (⟨[], root⟩ :: visits) (Visit.children realm ⟨[], root⟩) with
        ⟨_ | keys, final⟩
      · exact ih final
      · rfl

/-- The scopes call a value the same at its place. -/
theorem search_map (scopes : Table String ValueId) (target : ValueId) :
    (search other (scopes.map fun _ => place) (place target)).1 =
      (search realm scopes target).1 :=
  h.searchFrom_map target scopes.entries []

/-! ## What a class shows -/

theorem nearest_map {name : String} {definition owner : ClassDef ValueId}
    (hnearest : realm.Nearest name definition owner) :
    other.Nearest name (definition.map place) (owner.map place) := by
  induction hnearest with
  | own hown => exact .own hown
  | @inherited definition above owner parent hnone hparent hclass _ ih =>
      have hparent' : (definition.map place).parent = some (place parent) := by
        rw [ClassDef.parent_map, hparent, Option.map_some]
      exact .inherited hnone hparent' (by rw [h.class?, hclass, Option.map_some]) ih

theorem exists_nearest_of_map {name : String} {definition owner : ClassDef ValueId}
    (hnearest : other.Nearest name (definition.map place) owner) :
    ∃ original, owner = original.map place ∧ realm.Nearest name definition original := by
  generalize himage : definition.map place = image at hnearest
  induction hnearest generalizing definition with
  | own hown =>
      subst himage
      exact ⟨definition, rfl, .own hown⟩
  | inherited hnone hparent hclass _ ih =>
      subst himage
      obtain ⟨parent, hbelow, rfl⟩ := Option.map_eq_some_iff.1 hparent
      rw [h.class?] at hclass
      obtain ⟨above, habove, himage⟩ := Option.map_eq_some_iff.1 hclass
      obtain ⟨original, howner, hrest⟩ := ih himage
      exact ⟨original, howner, .inherited hnone hbelow habove hrest⟩

theorem nearestProperty?_map (definition : ClassDef ValueId) (name : String) :
    other.nearestProperty? (definition.map place) name =
      realm.nearestProperty? definition name := by
  refine Option.ext fun property => ?_
  rw [nearestProperty?_eq_some_iff, nearestProperty?_eq_some_iff]
  constructor
  · intro hfound
    obtain ⟨owner, hnearest, hproperty⟩ := hfound
    obtain ⟨original, rfl, hrest⟩ := h.exists_nearest_of_map hnearest
    exact ⟨original, hrest, hproperty⟩
  · intro hfound
    obtain ⟨owner, hnearest, hproperty⟩ := hfound
    exact ⟨owner.map place, h.nearest_map hnearest, hproperty⟩

theorem surface?_map (definition : ClassDef ValueId) :
    other.surface? (definition.map place) = realm.surface? definition := by
  have hexposure : ∀ expression,
      other.exposure (definition.map place) expression = realm.exposure definition expression := by
    intro expression
    rw [exposure, exposure]
    simp only [h.nearestProperty?_map]
  rw [surface?, surface?, show (definition.map place).surfacePairs? = definition.surfacePairs?
    from rfl]
  simp only [hexposure]

end Realm.Embeds

end ClassDiagram
