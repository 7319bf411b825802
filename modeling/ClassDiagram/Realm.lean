import ClassDiagram.Error

/-!
# Realms

A realm holds the values of a host program, and the ids by which they refer to
each other are positions in it. Nothing keeps the references in order: they
may lead in circles, and an id may lie beyond the realm. So whatever follows
references has to bring its own reason to stop, and there are two. A walk that
marks what it has seen stops because `unlisted`, the number of values that are
not marked, goes down. A walk up a chain of parents is cut after as many steps
as there are values, because a longer chain has come round.
-/

namespace ClassDiagram

/-- The values of a host program, by id. -/
structure Realm where
  /-- The values, in the order in which they were added. -/
  values : Array (Value ValueId) := #[]
deriving DecidableEq

namespace Realm

instance : EmptyCollection Realm := ⟨{}⟩

/-- The number of values. -/
def size (realm : Realm) : Nat := realm.values.size

/-- The value with the given id, if there is one. -/
def get? (realm : Realm) (id : ValueId) : Option (Value ValueId) := realm.values[id.index]?

/-- The id that the next value will have. -/
def nextId (realm : Realm) : ValueId := ⟨realm.size⟩

/-- Adds a value; its id is the `nextId` of the realm before. -/
def add (realm : Realm) (value : Value ValueId) : Realm := ⟨realm.values.push value⟩

theorem index_lt_size_of_get? {realm : Realm} {id : ValueId} {value : Value ValueId}
    (h : realm.get? id = some value) : id.index < realm.size :=
  (Array.getElem?_eq_some_iff.1 h).1

/-- The class with the given id, if the value is a class. -/
def class? (realm : Realm) (id : ValueId) : Option (ClassDef ValueId) :=
  match realm.get? id with
  | some (.classDef definition) => some definition
  | _ => none

/-- The requirements of the interface with the given id, if the value is one. -/
def interface? (realm : Realm) (id : ValueId) : Option (Table String String) :=
  match realm.get? id with
  | some (.interfaceDef requirements) => some requirements
  | _ => none

theorem index_lt_size_of_class? {realm : Realm} {id : ValueId} {definition : ClassDef ValueId}
    (h : realm.class? id = some definition) : id.index < realm.size := by
  cases hget : realm.get? id with
  | none => rw [class?, hget] at h; cases h
  | some value => exact index_lt_size_of_get? hget

/-- The class with the given id, or the reason why it is none. -/
def expectClass (realm : Realm) (id : ValueId) : Except Error (ClassDef ValueId) :=
  match realm.get? id with
  | some (.classDef definition) => .ok definition
  | some other => .error (.notClass id other.kind)
  | none => .error (.missingDefinition id)

/-- The requirements of the interface with the given id, or the reason why it
is none. -/
def expectInterface (realm : Realm) (id : ValueId) : Except Error (Table String String) :=
  match realm.get? id with
  | some (.interfaceDef requirements) => .ok requirements
  | some other => .error (.notInterface id other.kind)
  | none => .error (.missingDefinition id)

theorem expectClass_eq_ok_iff {realm : Realm} {id : ValueId} {definition : ClassDef ValueId} :
    realm.expectClass id = .ok definition ↔ realm.class? id = some definition := by
  unfold expectClass class?
  cases realm.get? id with
  | none => simp
  | some value => cases value <;> simp

theorem class?_eq_none_of_error {realm : Realm} {id : ValueId} {error : Error}
    (h : realm.expectClass id = .error error) : realm.class? id = none := by
  cases hclass : realm.class? id with
  | none => rfl
  | some definition =>
      rw [expectClass_eq_ok_iff.2 hclass] at h
      cases h

theorem expectInterface_eq_ok_iff {realm : Realm} {id : ValueId}
    {requirements : Table String String} :
    realm.expectInterface id = .ok requirements ↔ realm.interface? id = some requirements := by
  unfold expectInterface interface?
  cases realm.get? id with
  | none => simp
  | some value => cases value <;> simp

/-- The entries of the value with the given id; there are none if it is not a
container or does not exist. -/
def entriesOf (realm : Realm) (id : ValueId) : List (String × ValueId) :=
  match (realm.get? id).bind Value.entries? with
  | some entries => entries.entries
  | none => []

theorem entriesOf_eq_nil {realm : Realm} {id : ValueId} (h : ¬ id.index < realm.size) :
    realm.entriesOf id = [] := by
  have hget : realm.get? id = none := Array.getElem?_eq_none (Nat.le_of_not_lt h)
  rw [entriesOf, hget]
  rfl

/-- The entries of all values. -/
def allEntries (realm : Realm) : List (String × ValueId) :=
  ((List.range realm.size).map fun index => realm.entriesOf ⟨index⟩).flatten

theorem length_entriesOf_le (realm : Realm) (id : ValueId) :
    (realm.entriesOf id).length ≤ realm.allEntries.length := by
  by_cases h : id.index < realm.size
  · have hmem : realm.entriesOf id ∈
        (List.range realm.size).map fun index => realm.entriesOf ⟨index⟩ :=
      List.mem_map.2 ⟨id.index, List.mem_range.2 h, rfl⟩
    exact (List.sublist_flatten_of_mem hmem).length_le
  · rw [realm.entriesOf_eq_nil h]
    exact Nat.zero_le _

/-- Puts a value in the place of the one with the given id, if there is one. -/
def replace (realm : Realm) (id : ValueId) (value : Value ValueId) : Realm :=
  ⟨realm.values.setIfInBounds id.index value⟩

/-- Binds `name` in the container to the value. The name must be a segment,
the value must exist, and the container must be one. -/
def setEntry (realm : Realm) (container : ValueId) (name : String) (value : ValueId) :
    Except Error Realm :=
  match SegmentProblem.find? name with
  | some problem => .error (.malformedEntry name problem)
  | none =>
      match realm.get? value with
      | none => .error (.missingValue name value)
      | some _ =>
          match realm.get? container with
          | none => .error (.missingContainer name container)
          | some found =>
              match found.entries? with
              | none => .error (.notContainer name container found.kind)
              | some entries =>
                  .ok (realm.replace container (found.withEntries (entries.insert name value)))

/-- Gives a class another parent, or none; a value that is not a class has no
parent to be changed. -/
def setParent? (realm : Realm) (id : ValueId) (parent : Option ValueId) : Option Realm :=
  match realm.class? id with
  | some definition => some (realm.replace id (.classDef { definition with parent := parent }))
  | none => none

/-- What the class has itself under the name. -/
def ownProperty? (realm : Realm) (id : ValueId) (name : String) : Option Property :=
  (realm.class? id).bind fun definition => definition.prototype.get? name

/-- The class and its ancestors, nearest first: parents are followed as long as
they are classes, and at most `steps` times. -/
def lineageWithin (realm : Realm) : (steps : Nat) → ClassDef ValueId → List (ClassDef ValueId)
  | 0, definition => [definition]
  | steps + 1, definition =>
      definition ::
        match definition.parent.bind realm.class? with
        | some parent => realm.lineageWithin steps parent
        | none => []

/-- The class and its ancestors, nearest first. A chain of as many steps as
there are values has come round and shows nothing new. -/
def lineage (realm : Realm) (definition : ClassDef ValueId) : List (ClassDef ValueId) :=
  realm.lineageWithin realm.size definition

/-- The number of values whose ids are not in the list. -/
def unlisted (realm : Realm) (ids : List ValueId) : Nat :=
  (List.range realm.size).countP fun index => decide (⟨index⟩ ∉ ids)

theorem unlisted_le_of_subset (realm : Realm) {ids more : List ValueId}
    (h : ∀ id ∈ ids, id ∈ more) : realm.unlisted more ≤ realm.unlisted ids := by
  refine List.countP_mono_left fun index _ hindex => ?_
  simp only [decide_eq_true_eq] at hindex ⊢
  exact fun hmem => hindex (h _ hmem)

theorem unlisted_cons_le (realm : Realm) (id : ValueId) (ids : List ValueId) :
    realm.unlisted (id :: ids) ≤ realm.unlisted ids :=
  realm.unlisted_le_of_subset fun _ hmem => List.mem_cons_of_mem id hmem

/-- Marking one more value leaves fewer. -/
theorem unlisted_cons_lt {realm : Realm} {id : ValueId} {ids : List ValueId}
    (hrange : id.index < realm.size) (hfresh : id ∉ ids) :
    realm.unlisted (id :: ids) < realm.unlisted ids := by
  have hmem : id.index ∈ List.range realm.size := List.mem_range.2 hrange
  obtain ⟨before, after, hsplit⟩ := List.append_of_mem hmem
  have hmono : ∀ part : List Nat,
      part.countP (fun index => decide (⟨index⟩ ∉ id :: ids)) ≤
        part.countP fun index => decide (⟨index⟩ ∉ ids) := fun part =>
    List.countP_mono_left fun index _ h => by
      simp only [List.mem_cons, not_or, decide_eq_true_eq] at h ⊢
      exact h.2
  have hbefore := hmono before
  have hafter := hmono after
  rw [unlisted, unlisted, hsplit, List.countP_append, List.countP_append,
    List.countP_cons_of_neg (by simp), List.countP_cons_of_pos (by simpa using hfresh)]
  omega

end Realm

end ClassDiagram
