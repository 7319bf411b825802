/-!
# Tables in insertion order

A prototype, a namespace and a diagram are all lists of names with something
behind each, in the order in which the names were first written down. `Table`
is that list with its names distinct. Writing a bound name again replaces what
stands behind it and leaves it where it is; a new name goes to the end.

The entries are the view: every operation is described by what it does to
`entries`, `keys` or `get?`, and the distinctness of the names is a field of
the structure, so no operation has to check it.
-/

namespace ClassDiagram

/-- A list of entries whose keys are distinct, in the order of insertion. -/
structure Table (κ : Type) (α : Type) where
  /-- The entries, oldest key first. -/
  entries : List (κ × α)
  /-- No key is bound twice. -/
  keys_nodup : (entries.map Prod.fst).Nodup
deriving DecidableEq

namespace Table

variable {κ α β ε : Type}

instance : EmptyCollection (Table κ α) where
  emptyCollection := ⟨[], List.nodup_nil⟩

instance : Inhabited (Table κ α) where
  default := ∅

/-- The keys, oldest first. -/
def keys (t : Table κ α) : List κ := t.entries.map Prod.fst

/-- What stands behind the keys, in the order of the keys. -/
def values (t : Table κ α) : List α := t.entries.map Prod.snd

/-- The number of entries. -/
def size (t : Table κ α) : Nat := t.entries.length

/-- Whether nothing is bound. -/
def isEmpty (t : Table κ α) : Bool := t.entries.isEmpty

theorem ext_entries {t u : Table κ α} (h : t.entries = u.entries) : t = u := by
  cases t
  cases u
  cases h
  rfl

@[simp] theorem entries_empty : (∅ : Table κ α).entries = [] := rfl

section Lookup

variable [DecidableEq κ]

/-- What stands behind `key`, if it is bound. -/
def get? (t : Table κ α) (key : κ) : Option α := t.entries.lookup key

/-- Whether `key` is bound. -/
def contains (t : Table κ α) (key : κ) : Bool := t.keys.contains key

theorem contains_iff {t : Table κ α} {key : κ} : t.contains key = true ↔ key ∈ t.keys := by
  simp [contains]

/-- Replaces what stands behind `key` wherever it is bound. -/
def replaceEntry (key : κ) (value : α) (entries : List (κ × α)) : List (κ × α) :=
  entries.map fun entry => if entry.1 = key then (key, value) else entry

theorem map_fst_replaceEntry (key : κ) (value : α) (entries : List (κ × α)) :
    (replaceEntry key value entries).map Prod.fst = entries.map Prod.fst := by
  induction entries with
  | nil => rfl
  | cons entry rest ih =>
      simp only [replaceEntry, List.map_cons] at ih ⊢
      rw [ih]
      split
      · next h => rw [h]
      · rfl

/-- Binds `key` to `value`: in place if it is bound, at the end if it is not. -/
def insert (t : Table κ α) (key : κ) (value : α) : Table κ α :=
  if h : key ∈ t.keys then
    ⟨replaceEntry key value t.entries, by rw [map_fst_replaceEntry]; exact t.keys_nodup⟩
  else
    ⟨t.entries ++ [(key, value)], by
      rw [List.map_append]
      refine List.nodup_append.2 ⟨t.keys_nodup, by simp, ?_⟩
      intro a ha b hb hab
      rw [List.map_cons, List.map_nil, List.mem_singleton] at hb
      subst hb
      subst hab
      exact h ha⟩

/-- A bound key keeps its place, a new one goes to the end. -/
theorem keys_insert (t : Table κ α) (key : κ) (value : α) :
    (t.insert key value).keys = if key ∈ t.keys then t.keys else t.keys ++ [key] := by
  simp only [insert]
  split
  · exact map_fst_replaceEntry key value t.entries
  · simp [keys]

/-- The table that results from binding the pairs one after the other. -/
def ofList (pairs : List (κ × α)) : Table κ α :=
  pairs.foldl (fun t pair => t.insert pair.1 pair.2) ∅

end Lookup

/-- Changes what stands behind the keys, and neither keys nor order. -/
def map (f : κ → α → β) (t : Table κ α) : Table κ β where
  entries := t.entries.map fun entry => (entry.1, f entry.1 entry.2)
  keys_nodup := by
    rw [List.map_map]
    exact t.keys_nodup

@[simp] theorem keys_map (f : κ → α → β) (t : Table κ α) : (t.map f).keys = t.keys := by
  simp [keys, map, Function.comp_def]

theorem values_map (f : α → β) (t : Table κ α) :
    (t.map fun _ value => f value).values = t.values.map f := by
  simp [values, map, Function.comp_def]

/-- A change that tells the values apart tells the tables apart. -/
theorem map_inj {f : α → β} (hf : ∀ a b, f a = f b → a = b) {t u : Table κ α} :
    (t.map fun _ => f) = (u.map fun _ => f) ↔ t = u := by
  have hentry : ∀ a b : κ × α, (a.1, f a.2) = (b.1, f b.2) → a = b := by
    intro a b h
    rw [Prod.mk.injEq] at h
    exact Prod.ext h.1 (hf _ _ h.2)
  refine ⟨fun h => ?_, fun h => by rw [h]⟩
  exact ext_entries ((List.map_inj_right hentry).1 (congrArg entries h))

/-- The entries whose keys pass the test, in their order. -/
def filterKeys (p : κ → Bool) (t : Table κ α) : Table κ α where
  entries := t.entries.filter fun entry => p entry.1
  keys_nodup := (List.filter_sublist.map Prod.fst).nodup t.keys_nodup

@[simp] theorem keys_filterKeys (p : κ → Bool) (t : Table κ α) :
    (t.filterKeys p).keys = t.keys.filter p := by
  simp [keys, filterKeys, List.filter_map, Function.comp_def]

/-- Maps the entries in order and stops at the first that fails. The
result is paired with the fact that it has the same keys. -/
def traverseEntries (f : κ → α → Except ε β) :
    (entries : List (κ × α)) →
      Except ε { out : List (κ × β) // out.map Prod.fst = entries.map Prod.fst }
  | [] => .ok ⟨[], rfl⟩
  | (key, value) :: rest =>
      match f key value with
      | .error e => .error e
      | .ok image =>
          match traverseEntries f rest with
          | .error e => .error e
          | .ok ⟨out, h⟩ => .ok ⟨(key, image) :: out, by simp [h]⟩

/-- Maps what stands behind each key, in order; the first failure is the
failure of the whole. -/
def traverse (f : κ → α → Except ε β) (t : Table κ α) : Except ε (Table κ β) :=
  match traverseEntries f t.entries with
  | .error e => .error e
  | .ok ⟨out, h⟩ => .ok ⟨out, by rw [h]; exact t.keys_nodup⟩

end Table

end ClassDiagram
