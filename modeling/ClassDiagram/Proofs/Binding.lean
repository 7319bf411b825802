import ClassDiagram.Table
import Mathlib.Data.List.Induction

/-!
# What stands in a table

Tables are built by binding one pair after another. Of a key that is bound more
than once the first binding decides its place and the last one its value: so a
table keeps the keys in the order in which they first appear in the list
(`keys_ofList`), and finds the value by reading the list from its end
(`get?_ofList`). Neither depends on the values, so it makes no difference whether
these are changed before the pairs are bound or after (`ofList_map`).
-/

namespace ClassDiagram

theorem eraseDups_concat {α : Type} [BEq α] [LawfulBEq α] [DecidableEq α] (xs : List α) (x : α) :
    (xs ++ [x]).eraseDups = if x ∈ xs then xs.eraseDups else xs.eraseDups ++ [x] := by
  rw [List.eraseDups_append]
  split
  · next hmem => simp [List.removeAll, hmem]
  · next hmem => simp [List.removeAll, hmem, List.eraseDups_cons]

namespace Table

variable {κ α β : Type} [DecidableEq κ] {t : Table κ α} {key : κ} {value : α}

theorem entries_insert_of_not_mem (h : key ∉ t.keys) :
    (t.insert key value).entries = t.entries ++ [(key, value)] := by
  rw [insert, dif_neg h]

theorem mem_entries_insert {other : κ} {found : α} :
    (other, found) ∈ (t.insert key value).entries ↔
      if other = key then found = value else (other, found) ∈ t.entries := by
  rw [insert]
  split
  · next hbound =>
      obtain ⟨old, hold, hkey⟩ := List.mem_map.1 hbound
      refine List.mem_map.trans ⟨?_, ?_⟩
      · rintro ⟨entry, hentry, hsame⟩
        split at hsame
        · cases hsame
          simp
        · next hne =>
            cases hsame
            rw [if_neg hne]
            exact hentry
      · intro h
        split at h
        · next heq => exact ⟨old, hold, by rw [if_pos hkey, heq, h]⟩
        · next hne => exact ⟨(other, found), h, if_neg hne⟩
  · next hnew =>
      rw [List.mem_append, List.mem_singleton, Prod.mk.injEq]
      split
      · next heq =>
          subst heq
          have habsent : (other, found) ∉ t.entries := fun hmem =>
            hnew (List.mem_map.2 ⟨_, hmem, rfl⟩)
          simp [habsent]
      · next hne => simp [hne]

theorem mem_entries_of_mem_insert {entry : κ × α} (h : entry ∈ (t.insert key value).entries) :
    entry ∈ t.entries ∨ entry = (key, value) := by
  rw [mem_entries_insert] at h
  split at h
  · next hkey => exact .inr (Prod.ext hkey h)
  · exact .inl h

theorem lookup_cons_ite (key : κ) (entry : κ × α) (entries : List (κ × α)) :
    (entry :: entries).lookup key = if key = entry.1 then some entry.2 else entries.lookup key := by
  rw [List.lookup_cons]
  split
  · next h => rw [if_pos (eq_of_beq h)]
  · next h => rw [if_neg (ne_of_beq_false h)]

/-- The entries of a table are found by their keys. -/
theorem get?_eq_some_iff : t.get? key = some value ↔ (key, value) ∈ t.entries := by
  obtain ⟨entries, hnodup⟩ := t
  rw [get?]
  induction entries with
  | nil => simp
  | cons entry entries ih =>
      obtain ⟨hfirst, hrest⟩ := List.nodup_cons.1 hnodup
      rw [lookup_cons_ite, List.mem_cons]
      split
      · next h =>
          subst h
          have habsent : (entry.1, value) ∉ entries :=
            fun hmem => hfirst (List.mem_map.2 ⟨_, hmem, rfl⟩)
          rw [Option.some.injEq, Prod.ext_iff]
          simp [habsent, eq_comm]
      · next h =>
          have hne : (key, value) ≠ entry := fun heq => h (congrArg Prod.fst heq)
          rw [ih hrest]
          simp [hne]

theorem get?_insert (t : Table κ α) (key other : κ) (value : α) :
    (t.insert key value).get? other = if other = key then some value else t.get? other := by
  refine Option.ext fun found => ?_
  rw [get?_eq_some_iff, mem_entries_insert]
  split
  · exact ⟨fun h => congrArg some h.symm, fun h => (Option.some.inj h).symm⟩
  · exact get?_eq_some_iff.symm

theorem ofList_concat (pairs : List (κ × α)) (pair : κ × α) :
    ofList (pairs ++ [pair]) = (ofList pairs).insert pair.1 pair.2 := by
  rw [ofList, List.foldl_append]
  rfl

/-- The keys stand in the order of their first appearance. -/
theorem keys_ofList (pairs : List (κ × α)) :
    (ofList pairs).keys = (pairs.map Prod.fst).eraseDups := by
  induction pairs using List.reverseRecOn with
  | nil => rfl
  | append_singleton pairs pair ih =>
      rw [ofList_concat, keys_insert, ih, List.map_append, List.map_cons, List.map_nil,
        eraseDups_concat]
      simp only [List.mem_eraseDups]

/-- The last value of a key is the one that is kept. -/
theorem get?_ofList (pairs : List (κ × α)) (key : κ) :
    (ofList pairs).get? key = pairs.reverse.lookup key := by
  induction pairs using List.reverseRecOn with
  | nil => rfl
  | append_singleton pairs pair ih =>
      rw [ofList_concat, get?_insert, ih, List.reverse_append]
      exact (lookup_cons_ite key pair pairs.reverse).symm

/-- Binding commutes with changing what stands behind the keys. -/
theorem map_insert (f : κ → α → β) (t : Table κ α) (key : κ) (value : α) :
    (t.insert key value).map f = (t.map f).insert key (f key value) := by
  refine ext_entries ?_
  by_cases hbound : key ∈ t.keys
  · have hbound' : key ∈ (t.map f).keys := by rwa [keys_map]
    rw [insert, insert, dif_pos hbound, dif_pos hbound']
    simp only [map, replaceEntry, List.map_map]
    refine List.map_congr_left fun entry _ => ?_
    simp only [Function.comp_apply]
    split
    · rfl
    · rfl
  · have hbound' : key ∉ (t.map f).keys := by rwa [keys_map]
    rw [insert, insert, dif_neg hbound, dif_neg hbound']
    exact List.map_append

/-- What stands behind the keys can be changed before or after the pairs are bound. -/
theorem ofList_map (f : κ → α → β) (pairs : List (κ × α)) :
    ofList (pairs.map fun pair => (pair.1, f pair.1 pair.2)) = (ofList pairs).map f := by
  induction pairs using List.reverseRecOn with
  | nil => rfl
  | append_singleton pairs pair ih =>
      rw [List.map_append, List.map_singleton, ofList_concat, ofList_concat, map_insert, ih]

/-- Pairs with different keys are the entries of the table to which they are bound. -/
theorem entries_ofList {pairs : List (κ × α)} (h : (pairs.map Prod.fst).Nodup) :
    (ofList pairs).entries = pairs := by
  induction pairs using List.reverseRecOn with
  | nil => rfl
  | append_singleton pairs pair ih =>
      rw [List.map_append, List.map_singleton] at h
      obtain ⟨hpairs, _, hdisjoint⟩ := List.nodup_append.1 h
      have hentries := ih hpairs
      have hnew : pair.1 ∉ (ofList pairs).keys := by
        rw [keys, hentries]
        exact fun hmem => hdisjoint _ hmem _ (List.mem_singleton_self _) rfl
      rw [ofList_concat, entries_insert_of_not_mem hnew, hentries]

theorem entries_ofList_ne_nil {pairs : List (κ × α)} (h : pairs ≠ []) :
    (ofList pairs).entries ≠ [] := by
  obtain ⟨pair, pairs, rfl⟩ := List.exists_cons_of_ne_nil h
  have hbound : pair.1 ∈ (ofList (pair :: pairs)).keys := by
    rw [keys_ofList, List.mem_eraseDups]
    exact List.mem_cons_self
  intro hnil
  rw [keys, hnil] at hbound
  cases hbound

theorem ofList_entries (t : Table κ α) : ofList t.entries = t :=
  ext_entries (entries_ofList t.keys_nodup)

end Table

end ClassDiagram
