import ClassDiagram.Realm

/-!
# Searching the scopes

A value is named by the path under which a search first meets it. The search
goes through the scopes in order and through the entries of each container in
order, and follows an entry to the end before it turns to the next. An entry
whose key is not a segment is passed over, because a path through it could be
read as another path.

The search keeps a list of its visits, the latest first. A value that has been
visited is not visited again, in this scope or a later one, so the list is
both the record of the search and the reason why it ends. The root of a scope
is put on the list when the turn of its scope comes, and is never compared
with what is looked for: the path to a root would have no keys.
-/

namespace ClassDiagram.Scope

/-- A value that the search has come to, and the keys that lead to it from the
root of the scope. -/
structure Visit where
  /-- The keys, from the root on. -/
  keys : List String
  /-- The value. -/
  id : ValueId
deriving DecidableEq, Repr

namespace Visit

/-- The visits that the entries of a visited value lead to, in order. -/
def children (realm : Realm) (visit : Visit) : List Visit :=
  ((realm.entriesOf visit.id).filter fun entry => decide (IsSegment entry.1)).map
    fun entry => ⟨visit.keys ++ [entry.1], entry.2⟩

theorem children_eq_nil {realm : Realm} {visit : Visit} (h : ¬ visit.id.index < realm.size) :
    visit.children realm = [] := by
  rw [children, realm.entriesOf_eq_nil h]
  rfl

theorem length_children_le (realm : Realm) (visit : Visit) :
    (visit.children realm).length ≤ realm.allEntries.length := by
  rw [children, List.length_map]
  exact Nat.le_trans List.filter_sublist.length_le (realm.length_entriesOf_le visit.id)

end Visit

/-- The values that have been visited. -/
def visitedIds (visits : List Visit) : List ValueId := visits.map Visit.id

/-- A bound for the visits that are still to be made. Each value that is not marked may
leave as many visits pending as there are entries. -/
def effort (realm : Realm) (visits pending : List Visit) : Nat :=
  realm.unlisted (visitedIds visits) * (realm.allEntries.length + 1) + pending.length

/-- Less is left to be done once a value has been marked, and maybe others with it, if
no more is pending than what it leads to and what was pending behind it. -/
theorem effort_lt {realm : Realm} {visits pending more next : List Visit} {visit : Visit}
    (hfresh : visit.id ∉ visitedIds visits)
    (hmore : ∀ id ∈ visit.id :: visitedIds visits, id ∈ visitedIds more)
    (hnext : next.length ≤ (visit.children realm ++ pending).length) :
    effort realm more next < effort realm visits (visit :: pending) := by
  have hmarked := realm.unlisted_le_of_subset hmore
  rw [List.length_append] at hnext
  rw [effort, effort, List.length_cons]
  by_cases hrange : visit.id.index < realm.size
  · have hless := Nat.lt_of_le_of_lt hmarked (Realm.unlisted_cons_lt hrange hfresh)
    have hweight := Nat.mul_le_mul_right (realm.allEntries.length + 1) (Nat.succ_le_of_lt hless)
    have hchildren := visit.length_children_le realm
    rw [Nat.succ_mul] at hweight
    omega
  · have hle := Nat.le_trans hmarked (realm.unlisted_cons_le visit.id (visitedIds visits))
    have hweight := Nat.mul_le_mul_right (realm.allEntries.length + 1) hle
    rw [visit.children_eq_nil hrange, List.length_nil] at hnext
    omega

/-- Makes the pending visits, in order, and before the next one those that it
leads to. Ends with the keys that lead to the target, or with nothing pending.

Each step either marks one more value of the realm or leaves less pending: an
id that is not in the realm has no entries. The bound is a number, so that a
search of a given realm can be evaluated in a proof. -/
def explore (realm : Realm) (target : ValueId) (visits : List Visit) :
    (pending : List Visit) → Option (List String) × List Visit
  | [] => (none, visits)
  | visit :: pending =>
      if visit.id ∈ visitedIds visits then explore realm target visits pending
      else if visit.id = target then (some visit.keys, visit :: visits)
      else explore realm target (visit :: visits) (visit.children realm ++ pending)
termination_by pending => effort realm visits pending
decreasing_by
  · exact Nat.lt_succ_self _
  · next hfresh _ => exact effort_lt hfresh (fun _ hmem => hmem) (Nat.le_refl _)

/-- Searches the scopes, in order, after the given visits. -/
def searchFrom (realm : Realm) (target : ValueId) (visits : List Visit) :
    (scopes : List (String × ValueId)) → Option QualifiedName × List Visit
  | [] => (none, visits)
  | (scope, root) :: scopes =>
      let start : Visit := ⟨[], root⟩
      match explore realm target (start :: visits) (start.children realm) with
      | (some keys, final) => (some (QualifiedName.ofPath scope keys), final)
      | (none, final) => searchFrom realm target final scopes

/-- The name of the target by way of the scopes, if they lead to it, and the
visits that were made to find out, the latest first. -/
def search (realm : Realm) (scopes : Table String ValueId) (target : ValueId) :
    Option QualifiedName × List Visit :=
  searchFrom realm target [] scopes.entries

end ClassDiagram.Scope
