import ClassDiagram.Proofs.Binding
import ClassDiagram.Proofs.Naming

/-!
# A scope that is registered late

A scope with a new name is searched behind the others. The search of these does
not depend on what comes behind them: all that is handed from scope to scope is
the list of the visits, and it is only handed on. So whatever the older scopes
have found they find again, under the same name, and the new one has its turn
for those values only to which they do not lead (`searchFrom_append`). Some of
these it gives a name that starts with its own. The others are left to the list
of the synthesized names, which registering a scope does not touch.

The name has to be new. A scope that is registered under the name of another
takes its place, and what the other had found may then be found elsewhere or not
at all.
-/

namespace ClassDiagram

/-- A name that starts with a segment can be read up to its first dot. -/
theorem QualifiedName.takeWhile_toList_ofPath {first : String} (h : IsSegment first)
    (path : List String) :
    (ofPath first path).text.toList.takeWhile (· ≠ '.') = first.toList := by
  have hfirst : ∀ c ∈ first.toList, decide (c ≠ '.') = true :=
    fun c hc => decide_eq_true fun hdot => h.2.1 (hdot ▸ hc)
  rw [ofPath, toList_foldl_child, List.takeWhile_append_of_pos hfirst]
  cases path with
  | nil => simp
  | cons key path => simp

theorem QualifiedName.first_eq_of_ofPath_eq {first other : String} {path keys : List String}
    (hfirst : IsSegment first) (hother : IsSegment other)
    (h : ofPath first path = ofPath other keys) : first = other := by
  refine String.toList_inj.1 ?_
  rw [← takeWhile_toList_ofPath hfirst path, h, takeWhile_toList_ofPath hother]

namespace Scope

variable {realm : Realm}

/-- The name is that of the scope and the keys of a trail from its root. -/
def NamedWithin (realm : Realm) (scope : String × ValueId) (id : ValueId) (name : QualifiedName) :
    Prop :=
  ∃ steps, steps ≠ [] ∧ Trail realm scope.2 steps id ∧
    name = QualifiedName.ofPath scope.1 (steps.map Step.key)

/-- More scopes are searched only if the others have been searched in vain, and
then from the visits that this has taken. -/
theorem searchFrom_append {target : ValueId} (more : List (String × ValueId)) :
    ∀ (scopes : List (String × ValueId)) (visits : List Visit),
    searchFrom realm target visits (scopes ++ more) =
      match searchFrom realm target visits scopes with
      | (some name, final) => (some name, final)
      | (none, final) => searchFrom realm target final more := by
  intro scopes
  induction scopes with
  | nil => exact fun _ => rfl
  | cons scope scopes ih =>
      obtain ⟨name, root⟩ := scope
      intro visits
      rw [List.cons_append, searchFrom, searchFrom]
      rcases explore realm target (⟨[], root⟩ :: visits) (Visit.children realm ⟨[], root⟩) with
        ⟨_ | keys, final⟩
      · exact ih final
      · rfl

/-- What has been found is found again, and what is found besides is found in
one of the scopes behind. -/
theorem search_append {older newer : Table String ValueId} {more : List (String × ValueId)}
    (h : newer.entries = older.entries ++ more) (id : ValueId) :
    (search realm newer id).1 = (search realm older id).1 ∨
      (search realm older id).1 = none ∧
        ∃ name, (search realm newer id).1 = some name ∧
          ∃ scope ∈ more, NamedWithin realm scope id name := by
  rw [search, search, h, searchFrom_append]
  rcases searchFrom realm id [] older.entries with ⟨_ | found, visits⟩
  · cases hmore : (searchFrom realm id visits more).1 with
    | none => exact .inl rfl
    | some name => exact .inr ⟨rfl, name, rfl, searchFrom_sound hmore⟩
  · exact .inl rfl

namespace Resolver

variable {resolver later next : Resolver} {id value : ValueId} {name : String}

theorem entries_addScope (h : resolver.addScope realm name value = .ok next)
    (hnew : name ∉ resolver.scopes.keys) :
    next.scopes.entries = resolver.scopes.entries ++ [(name, value)] := by
  rw [(of_addScope h).2.1, Table.entries_insert_of_not_mem hnew]

theorem nameOf_addScope (h : resolver.addScope realm name value = .ok next)
    (hnew : name ∉ resolver.scopes.keys) (id : ValueId) :
    next.nameOf realm id = resolver.nameOf realm id ∨
      (resolver.nameOf realm id).isAnonymous = true ∧
        NamedWithin realm (name, value) id (next.nameOf realm id) := by
  rw [isAnonymous_nameOf_iff, nameOf_eq, nameOf_eq, (of_addScope h).2.2]
  rcases search_append (entries_addScope h hnew) id with hsame | ⟨hnone, found, hfound, hwithin⟩
  · exact .inl (by rw [hsame])
  · obtain ⟨scope, hscope, hnamed⟩ := hwithin
    cases List.mem_singleton.1 hscope
    refine .inr ⟨hnone, ?_⟩
    rw [hfound]
    exact hnamed

/-- Registering a scope under a new name changes no name that a scope has given.
A value with a synthesized name keeps it, or would still get the next one, or
has a name in the new scope. In the older scopes nothing is found that was not
found under the same name before. -/
theorem resolve_addScope (h : resolver.addScope realm name value = .ok next)
    (hnew : name ∉ resolver.scopes.keys) (id : ValueId) :
    let before := (resolver.resolve realm id).1
    let after := (next.resolve realm id).1
    (before.isAnonymous = false → after = before) ∧
    (before.isAnonymous = true →
      after = before ∧
        (id ∉ resolver.unscoped → after = .anonymous (resolver.anonymousCount + 1)) ∨
      NamedWithin realm (name, value) id after) ∧
    ∀ scope ∈ resolver.scopes.keys, ∀ keys,
      after = .ofPath scope keys → before = .ofPath scope keys := by
  intro before after
  have hcases := nameOf_addScope h hnew id
  refine ⟨fun hscoped => ?_, fun hanonymous => ?_, fun scope hscope keys hafter => ?_⟩
  · rcases hcases with hsame | ⟨hanonymous, _⟩
    · exact hsame
    · exact absurd (hscoped.symm.trans hanonymous) nofun
  · refine hcases.imp (fun hsame => ⟨hsame, fun hunknown => ?_⟩) And.right
    have hnone := (isAnonymous_nameOf_iff resolver realm id).1 hanonymous
    rw [show after = resolver.nameOf realm id from hsame, nameOf_eq, hnone, Option.getD_none,
      List.idxOf_eq_length hunknown]
    rfl
  · rcases hcases with hsame | ⟨_, steps, _, _, hnamed⟩
    · exact hsame.symm.trans hafter
    · -- The first segment of a name within the new scope is the new scope.
      have hfirst := QualifiedName.first_eq_of_ofPath_eq (resolver.scopes_named scope hscope)
        (of_addScope h).1 (hafter.symm.trans hnamed)
      exact absurd (hfirst ▸ hscope) hnew

/-- Two classes and two namespaces. The second leads back to the first and by
way of it to what is in there. -/
def twoWings : Realm where
  values := #[
    .classDef {},
    .classDef {},
    .object ⟨[("A", ⟨0⟩), ("Self", ⟨2⟩)], by decide⟩,
    .object ⟨[("Back", ⟨2⟩), ("A", ⟨0⟩), ("K", ⟨1⟩)], by decide⟩]

theorem resolve_addScope_twoWings :
    let older := run twoWings [.addScope "Old" ⟨2⟩]
    let newer := run twoWings [.addScope "Old" ⟨2⟩, .addScope "New" ⟨3⟩]
    older.addScope twoWings "New" ⟨3⟩ = .ok newer ∧ "New" ∉ older.scopes.keys ∧
      (newer.resolve twoWings ⟨0⟩).1 = ⟨"Old.A"⟩ ∧
      (older.resolve twoWings ⟨1⟩).1 = ⟨"Anonymous1"⟩ ∧
      (newer.resolve twoWings ⟨1⟩).1 = ⟨"New.K"⟩ := by
  intro older newer
  have hnext : older.addScope twoWings "New" ⟨3⟩ = .ok newer := rfl
  have holder : older.scopes.entries = [("Old", ⟨2⟩)] := rfl
  have hnewer : newer.scopes.entries = [("Old", ⟨2⟩), ("New", ⟨3⟩)] := rfl
  have hold : Visit.children twoWings ⟨[], ⟨2⟩⟩ = [⟨["A"], ⟨0⟩⟩, ⟨["Self"], ⟨2⟩⟩] := by decide
  have hnew : Visit.children twoWings ⟨[], ⟨3⟩⟩ =
      [⟨["Back"], ⟨2⟩⟩, ⟨["A"], ⟨0⟩⟩, ⟨["K"], ⟨1⟩⟩] := by decide
  have hclass : Visit.children twoWings ⟨["A"], ⟨0⟩⟩ = [] := by decide
  have hfound : (search twoWings older.scopes ⟨0⟩).1 = some ⟨"Old.A"⟩ := by
    simp [search, holder, searchFrom, explore, hold, visitedIds, QualifiedName.ofPath,
      QualifiedName.child]
  have hmissed : (search twoWings older.scopes ⟨1⟩).1 = none := by
    simp [search, holder, searchFrom, explore, hold, hclass, visitedIds]
  have hlate : (search twoWings newer.scopes ⟨1⟩).1 = some ⟨"New.K"⟩ := by
    simp [search, hnewer, searchFrom, explore, hold, hnew, hclass, visitedIds,
      QualifiedName.ofPath, QualifiedName.child]
  have hbefore : (older.resolve twoWings ⟨0⟩).1 = ⟨"Old.A"⟩ := by
    rw [← nameOf, nameOf_eq, hfound, Option.getD_some]
  refine ⟨hnext, by decide, ?_, ?_, ?_⟩
  · have hscoped : (older.resolve twoWings ⟨0⟩).1.isAnonymous = false := by
      rw [hbefore]
      decide
    exact ((resolve_addScope hnext (by decide) ⟨0⟩).1 hscoped).trans hbefore
  · rw [← nameOf, nameOf_eq, hmissed]
    decide
  · rw [← nameOf, nameOf_eq, hlate, Option.getD_some]

/-! ## Any number of scopes -/

/-- The name of the scope that the call registers, if it registers one. -/
def Call.scope? : Call → Option String
  | .addScope name _ => some name
  | .resolve _ => none

/-- As long as no name is registered twice, scopes are only added behind. -/
theorem entries_prefix_foldl_after (realm : Realm) : ∀ (calls : List Call) (resolver : Resolver),
    (resolver.scopes.keys ++ calls.filterMap Call.scope?).Nodup →
    resolver.scopes.entries <+: (calls.foldl (after realm) resolver).scopes.entries := by
  intro calls
  induction calls with
  | nil => exact fun resolver _ => List.prefix_refl _
  | cons call calls ih =>
      intro resolver hnodup
      rw [List.foldl_cons]
      cases call with
      | resolve id =>
          have hscopes := (extends_resolve resolver realm id).scopes
          have hrest := ih (after realm resolver (.resolve id))
          rw [after, hscopes] at hrest
          exact hrest hnodup
      | addScope name value =>
          have hcons : (Call.addScope name value :: calls).filterMap Call.scope? =
              name :: calls.filterMap Call.scope? := rfl
          rw [hcons] at hnodup
          rw [after]
          cases hnext : resolver.addScope realm name value with
          | error error =>
              refine ih resolver (hnodup.sublist ?_)
              exact (List.Sublist.refl _).append (List.sublist_cons_self _ _)
          | ok next =>
              have hnew : name ∉ resolver.scopes.keys := fun hmem =>
                (List.nodup_append.1 hnodup).2.2 _ hmem _ List.mem_cons_self rfl
              have hentries := entries_addScope hnext hnew
              have hkeys : next.scopes.keys = resolver.scopes.keys ++ [name] := by
                rw [Table.keys, hentries, List.map_append]
                rfl
              refine List.IsPrefix.trans ⟨_, hentries.symm⟩ (ih next ?_)
              rw [hkeys, List.append_assoc]
              exact hnodup

/-- A name that a scope has given stays through any calls by which no scope gives
up its place. -/
theorem nameOf_foldl_after (calls : List Call)
    (hnodup : (resolver.scopes.keys ++ calls.filterMap Call.scope?).Nodup)
    (hscoped : (resolver.nameOf realm id).isAnonymous = false) :
    (calls.foldl (after realm) resolver).nameOf realm id = resolver.nameOf realm id := by
  obtain ⟨more, hmore⟩ := entries_prefix_foldl_after realm calls resolver hnodup
  have hfound : (search realm resolver.scopes id).1 ≠ none := by
    rw [ne_eq, ← isAnonymous_nameOf_iff, hscoped]
    exact Bool.false_ne_true
  have hsame := (search_append hmore.symm id).resolve_right fun h => hfound h.1
  rw [nameOf_eq, nameOf_eq, hsame]
  obtain ⟨name, hname⟩ := Option.ne_none_iff_exists'.1 hfound
  rw [hname, Option.getD_some, Option.getD_some]

end Resolver

end Scope

end ClassDiagram
