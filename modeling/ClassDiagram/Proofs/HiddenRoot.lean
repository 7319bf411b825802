import ClassDiagram.Proofs.Binding
import ClassDiagram.Proofs.Naming
import Mathlib.Data.List.TakeWhile

/-!
# A root is hidden from the scopes behind it

A value that is no root of a scope is found if any scope leads to it, whichever
scopes come first. A root is not so lucky. When the turn of its scope comes it
is marked as visited, without having been compared with what is looked for, and
no scope behind that one can come to it any more (`searchFrom_of_visited`). What
counts for a value are therefore the scopes ahead of the first that is rooted at
it (`ahead`), and for these alone the search is complete (`search_spec`).

So the order of the same scopes can decide whether a value has a synthesized
name. It does exactly for a root that a scope rooted elsewhere leads to: if its
own scope is registered first, the root is hidden (`isAnonymous_order_iff`).
-/

namespace ClassDiagram.Scope

variable {realm : Realm} {target : ValueId}

/-! ## The scopes that count -/

/-- The scopes in front of the first that is rooted at the target. -/
def ahead (target : ValueId) (scopes : List (String × ValueId)) : List (String × ValueId) :=
  scopes.takeWhile fun scope => scope.2 ≠ target

theorem explore_of_visited (realm : Realm) {visits : List Visit} (pending : List Visit)
    (h : target ∈ visitedIds visits) :
    (explore realm target visits pending).1 = none := by
  fun_induction explore realm target visits pending with
  | case1 visits => rfl
  | case2 visits visit pending _ ih => exact ih h
  | case3 visits visit pending hfresh htarget => exact absurd (htarget ▸ h) hfresh
  | case4 visits visit pending _ _ ih => exact ih (List.mem_cons_of_mem _ h)

/-- Nothing is found once the target has been visited, and from the scope that
is rooted at the target on it has. -/
theorem searchFrom_of_visited : ∀ (scopes : List (String × ValueId)) (visits : List Visit),
    target ∈ visitedIds visits ∨ (scopes.map Prod.snd).head? = some target →
    (searchFrom realm target visits scopes).1 = none := by
  intro scopes
  induction scopes with
  | nil => exact fun _ _ => rfl
  | cons scope scopes ih =>
      obtain ⟨name, root⟩ := scope
      intro visits h
      have hstart : target ∈ visitedIds (⟨[], root⟩ :: visits) := by
        rcases h with hvisited | hroot
        · exact List.mem_cons_of_mem _ hvisited
        · exact List.mem_cons.2 (.inl (Option.some.inj hroot).symm)
      have hnone := explore_of_visited realm (Visit.children realm ⟨[], root⟩) hstart
      have hafter : target ∈ visitedIds (explore realm target (⟨[], root⟩ :: visits)
        (Visit.children realm ⟨[], root⟩)).2 := mem_visitedIds_explore _ hstart
      rw [searchFrom]
      revert hnone hafter
      rcases explore realm target (⟨[], root⟩ :: visits) (Visit.children realm ⟨[], root⟩) with
        ⟨_ | keys, final⟩
      · exact fun _ hafter => ih final (.inl hafter)
      · intro hnone
        cases hnone

theorem searchFrom_ahead : ∀ (scopes : List (String × ValueId)) (visits : List Visit),
    (searchFrom realm target visits (ahead target scopes)).1 =
      (searchFrom realm target visits scopes).1 := by
  intro scopes
  induction scopes with
  | nil => exact fun _ => rfl
  | cons scope scopes ih =>
      obtain ⟨name, root⟩ := scope
      intro visits
      by_cases hroot : root = target
      · subst hroot
        rw [searchFrom_of_visited ((name, root) :: scopes) visits (.inr rfl)]
        simp [ahead, searchFrom]
      · have hcons :
            ahead target ((name, root) :: scopes) = (name, root) :: ahead target scopes := by
          simp [ahead, hroot]
        rw [hcons, searchFrom, searchFrom]
        rcases explore realm target (⟨[], root⟩ :: visits) (Visit.children realm ⟨[], root⟩) with
          ⟨_ | keys, final⟩
        · exact ih final
        · rfl

/-- The search gives the target the name that the scopes ahead give it one by
one, and finds nothing if none of them leads to it. -/
theorem search_spec (realm : Realm) (scopes : Table String ValueId) (target : ValueId) :
    match (search realm scopes target).1 with
    | some name => NamedBy realm (ahead target scopes.entries) target name
    | none => ∀ scope ∈ ahead target scopes.entries, ¬ Reaches realm scope.2 target := by
  rw [search, ← searchFrom_ahead]
  refine searchFrom_spec realm target _ [] (fun scope hscope => ?_)
    ⟨fun _ hmem => (List.not_mem_nil hmem).elim, fun _ hmem => (List.not_mem_nil hmem).elim⟩
  simpa using List.mem_takeWhile_imp hscope

theorem search_eq_none_iff {scopes : Table String ValueId} :
    (search realm scopes target).1 = none ↔
      ∀ scope ∈ ahead target scopes.entries, ¬ Reaches realm scope.2 target := by
  have hspec := search_spec realm scopes target
  revert hspec
  rcases (search realm scopes target).1 with _ | name
  · exact fun hspec => ⟨fun _ => hspec, fun _ => rfl⟩
  · intro hspec
    obtain ⟨scope, hscope, hreaches⟩ := hspec.reaches
    exact ⟨nofun, fun h => absurd hreaches (h scope hscope)⟩

/-- Some scope that is rooted elsewhere leads to the target. -/
def Reached (realm : Realm) (target : ValueId) (scopes : List (String × ValueId)) : Prop :=
  ∃ scope ∈ scopes, scope.2 ≠ target ∧ Reaches realm scope.2 target

theorem ne_of_mem_ahead {scopes : List (String × ValueId)} {scope : String × ValueId}
    (h : scope ∈ ahead target scopes) : scope ∈ scopes ∧ scope.2 ≠ target :=
  ⟨(List.takeWhile_prefix _).mem h, by simpa using List.mem_takeWhile_imp h⟩

/-- For a value that is no root all scopes count. -/
theorem ahead_eq_self {scopes : List (String × ValueId)} (h : target ∉ scopes.map Prod.snd) :
    ahead target scopes = scopes := by
  refine List.takeWhile_eq_self_iff.2 fun scope hscope => ?_
  have hne : scope.2 ≠ target := fun heq => h (heq ▸ List.mem_map_of_mem hscope)
  simpa using hne

/-- Behind its own scopes nothing counts for a root. -/
theorem ahead_filter_append {scopes rest : List (String × ValueId)}
    (h : target ∈ scopes.map Prod.snd) :
    ahead target (scopes.filter (fun scope => scope.2 = target) ++ rest) = [] := by
  obtain ⟨own, hown, rfl⟩ := List.mem_map.1 h
  have hmem : own ∈ scopes.filter fun scope => scope.2 = own.2 := by simp [hown]
  obtain ⟨first, others, hcons⟩ := List.exists_cons_of_ne_nil (List.ne_nil_of_mem hmem)
  have hfirst : first ∈ scopes.filter fun scope => scope.2 = own.2 := hcons ▸ List.mem_cons_self
  have hroot : first.2 = own.2 := by simpa using (List.mem_filter.1 hfirst).2
  rw [hcons, ahead, List.cons_append, List.takeWhile_cons_of_neg (by simp [hroot])]

namespace Resolver

theorem isAnonymous_resolve_iff {resolver : Resolver} :
    (resolver.resolve realm target).1.isAnonymous = true ↔
      ∀ scope ∈ ahead target resolver.scopes.entries, ¬ Reaches realm scope.2 target := by
  rw [← search_eq_none_iff]
  exact resolver.isAnonymous_nameOf_iff realm target

theorem isAnonymous_or_namedBy {resolver : Resolver} :
    (resolver.resolve realm target).1.isAnonymous = true ∨
      NamedBy realm (ahead target resolver.scopes.entries) target
        (resolver.resolve realm target).1 := by
  have hspec := search_spec realm resolver.scopes target
  rw [show (resolver.resolve realm target).1 = resolver.nameOf realm target from rfl, nameOf_eq]
  revert hspec
  rcases (search realm resolver.scopes target).1 with _ | name
  · exact fun _ => .inl (QualifiedName.isAnonymous_anonymous _)
  · exact .inr

/-! ## The same scopes in another order -/

/-- The scope can be registered. -/
def Registrable (realm : Realm) (scope : String × ValueId) : Prop :=
  IsSegment scope.1 ∧ ∃ found, realm.get? scope.2 = some found ∧ found.isContainer = true

theorem registrable_after {resolver : Resolver}
    (h : ∀ scope ∈ resolver.scopes.entries, Registrable realm scope) (call : Call) :
    ∀ scope ∈ (after realm resolver call).scopes.entries, Registrable realm scope := by
  cases call with
  | resolve id => rw [after, (extends_resolve resolver realm id).scopes]; exact h
  | addScope name value =>
      rw [after]
      cases hnext : resolver.addScope realm name value with
      | error error => exact h
      | ok next =>
          intro scope hscope
          rw [(of_addScope hnext).2.1] at hscope
          rcases Table.mem_entries_of_mem_insert hscope with hold | rfl
          · exact h scope hold
          · exact exists_addScope_iff.1 ⟨next, hnext⟩

theorem registrable_run (realm : Realm) (calls : List Call) :
    ∀ scope ∈ (run realm calls).scopes.entries, Registrable realm scope :=
  List.foldlRecOn calls (after realm)
    (motive := fun resolver => ∀ scope ∈ resolver.scopes.entries, Registrable realm scope)
    (fun _ hscope => (List.not_mem_nil hscope).elim) fun _ h call _ => registrable_after h call

/-- The call that registers the scope. -/
def register (scope : String × ValueId) : Call := .addScope scope.1 scope.2

theorem scopes_after_register {resolver : Resolver} {scope : String × ValueId}
    (h : Registrable realm scope) (hnew : scope.1 ∉ resolver.scopes.keys) :
    (after realm resolver (register scope)).scopes.entries =
      resolver.scopes.entries ++ [scope] := by
  obtain ⟨next, hnext⟩ : ∃ next, resolver.addScope realm scope.1 scope.2 = .ok next :=
    exists_addScope_iff.2 h
  rw [register, after, hnext, (of_addScope hnext).2.1, Table.entries_insert_of_not_mem hnew]

theorem scopes_foldl_register : ∀ (scopes : List (String × ValueId)) (resolver : Resolver),
    (∀ scope ∈ scopes, Registrable realm scope) →
    ((resolver.scopes.entries ++ scopes).map Prod.fst).Nodup →
    ((scopes.map register).foldl (after realm) resolver).scopes.entries =
      resolver.scopes.entries ++ scopes := by
  intro scopes
  induction scopes with
  | nil => exact fun resolver _ _ => (List.append_nil _).symm
  | cons scope scopes ih =>
      intro resolver hscopes hnodup
      have hnew : scope.1 ∉ resolver.scopes.keys := by
        rw [List.map_append, List.nodup_append] at hnodup
        exact fun hmem => hnodup.2.2 _ hmem _ List.mem_cons_self rfl
      have hnext := scopes_after_register (hscopes scope List.mem_cons_self) hnew
      rw [List.append_cons, ← hnext] at hnodup
      rw [List.map_cons, List.foldl_cons, ih _ (fun other hother =>
        hscopes other (List.mem_cons_of_mem _ hother)) hnodup, hnext, List.append_assoc]
      rfl

/-- Whatever scopes have been registered, they can be registered in any order. -/
theorem exists_run_of_perm {calls : List Call} {scopes : List (String × ValueId)}
    (h : scopes.Perm (run realm calls).scopes.entries) :
    ∃ others, (run realm others).scopes.entries = scopes := by
  refine ⟨scopes.map register, scopes_foldl_register scopes ∅ (fun scope hscope => ?_) ?_⟩
  · exact registrable_run realm calls scope (h.mem_iff.1 hscope)
  · exact (h.map Prod.fst).nodup_iff.2 (run realm calls).scopes.keys_nodup

/-- After any calls, a value has a synthesized name if no scope ahead of the
first one rooted at it leads to it, and else the name that these scopes give it.
For a value that is no root, or that no scope rooted elsewhere leads to, the
order in which the scopes were registered makes no difference to that; for any
other value it does. -/
theorem isAnonymous_order_iff (realm : Realm) (calls : List Call) (target : ValueId) :
    let scopes := (run realm calls).scopes
    (((run realm calls).resolve realm target).1.isAnonymous = true ↔
      ∀ scope ∈ ahead target scopes.entries, ¬ Reaches realm scope.2 target) ∧
    (((run realm calls).resolve realm target).1.isAnonymous = true ∨
      NamedBy realm (ahead target scopes.entries) target
        ((run realm calls).resolve realm target).1) ∧
    ((∀ others, (run realm others).scopes.entries.Perm scopes.entries →
        (((run realm others).resolve realm target).1.isAnonymous = true ↔
          ¬ Reached realm target scopes.entries)) ↔
      (target ∈ scopes.values → ¬ Reached realm target scopes.entries)) := by
  intro scopes
  refine ⟨isAnonymous_resolve_iff, isAnonymous_or_namedBy, fun horder hroot hreached => ?_,
    fun h others hperm => ?_⟩
  · -- Registered in front of all others, the scopes rooted at the target hide it.
    have hperm := List.filter_append_perm (fun scope : String × ValueId => scope.2 = target)
      scopes.entries
    obtain ⟨others, hothers⟩ := exists_run_of_perm hperm
    refine (horder others (hothers ▸ hperm)).1 (isAnonymous_resolve_iff.2 ?_) hreached
    rw [hothers, ahead_filter_append hroot]
    exact fun _ hscope => (List.not_mem_nil hscope).elim
  · rw [isAnonymous_resolve_iff]
    refine ⟨fun hnone hreached => ?_, fun hnone scope hscope hreaches => ?_⟩
    · have hroot : target ∉ (run realm others).scopes.entries.map Prod.snd :=
        fun hmem => h ((hperm.map Prod.snd).mem_iff.1 hmem) hreached
      rw [ahead_eq_self hroot] at hnone
      obtain ⟨scope, hscope, _, hreaches⟩ := hreached
      exact hnone scope (hperm.mem_iff.2 hscope) hreaches
    · obtain ⟨hmem, hne⟩ := ne_of_mem_ahead hscope
      exact hnone ⟨scope, hperm.mem_iff.1 hmem, hne, hreaches⟩

/-- A class, and a namespace in which it is found. -/
def hiddenClass : Realm where
  values := #[.classDef {}, .object ⟨[("K", ⟨0⟩)], by decide⟩]

/-- A scope leads to the class, but the class is the root of a scope that has
been registered before. -/
theorem isAnonymous_hiddenClass :
    let calls : List Call := [.addScope "A" ⟨0⟩, .addScope "B" ⟨1⟩]
    let others : List Call := [.addScope "B" ⟨1⟩, .addScope "A" ⟨0⟩]
    Reached hiddenClass ⟨0⟩ (run hiddenClass calls).scopes.entries ∧
      (run hiddenClass others).scopes.entries.Perm (run hiddenClass calls).scopes.entries ∧
      ((run hiddenClass calls).resolve hiddenClass ⟨0⟩).1.isAnonymous = true ∧
      ((run hiddenClass others).resolve hiddenClass ⟨0⟩).1 = ⟨"B.K"⟩ ∧
      ((run hiddenClass others).resolve hiddenClass ⟨0⟩).1.isAnonymous = false := by
  intro calls others
  have hcalls : (run hiddenClass calls).scopes.entries = [("A", ⟨0⟩), ("B", ⟨1⟩)] := by
    decide +kernel
  have hothers : (run hiddenClass others).scopes.entries = [("B", ⟨1⟩), ("A", ⟨0⟩)] := by
    decide +kernel
  have hstep : Step.LeavesFrom hiddenClass ⟨0, "K", ⟨0⟩⟩ ⟨1⟩ := ⟨rfl, by decide⟩
  refine ⟨⟨("B", ⟨1⟩), ?_, by decide, [⟨0, "K", ⟨0⟩⟩], .cons hstep (.nil _)⟩, ?_,
    by decide +kernel, by decide +kernel, by decide +kernel⟩
  · rw [hcalls]
    exact List.mem_cons_of_mem _ List.mem_cons_self
  · rw [hcalls, hothers]
    exact List.Perm.swap _ _ _

end Resolver

end ClassDiagram.Scope
