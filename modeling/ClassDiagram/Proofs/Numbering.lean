import ClassDiagram.Proofs.Binding
import ClassDiagram.Proofs.Naming

/-!
# How synthesized names are numbered

A value that no scope leads to is called by a number, and the numbers follow the
order in which such values are first asked for. This file reads that order off
the history of a resolver without looking into its memory: `missed` lists the
values for which the search came up empty, each at its first time. The memory is
that list after any history (`unscoped_run`), whatever scopes were registered or
replaced in between. So the count is the length of the list, the number of a
value is its place in it, and neither a name that a scope gives for a while nor a
scope that comes later takes the number away (`resolve_eq_anonymous`).
-/

namespace ClassDiagram.Scope.Resolver

variable {realm : Realm}

/-- The value that the call asks for, if no scope leads to it at the time. -/
def missedBy (realm : Realm) (resolver : Resolver) : Call → Option ValueId
  | .addScope _ _ => none
  | .resolve id => if (search realm resolver.scopes id).1 = none then some id else none

/-- The values that calls ask for in vain, one for each such call. -/
def misses (realm : Realm) : Resolver → List Call → List ValueId
  | _, [] => []
  | resolver, call :: calls =>
      (missedBy realm resolver call).toList ++ misses realm (after realm resolver call) calls

/-- The values that were asked for in vain in a history, in the order of their
first times. -/
def missed (realm : Realm) (calls : List Call) : List ValueId := (misses realm ∅ calls).eraseDups

theorem misses_append (realm : Realm) (more : List Call) : ∀ (calls : List Call)
    (resolver : Resolver), misses realm resolver (calls ++ more) =
      misses realm resolver calls ++ misses realm (calls.foldl (after realm) resolver) more := by
  intro calls
  induction calls with
  | nil => exact fun resolver => rfl
  | cons call calls ih =>
      intro resolver
      rw [List.cons_append, misses, misses, ih, List.append_assoc]
      rfl

/-- The history before is not reordered by what comes later. -/
theorem missed_prefix (realm : Realm) (calls more : List Call) :
    missed realm calls <+: missed realm (calls ++ more) := by
  rw [missed, missed, misses_append, List.eraseDups_append]
  exact List.prefix_append _ _

theorem unscoped_after {resolver : Resolver} {past : List ValueId}
    (h : resolver.unscoped = past.eraseDups) (call : Call) :
    (after realm resolver call).unscoped =
      (past ++ (missedBy realm resolver call).toList).eraseDups := by
  cases call with
  | addScope name value =>
      rw [missedBy, Option.toList_none, List.append_nil, after]
      cases hnext : resolver.addScope realm name value with
      | error error => exact h
      | ok next => exact (of_addScope hnext).2.2.trans h
  | resolve id =>
      rw [missedBy, after, resolve]
      split
      · next name hfound => rw [hfound, if_neg (by simp), Option.toList_none, List.append_nil, h]
      · next hnone =>
          rw [if_pos hnone, Option.toList_some, eraseDups_concat]
          -- The memory lists the same values as the past, so both ask the same question.
          have hmem : id ∈ resolver.unscoped ↔ id ∈ past := by rw [h, List.mem_eraseDups]
          split
          · next hknown => rw [if_pos (hmem.1 hknown)]; exact h
          · next hnew => rw [if_neg (fun hpast => hnew (hmem.2 hpast)), ← h]

theorem unscoped_foldl : ∀ (calls : List Call) (resolver : Resolver) (past : List ValueId),
    resolver.unscoped = past.eraseDups →
    (calls.foldl (after realm) resolver).unscoped =
      (past ++ misses realm resolver calls).eraseDups := by
  intro calls
  induction calls with
  | nil =>
      intro resolver past h
      rw [misses, List.append_nil]
      exact h
  | cons call calls ih =>
      intro resolver past h
      rw [List.foldl_cons, misses, ← List.append_assoc]
      exact ih _ _ (unscoped_after h call)

/-- What a resolver remembers is what was asked for in vain. -/
theorem unscoped_run (realm : Realm) (calls : List Call) :
    (run realm calls).unscoped = missed realm calls :=
  unscoped_foldl calls ∅ [] rfl

theorem run_concat (realm : Realm) (calls : List Call) (id : ValueId) :
    run realm (calls ++ [.resolve id]) = ((run realm calls).resolve realm id).2 := by
  rw [run, List.foldl_append]
  rfl

/-- At the time of the call: the name has the number of the place that the value
has from then on. -/
theorem exists_place {calls : List Call} {id : ValueId}
    (hnone : (search realm (run realm calls).scopes id).1 = none) :
    ∃ place, (missed realm (calls ++ [.resolve id]))[place]? = some id ∧
      ((run realm calls).resolve realm id).1 = .anonymous (place + 1) := by
  have hscopes := (extends_resolve (run realm calls) realm id).scopes
  have hsettled := settled_resolve (run realm calls) realm id
  have hmem := hsettled (hscopes ▸ hnone)
  have hname := nameOf_resolve (run realm calls) realm id
  rw [nameOf_eq, hscopes, hnone, Option.getD_none] at hname
  rw [← unscoped_run, run_concat]
  refine ⟨((run realm calls).resolve realm id).2.unscoped.idxOf id, ?_, hname.symm⟩
  rw [List.getElem?_eq_getElem (List.idxOf_lt_length_of_mem hmem), List.getElem_idxOf]

/-- In any history: the count is the number of different values that were asked
for in vain; each time one of them was, it got the number of its place among
them; and so it was called the same each time. -/
theorem resolve_eq_anonymous (realm : Realm) (calls : List Call) :
    (run realm calls).anonymousCount = (missed realm calls).length ∧
    (∀ before id later, calls = before ++ .resolve id :: later →
      (search realm (run realm before).scopes id).1 = none →
      ∃ place, (missed realm calls)[place]? = some id ∧
        ((run realm before).resolve realm id).1 = ⟨"Anonymous" ++ toString (place + 1)⟩) ∧
    ∀ before id between later,
      calls = before ++ .resolve id :: (between ++ .resolve id :: later) →
      (search realm (run realm before).scopes id).1 = none →
      (search realm (run realm (before ++ .resolve id :: between)).scopes id).1 = none →
      ((run realm (before ++ .resolve id :: between)).resolve realm id).1 =
        ((run realm before).resolve realm id).1 := by
  have hplace : ∀ before id later, calls = before ++ .resolve id :: later →
      (search realm (run realm before).scopes id).1 = none →
      ∃ place, (missed realm calls)[place]? = some id ∧
        ((run realm before).resolve realm id).1 = .anonymous (place + 1) := by
    rintro before id later rfl hnone
    obtain ⟨place, hget, hname⟩ := exists_place hnone
    obtain ⟨rest, hrest⟩ := missed_prefix realm (before ++ [.resolve id]) later
    rw [List.append_assoc] at hrest
    refine ⟨place, ?_, hname⟩
    have hall : missed realm (before ++ .resolve id :: later) =
        missed realm (before ++ [.resolve id]) ++ rest := hrest.symm
    rw [hall, List.getElem?_append_left (List.getElem?_eq_some_iff.1 hget).1]
    exact hget
  refine ⟨congrArg List.length (unscoped_run realm calls), hplace, ?_⟩
  intro before id between later hcalls hfirst hsecond
  obtain ⟨place, hget, hname⟩ := hplace before id _ hcalls hfirst
  obtain ⟨place', hget', hname'⟩ := hplace _ id later (by rw [hcalls]; simp) hsecond
  have hnodup := (run realm calls).unscoped_nodup
  rw [unscoped_run] at hnodup
  have hrange := (List.getElem?_eq_some_iff.1 hget).1
  have hsame : place = place' := (List.getElem?_inj hrange hnodup).1 (hget.trans hget'.symm)
  rw [hname, hname', hsame]

/-- A class, a namespace in which it is found, and one that is empty. -/
def openHouse : Realm where
  values := #[.classDef {}, .object ⟨[("G", ⟨0⟩)], by decide⟩, .object ∅]

/-- The class is asked for before a scope leads to it, while one does, and after
that scope has been replaced; in between, so is an id without a value. -/
def comings : List Call :=
  [.resolve ⟨0⟩, .addScope "S" ⟨1⟩, .resolve ⟨0⟩, .resolve ⟨7⟩, .addScope "S" ⟨2⟩]

theorem resolve_eq_anonymous_openHouse :
    ((run openHouse (comings.take 2)).resolve openHouse ⟨0⟩).1 = ⟨"S.G"⟩ ∧
      (run openHouse (comings ++ [.resolve ⟨0⟩])).anonymousCount = 2 ∧
      ((run openHouse comings).resolve openHouse ⟨0⟩).1 =
        ((run openHouse []).resolve openHouse ⟨0⟩).1 ∧
      ∃ place, (missed openHouse (comings ++ [.resolve ⟨0⟩]))[place]? = some ⟨7⟩ ∧
        ((run openHouse (comings.take 3)).resolve openHouse ⟨7⟩).1 =
          ⟨"Anonymous" ++ toString (place + 1)⟩ := by
  obtain ⟨hcount, hplace, hback⟩ := resolve_eq_anonymous openHouse (comings ++ [.resolve ⟨0⟩])
  have hmissed : missed openHouse (comings ++ [.resolve ⟨0⟩]) = [⟨0⟩, ⟨7⟩] := by decide +kernel
  have hfirst : (search openHouse (run openHouse []).scopes ⟨0⟩).1 = none := by decide +kernel
  have hlast : (search openHouse (run openHouse comings).scopes ⟨0⟩).1 = none := by decide +kernel
  have hother : (search openHouse (run openHouse (comings.take 3)).scopes ⟨7⟩).1 = none := by
    decide +kernel
  refine ⟨by decide +kernel, by rw [hcount, hmissed]; rfl, ?_, ?_⟩
  · exact hback [] ⟨0⟩ comings.tail [] rfl hfirst hlast
  · exact hplace (comings.take 3) ⟨7⟩ [.addScope "S" ⟨2⟩, .resolve ⟨0⟩] rfl hother

end ClassDiagram.Scope.Resolver
