import ClassDiagram.Proofs.FirstTrail
import ClassDiagram.Proofs.Path
import ClassDiagram.Scope.Resolver

/-!
# Names are distinct and stay

A resolver promises two things for as long as no scope is registered: values
that differ get names that differ, and a value that is asked for again gets the
name it got before.

The names of scoped values are kept apart by the search. What it finds is a
trail, and the name of the value spells the scope and the keys of the trail;
read back, they lead to one value only (`search_sound`, `nameOf_inj`). It is
here that the keys that are no segments have to be passed over. The synthesized
names are kept apart by their numbers, and from the others by having no dot.

Stability is about the list of the values with a synthesized name. Resolving
only ever appends to it, so the place of a value in it never changes.
`Extends` says that of two resolvers, and `Settled` says of a value that its
place, if it needs one, is taken. A value that is not settled has a name too,
but only until another value is asked for first; that is why the statements
speak of values that have been resolved.
-/

namespace ClassDiagram

/-- A key of a table has one value behind it. -/
theorem Table.eq_of_mem_entries {κ α : Type} {t : Table κ α} {key : κ} {first second : α}
    (hfirst : (key, first) ∈ t.entries) (hsecond : (key, second) ∈ t.entries) :
    first = second := by
  obtain ⟨i, hi, hgeti⟩ := List.getElem_of_mem hfirst
  obtain ⟨j, hj, hgetj⟩ := List.getElem_of_mem hsecond
  have hkeys : (t.entries.map Prod.fst)[i]? = (t.entries.map Prod.fst)[j]? := by
    rw [List.getElem?_map, List.getElem?_map, List.getElem?_eq_getElem hi,
      List.getElem?_eq_getElem hj, hgeti, hgetj]
    rfl
  have hij := (List.getElem?_inj (by rw [List.length_map]; exact hi) t.keys_nodup).1 hkeys
  subst hij
  cases hgeti.symm.trans hgetj
  rfl

namespace Scope

variable {realm : Realm}

/-! ## What the search finds is led to -/

/-- The keys of the visit are those of a trail from the root to its value. -/
def Visit.Traced (realm : Realm) (root : ValueId) (visit : Visit) : Prop :=
  ∃ steps, Trail realm root steps visit.id ∧ visit.keys = steps.map Step.key

theorem Visit.Traced.children {root : ValueId} {visit : Visit} (h : visit.Traced realm root) :
    ∀ child ∈ visit.children realm, child.Traced realm root ∧ child.keys ≠ [] := by
  obtain ⟨steps, htrail, hkeys⟩ := h
  intro child hchild
  rw [children_eq_map_visit] at hchild
  obtain ⟨step, hstep, rfl⟩ := List.mem_map.1 hchild
  refine ⟨⟨steps ++ [step], htrail.snoc (mem_stepsFrom.1 hstep), ?_⟩, by simp [Step.visit]⟩
  simp [Step.visit, hkeys]

/-- If the pending visits are led to by trails, so is the target when it is found. -/
theorem explore_sound {root target : ValueId} {visits pending : List Visit} {keys : List String}
    (hpending : ∀ visit ∈ pending, visit.Traced realm root ∧ visit.keys ≠ [])
    (hfound : (explore realm target visits pending).1 = some keys) :
    Visit.Traced realm root ⟨keys, target⟩ ∧ keys ≠ [] := by
  fun_induction explore realm target visits pending with
  | case1 visits => cases hfound
  | case2 visits visit pending _ ih =>
      exact ih (fun other hother => hpending other (List.mem_cons_of_mem _ hother)) hfound
  | case3 visits visit pending _ htarget =>
      cases hfound
      rw [← htarget]
      exact hpending visit List.mem_cons_self
  | case4 visits visit pending _ _ ih =>
      refine ih (fun other hother => ?_) hfound
      rcases List.mem_append.1 hother with hchild | hother
      · exact (hpending visit List.mem_cons_self).1.children other hchild
      · exact hpending other (List.mem_cons_of_mem _ hother)

theorem searchFrom_sound {target : ValueId} {name : QualifiedName} :
    ∀ {scopes : List (String × ValueId)} {visits : List Visit},
    (searchFrom realm target visits scopes).1 = some name →
    ∃ scope ∈ scopes, ∃ steps, steps ≠ [] ∧ Trail realm scope.2 steps target ∧
      name = QualifiedName.ofPath scope.1 (steps.map Step.key) := by
  intro scopes
  induction scopes with
  | nil =>
      intro visits hfound
      cases hfound
  | cons scope scopes ih =>
      obtain ⟨scopeName, root⟩ := scope
      intro visits hfound
      rw [searchFrom] at hfound
      split at hfound
      · next keys final hexplore =>
          cases hfound
          have hroot : Visit.Traced realm root ⟨[], root⟩ := ⟨[], .nil root, rfl⟩
          obtain ⟨⟨steps, htrail, rfl⟩, hne⟩ :=
            explore_sound hroot.children (congrArg Prod.fst hexplore)
          refine ⟨(scopeName, root), List.mem_cons_self, steps, ?_, htrail, rfl⟩
          rintro rfl
          exact hne rfl
      · obtain ⟨scope, hscope, hsteps⟩ := ih hfound
        exact ⟨scope, List.mem_cons_of_mem _ hscope, hsteps⟩

/-- The name that the search finds spells a scope and a trail from its root. -/
theorem search_sound {scopes : Table String ValueId} {target : ValueId} {name : QualifiedName}
    (h : (search realm scopes target).1 = some name) :
    ∃ scope ∈ scopes.entries, ∃ steps, steps ≠ [] ∧ Trail realm scope.2 steps target ∧
      name = QualifiedName.ofPath scope.1 (steps.map Step.key) :=
  searchFrom_sound h

/-- Two values that are found have different names. -/
theorem search_inj {scopes : Table String ValueId} {first second : ValueId}
    {name : QualifiedName} (hscopes : ∀ scope ∈ scopes.keys, IsSegment scope)
    (hfirst : (search realm scopes first).1 = some name)
    (hsecond : (search realm scopes second).1 = some name) : first = second := by
  obtain ⟨scope, hscope, steps, _, htrail, hname⟩ := search_sound hfirst
  obtain ⟨other, hother, others, _, htrail', hname'⟩ := search_sound hsecond
  obtain ⟨hkey, hkeys⟩ := QualifiedName.ofPath_inj (hscopes _ (List.mem_map_of_mem hscope))
    htrail.isSegment_key (hscopes _ (List.mem_map_of_mem hother)) htrail'.isSegment_key
    (hname.symm.trans hname')
  obtain ⟨key, root⟩ := scope
  obtain ⟨key', root'⟩ := other
  simp only [] at hkey htrail htrail'
  subst hkey
  cases Table.eq_of_mem_entries hscope hother
  exact (htrail.eq_of_keys_eq htrail' hkeys).2

namespace Resolver

variable {resolver later : Resolver} {id : ValueId}

/-! ## Names without the memory -/

/-- The name that the value gets when it is asked for next. -/
def nameOf (resolver : Resolver) (realm : Realm) (id : ValueId) : QualifiedName :=
  (resolver.resolve realm id).1

/-- The value has its place in the list if no scope leads to it. -/
def Settled (resolver : Resolver) (realm : Realm) (id : ValueId) : Prop :=
  (search realm resolver.scopes id).1 = none → id ∈ resolver.unscoped

/-- The later resolver has the same scopes and has only appended to the list. -/
structure Extends (resolver later : Resolver) : Prop where
  scopes : later.scopes = resolver.scopes
  unscoped : resolver.unscoped <+: later.unscoped

theorem Extends.refl (resolver : Resolver) : Extends resolver resolver :=
  ⟨rfl, List.prefix_refl _⟩

theorem Extends.trans {last : Resolver} (h : Extends resolver later) (h' : Extends later last) :
    Extends resolver last :=
  ⟨h'.scopes.trans h.scopes, h.unscoped.trans h'.unscoped⟩

theorem Settled.mono (h : resolver.Settled realm id) (hext : Extends resolver later) :
    later.Settled realm id := by
  intro hnone
  rw [hext.scopes] at hnone
  exact hext.unscoped.mem (h hnone)

/-- A value that is not in the list would come behind it. -/
theorem nameOf_eq (resolver : Resolver) (realm : Realm) (id : ValueId) :
    resolver.nameOf realm id = (search realm resolver.scopes id).1.getD
      (.anonymous (resolver.unscoped.idxOf id + 1)) := by
  unfold nameOf resolve
  split
  · next name hfound => rw [hfound]; rfl
  · next hnone =>
      rw [hnone]
      split
      · rfl
      · next hnew => rw [Option.getD_none, List.idxOf_eq_length hnew]

/-- The text of a name tells whether the search has found it. -/
theorem isAnonymous_nameOf_iff (resolver : Resolver) (realm : Realm) (id : ValueId) :
    (resolver.nameOf realm id).isAnonymous = true ↔
      (search realm resolver.scopes id).1 = none := by
  rw [nameOf_eq]
  cases hsearch : (search realm resolver.scopes id).1 with
  | none => simp [QualifiedName.isAnonymous_anonymous]
  | some name =>
      obtain ⟨scope, _, steps, hne, _, rfl⟩ := search_sound hsearch
      have hkeys : steps.map Step.key ≠ [] := by simpa using hne
      simp [QualifiedName.isAnonymous_ofPath scope.1 hkeys]

theorem extends_resolve (resolver : Resolver) (realm : Realm) (id : ValueId) :
    Extends resolver (resolver.resolve realm id).2 := by
  unfold resolve
  split
  · exact Extends.refl resolver
  · split
    · exact Extends.refl resolver
    · exact ⟨rfl, List.prefix_append _ _⟩

/-- Resolving a value settles it. -/
theorem settled_resolve (resolver : Resolver) (realm : Realm) (id : ValueId) :
    (resolver.resolve realm id).2.Settled realm id := by
  intro hnone
  rw [(extends_resolve resolver realm id).scopes] at hnone
  unfold resolve
  split
  · next name hfound =>
      rw [hfound] at hnone
      cases hnone
  · split
    · next hknown => exact hknown
    · exact List.mem_append_right _ (List.mem_singleton_self id)

/-- A settled value keeps its name. -/
theorem Extends.nameOf_eq (hext : Extends resolver later) (hsettled : resolver.Settled realm id) :
    later.nameOf realm id = resolver.nameOf realm id := by
  rw [Resolver.nameOf_eq, Resolver.nameOf_eq, hext.scopes]
  cases hsearch : (search realm resolver.scopes id).1 with
  | some name => rfl
  | none =>
      obtain ⟨rest, hrest⟩ := hext.unscoped
      rw [← hrest, List.idxOf_append, if_pos (hsettled hsearch)]

/-- The value has the name it was given, also in the resolver that remembers it. -/
theorem nameOf_resolve (resolver : Resolver) (realm : Realm) (id : ValueId) :
    (resolver.resolve realm id).2.nameOf realm id = resolver.nameOf realm id := by
  rw [nameOf_eq, nameOf_eq, (extends_resolve resolver realm id).scopes]
  unfold resolve
  split
  · rfl
  · next hnone =>
      split
      · rfl
      · next hnew =>
          simp only [hnone, Option.getD_none]
          rw [List.idxOf_append, if_neg hnew, List.idxOf_cons_self, Nat.zero_add,
            List.idxOf_eq_length hnew]

/-- Settled values of the same name are the same. -/
theorem nameOf_inj {first second : ValueId} (hfirst : resolver.Settled realm first)
    (hsecond : resolver.Settled realm second)
    (h : resolver.nameOf realm first = resolver.nameOf realm second) : first = second := by
  rw [nameOf_eq, nameOf_eq] at h
  cases hsearch : (search realm resolver.scopes first).1 with
  | some name =>
      cases hsearch' : (search realm resolver.scopes second).1 with
      | some other =>
          rw [hsearch, hsearch', Option.getD_some, Option.getD_some] at h
          subst h
          exact search_inj resolver.scopes_named hsearch hsearch'
      | none =>
          rw [hsearch, hsearch', Option.getD_some, Option.getD_none] at h
          obtain ⟨scope, _, steps, hne, _, rfl⟩ := search_sound hsearch
          exact absurd h (QualifiedName.ofPath_ne_anonymous _ (by simpa using hne) _)
  | none =>
      cases hsearch' : (search realm resolver.scopes second).1 with
      | some other =>
          rw [hsearch, hsearch', Option.getD_some, Option.getD_none] at h
          obtain ⟨scope, _, steps, hne, _, rfl⟩ := search_sound hsearch'
          exact absurd h.symm (QualifiedName.ofPath_ne_anonymous _ (by simpa using hne) _)
      | none =>
          rw [hsearch, hsearch', Option.getD_none, Option.getD_none] at h
          have hplace := Nat.succ.inj (QualifiedName.anonymous_inj h)
          have hget := List.getElem_idxOf (List.idxOf_lt_length_of_mem (hfirst hsearch))
          rw [← hget, ← List.getElem_idxOf (List.idxOf_lt_length_of_mem (hsecond hsearch'))]
          simp only [hplace]

/-! ## Runs -/

/-- What can be done to a resolver. -/
inductive Call where
  | addScope (name : String) (value : ValueId)
  | resolve (id : ValueId)

/-- The resolver after a call. A scope that is refused changes nothing. -/
def after (realm : Realm) (resolver : Resolver) : Call → Resolver
  | .addScope name value =>
      match resolver.addScope realm name value with
      | .error _ => resolver
      | .ok next => next
  | .resolve id => (resolver.resolve realm id).2

/-- The resolver after the calls, in order. -/
def run (realm : Realm) (calls : List Call) : Resolver := calls.foldl (after realm) ∅

/-- The resolver after the values have been resolved, in order. -/
def resolveEach (resolver : Resolver) (realm : Realm) (ids : List ValueId) : Resolver :=
  ids.foldl (fun resolver id => (resolver.resolve realm id).2) resolver

theorem extends_resolveEach (realm : Realm) : ∀ (ids : List ValueId) (resolver : Resolver),
    Extends resolver (resolver.resolveEach realm ids) := by
  intro ids
  induction ids with
  | nil => exact Extends.refl
  | cons id ids ih =>
      intro resolver
      exact (extends_resolve resolver realm id).trans (ih _)

/-- After any calls: a value that is resolved, and after it any others, and then
one more. The last name is that of the first value exactly if it is the first
value again. -/
theorem resolve_eq_resolve_iff (realm : Realm) (calls : List Call) (first second : ValueId)
    (between : List ValueId) :
    let before := run realm calls
    let later := (before.resolve realm first).2.resolveEach realm between
    (before.resolve realm first).1 = (later.resolve realm second).1 ↔ first = second := by
  intro before later
  have hext : Extends (before.resolve realm first).2 (later.resolve realm second).2 :=
    (extends_resolveEach realm between _).trans (extends_resolve later realm second)
  have hsettled := settled_resolve before realm first
  have hfirst : (before.resolve realm first).1 =
      (later.resolve realm second).2.nameOf realm first := by
    rw [hext.nameOf_eq hsettled, nameOf_resolve]
    rfl
  have hsecond : (later.resolve realm second).1 =
      (later.resolve realm second).2.nameOf realm second := by
    rw [nameOf_resolve]
    rfl
  rw [hfirst, hsecond]
  constructor
  · exact nameOf_inj (hsettled.mono hext) (settled_resolve later realm second)
  · rintro rfl
    rfl

end Resolver

end Scope

end ClassDiagram
