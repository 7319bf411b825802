import ClassDiagram.Scope.Search

/-!
# Resolving names

A resolver gives every value a name. The scopes are searched first, and afresh
each time, so that a scope that is registered later is taken into account. A
value that they do not lead to gets a synthesized name; these are numbered in
the order in which they are handed out, and each is kept for its value. So
what a resolver has to remember is the scopes and the list of the values with
a synthesized name: the number of each is its place in the list.
-/

namespace ClassDiagram.Scope

/-- The scopes that are searched, and the values that none of them led to when
they were first asked for. -/
structure Resolver where
  /-- The scopes, in the order of their registration. -/
  scopes : Table String ValueId := ∅
  /-- The values with a synthesized name, in the order in which they got it. -/
  unscoped : List ValueId := []
  /-- The name of a scope can be the first segment of a path. -/
  scopes_named : ∀ name ∈ scopes.keys, IsSegment name := by intro name h; cases h
  /-- A value gets only one synthesized name. -/
  unscoped_nodup : unscoped.Nodup := by exact List.nodup_nil

namespace Resolver

instance : EmptyCollection Resolver := ⟨{}⟩

instance : Inhabited Resolver := ⟨∅⟩

/-- Registers a scope: its name must be a segment and its value a container.
Another scope of the same name gives up its place to the new one. -/
def addScope (resolver : Resolver) (realm : Realm) (name : String) (value : ValueId) :
    Except Error Resolver :=
  match hname : SegmentProblem.find? name with
  | some problem => .error (.malformedScope name problem)
  | none =>
      match realm.get? value with
      | none => .error (.missingValue name value)
      | some found =>
          if found.isContainer then
            .ok { resolver with
              scopes := resolver.scopes.insert name value
              scopes_named := fun other hother => by
                rw [Table.keys_insert] at hother
                split at hother
                · exact resolver.scopes_named other hother
                · rcases List.mem_append.1 hother with hold | hnew
                  · exact resolver.scopes_named other hold
                  · rw [List.mem_singleton.1 hnew]
                    exact SegmentProblem.find?_eq_none_iff.1 hname }
          else .error (.scopeNotContainer name found.kind)

/-- What registering a scope changes. -/
theorem of_addScope {resolver next : Resolver} {realm : Realm} {name : String} {value : ValueId}
    (h : resolver.addScope realm name value = .ok next) :
    IsSegment name ∧ next.scopes = resolver.scopes.insert name value ∧
      next.unscoped = resolver.unscoped := by
  unfold addScope at h
  split at h
  · cases h
  · next hname =>
      split at h
      · cases h
      · split at h
        · cases h
          exact ⟨SegmentProblem.find?_eq_none_iff.1 hname, rfl, rfl⟩
        · cases h

/-- A scope can be registered exactly if its name is a segment and its value a container. -/
theorem exists_addScope_iff {resolver : Resolver} {realm : Realm} {name : String}
    {value : ValueId} :
    (∃ next, resolver.addScope realm name value = .ok next) ↔
      IsSegment name ∧ ∃ found, realm.get? value = some found ∧ found.isContainer = true := by
  unfold addScope
  constructor
  · intro h
    obtain ⟨next, h⟩ := h
    split at h
    · cases h
    · next hname =>
        split at h
        · cases h
        · next found hget =>
            split at h
            · next hcontainer =>
                exact ⟨SegmentProblem.find?_eq_none_iff.1 hname, found, hget, hcontainer⟩
            · cases h
  · intro h
    obtain ⟨hname, found, hget, hcontainer⟩ := h
    have hname' := SegmentProblem.find?_eq_none_iff.2 hname
    split
    · next problem hproblem =>
        rw [hname'] at hproblem
        cases hproblem
    · rw [hget]
      dsimp only
      rw [if_pos hcontainer]
      exact ⟨_, rfl⟩

/-- The number of synthesized names handed out so far. -/
def anonymousCount (resolver : Resolver) : Nat := resolver.unscoped.length

/-- The name of the value, and the resolver that remembers it. -/
def resolve (resolver : Resolver) (realm : Realm) (target : ValueId) :
    QualifiedName × Resolver :=
  match (search realm resolver.scopes target).1 with
  | some name => (name, resolver)
  | none =>
      if hknown : target ∈ resolver.unscoped then
        (.anonymous (resolver.unscoped.idxOf target + 1), resolver)
      else
        (.anonymous (resolver.unscoped.length + 1),
          { resolver with
            unscoped := resolver.unscoped ++ [target]
            unscoped_nodup := List.nodup_append.2
              ⟨resolver.unscoped_nodup, by simp, fun a ha b hb hab => by
                rw [List.mem_singleton] at hb
                exact hknown (hb ▸ hab ▸ ha)⟩ })

end Resolver

end ClassDiagram.Scope
