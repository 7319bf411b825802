import ClassDiagram.Command.Answer
import ClassDiagram.Proofs.Binding
import ClassDiagram.Proofs.Linking
import ClassDiagram.Proofs.Rendered

/-!
# What is marked as unscoped

A listing marks the values to which no scope leads. It does not ask the search
for that. By the time it is made the search is long over, and all that is left of
it are the names; a name is marked if it has the form of a synthesized one. That
this is the same thing is due to the dot. A scope may be called `Anonymous1`, and
an entry `2`; but what is found there is called `Anonymous1.2`, and the test wants
digits to the end.

The names in a listing were given in the course of compiling. The scopes are the
same all along, and all names in a node are kept (`Session.Stands`), so it does
not matter when the search is made. The mark itself cannot be mistaken for what
may stand in its place, since the line goes on with a word or with a number there.
-/

namespace ClassDiagram

open Scope

namespace Session

variable {realm : Realm} {session later : Session realm}

theorem scopes_addScopes : ∀ (scopes : List (String × ValueId)) (session : Session realm),
    session.addScopes scopes = .ok later →
    later.resolver.scopes =
      scopes.foldl (fun t scope => t.insert scope.1 scope.2) session.resolver.scopes := by
  intro scopes
  induction scopes with
  | nil =>
      intro session h
      cases h
      rfl
  | cons scope scopes ih =>
      obtain ⟨name, value⟩ := scope
      intro session h
      rw [addScopes] at h
      split at h
      · cases h
      · next next hnext =>
          rw [ih next h, List.foldl_cons]
          unfold addScope at hnext
          split at hnext
          · cases hnext
          · next resolver hresolver =>
              cases hnext
              rw [(Resolver.of_addScope hresolver).2.1]

theorem scopes_withRoots {roots : List ValueId} {scopes : Table String ValueId}
    (h : withRoots roots scopes.entries = .ok session) : session.resolver.scopes = scopes := by
  unfold withRoots at h
  have hroots := resolver_addClasses roots (∅ : Session realm)
  split at h
  · cases h
  · next next hnext =>
      rw [hnext] at hroots
      rw [scopes_addScopes scopes.entries next h, hroots]
      exact scopes.ofList_entries

theorem foldl_addRelation : ∀ (relations : List Relation) (session : Session realm),
    relations.foldl addRelation session =
      { session with relations := session.relations ++ relations } := by
  intro relations
  induction relations with
  | nil => exact fun session => by rw [List.foldl_nil, List.append_nil]
  | cons relation relations ih =>
      intro session
      rw [List.foldl_cons, ih, addRelation, List.append_assoc]
      rfl

end Session

namespace LinkedModel

variable {model : LinkedModel}

/-- The session of a model has its scopes, and nothing has been compiled in it. -/
theorem session_ok {session : Session model.realm} (h : model.session = .ok session) :
    session.resolver.scopes = model.scopes ∧ Session.Edited ∅ session := by
  unfold LinkedModel.session at h
  split at h
  · cases h
  · next registered hregistered =>
      have hscopes := Session.scopes_withRoots hregistered
      have hedited := Session.edited_withRoots hregistered
      cases h
      rw [Session.foldl_addRelation]
      split
      · exact ⟨hscopes, hedited.graph, hedited.inProgress, hedited.roots, hedited.unscoped⟩
      · exact ⟨hscopes, hedited.graph, hedited.inProgress, hedited.roots, hedited.unscoped⟩

/-- All nodes of the graph of a model stand in one session with its scopes. -/
theorem stands_of_compile {graph : Graph} (h : model.compile = .ok graph) :
    ∃ final : Session model.realm, final.resolver.scopes = model.scopes ∧
      ∀ node ∈ graph.nodes, ∃ id, final.Stands id node := by
  unfold LinkedModel.compile at h
  split at h
  · cases h
  · next session hsession =>
      obtain ⟨hscopes, hedited⟩ := session_ok hsession
      have hspec := Session.compileEach_outcome session.roots session hedited.inProgress
      rw [Session.compileAll] at h
      revert h hspec
      rcases session.compileEach session.roots with ⟨error | _, final⟩
      · intro h
        cases h
      · intro h hspec
        obtain ⟨hgrown, _, hdrawn⟩ := hspec
        cases h
        refine ⟨final, hgrown.resolver.scopes.trans hscopes, fun node hnode => ?_⟩
        rcases hdrawn node hnode with hold | ⟨id, hdrawn⟩
        · rw [hedited.graph] at hold
          exact (List.not_mem_nil hold).elim
        · exact ⟨id, hdrawn.stands⟩

end LinkedModel

namespace Command

/-! ## The mark -/

namespace Summary

/-- The mark of a value to which no scope leads. -/
def mark : String := " (unscoped)"

/-- What stands in a line in front of the mark. -/
def heading (summary : Summary) : String := summary.kindColumn ++ " " ++ summary.name.text

/-- What follows the mark, or the heading if there is none, does not start with
the mark: it is a word, or a number in brackets. -/
theorem line_eq (summary : Summary) : ∃ rest, ¬ mark.toList <+: rest ∧
    summary.line.toList =
      summary.heading.toList ++ ((if summary.name.isAnonymous then mark else "").toList ++ rest) := by
  refine ⟨_, ?_, by simp only [line, heading, mark, String.toList_append, List.append_assoc]; rfl⟩
  cases summary.parent with
  | some parent => simp [mark]
  | none =>
      cases summary.interfaces with
      | cons name names => simp [mark]
      | nil =>
          obtain ⟨digit, digits, hdigits⟩ :
              ∃ digit digits, Nat.toDigits 10 summary.members = digit :: digits :=
            List.exists_cons_of_ne_nil Nat.toDigits_ne_nil
          have hdigit : digit.isDigit = true :=
            Nat.isDigit_of_mem_toDigits (by omega) (by omega) (hdigits ▸ List.mem_cons_self)
          have hne : 'u' ≠ digit := by
            rintro rfl
            cases hdigit
          simp [mark, hdigits, hne]

theorem mark_prefix_iff (summary : Summary) :
    (summary.heading ++ mark).toList <+: summary.line.toList ↔
      summary.name.isAnonymous = true := by
  obtain ⟨rest, hrest, hline⟩ := summary.line_eq
  rw [hline, String.toList_append, List.prefix_append_right_inj]
  split
  · next h => exact ⟨fun _ => h, fun _ => List.prefix_append _ _⟩
  · next h => exact ⟨fun hprefix => absurd hprefix hrest, fun hmark => absurd hmark h⟩

/-- The summary is that of the value, under the name that the resolver keeps for it, and
both as a line and in JSON it is marked exactly if the search for the value finds nothing. -/
structure Reports (realm : Realm) (resolver : Resolver) (id : ValueId) (summary : Summary) :
    Prop where
  shows : ∃ node, realm.Declares (resolver.nameOf realm) id node ∧ summary = .ofNode node
  settled : resolver.Settled realm id
  isAnonymous : summary.name.isAnonymous = true ↔ (search realm resolver.scopes id).1 = none
  line : (summary.heading ++ mark).toList <+: summary.line.toList ↔
    (search realm resolver.scopes id).1 = none
  json : ∃ members, summary.toJson = .object members ∧
    members.lookup "anonymous" = some (.bool (search realm resolver.scopes id).1.isNone)

theorem name_ofNode (node : ClassDiagram.Node) : (ofNode node).name = node.name := by
  cases node with
  | classNode node => rfl
  | interfaceNode node => rfl

theorem reports_ofNode {realm : Realm} {session : Session realm} {id : ValueId}
    {node : ClassDiagram.Node} (h : session.Stands id node) :
    (ofNode node).Reports realm session.resolver id := by
  have hanonymous : (ofNode node).name.isAnonymous = true ↔
      (search realm session.resolver.scopes id).1 = none := by
    rw [name_ofNode, h.declares.name_eq]
    exact session.resolver.isAnonymous_nameOf_iff realm id
  refine ⟨⟨node, h.declares, rfl⟩, h.settled, hanonymous, ?_, ⟨_, rfl, ?_⟩⟩
  · rw [mark_prefix_iff, hanonymous]
  · rw [← Option.isNone_iff_eq_none, ← Bool.eq_iff_iff] at hanonymous
    rw [← hanonymous]
    rfl

end Summary

/-- For any scopes and any values, the form of a name tells whether the search has found
it. So what is marked in the listing of a model is what its scopes do not lead to. -/
theorem isAnonymous_iff_search_eq_none :
    (∀ (realm : Realm) (resolver : Resolver) (target : ValueId),
      (resolver.resolve realm target).1.isAnonymous = true ↔
        (search realm resolver.scopes target).1 = none) ∧
    ∀ content nodes, summaries content = .ok nodes →
      ∃ model resolver, LinkedModel.ofText content = .ok model ∧ resolver.scopes = model.scopes ∧
        ∀ summary ∈ nodes, ∃ id, summary.Reports model.realm resolver id := by
  refine ⟨fun realm resolver target => resolver.isAnonymous_nameOf_iff realm target,
    fun content nodes h => ?_⟩
  obtain ⟨graph, hcompile, rfl⟩ := map_eq_ok_iff.1 h
  obtain ⟨model, hmodel, hgraph⟩ := bind_eq_ok_iff.1 hcompile
  obtain ⟨final, hscopes, hstands⟩ := model.stands_of_compile hgraph
  refine ⟨model, final.resolver, hmodel, hscopes, fun summary hsummary => ?_⟩
  obtain ⟨node, hnode, rfl⟩ := List.mem_map.1 hsummary
  obtain ⟨id, hid⟩ := hstands node hnode
  exact ⟨id, Summary.reports_ofNode hid⟩

/-- A class and a namespace in which it has a number for its name. -/
def numbered : Realm where
  values := #[.classDef {}, .object ⟨[("2", ⟨0⟩)], by decide⟩]

theorem isAnonymous_iff_search_eq_none_numbered :
    let resolver := Resolver.run numbered [.addScope "Anonymous1" ⟨1⟩]
    let content := "[\x7b\"C\":[\"class\"]\x7d,\x7b\"App\":\"C\"\x7d,[\"C\"]]"
    let summary : Summary := ⟨⟨"Anonymous1"⟩, "class", none, 0, 0, []⟩
    (search numbered resolver.scopes ⟨0⟩).1 = some ⟨"Anonymous1.2"⟩ ∧
      (resolver.resolve numbered ⟨0⟩).1.isAnonymous = false ∧
      summaries content = .ok [summary] ∧
      ∃ model resolver id, LinkedModel.ofText content = .ok model ∧
        summary.Reports model.realm resolver id := by
  intro resolver content summary
  have hscopes : resolver.scopes.entries = [("Anonymous1", ⟨1⟩)] := rfl
  have hchildren : Visit.children numbered ⟨[], ⟨1⟩⟩ = [⟨["2"], ⟨0⟩⟩] := by decide
  have hfound : (search numbered resolver.scopes ⟨0⟩).1 = some ⟨"Anonymous1.2"⟩ := by
    simp [search, hscopes, searchFrom, explore, hchildren, visitedIds, QualifiedName.ofPath,
      QualifiedName.child]
  have hsummaries : summaries content = .ok [summary] := by decide +kernel
  obtain ⟨hresolver, hlisting⟩ := isAnonymous_iff_search_eq_none
  obtain ⟨model, final, hmodel, _, hreports⟩ := hlisting content [summary] hsummaries
  obtain ⟨id, hid⟩ := hreports summary List.mem_cons_self
  refine ⟨hfound, ?_, hsummaries, model, final, id, hmodel, hid⟩
  rw [← Bool.not_eq_true, hresolver, hfound]
  exact Option.some_ne_none _

end Command

end ClassDiagram
