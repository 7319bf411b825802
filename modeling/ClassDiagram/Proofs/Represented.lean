import ClassDiagram.Proofs.Ownership
import Mathlib.Algebra.Order.BigOperators.Group.Finset

/-!
# A node for each class

When compiling a class succeeds one would like to find the class in the graph,
under the name that was returned, and to find it there only once. Both hold as
long as no value with a node gets another name.

A class is taken to be compiled if there is a node of its name. If the node was
added for another value, which has since got another name, the class is not
compiled, and what stands under its name is not the class
(`compile_shows_iff`). If on the other hand the class has got a name that is
new, it is compiled once more and has two nodes (`shows_twice_of_free`). A class
has at most one node for each name it had while it was compiled, so the number
of renamings bounds the number of nodes (`classes_length_le`).
-/

namespace ClassDiagram

/-- Names being distinct, the node of a name is the one that is found. -/
theorem Graph.get?_eq_some_iff {graph : Graph} {name : QualifiedName} {node : Node} :
    graph.get? name = some node ↔ node ∈ graph.nodes ∧ node.name = name := by
  constructor
  · intro h
    exact ⟨List.mem_of_find?_eq_some h, by simpa using List.find?_some h⟩
  · rintro ⟨hmem, rfl⟩
    cases hfind : graph.nodes.find? (·.name = node.name) with
    | none => exact absurd (decide_eq_true rfl) (List.find?_eq_none.1 hfind node hmem)
    | some other =>
        have hname : other.name = node.name := by simpa using List.find?_some hfind
        rw [Graph.get?, hfind, List.inj_on_of_nodup_map graph.names_nodup
          (List.mem_of_find?_eq_some hfind) hmem hname]

/-- Under the name there is a class node with the members and the surface of the
class. -/
def Graph.Shows (graph : Graph) (realm : Realm) (name : QualifiedName) (id : ValueId) : Prop :=
  ∃ definition node, realm.class? id = some definition ∧ graph.class? name = some node ∧
    node.surface = (realm.surface? definition).getD ∅ ∧
    node.members.entries =
      definition.members.entries.filter fun entry => decide (entry.1 ∉ node.surface.keys)

theorem Graph.Shows.mono {graph later : Graph} {realm : Realm} {name : QualifiedName} {id : ValueId}
    (h : graph.Shows realm name id) (hgrown : graph.nodes <+: later.nodes) :
    later.Shows realm name id := by
  obtain ⟨definition, node, hclass, hnode, hshows⟩ := h
  refine ⟨definition, node, hclass, ?_, hshows⟩
  obtain ⟨found, hfound, hisClass⟩ := Option.bind_eq_some_iff.1 hnode
  obtain ⟨hmem, hname⟩ := Graph.get?_eq_some_iff.1 hfound
  rw [Graph.class?, Graph.get?_eq_some_iff.2 ⟨hgrown.mem hmem, hname⟩]
  exact hisClass

namespace Realm

variable {realm : Realm} {id : ValueId} {node : Node}

/-- The ids of the classes, in the order in which they were added. -/
def classIds (realm : Realm) : List ValueId :=
  ((List.range realm.size).map ValueId.mk).filter fun id => (realm.class? id).isSome

theorem mem_classIds : id ∈ realm.classIds ↔ (realm.class? id).isSome := by
  rw [classIds, List.mem_filter]
  refine ⟨fun h => h.2, fun h => ⟨?_, h⟩⟩
  obtain ⟨definition, hclass⟩ := Option.isSome_iff_exists.1 h
  exact List.mem_map.2 ⟨id.index, List.mem_range.2 (index_lt_size_of_class? hclass), rfl⟩

theorem Depicts.isSome_class? (h : realm.Depicts id node) :
    node.class?.isSome = (realm.class? id).isSome := by
  obtain ⟨naming, hdeclares⟩ := h
  cases hdeclares with
  | ofClass hclass _ => rw [hclass]; rfl
  | ofInterface hinterface _ =>
      have hnone := not_isClass_of_isInterface (Option.isSome_of_eq_some hinterface)
      rw [Bool.not_eq_true] at hnone
      rw [hnone]
      rfl

theorem Depicts.length_classes {owners : List ValueId} {nodes : List Node}
    (h : List.Forall₂ realm.Depicts owners nodes) :
    (nodes.filterMap Node.class?).length =
      (owners.filter fun id => (realm.class? id).isSome).length := by
  induction h with
  | nil => rfl
  | @cons id node owners nodes hdepicts _ ih =>
      have hsame := hdepicts.isSome_class?
      cases hclass : node.class? with
      | none =>
          rw [hclass, Option.isSome_none] at hsame
          rw [List.filterMap_cons_none hclass, List.filter_cons_of_neg (by simp [← hsame]), ih]
      | some own =>
          rw [hclass, Option.isSome_some] at hsame
          rw [List.filterMap_cons_some hclass,
            List.filter_cons_of_pos (p := fun id => (realm.class? id).isSome) hsame.symm,
            List.length_cons, List.length_cons, ih]

end Realm

/-- A list is not longer than its distinct values, as often as each may occur. -/
theorem length_le_of_count_le {owners ids : List ValueId} {times : Nat}
    (hmem : ∀ id ∈ owners, id ∈ ids) (hcount : ∀ id, owners.count id ≤ times) :
    owners.length ≤ times * ids.length := by
  have hcard : owners.toFinset.card ≤ ids.length := by
    refine (Finset.card_le_card fun id hid => ?_).trans (List.toFinset_card_le ids)
    exact List.mem_toFinset.2 (hmem id (List.mem_toFinset.1 hid))
  calc
    owners.length = ∑ id ∈ owners.toFinset, owners.count id :=
      (List.sum_toFinset_count_eq_length owners).symm
    _ ≤ ∑ _id ∈ owners.toFinset, times := Finset.sum_le_sum fun id _ => hcount id
    _ = owners.toFinset.card * times := Finset.sum_const_nat fun _ _ => rfl
    _ ≤ times * ids.length := by
      rw [Nat.mul_comm]
      exact Nat.mul_le_mul_left times hcard

namespace Session

variable {realm : Realm} {session later : Session realm} {id other : ValueId} {node : Node}
  {times : Nat}

/-! ## What stands under the name of a class -/

theorem Owns.shows (h : session.Owns id node) (hmem : node ∈ session.graph.nodes)
    (hisClass : (realm.class? id).isSome) : session.graph.Shows realm (session.nameOf id) id := by
  obtain ⟨naming, hdeclares⟩ := h.depicts
  have hfound := Graph.get?_eq_some_iff.2 ⟨hmem, h.name_eq⟩
  obtain ⟨definition, own, rfl, hclass, hshows⟩ := hdeclares.exists_shows hisClass
  refine ⟨definition, own, hclass, ?_, hshows.surface, hshows.members⟩
  rw [Graph.class?, hfound]
  rfl

/-- If the node of the name of a class has an owner, it is the class. -/
theorem Present.shows (h : session.Present id) (hisClass : (realm.class? id).isSome)
    (howned : ∀ node ∈ session.graph.nodes, node.name = session.nameOf id →
      ∃ owner, session.Owns owner node) :
    session.graph.Shows realm (session.nameOf id) id := by
  obtain ⟨node, hmem, hname⟩ := List.mem_map.1 h.named
  obtain ⟨owner, howns⟩ := howned node hmem hname
  cases nameOf_inj howns.settled h.settled (howns.name_eq.symm.trans hname)
  exact howns.shows hmem hisClass

section Compiled

variable {name : QualifiedName} (hidle : session.inProgress = [])
  (hok : (session.compile id).1 = .ok name)

include hidle hok

theorem present_of_compile :
    (realm.class? id).isSome ∧ name = (session.compile id).2.nameOf id ∧
      (session.compile id).2.Present id ∧
      Added session (session.compile id).2 id fun _ => False := by
  have houtcome := session.compile_outcome id
  revert hok houtcome
  rcases session.compile id with ⟨error | found, later⟩
  · intro hok
    cases hok
  · intro hok houtcome
    cases hok
    obtain ⟨hadded, hisClass, hname, _, hdone⟩ := houtcome
    rw [hidle] at hdone
    exact ⟨hisClass, hname, hdone.resolve_right List.not_mem_nil, hadded⟩

theorem graph_compile_of_taken (htaken : name ∈ session.graph.names) :
    (session.compile id).2.graph = session.graph := by
  obtain ⟨hisClass, _⟩ := present_of_compile hidle hok
  rw [session.name_of_compile id name hok] at htaken
  rw [compile_of_not_fresh hisClass fun hfresh => hfresh.unnamed htaken]
  rfl

theorem shows_compile_of_free (hfree : name ∉ session.graph.names) :
    (session.compile id).2.graph.Shows realm name id := by
  obtain ⟨hisClass, hname, hpresent, hadded⟩ := present_of_compile hidle hok
  rw [hname] at hfree ⊢
  refine hpresent.shows hisClass fun node hmem hnode => ?_
  rcases hadded.additions node hmem with hold | ⟨owner, haddition⟩
  · exact absurd (List.mem_map_of_mem hold) (hnode ▸ hfree)
  · exact ⟨owner, haddition.stands.owns⟩

end Compiled

/-- After a class has been compiled, it is the class that stands under its name
if there was no node of the name before, or if that node was the class already.
The latter holds as long as no value with a node has got another name. -/
theorem compile_shows_iff {name : QualifiedName} (h : Reachable session)
    (hok : (session.compile id).1 = .ok name) :
    ((session.compile id).2.graph.Shows realm name id ↔
      (name ∈ session.graph.names → session.graph.Shows realm name id)) ∧
    (Renamed 0 session → (session.compile id).2.graph.Shows realm name id) := by
  have hidle := h.inProgress_eq_nil
  refine ⟨⟨fun hshows htaken => ?_, fun hbefore => ?_⟩, fun hrenamed => ?_⟩
  · rw [← graph_compile_of_taken hidle hok htaken]
    exact hshows
  · by_cases htaken : name ∈ session.graph.names
    · rw [graph_compile_of_taken hidle hok htaken]
      exact hbefore htaken
    · exact shows_compile_of_free hidle hok htaken
  · have hafter := hrenamed.step (.compile id) fun _ _ => nofun
    obtain ⟨hisClass, hname, hpresent, _⟩ := present_of_compile hidle hok
    rw [hname]
    exact hpresent.shows hisClass fun node hmem _ => hafter.owned node hmem

/-- A class that has a node and gets a name that is free is compiled once more,
and stands in the graph twice. -/
theorem shows_twice_of_free {old name : QualifiedName} (hidle : session.inProgress = [])
    (hshows : session.graph.Shows realm old id) (hok : (session.compile id).1 = .ok name)
    (hold : old ∈ session.graph.names) (hfree : name ∉ session.graph.names) :
    old ≠ name ∧ (session.compile id).2.graph.Shows realm old id ∧
      (session.compile id).2.graph.Shows realm name id := by
  obtain ⟨_, _, _, hadded⟩ := present_of_compile hidle hok
  refine ⟨?_, hshows.mono hadded.grown.nodes, shows_compile_of_free hidle hok hfree⟩
  rintro rfl
  exact hfree hold

/-- Two classes, and two namespaces in which the one and the other has the same
key. -/
def namesakes : Realm where
  values := #[
    .classDef { prototype := ⟨[("a", .field)], by decide⟩ },
    .classDef { prototype := ⟨[("b", .field)], by decide⟩ },
    .object ⟨[("C", ⟨0⟩)], by decide⟩,
    .object ⟨[("C", ⟨1⟩)], by decide⟩]

/-- The scope leads to the first class, and nothing has been compiled. -/
def firstNamesake : Session namesakes := (∅ : Session namesakes).after (.addScope "S" ⟨2⟩)

/-- The first class has been compiled, and now the scope leads to the second. -/
def secondNamesake : Session namesakes :=
  (firstNamesake.after (.compile ⟨0⟩)).after (.addScope "S" ⟨3⟩)

theorem compile_firstNamesake_shows :
    Reachable firstNamesake ∧ Renamed 0 firstNamesake ∧
      (firstNamesake.compile ⟨0⟩).1 = .ok ⟨"S.C"⟩ ∧
      (firstNamesake.compile ⟨0⟩).2.graph.Shows namesakes ⟨"S.C"⟩ ⟨0⟩ := by
  have hrenamed : Renamed 0 firstNamesake :=
    (Renamed.empty namesakes).step_of_graph_eq_empty _ rfl
  have hok : (firstNamesake.compile ⟨0⟩).1 = .ok ⟨"S.C"⟩ := by decide +kernel
  exact ⟨hrenamed.reachable, hrenamed, hok,
    (compile_shows_iff hrenamed.reachable hok).2 hrenamed⟩

theorem compile_secondNamesake_shows_other :
    Reachable secondNamesake ∧ (secondNamesake.compile ⟨1⟩).1 = .ok ⟨"S.C"⟩ ∧
      ¬ (secondNamesake.compile ⟨1⟩).2.graph.Shows namesakes ⟨"S.C"⟩ ⟨1⟩ := by
  have hreachable : Reachable secondNamesake :=
    (((reachable_empty namesakes).step _).step _).step _
  refine ⟨hreachable, by decide +kernel, fun hshows => ?_⟩
  obtain ⟨definition, node, hclass, hnode, _, hmembers⟩ := hshows
  have hkeys : ((secondNamesake.compile ⟨1⟩).2.graph.class? ⟨"S.C"⟩).map
      (fun node => node.members.keys) = some ["a"] := by decide +kernel
  rw [hnode, Option.map_some, Option.some.injEq] at hkeys
  have hkey : "a" ∈ definition.members.keys := by
    have hmem : "a" ∈ node.members.keys := hkeys ▸ List.mem_singleton_self "a"
    obtain ⟨entry, hentry, hname⟩ := List.mem_map.1 hmem
    rw [hmembers] at hentry
    exact hname ▸ List.mem_map_of_mem (List.mem_filter.1 hentry).1
  cases hclass
  rw [ClassDef.keys_members] at hkey
  exact absurd hkey (by decide)

/-! ## How many nodes a class has -/

/-- With so many renamings no value has more than one node more, and there are
no more class nodes than that for each class. Without any renaming, each class
has at most one node. -/
theorem classes_length_le (h : Renamed times session) :
    (∃ owners : List ValueId, List.Forall₂ realm.Depicts owners session.graph.nodes ∧
      ∀ id, owners.count id ≤ times + 1) ∧
    session.graph.classes.length ≤ (times + 1) * realm.classIds.length := by
  obtain ⟨owners, howners, hcount⟩ := h.layered.represented
  refine ⟨⟨owners, howners, hcount⟩, ?_⟩
  rw [Graph.classes, Realm.Depicts.length_classes howners]
  refine length_le_of_count_le (fun id hid => Realm.mem_classIds.2 (List.mem_filter.1 hid).2)
    fun id => ?_
  exact ((List.filter_sublist).count_le id).trans (hcount id)

/-- A class and a namespace in which it is found. -/
def lateNamespace : Realm where
  values := #[.classDef {}, .object ⟨[("C", ⟨0⟩)], by decide⟩]

/-- The class is compiled, found under another name, and compiled again. -/
def compiledTwice : Session lateNamespace :=
  (((∅ : Session lateNamespace).after (.compile ⟨0⟩)).after (.addScope "S" ⟨1⟩)).after
    (.compile ⟨0⟩)

theorem classes_length_le_compiledTwice :
    Renamed 1 compiledTwice ∧ compiledTwice.graph.classes.length = 2 ∧
      compiledTwice.graph.classes.length ≤ (1 + 1) * lateNamespace.classIds.length := by
  have hrenamed : Renamed 1 compiledTwice :=
    (((Renamed.empty lateNamespace).step_of_graph_eq_empty (.compile ⟨0⟩) rfl).renamed
      (.addScope "S" ⟨1⟩)).step (.compile ⟨0⟩) fun _ _ => nofun
  exact ⟨hrenamed, by decide +kernel, (classes_length_le hrenamed).2⟩

theorem two_nodes_of_compiledTwice :
    Reachable compiledTwice ∧ lateNamespace.classIds.length = 1 ∧
      ¬ compiledTwice.graph.classes.length ≤ lateNamespace.classIds.length := by
  have hreachable : Reachable compiledTwice :=
    (((reachable_empty lateNamespace).step _).step _).step _
  have hclasses : compiledTwice.graph.classes.length = 2 := by decide +kernel
  have hids : lateNamespace.classIds.length = 1 := by decide +kernel
  refine ⟨hreachable, hids, ?_⟩
  rw [hclasses, hids]
  decide

end Session

end ClassDiagram
