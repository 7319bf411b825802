import ClassDiagram.Proofs.Reachable

/-!
# Parents come first

A diagram is written in the order of the graph, and a class should not be
written before the class that it extends. In a realm without circles of parents
it never is, in any session (`Reachable.parentsFirst`): not after a failure,
and not after a scope has given new names to classes that have nodes already.
What a node has is the name that its parent had when the node was added, and
that there was a node of this name then.

Two facts about one compilation carry this. When the parent has been compiled,
there is a node of its name; it might only be in progress, but all classes in
progress are below it, and without circles it is not below itself. And the node
of the class then goes to the end of the graph, because its name is not taken
by what is added for its ancestors and its interfaces.
-/

namespace ClassDiagram

/-- Every parent that a class names has a node at an earlier position. -/
def Graph.ParentsFirst (graph : Graph) : Prop :=
  ∀ (place : Nat) (node : ClassNode) (parent : QualifiedName),
    graph.nodes[place]? = some (.classNode node) → node.parent = some parent →
      parent ∈ graph.names.take place

/-- No class is an ancestor of its own parent. -/
def Realm.Acyclic (realm : Realm) : Prop := ∀ id, ¬ Relation.TransGen realm.HasParent id id

theorem Realm.Acyclic.of_index_lt {realm : Realm}
    (h : ∀ id parent, realm.HasParent id parent → parent.index < id.index) : realm.Acyclic := by
  have hlt : ∀ {id other}, Relation.TransGen realm.HasParent id other → other.index < id.index := by
    intro id other hascends
    induction hascends with
    | single hlink => exact h _ _ hlink
    | tail _ hlink ih => exact Nat.lt_trans (h _ _ hlink) ih
  exact fun id hcircle => Nat.lt_irrefl _ (hlt hcircle)

theorem Graph.ParentsFirst.append {graph later : Graph} {node : Node} (h : graph.ParentsFirst)
    (hnodes : later.nodes = graph.nodes ++ [node])
    (hparent : ∀ own parent, node = .classNode own → own.parent = some parent →
      parent ∈ graph.names) : later.ParentsFirst := by
  have hlength : graph.names.length = graph.nodes.length := List.length_map Node.name
  have hnames : later.names = graph.names ++ [node.name] := by
    rw [Graph.names, hnodes, List.map_append]
    rfl
  intro place own parent hplace hown
  rw [hnodes, List.getElem?_append] at hplace
  rw [hnames]
  split at hplace
  · next hold =>
      rw [List.take_append_of_le_length (by omega)]
      exact h place own parent hplace hown
  · next hnew =>
      cases hoffset : place - graph.nodes.length with
      | zero =>
          rw [hoffset] at hplace
          cases hplace
          rw [List.take_append_of_le_length (by omega), List.take_of_length_le (by omega)]
          exact hparent own parent rfl hown
      | succ offset =>
          rw [hoffset] at hplace
          cases hplace

namespace Session

variable {realm : Realm} {session next : Session realm} {id : ValueId}

theorem parentsFirst_compileInterface (session : Session realm) (id : ValueId)
    (h : session.graph.ParentsFirst) : (session.compileInterface id).2.graph.ParentsFirst := by
  cases hinterface : realm.interface? id with
  | none =>
      have hspec := compileInterface_spec session id
      revert hspec
      rcases session.compileInterface id with ⟨error | name, later⟩
      · intro hspec
        obtain ⟨rfl, _⟩ := hspec
        exact h
      · intro hspec
        obtain ⟨_, hisInterface, _⟩ := hspec
        rw [hinterface] at hisInterface
        cases hisInterface
  | some requirements =>
      rw [compileInterface_eq hinterface]
      by_cases hnamed : session.nameOf id ∈ session.graph.names
      · rw [if_pos hnamed]
        exact h
      · rw [if_neg hnamed]
        exact h.append (Graph.nodes_insert_of_not_mem hnamed) fun _ _ hnode => by cases hnode

theorem parentsFirst_compileInterfaces : ∀ (ids : List ValueId) (session : Session realm),
    session.graph.ParentsFirst → (session.compileInterfaces ids).2.graph.ParentsFirst := by
  intro ids
  induction ids with
  | nil => exact fun session h => h
  | cons id ids ih =>
      intro session h
      have hfirst := parentsFirst_compileInterface session id h
      rw [compileInterfaces]
      revert hfirst
      rcases session.compileInterface id with ⟨error | name, next⟩
      · exact fun hnext => hnext
      · intro hnext
        have hrest := ih next hnext
        dsimp only
        revert hrest
        rcases next.compileInterfaces ids with ⟨error | names, final⟩
        · exact fun hfinal => hfinal
        · exact fun hfinal => hfinal

theorem parentsFirst_compileOwn {definition : ClassDef ValueId} {parent : Option QualifiedName}
    (hclass : realm.class? id = some definition) (hfresh : Fresh session id)
    (hadded : Added (session.opening id) next id fun _ => False) (h : next.graph.ParentsFirst)
    (hparent : ∀ name, parent = some name → name ∈ next.graph.names) :
    (next.compileOwn id definition (session.nameOf id) parent).2.graph.ParentsFirst := by
  have hfirst := parentsFirst_compileInterfaces definition.implements next h
  have hspec := compileInterfaces_spec definition.implements next
  rw [compileOwn]
  revert hfirst hspec
  rcases next.compileInterfaces definition.implements with ⟨error | names, later⟩
  · exact fun hfirst _ => hfirst
  · intro hfirst hspec
    obtain ⟨hids, _⟩ := hspec
    have hlater := hadded.interfaces hids fun other hother => ⟨definition, hclass, hother⟩
    have hunnamed := hlater.unnamed_opening (Option.isSome_of_eq_some hclass) hfresh
    refine hfirst.append (Graph.nodes_insert_of_not_mem hunnamed) fun own name hown hname => ?_
    cases hown
    exact hids.grown.mem_names (hparent name hname)

/-- Compiling a class keeps the order if all classes in progress are below it. -/
theorem parentsFirst_compile (hacyclic : realm.Acyclic) (session : Session realm) (id : ValueId)
    (hbelow : ∀ other ∈ session.inProgress, Relation.TransGen realm.HasParent other id)
    (h : session.graph.ParentsFirst) : (session.compile id).2.graph.ParentsFirst := by
  have hstep : ∀ {session : Session realm} {id parent : ValueId}, realm.HasParent id parent →
      (∀ other ∈ session.inProgress, Relation.TransGen realm.HasParent other id) →
      ∀ other ∈ (session.opening id).inProgress,
        Relation.TransGen realm.HasParent other parent := by
    intro session id parent hlink hbelow other hother
    rcases List.mem_cons.1 hother with rfl | hother
    · exact .single hlink
    · exact (hbelow other hother).tail hlink
  induction session, id using compile_induction with
  | refused session id error hexpect => exact h
  | skipped session id definition hclass hfresh => exact h
  | rootless session id definition hclass hfresh hparent =>
      exact parentsFirst_compileOwn hclass hfresh (.refl _ id _) h (by simp)
  | orphaned session id definition parent error next hclass hfresh hparent hnext ih =>
      exact ih (hstep ⟨definition, hclass, hparent⟩ hbelow) h
  | descended session id definition parent name next hclass hfresh hparent hnext ih =>
      have hlink : realm.HasParent id parent := ⟨definition, hclass, hparent⟩
      have hclimb := hstep hlink hbelow
      have houtcome := (session.opening id).compile_outcome parent
      rw [hnext] at houtcome
      obtain ⟨hadded, _, hname, _, hdone⟩ := houtcome
      -- A parent in progress would be below itself.
      have hpresent : next.Present parent :=
        hdone.resolve_right fun hbusy => hacyclic parent (hclimb parent hbusy)
      refine parentsFirst_compileOwn hclass hfresh
        (hadded.mono (.single hlink) fun _ hfalse => hfalse) (ih hclimb h) ?_
      rintro _ ⟨⟩
      exact hname ▸ hpresent.named

/-- Without circles of parents, the parents come first in every session. -/
theorem Reachable.parentsFirst (hacyclic : realm.Acyclic) (h : Reachable session) :
    session.graph.ParentsFirst := by
  have hempty : (∅ : Graph).ParentsFirst := fun place node parent hplace => by cases hplace
  refine h.invariant_of_idle (motive := fun session => session.graph.ParentsFirst) hempty ?_
    (fun _ _ => hempty) ?_
  · exact fun session later hedited h => hedited.graph ▸ h
  · intro session id hidle h
    refine parentsFirst_compile hacyclic session id (fun other hother => ?_) h
    rw [hidle] at hother
    cases hother

/-- A class, a class that extends it, and a namespace in which the second is
found. -/
def namedHeir : Realm where
  values := #[
    .classDef {},
    .classDef { parent := some ⟨0⟩ },
    .object ⟨[("Heir", ⟨1⟩)], by decide⟩]

/-- The heir is compiled, found under another name, and compiled again. -/
def heirTwice : Session namedHeir :=
  ((∅ : Session namedHeir).after (.compile ⟨1⟩)).after (.addScope "S" ⟨2⟩) |>.after (.compile ⟨1⟩)

theorem parentsFirst_heirTwice :
    namedHeir.Acyclic ∧ Reachable heirTwice ∧
      heirTwice.graph.names = [.anonymous 2, .anonymous 1, ⟨"S.Heir"⟩] ∧
      heirTwice.graph.classes.map ClassNode.parent =
        [none, some (.anonymous 2), some (.anonymous 2)] ∧
      heirTwice.graph.ParentsFirst := by
  have hacyclic : namedHeir.Acyclic := by
    refine Realm.Acyclic.of_index_lt fun id parent hlink => ?_
    obtain ⟨definition, hclass, hparent⟩ := hlink
    have hrange : id.index < 3 := Realm.index_lt_size_of_class? hclass
    obtain ⟨index⟩ := id
    match index, hrange with
    | 0, _ => cases hclass; cases hparent
    | 1, _ => cases hclass; cases hparent; decide
    | 2, _ => cases hclass
  have hreachable : Reachable heirTwice := (((reachable_empty namedHeir).step _).step _).step _
  exact ⟨hacyclic, hreachable, by decide +kernel, by decide +kernel,
    hreachable.parentsFirst hacyclic⟩

end Session

end ClassDiagram
