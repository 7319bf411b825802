import ClassDiagram.Diagram
import ClassDiagram.Proofs.Separated

/-!
# A diagram can be read back

Two graphs whose names are plain have the same diagram only if they are the
same, but for the one thing that a diagram does not show: which member an entry
of a surface forwards to (`text_eq_text_iff`). A diagram is written from records,
so this is proved of records, which may also state a callable that forwards to
nothing. The relations may be any text; they stand behind everything else and are
the same on both sides.

The text is taken apart in the order in which it was put together: into lines,
the lines into blocks, a block into its heading and its entries, and what is
left over behind the blocks into the edges to the interfaces. Each boundary is
found by something that cannot stand before it. A heading opens a brace, which
no edge does; the closing brace is not indented, and the separator has a dot
where an entry has its mark; and that the names of a graph are distinct is what
attributes an edge to its class.
-/

namespace ClassDiagram

/-! ## What a diagram does not show -/

/-- The record without the member that the entry forwards to. -/
def SurfaceRecord.untargeted (record : SurfaceRecord) : SurfaceRecord :=
  { record with target := none }

/-- The record without the members that the entries of the surface forward to. -/
def ClassRecord.untargeted (record : ClassRecord) : ClassRecord :=
  { record with surface := record.surface.map fun _ entry => entry.untargeted }

/-- The record without the members that the entries of a surface forward to. -/
def NodeRecord.untargeted : NodeRecord → NodeRecord
  | .classRecord record => .classRecord record.untargeted
  | .interfaceRecord node => .interfaceRecord node

/-! ## Plain records -/

/-- The name and the parameters are identifiers, and a field has no parameters. -/
structure PlainEntry (name : String) (kind : MemberKind) (params : List String) : Prop where
  name : Text.isIdentifier name.toList = true
  field : kind = .field → params = []
  params : ∀ param ∈ params, Text.isIdentifier param.toList = true

theorem PlainEntry.pieces {name : String} {kind : MemberKind} {params : List String}
    (h : PlainEntry name kind params) :
    ∀ piece ∈ params.map String.toList, piece ≠ [] ∧ ',' ∉ piece := by
  intro piece hpiece
  obtain ⟨param, hparam, rfl⟩ := List.mem_map.1 hpiece
  have hidentifier := h.params param hparam
  exact ⟨Text.ne_nil_of_isIdentifier hidentifier,
    Text.not_mem_of_isIdentifier hidentifier ',' (by decide)⟩

theorem PlainEntry.required {name : String} {kind : MemberKind}
    (h : Text.isIdentifier name.toList = true) : PlainEntry name kind [] where
  name := h
  field _ := rfl
  params := nofun

/-- The names in the record are paths of identifiers or identifiers, and a table
has an entry under its own name. -/
structure ClassRecord.Plain (record : ClassRecord) : Prop where
  name : record.name.IsPath
  parent : ∀ parent, record.parent = some parent → parent.IsPath
  surface : ∀ entry ∈ record.surface.entries,
    entry.1 = entry.2.name ∧ PlainEntry entry.2.name entry.2.kind entry.2.params
  members : ∀ entry ∈ record.members.entries,
    entry.1 = entry.2.name ∧ PlainEntry entry.2.name entry.2.kind entry.2.params
  interfaces : ∀ interface ∈ record.interfaces, interface.IsPath

theorem ClassRecord.Plain.of_mem_members {record : ClassRecord} (h : record.Plain) :
    ∀ member ∈ record.members.values, PlainEntry member.name member.kind member.params :=
  List.forall_mem_map.2 fun entry hentry => (h.members entry hentry).2

theorem ClassRecord.Plain.of_mem_surface {record : ClassRecord} (h : record.Plain) :
    ∀ entry ∈ record.surface.values, PlainEntry entry.name entry.kind entry.params :=
  List.forall_mem_map.2 fun entry hentry => (h.surface entry hentry).2

/-- The name of the interface is a path of identifiers, and what it requires are
identifiers. -/
structure InterfaceNode.Plain (node : InterfaceNode) : Prop where
  name : node.name.IsPath
  required : ∀ entry ∈ node.required, Text.isIdentifier entry.1.toList = true

/-- The names in the record are paths of identifiers or identifiers. -/
def NodeRecord.Plain : NodeRecord → Prop
  | .classRecord record => record.Plain
  | .interfaceRecord node => node.Plain

/-- A table whose keys can be told from what stands behind them is known from that. -/
theorem Table.ext_values {κ α : Type} {t u : Table κ α} {key : α → κ}
    (ht : ∀ entry ∈ t.entries, entry.1 = key entry.2)
    (hu : ∀ entry ∈ u.entries, entry.1 = key entry.2) (h : t.values = u.values) : t = u := by
  have hsnd : ∀ a b : κ × α, a.1 = key a.2 → b.1 = key b.2 → a.2 = b.2 → a = b :=
    fun a b ha hb hab => Prod.ext (by rw [ha, hb, hab]) hab
  exact ext_entries (Text.map_inj_of hsnd ht hu h)

namespace Diagram

/-! ## Entries -/

theorem toList_signature (name : String) (kind : MemberKind) (params : List String) :
    (signature name kind params).toList = name.toList ++
      match kind with
      | .field => []
      | .callable =>
          '(' :: ([',', ' '].intercalate (params.map String.toList) ++ [')']) := by
  cases kind <;> simp [signature, String.toList_intercalate]

theorem signature_inj {name other : String} {kind kind' : MemberKind}
    {params params' : List String} (h : PlainEntry name kind params)
    (h' : PlainEntry other kind' params')
    (heq : signature name kind params = signature other kind' params') :
    name = other ∧ kind = kind' ∧ params = params' := by
  have hlist := congrArg String.toList heq
  rw [toList_signature, toList_signature] at hlist
  obtain ⟨hname, hparams⟩ := Text.append_inj_of_head?
    (Text.not_mem_of_isIdentifier h.name '(' (by decide))
    (Text.not_mem_of_isIdentifier h'.name '(' (by decide))
    (by cases kind <;> simp) (by cases kind' <;> simp) hlist
  refine ⟨String.toList_inj.1 hname, ?_⟩
  cases kind with
  | field =>
      cases kind' with
      | field => exact ⟨rfl, (h.field rfl).trans (h'.field rfl).symm⟩
      | callable => cases hparams
  | callable =>
      cases kind' with
      | field => cases hparams
      | callable =>
          have hpieces := Text.intercalate_inj h.pieces h'.pieces
            (List.append_cancel_right (List.cons.inj hparams).2)
          exact ⟨rfl, List.map_injective_iff.2 (fun _ _ => String.toList_inj.1) hpieces⟩

theorem memberLine_inj {visibility : Visibility} {name other : String} {kind kind' : MemberKind}
    {params params' : List String} (h : PlainEntry name kind params)
    (h' : PlainEntry other kind' params')
    (heq : memberLine visibility name kind params = memberLine visibility other kind' params') :
    name = other ∧ kind = kind' ∧ params = params' :=
  signature_inj h h' ((String.append_right_inj _).1 heq)

theorem memberLine_ne_separator (visibility : Visibility) (name : String) (kind : MemberKind)
    (params : List String) : memberLine visibility name kind params ≠ separator := by
  intro h
  have hmark := congrArg (·.toList[4]?) h
  cases visibility <;> simp [memberLine, indent, separator, Visibility.mark] at hmark

theorem memberLine_ne_brace (visibility : Visibility) (name : String) (kind : MemberKind)
    (params : List String) : memberLine visibility name kind params ≠ "\x7d" := by
  intro h
  have hfirst := congrArg (·.toList[0]?) h
  simp [memberLine, indent] at hfirst

/-! ## Blocks -/

section ClassBody

variable {record other : ClassRecord} (h : record.Plain) (h' : other.Plain)

theorem separator_mem_classBody : separator ∈ classBody record ↔ record.hasSurface = true := by
  have hline : ∀ visibility name kind params,
      ¬memberLine visibility name kind params = separator := memberLine_ne_separator
  rw [classBody]
  split <;> simp_all [surfaceLines, membersLines]

theorem brace_not_mem_classBody : "\x7d" ∉ classBody record := by
  have hline : ∀ visibility name kind params,
      ¬memberLine visibility name kind params = "\x7d" := memberLine_ne_brace
  have hseparator : ¬"\x7d" = separator := by decide
  rw [classBody]
  split <;> simp [surfaceLines, membersLines, hline, hseparator]

include h h'

theorem membersLines_inj {visibility : Visibility}
    (heq : membersLines visibility record = membersLines visibility other) :
    record.members = other.members := by
  have hline : ∀ a b : MemberRecord, PlainEntry a.name a.kind a.params →
      PlainEntry b.name b.kind b.params →
      memberLine visibility a.name a.kind a.params =
        memberLine visibility b.name b.kind b.params → a = b := by
    rintro ⟨name, kind, params⟩ ⟨name', kind', params'⟩ ha hb hab
    obtain ⟨rfl, rfl, rfl⟩ := memberLine_inj ha hb hab
    rfl
  exact Table.ext_values (fun entry hentry => (h.members entry hentry).1)
    (fun entry hentry => (h'.members entry hentry).1)
    (Text.map_inj_of hline h.of_mem_members h'.of_mem_members heq)

theorem surfaceLines_inj (heq : surfaceLines record = surfaceLines other) :
    record.untargeted.surface = other.untargeted.surface := by
  have hline : ∀ a b : SurfaceRecord, PlainEntry a.name a.kind a.params →
      PlainEntry b.name b.kind b.params →
      memberLine .exposed a.name a.kind a.params = memberLine .exposed b.name b.kind b.params →
      a.untargeted = b.untargeted := by
    rintro ⟨name, kind, params, target⟩ ⟨name', kind', params', target'⟩ ha hb hab
    obtain ⟨rfl, rfl, rfl⟩ := memberLine_inj ha hb hab
    rfl
  have hvalues := Text.map_eq_map_of hline h.of_mem_surface h'.of_mem_surface heq
  have hkeys : ∀ {record : ClassRecord}, record.Plain →
      ∀ entry ∈ record.untargeted.surface.entries, entry.1 = entry.2.name :=
    fun h => List.forall_mem_map.2 fun entry hentry => (h.surface entry hentry).1
  refine Table.ext_values (hkeys h) (hkeys h') ?_
  rw [ClassRecord.untargeted, ClassRecord.untargeted, Table.values_map, Table.values_map]
  exact hvalues

theorem classBody_inj (heq : classBody record = classBody other) :
    record.members = other.members ∧ record.untargeted.surface = other.untargeted.surface := by
  have hhasSurface : record.hasSurface = true ↔ other.hasSurface = true := by
    rw [← separator_mem_classBody, ← separator_mem_classBody, heq]
  rw [classBody, classBody] at heq
  -- The separator is in the body of one exactly if it is in that of the other.
  by_cases hsurface : record.hasSurface = true
  · rw [if_pos hsurface, if_pos (hhasSurface.1 hsurface)] at heq
    obtain ⟨hoffered, hown⟩ := Text.append_cons_inj
      (by simp [surfaceLines, memberLine_ne_separator])
      (by simp [surfaceLines, memberLine_ne_separator]) heq
    exact ⟨membersLines_inj h h' hown, surfaceLines_inj h h' hoffered⟩
  · have hempty : ∀ {record : ClassRecord}, ¬record.hasSurface = true →
        record.surface.entries = [] := by
      simp [ClassRecord.hasSurface, Table.isEmpty]
    rw [if_neg hsurface, if_neg (hsurface ∘ hhasSurface.2)] at heq
    refine ⟨membersLines_inj h h' heq, surfaceLines_inj h h' ?_⟩
    rw [surfaceLines, surfaceLines, Table.values, Table.values, hempty hsurface,
      hempty (hsurface ∘ hhasSurface.2)]

end ClassBody

theorem name_inj {name other : QualifiedName} (h : name.text.toList = other.text.toList) :
    name = other := by
  cases name
  cases other
  exact congrArg QualifiedName.mk (String.toList_inj.1 h)

theorem toList_classHeading (record : ClassRecord) :
    (classHeading record).toList = "class ".toList ++ (record.name.text.toList ++
      match record.parent with
      | some parent => " extends ".toList ++ parent.text.toList
      | none => []) := by
  rw [classHeading]
  cases record.parent <;> simp

theorem classHeading_inj {record other : ClassRecord} (h : record.Plain) (h' : other.Plain)
    (heq : classHeading record = classHeading other) :
    record.name = other.name ∧ record.parent = other.parent := by
  have hlist := congrArg String.toList heq
  rw [toList_classHeading, toList_classHeading] at hlist
  obtain ⟨hname, hparent⟩ := Text.append_inj_of_head?
    (h.name.not_mem ' ' (by decide)) (h'.name.not_mem ' ' (by decide))
    (by cases record.parent <;> simp) (by cases other.parent <;> simp)
    (List.append_cancel_left hlist)
  refine ⟨name_inj hname, ?_⟩
  revert hparent
  cases record.parent <;> cases other.parent
  · exact fun _ => rfl
  · exact fun hparent => by cases hparent
  · exact fun hparent => by cases hparent
  · exact fun hparent => congrArg some (name_inj (List.append_cancel_left hparent))

/-- The first line of the block of a node, before the brace. -/
def heading : NodeRecord → String
  | .classRecord record => classHeading record
  | .interfaceRecord node => "interface " ++ node.name.text

/-- The lines inside the block of a node. -/
def body : NodeRecord → List String
  | .classRecord record => classBody record
  | .interfaceRecord node => requiredLines node

/-- What is written about a node behind its block. -/
def remark (settings : Settings) : NodeRecord → List String
  | .classRecord record => if settings.notes && record.hasSurface then note record else []
  | .interfaceRecord _ => []

theorem nodeLines_eq (settings : Settings) (record : NodeRecord) :
    nodeLines settings record =
      block (heading record) (body record) ++ remark settings record := by
  cases record with
  | classRecord record => rfl
  | interfaceRecord node => rw [remark, List.append_nil]; rfl

theorem brace_not_mem_body (record : NodeRecord) : "\x7d" ∉ body record := by
  cases record with
  | classRecord record => exact brace_not_mem_classBody
  | interfaceRecord node =>
      intro h
      obtain ⟨entry, _, hline⟩ := List.mem_map.1 h
      exact memberLine_ne_brace _ _ _ _ hline

theorem block_append_inj {first second : String} {lines others rest rest' : List String}
    (h : "\x7d" ∉ lines) (h' : "\x7d" ∉ others)
    (heq : block first lines ++ rest = block second others ++ rest') :
    first = second ∧ lines = others ∧ rest = rest' := by
  rw [block, block, List.cons_append, List.cons_append] at heq
  obtain ⟨hheading, hlines⟩ := List.cons.inj heq
  rw [List.append_assoc, List.append_assoc] at hlines
  obtain ⟨hbody, hrest⟩ := Text.append_cons_inj h h' hlines
  exact ⟨(String.append_left_inj _).1 hheading, hbody, (List.cons.inj hrest).2⟩

end Diagram

/-! ## Nodes -/

/-- The record without what is written behind all blocks, or not at all. -/
def NodeRecord.bare : NodeRecord → NodeRecord
  | .classRecord record => .classRecord { record.untargeted with interfaces := [] }
  | .interfaceRecord node => .interfaceRecord node

namespace Diagram

theorem bare_inj {record other : NodeRecord} (h : record.Plain) (h' : other.Plain)
    (hheading : heading record = heading other) (hbody : body record = body other) :
    record.bare = other.bare := by
  -- A class and an interface differ in the first character of their headings.
  have hword : (heading record).toList.head? = (heading other).toList.head? := by rw [hheading]
  cases record with
  | classRecord record =>
      cases other with
      | classRecord other =>
          obtain ⟨hname, hparent⟩ := classHeading_inj h h' hheading
          obtain ⟨hmembers, hsurface⟩ := classBody_inj h h' hbody
          simp only [NodeRecord.bare, ClassRecord.untargeted, hname, hparent, hmembers]
            at hsurface ⊢
          rw [hsurface]
      | interfaceRecord other => simp [heading, toList_classHeading] at hword
  | interfaceRecord node =>
      cases other with
      | classRecord other => simp [heading, toList_classHeading] at hword
      | interfaceRecord other =>
          have hname : node.name = other.name :=
            name_inj (congrArg String.toList ((String.append_right_inj _).1 hheading))
          have hline : ∀ a b : String × MemberKind, Text.isIdentifier a.1.toList = true →
              Text.isIdentifier b.1.toList = true →
              memberLine .exposed a.1 a.2 [] = memberLine .exposed b.1 b.2 [] → a = b := by
            intro a b ha hb hab
            obtain ⟨hname, hkind, _⟩ := memberLine_inj (.required ha) (.required hb) hab
            exact Prod.ext hname hkind
          have hrequired := Text.map_inj_of hline h.required h'.required hbody
          cases node
          cases hname
          cases hrequired
          rfl

theorem remark_bare (settings : Settings) (record : NodeRecord) :
    remark settings record.bare = remark settings record := by
  cases record with
  | classRecord record =>
      simp [remark, NodeRecord.bare, ClassRecord.untargeted, note, ClassRecord.hasSurface,
        Table.isEmpty, Table.map]
  | interfaceRecord node => rfl

variable {settings : Settings}

theorem nodeLines_append_inj {record other : NodeRecord} {rest rest' : List String}
    (h : record.Plain) (h' : other.Plain)
    (heq : nodeLines settings record ++ rest = nodeLines settings other ++ rest') :
    record.bare = other.bare ∧ rest = rest' := by
  rw [nodeLines_eq, nodeLines_eq, List.append_assoc, List.append_assoc] at heq
  obtain ⟨hheading, hbody, hrest⟩ :=
    block_append_inj (brace_not_mem_body record) (brace_not_mem_body other) heq
  have hbare := bare_inj h h' hheading hbody
  -- A remark depends on nothing that the block does not tell.
  rw [← remark_bare, hbare, remark_bare] at hrest
  exact ⟨hbare, List.append_cancel_left hrest⟩

theorem nodeLines_append_ne {record : NodeRecord} {rest lines : List String}
    (h : ∀ line ∈ lines, '\x7b' ∉ line.toList) : nodeLines settings record ++ rest ≠ lines := by
  rintro rfl
  exact h (heading record ++ " \x7b") (by simp [nodeLines_eq, block]) (by simp)

variable {records others : List NodeRecord}

/-- The blocks end where no heading follows. -/
theorem flatMap_nodeLines_append_inj {rest rest' : List String}
    (hrecords : ∀ record ∈ records, record.Plain) (hothers : ∀ record ∈ others, record.Plain)
    (hrest : ∀ line ∈ rest, '\x7b' ∉ line.toList) (hrest' : ∀ line ∈ rest', '\x7b' ∉ line.toList)
    (heq : records.flatMap (nodeLines settings) ++ rest =
      others.flatMap (nodeLines settings) ++ rest') :
    records.map NodeRecord.bare = others.map NodeRecord.bare ∧ rest = rest' :=
  Text.flatMap_append_inj (s := fun lines => ∀ line ∈ lines, '\x7b' ∉ line.toList)
    (fun _ _ h h' _ _ => nodeLines_append_inj h h') (fun _ _ h => nodeLines_append_ne h rfl)
    hrecords hothers hrest hrest' heq

end Diagram

/-! ## Edges -/

namespace NodeRecord

/-- The name of a class with each interface that it implements. -/
def edges : NodeRecord → List (QualifiedName × QualifiedName)
  | .classRecord record => record.interfaces.map fun interface => (record.name, interface)
  | .interfaceRecord _ => []

theorem fst_of_mem_edges {record : NodeRecord} {edge : QualifiedName × QualifiedName}
    (h : edge ∈ record.edges) : edge.1 = record.name := by
  cases record with
  | classRecord record =>
      obtain ⟨interface, _, rfl⟩ := List.mem_map.1 h
      rfl
  | interfaceRecord node => cases h

/-- The record with the interfaces that the edges of its name lead to. -/
def withEdges (edges : List (QualifiedName × QualifiedName)) : NodeRecord → NodeRecord
  | .classRecord record =>
      .classRecord
        { record with interfaces := (edges.filter (·.1 = record.name)).map Prod.snd }
  | .interfaceRecord node => .interfaceRecord node

/-- Since names are distinct, an edge belongs to the node of its name. -/
theorem filter_edges {records : List NodeRecord} {record : NodeRecord}
    (hnames : (records.map name).Nodup) (h : record ∈ records) :
    (records.flatMap edges).filter (·.1 = record.name) = record.edges := by
  have hother : ∀ records : List NodeRecord, record.name ∉ records.map name →
      (records.flatMap edges).filter (·.1 = record.name) = [] := by
    intro records hname
    refine List.filter_eq_nil_iff.2 fun edge hedge => ?_
    obtain ⟨other, hother, hedge⟩ := List.mem_flatMap.1 hedge
    rw [decide_eq_true_eq, fst_of_mem_edges hedge]
    exact fun heq => hname (heq ▸ List.mem_map_of_mem hother)
  have hown : record.edges.filter (·.1 = record.name) = record.edges :=
    List.filter_eq_self.2 fun edge hedge => decide_eq_true (fst_of_mem_edges hedge)
  -- No edge of the nodes before and after is kept.
  obtain ⟨before, after, rfl⟩ := List.append_of_mem h
  rw [List.map_append, List.map_cons, List.perm_middle.nodup_iff, List.nodup_cons,
    List.mem_append, not_or] at hnames
  rw [List.flatMap_append, List.flatMap_cons, List.filter_append, List.filter_append,
    hother before hnames.1.1, hother after hnames.1.2, hown, List.nil_append, List.append_nil]

theorem untargeted_eq {records : List NodeRecord} {record : NodeRecord}
    (hnames : (records.map name).Nodup) (h : record ∈ records) :
    record.untargeted = record.bare.withEdges (records.flatMap edges) := by
  cases record with
  | classRecord record =>
      have hinterfaces : ((records.flatMap edges).filter (·.1 = record.name)).map Prod.snd =
          record.interfaces :=
        (congrArg (List.map Prod.snd) (filter_edges hnames h)).trans
          (by simp [edges, Function.comp_def])
      exact congrArg
        (fun interfaces => classRecord { record.untargeted with interfaces := interfaces })
        hinterfaces.symm
  | interfaceRecord node => rfl

end NodeRecord

namespace Diagram

variable {records others : List NodeRecord} {settings : Settings}

/-- The line for a class and an interface that it implements. -/
def edgeLine (edge : QualifiedName × QualifiedName) : String :=
  edge.1.text ++ " --|> " ++ edge.2.text

theorem flatMap_realizationLines (records : List NodeRecord) :
    (records.filterMap NodeRecord.class?).flatMap realizationLines =
      (records.flatMap NodeRecord.edges).map edgeLine := by
  induction records with
  | nil => rfl
  | cons record records ih =>
      rw [List.flatMap_cons, List.map_append, ← ih]
      cases record with
      | classRecord record => simp [NodeRecord.class?, NodeRecord.edges, realizationLines, edgeLine]
      | interfaceRecord node => rfl

theorem edgeLine_inj {edge other : QualifiedName × QualifiedName} (h : edge.1.IsPath)
    (h' : other.1.IsPath) (heq : edgeLine edge = edgeLine other) : edge = other := by
  have hlist := congrArg String.toList heq
  simp only [edgeLine, String.toList_append, List.append_assoc] at hlist
  obtain ⟨hfirst, hsecond⟩ := Text.append_cons_inj (h.not_mem ' ' (by decide))
    (h'.not_mem ' ' (by decide)) hlist
  exact Prod.ext (name_inj hfirst) (name_inj (List.append_cancel_left hsecond))

/-- The lines for the records, without the relations and the marks around them. -/
def recordLines (settings : Settings) (records : List NodeRecord) : List String :=
  records.flatMap (nodeLines settings) ++ (records.flatMap NodeRecord.edges).map edgeLine

theorem plain_of_mem_edges (h : ∀ record ∈ records, record.Plain) :
    ∀ edge ∈ records.flatMap NodeRecord.edges, edge.1.IsPath ∧ edge.2.IsPath := by
  intro edge hedge
  obtain ⟨record, hrecord, hedge⟩ := List.mem_flatMap.1 hedge
  have hplain := h record hrecord
  cases record with
  | classRecord record =>
      obtain ⟨interface, hinterface, rfl⟩ := List.mem_map.1 hedge
      exact ⟨hplain.name, hplain.interfaces interface hinterface⟩
  | interfaceRecord node => cases hedge

theorem not_mem_edgeLine (h : ∀ record ∈ records, record.Plain) {c : Char}
    (hc : c ∈ Text.punctuation) (harrow : c ∉ " --|> ".toList) :
    ∀ line ∈ (records.flatMap NodeRecord.edges).map edgeLine, c ∉ line.toList := by
  refine List.forall_mem_map.2 fun edge hedge => ?_
  obtain ⟨hfirst, hsecond⟩ := plain_of_mem_edges h edge hedge
  rw [edgeLine, String.toList_append, String.toList_append, List.mem_append, List.mem_append,
    not_or, not_or]
  exact ⟨⟨hfirst.not_mem c hc, harrow⟩, hsecond.not_mem c hc⟩

theorem recordLines_inj (hrecords : ∀ record ∈ records, record.Plain)
    (hothers : ∀ record ∈ others, record.Plain) (hnames : (records.map NodeRecord.name).Nodup)
    (hnames' : (others.map NodeRecord.name).Nodup)
    (heq : recordLines settings records = recordLines settings others) :
    records.map NodeRecord.untargeted = others.map NodeRecord.untargeted := by
  obtain ⟨hbare, hedges⟩ := flatMap_nodeLines_append_inj hrecords hothers
    (not_mem_edgeLine hrecords (by decide) (by decide))
    (not_mem_edgeLine hothers (by decide) (by decide)) heq
  have hedges := Text.map_inj_of (fun a b ha hb => edgeLine_inj ha.1 hb.1)
    (plain_of_mem_edges hrecords) (plain_of_mem_edges hothers) hedges
  calc records.map NodeRecord.untargeted
      = (records.map NodeRecord.bare).map
          (NodeRecord.withEdges (records.flatMap NodeRecord.edges)) := by
        rw [List.map_map]
        exact List.map_congr_left fun _ => NodeRecord.untargeted_eq hnames
    _ = (others.map NodeRecord.bare).map
          (NodeRecord.withEdges (others.flatMap NodeRecord.edges)) := by rw [hbare, hedges]
    _ = others.map NodeRecord.untargeted := by
        rw [List.map_map]
        exact (List.map_congr_left fun _ => NodeRecord.untargeted_eq hnames').symm

/-! ## Text -/

theorem not_break_mem_memberLine {visibility : Visibility} {name : String} {kind : MemberKind}
    {params : List String} (h : PlainEntry name kind params) :
    '\n' ∉ (memberLine visibility name kind params).toList := by
  have hname := Text.not_mem_of_isIdentifier h.name '\n' (by decide)
  have hmark : '\n' ≠ visibility.mark := by cases visibility <;> decide
  have hsignature : '\n' ∉ (signature name kind params).toList := by
    rw [toList_signature]
    cases kind with
    | field => simpa using hname
    | callable =>
        have hparams : '\n' ∉ [',', ' '].intercalate (params.map String.toList) := by
          intro hmem
          rcases Text.mem_intercalate hmem with hmem | ⟨piece, hpiece, hmem⟩
          · simp at hmem
          · obtain ⟨param, hparam, rfl⟩ := List.mem_map.1 hpiece
            exact Text.not_mem_of_isIdentifier (h.params param hparam) '\n' (by decide) hmem
        simp [hname, hparams]
  simp [memberLine, indent, hmark, hsignature]

theorem not_break_mem_heading {record : NodeRecord} (h : record.Plain) :
    '\n' ∉ (heading record).toList := by
  cases record with
  | classRecord record =>
      have hname := h.name.not_mem '\n' (by decide)
      rw [heading, toList_classHeading]
      cases hparent : record.parent with
      | none => simp [hname]
      | some parent => simp [hname, (h.parent parent hparent).not_mem '\n' (by decide)]
  | interfaceRecord node => simp [heading, h.name.not_mem '\n' (by decide)]

theorem not_break_mem_body {record : NodeRecord} (h : record.Plain) :
    ∀ line ∈ body record, '\n' ∉ line.toList := by
  cases record with
  | classRecord record =>
      have hmembers : ∀ visibility, ∀ line ∈ membersLines visibility record, '\n' ∉ line.toList :=
        fun _ => List.forall_mem_map.2 fun member hmember =>
          not_break_mem_memberLine (h.of_mem_members member hmember)
      have hsurface : ∀ line ∈ surfaceLines record, '\n' ∉ line.toList :=
        List.forall_mem_map.2 fun entry hentry =>
          not_break_mem_memberLine (h.of_mem_surface entry hentry)
      rw [body, classBody]
      split
      · exact List.forall_mem_append.2
          ⟨hsurface, List.forall_mem_cons.2 ⟨by decide, hmembers .restricted⟩⟩
      · exact hmembers .exposed
  | interfaceRecord node =>
      exact List.forall_mem_map.2 fun entry hentry =>
        not_break_mem_memberLine (.required (h.required entry hentry))

theorem not_break_mem_block {heading : String} {lines : List String} (h : '\n' ∉ heading.toList)
    (hlines : ∀ line ∈ lines, '\n' ∉ line.toList) :
    ∀ line ∈ block heading lines, '\n' ∉ line.toList :=
  List.forall_mem_cons.2 ⟨by simp [h],
    List.forall_mem_append.2 ⟨hlines, by decide⟩⟩

theorem not_break_mem_recordLines (h : ∀ record ∈ records, record.Plain) :
    ∀ line ∈ recordLines settings records, '\n' ∉ line.toList := by
  refine List.forall_mem_append.2 ⟨List.forall_mem_flatMap.2 fun record hrecord => ?_,
    not_mem_edgeLine h (by decide) (by decide)⟩
  have hplain := h record hrecord
  rw [nodeLines_eq]
  refine List.forall_mem_append.2
    ⟨not_break_mem_block (not_break_mem_heading hplain) (not_break_mem_body hplain), ?_⟩
  cases record with
  | interfaceRecord node => exact nofun
  | classRecord record =>
      rw [remark]
      split
      · have hname : '\n' ∉ record.name.text.toList :=
          (ClassRecord.Plain.name hplain).not_mem '\n' (by decide)
        exact not_break_mem_block (by simp [hname]) (by decide)
      · exact nofun

/-- The text is that of the records between two texts that do not depend on them. -/
theorem exists_ofRecords_eq (settings : Settings) (relations : List Relation) : ∃ front back,
    ∀ records, (ofRecords settings records relations).toList =
      front ++ ((Text.ended (recordLines settings records)).toList ++ back) := by
  have hlines : ∃ front back, ∀ records,
      lines settings records relations = front ++ (recordLines settings records ++ back) := by
    cases henclose : settings.enclose with
    | false =>
        refine ⟨[], relations.map relationLine, fun records => ?_⟩
        simp [lines, recordLines, henclose, flatMap_realizationLines]
    | true =>
        refine ⟨["@startuml"], relations.map relationLine ++ ["@enduml"], fun records => ?_⟩
        simp [lines, recordLines, henclose, flatMap_realizationLines]
  obtain ⟨front, back, hlines⟩ := hlines
  refine ⟨(Text.ended front).toList, (Text.ended back).toList, fun records => ?_⟩
  have htext : ofRecords settings records relations =
      Text.ended (lines settings records relations) := rfl
  rw [htext, hlines, Text.toList_ended, Text.toList_ended, Text.toList_ended, Text.toList_ended,
    List.flatMap_append, List.flatMap_append]

theorem nodeLines_untargeted (settings : Settings) (record : NodeRecord) :
    nodeLines settings record.untargeted = nodeLines settings record := by
  cases record with
  | interfaceRecord node => rfl
  | classRecord record =>
      have hsurface : record.untargeted.hasSurface = record.hasSurface := by
        simp [ClassRecord.hasSurface, ClassRecord.untargeted, Table.isEmpty, Table.map]
      have hlines : surfaceLines record.untargeted = surfaceLines record := by
        simp [surfaceLines, ClassRecord.untargeted, Table.values_map, SurfaceRecord.untargeted,
          Function.comp_def]
      rw [NodeRecord.untargeted, nodeLines, nodeLines, classBody, classBody, hsurface, hlines]
      rfl

theorem recordLines_congr
    (h : records.map NodeRecord.untargeted = others.map NodeRecord.untargeted) :
    recordLines settings records = recordLines settings others := by
  have hedges : ∀ record : NodeRecord, record.untargeted.edges = record.edges := by
    intro record
    cases record <;> rfl
  have hlines : ∀ records : List NodeRecord, recordLines settings records =
      (records.map NodeRecord.untargeted).flatMap (nodeLines settings) ++
        ((records.map NodeRecord.untargeted).flatMap NodeRecord.edges).map edgeLine := by
    intro records
    simp only [recordLines, List.flatMap_map, nodeLines_untargeted, hedges]
  rw [hlines records, hlines others, h]

theorem ofRecords_inj (settings : Settings) (relations : List Relation)
    (hrecords : ∀ record ∈ records, record.Plain) (hothers : ∀ record ∈ others, record.Plain)
    (hnames : (records.map NodeRecord.name).Nodup)
    (hnames' : (others.map NodeRecord.name).Nodup) :
    ofRecords settings records relations = ofRecords settings others relations ↔
      records.map NodeRecord.untargeted = others.map NodeRecord.untargeted := by
  obtain ⟨front, back, htext⟩ := exists_ofRecords_eq settings relations
  rw [← String.toList_inj, htext, htext, List.append_right_inj, List.append_left_inj]
  constructor
  · exact fun h => recordLines_inj hrecords hothers hnames hnames' (Text.ended_inj
      (not_break_mem_recordLines hrecords) (not_break_mem_recordLines hothers) h)
  · exact fun h => by rw [recordLines_congr h]

end Diagram

/-! ## Graphs -/

/-- What is exposed, without the member that is forwarded to. -/
def Exposure.untargeted : Exposure → Exposure
  | .field => .field
  | .forwarding _ params => .forwarding "" params

/-- The entry without the member that it forwards to. -/
def SurfaceEntry.untargeted (entry : SurfaceEntry) : SurfaceEntry :=
  { entry with exposure := entry.exposure.untargeted }

/-- The class without the members that the entries of its surface forward to. -/
def ClassNode.untargeted (node : ClassNode) : ClassNode :=
  { node with surface := node.surface.map fun _ entry => entry.untargeted }

/-- The node without the members that the entries of its surface forward to. -/
def Node.untargeted : Node → Node
  | .classNode node => .classNode node.untargeted
  | .interfaceNode node => .interfaceNode node

/-- The names in the graph are paths of identifiers or identifiers. -/
def Graph.Plain (graph : Graph) : Prop := ∀ node ∈ graph.nodes, node.record.Plain

/-! ## Graphs and their records -/

theorem Table.map_eq_iff_map_eq {κ α β γ : Type} {f : α → β} {g : α → γ}
    (h : ∀ a b, f a = f b ↔ g a = g b) {t u : Table κ α} :
    (t.map fun _ => f) = (u.map fun _ => f) ↔ (t.map fun _ => g) = u.map fun _ => g := by
  have hentry : ∀ a b : κ × α, (a.1, f a.2) = (b.1, f b.2) ↔ (a.1, g a.2) = (b.1, g b.2) := by
    intro a b
    rw [Prod.mk.injEq, Prod.mk.injEq, h]
  have hentries := Text.map_eq_iff_map_eq hentry (l := t.entries) (m := u.entries)
  exact ⟨fun heq => ext_entries (hentries.1 (congrArg Table.entries heq)),
    fun heq => ext_entries (hentries.2 (congrArg Table.entries heq))⟩

theorem SurfaceEntry.untargeted_record_iff (entry other : SurfaceEntry) :
    entry.record.untargeted = other.record.untargeted ↔ entry.untargeted = other.untargeted := by
  obtain ⟨name, exposure⟩ := entry
  obtain ⟨name', exposure'⟩ := other
  cases exposure <;> cases exposure' <;>
    simp [record, SurfaceRecord.untargeted, untargeted, Exposure.untargeted, Exposure.shape,
      Shape.kind, Shape.params]

theorem ClassNode.untargeted_record_iff (node other : ClassNode) :
    node.record.untargeted = other.record.untargeted ↔ node.untargeted = other.untargeted := by
  have hmember : ∀ a b : Member, a.record = b.record → a = b := fun _ _ => Member.record_inj.1
  have hsurface : node.record.untargeted.surface = other.record.untargeted.surface ↔
      node.untargeted.surface = other.untargeted.surface := by
    have hentries := Table.map_eq_iff_map_eq SurfaceEntry.untargeted_record_iff
      (t := node.surface) (u := other.surface)
    simpa [record, ClassRecord.untargeted, untargeted, Table.map, Function.comp_def] using hentries
  simp only [record, ClassRecord.untargeted, untargeted] at hsurface
  simp only [record, ClassRecord.untargeted, untargeted, ClassRecord.mk.injEq,
    ClassNode.mk.injEq, Table.map_inj hmember, hsurface]

theorem Node.untargeted_record_iff (node other : Node) :
    node.record.untargeted = other.record.untargeted ↔ node.untargeted = other.untargeted := by
  cases node with
  | interfaceNode node => cases other <;> simp [record, NodeRecord.untargeted, untargeted]
  | classNode node =>
      cases other with
      | interfaceNode other => simp [record, NodeRecord.untargeted, untargeted]
      | classNode other =>
          simpa [record, NodeRecord.untargeted, untargeted] using
            node.untargeted_record_iff other

namespace Diagram

/-- Plain records of different names have the same text exactly if they are the same and
in the same order, but for the members that the entries of a surface forward to. In
particular two plain graphs have the same text exactly if they have the same nodes. -/
theorem text_eq_text_iff (settings : Settings) (relations : List Relation) :
    (∀ records others : List NodeRecord, (∀ record ∈ records, record.Plain) →
      (∀ record ∈ others, record.Plain) → (records.map NodeRecord.name).Nodup →
      (others.map NodeRecord.name).Nodup →
      (ofRecords settings records relations = ofRecords settings others relations ↔
        records.map NodeRecord.untargeted = others.map NodeRecord.untargeted)) ∧
    ∀ first second : Graph, first.Plain → second.Plain →
      (text settings first relations = text settings second relations ↔
        first.nodes.map Node.untargeted = second.nodes.map Node.untargeted) := by
  refine ⟨fun records others => ofRecords_inj settings relations, fun first second => ?_⟩
  intro hfirst hsecond
  have hnames : ∀ graph : Graph, ((graph.nodes.map Node.record).map NodeRecord.name).Nodup := by
    intro graph
    simpa [Function.comp_def] using graph.names_nodup
  rw [text, text, ofRecords_inj settings relations (List.forall_mem_map.2 hfirst)
    (List.forall_mem_map.2 hsecond) (hnames first) (hnames second), List.map_map, List.map_map]
  exact Text.map_eq_iff_map_eq Node.untargeted_record_iff

/-- A class with a parent, a surface whose entry forwards to the member if it is given,
another member and an interface that it implements. -/
def forwardingTo (target : Option String) : List NodeRecord :=
  [.interfaceRecord ⟨⟨"Runs"⟩, [("run", .callable), ("id", .field)]⟩,
    .classRecord {
      name := ⟨"App.Job"⟩
      parent := some ⟨"Anonymous1"⟩
      members := ⟨[("x", ⟨"x", .field, []⟩)], by decide⟩
      surface := ⟨[("run", ⟨"run", .callable, ["a", "b"], target⟩)], by simp⟩
      interfaces := [⟨"Runs"⟩] }]

theorem plain_forwardingTo (target : Option String) :
    ∀ record ∈ forwardingTo target, record.Plain := by
  have hruns : QualifiedName.IsPath ⟨"Runs"⟩ := ⟨["Runs".toList], by decide, by decide, by decide⟩
  have hjob : QualifiedName.IsPath ⟨"App.Job"⟩ :=
    ⟨["App".toList, "Job".toList], by decide, by decide, by decide⟩
  have hrun : PlainEntry "run" .callable ["a", "b"] := ⟨by decide, nofun, by decide⟩
  refine List.forall_mem_cons.2 ⟨⟨hruns, by decide⟩, List.forall_mem_singleton.2
    { name := hjob
      parent := ?_
      surface := List.forall_mem_singleton.2 ⟨rfl, hrun⟩
      members := List.forall_mem_singleton.2 ⟨rfl, by decide, fun _ => rfl, nofun⟩
      interfaces := List.forall_mem_singleton.2 hruns }⟩
  rintro _ ⟨⟩
  exact ⟨["Anonymous1".toList], by decide, by decide, by decide⟩

/-- The graph with these records. -/
def forwarder (target : String) : Graph where
  nodes := [.interfaceNode ⟨⟨"Runs"⟩, [("run", .callable), ("id", .field)]⟩,
    .classNode {
      name := ⟨"App.Job"⟩
      parent := some ⟨"Anonymous1"⟩
      members := ⟨[("x", ⟨"x", .field⟩)], by decide⟩
      surface := ⟨[("run", ⟨"run", .forwarding target ["a", "b"]⟩)], by simp⟩
      interfaces := [⟨"Runs"⟩] }]
  names_nodup := show [(⟨"Runs"⟩ : QualifiedName), ⟨"App.Job"⟩].Nodup by decide

theorem plain_forwarder (target : String) : (forwarder target).Plain := by
  have hrecords : (forwarder target).nodes.map Node.record = forwardingTo (some target) := rfl
  have hplain := plain_forwardingTo (some target)
  rw [← hrecords] at hplain
  exact List.forall_mem_map.1 hplain

/-- What an entry forwards to cannot be read back, and in a record not even whether it
forwards to something. -/
theorem text_forwardingTo :
    (forwardingTo (some "start") ≠ forwardingTo none ∧
      (∀ record ∈ forwardingTo (some "start"), record.Plain) ∧
      (∀ record ∈ forwardingTo none, record.Plain) ∧
      ofRecords {} (forwardingTo (some "start")) [] = ofRecords {} (forwardingTo none) []) ∧
    forwarder "start" ≠ forwarder "stop" ∧
      (forwarder "start").Plain ∧ (forwarder "stop").Plain ∧
      text {} (forwarder "start") [] = text {} (forwarder "stop") [] := by
  have hnames : ∀ target, ((forwardingTo target).map NodeRecord.name).Nodup :=
    fun _ => show [(⟨"Runs"⟩ : QualifiedName), ⟨"App.Job"⟩].Nodup by decide
  obtain ⟨hrecords, hgraphs⟩ := text_eq_text_iff {} []
  have hsame := hrecords _ _ (plain_forwardingTo (some "start")) (plain_forwardingTo none)
    (hnames _) (hnames _)
  exact ⟨⟨by decide, plain_forwardingTo _, plain_forwardingTo _, hsame.2 rfl⟩, by decide,
    plain_forwarder "start", plain_forwarder "stop",
    (hgraphs _ _ (plain_forwarder "start") (plain_forwarder "stop")).2 rfl⟩

end Diagram

end ClassDiagram
