import ClassDiagram.Proofs.Exposure
import ClassDiagram.Proofs.Rendered

/-!
# What the block of a class lists

Three parts of the library decide what a diagram says about a class: its surface
is extracted, the members that show on it are taken out of the rest, and the
block is written with one mark or the other. This file follows each class all the
way, from its definition in the realm to the lines of the text.

`Realm.Lists` says what the lines ought to be and mentions neither nodes nor
tables: the keys that the class offers, each once and where it first appears,
then the separator, then the properties under other keys. Of a key that is
stated more than once it is the last expression that counts.

That some block has these lines does not yet say that a property is written once.
So the text is described from its first line to its last (`Session.Writes`): it has
one block for each value that is drawn, nothing stands between the blocks, and behind
them stand only the interfaces of the classes and the relations.
-/

namespace ClassDiagram

/-! ## The lines of the text -/

/-- The line of a field. -/
def fieldLine (mark name : String) : String := "    " ++ mark ++ " " ++ name

/-- The line of a callable, which has a list of parameters behind its name. -/
def callableLine (mark name : String) (params : List String) : String :=
  "    " ++ mark ++ " " ++ name ++ "(" ++ ", ".intercalate params ++ ")"

/-- The line for an entry of a surface that exposes this. -/
def Exposure.line (name : String) : Exposure → String
  | field => fieldLine "+" name
  | forwarding _ params => callableLine "+" name params

/-- The line for a property that shows with the mark. -/
def Property.line (mark name : String) : Property → String
  | field => fieldLine mark name
  | callable definition => callableLine mark name definition.parameters

/-- The line for something that an interface requires; its parameters are not known. -/
def MemberKind.line (name : String) : MemberKind → String
  | field => fieldLine "+" name
  | callable => callableLine "+" name []

/-- The first line of the block of a class, where the class that it extends is named. -/
def ClassDef.heading (definition : ClassDef ValueId) (naming : ValueId → QualifiedName)
    (id : ValueId) : String :=
  match definition.parent with
  | none => "class " ++ (naming id).text ++ " \x7b"
  | some parent => "class " ++ (naming id).text ++ " extends " ++ (naming parent).text ++ " \x7b"

/-- The note that may stand behind the block of a class with a surface. -/
def noteLines (name : QualifiedName) : List String :=
  ["note left of " ++ name.text ++ " \x7b",
    "    Class has a public API. Inherited methods are",
    "    protected unless specified in this class.", "\x7d", ""]

/-- The lines list the class. -/
def Realm.Lists (realm : Realm) (definition : ClassDef ValueId) (body : List String) : Prop :=
  ∃ offered own, body = offered ++ (if offered = [] then own else "    ...." :: own) ∧
    List.Forall₂ (fun key line => ∃ expression exposure,
        definition.offers.reverse.lookup key = some expression ∧
        realm.Exposes definition expression exposure ∧ line = exposure.line key)
      (definition.offers.map Prod.fst).eraseDups offered ∧
    own = (definition.prototype.entries.filter fun entry =>
        entry.1 ∉ definition.offers.map Prod.fst).map fun entry =>
      entry.2.line (if offered = [] then "+" else "-") entry.1

/-- The lines are what is written where the value has its place, and nothing besides. -/
inductive Realm.Block (realm : Realm) (naming : ValueId → QualifiedName) (notes : Bool)
    (id : ValueId) : List String → Prop
  | ofClass {definition : ClassDef ValueId} {body : List String}
      (hclass : realm.class? id = some definition) (hlists : realm.Lists definition body) :
      Block realm naming notes id (definition.heading naming id :: (body ++ ["\x7d", ""] ++
        if notes = true ∧ definition.offers ≠ [] then noteLines (naming id) else []))
  | ofInterface {requirements : Table String String}
      (hinterface : realm.interface? id = some requirements) :
      Block realm naming notes id (("interface " ++ (naming id).text ++ " \x7b") ::
        (requirements.entries.map (fun entry =>
          (MemberKind.ofDeclaredType entry.2).line entry.1) ++ ["\x7d", ""]))

/-- The lines that say which interfaces the value implements, if it is a class. -/
def Realm.realizationLines (realm : Realm) (naming : ValueId → QualifiedName) (id : ValueId) :
    List String :=
  match realm.class? id with
  | some definition => definition.implements.map fun interface =>
      (naming id).text ++ " --|> " ++ (naming interface).text
  | none => []

/-- The text has a block for each of the values, then says what they implement, and
ends in the relations; it may stand between two marks. -/
def Session.Writes {realm : Realm} (session : Session realm) (naming : ValueId → QualifiedName)
    (order : List ValueId) (text : String) : Prop :=
  ∃ blocks content,
    List.Forall₂ (realm.Block naming session.settings.notes) order blocks ∧
    content = blocks.flatten ++ order.flatMap (realm.realizationLines naming) ++
      session.relations.map Diagram.relationLine ∧
    text = String.join ((if session.settings.enclose then
      "@startuml" :: (content ++ ["@enduml"]) else content).map (· ++ "\n"))

/-- Every class that is to be drawn has its node, where each of its properties is
either a key of the surface or a key of the members. -/
def Session.Parts {realm : Realm} (session : Session realm) (roots : List ValueId) : Prop :=
  ∀ id, realm.Ancestral roots id → ∃ definition node, realm.class? id = some definition ∧
    .classNode node ∈ session.graph.nodes ∧ node.name = session.nameOf id ∧
    ∀ key ∈ definition.prototype.keys, (key ∈ node.surface.keys ↔ key ∉ node.members.keys)

variable {realm : Realm} {definition : ClassDef ValueId}

/-! ## A member or an entry -/

theorem Diagram.memberLine_field (visibility : Visibility) (name : String)
    (params : List String) : memberLine visibility name .field params =
      fieldLine (String.singleton visibility.mark) name := rfl

theorem Diagram.memberLine_callable (visibility : Visibility) (name : String)
    (params : List String) : memberLine visibility name .callable params =
      callableLine (String.singleton visibility.mark) name params := by
  simp only [memberLine, signature, callableLine, indent, String.append_assoc]

theorem Diagram.memberLine_property (visibility : Visibility) (name : String)
    (property : Property) :
    memberLine visibility name property.shape.kind property.shape.params =
      property.line (String.singleton visibility.mark) name := by
  cases property with
  | field => exact memberLine_field visibility name []
  | callable definition => exact memberLine_callable visibility name definition.parameters

theorem Diagram.memberLine_exposure (name : String) (exposure : Exposure) :
    memberLine .exposed name exposure.shape.kind exposure.shape.params = exposure.line name := by
  cases exposure with
  | field => exact memberLine_field .exposed name []
  | forwarding target params => exact memberLine_callable .exposed name params

theorem Diagram.memberLine_kind (name : String) (kind : MemberKind) :
    memberLine .exposed name kind [] = kind.line name := by
  cases kind with
  | field => exact memberLine_field .exposed name []
  | callable => exact memberLine_callable .exposed name []

/-! ## The block of a class -/

/-- An entry of the surface exposes what is stated last for its key. -/
theorem Realm.mem_surface {key : String} {entry : SurfaceEntry}
    (h : (key, entry) ∈ ((realm.surface? definition).getD ∅).entries) :
    entry.name = key ∧ ∃ expression, definition.offers.reverse.lookup key = some expression ∧
      realm.Exposes definition expression entry.exposure := by
  rw [← Table.get?_eq_some_iff, realm.get?_surface] at h
  obtain ⟨expression, hexpression, rfl⟩ := Option.map_eq_some_iff.1 h
  exact ⟨rfl, expression, hexpression, exposes_exposure realm definition expression⟩

namespace ClassNode.Shows

variable {naming : ValueId → QualifiedName} {id : ValueId} {node : ClassNode}
  (h : node.Shows realm naming id definition)

include h

theorem keys_surface : node.surface.keys = (definition.offers.map Prod.fst).eraseDups := by
  rw [h.surface, realm.keys_surface]

theorem hasSurface_eq_true_iff : node.record.hasSurface = true ↔ definition.offers ≠ [] := by
  have hkeys : node.surface.entries = [] ↔ definition.offers = [] := by
    rw [← List.map_eq_nil_iff (f := Prod.fst), ← Table.keys, h.keys_surface]
    cases definition.offers <;> simp [List.eraseDups_cons]
  simp [ClassRecord.hasSurface, ClassNode.record, Table.isEmpty, Table.map, hkeys]

theorem keys_members :
    node.members.keys = definition.prototype.keys.filter fun key => key ∉ node.surface.keys := by
  have hfilter := List.filter_map (f := Prod.fst) (l := definition.members.entries)
    (p := fun key : String => decide (key ∉ node.surface.keys))
  rw [Table.keys, h.members, ← ClassDef.keys_members]
  exact hfilter.symm

/-- A property of the class is an entry of the surface or a member, and not both. -/
theorem mem_surface_iff {key : String} (hkey : key ∈ definition.prototype.keys) :
    key ∈ node.surface.keys ↔ key ∉ node.members.keys := by
  simp [h.keys_members, hkey]

theorem surfaceLines_record :
    List.Forall₂ (fun key line => ∃ expression exposure,
        definition.offers.reverse.lookup key = some expression ∧
        realm.Exposes definition expression exposure ∧ line = exposure.line key)
      (definition.offers.map Prod.fst).eraseDups (Diagram.surfaceLines node.record) := by
  have hlines : Diagram.surfaceLines node.record =
      node.surface.entries.map fun entry => entry.2.exposure.line entry.2.name := by
    simp [Diagram.surfaceLines, ClassNode.record, SurfaceEntry.record, Table.map, Table.values,
      Diagram.memberLine_exposure, Function.comp_def]
  rw [hlines, ← h.keys_surface, Table.keys, List.forall₂_map_left_iff,
    List.forall₂_map_right_iff, List.forall₂_same]
  rintro ⟨key, entry⟩ hentry
  rw [h.surface] at hentry
  obtain ⟨rfl, expression, hexpression, hexposes⟩ := Realm.mem_surface hentry
  exact ⟨expression, entry.exposure, hexpression, hexposes, rfl⟩

theorem membersLines_record (visibility : Visibility) :
    Diagram.membersLines visibility node.record =
      (definition.prototype.entries.filter fun entry =>
          entry.1 ∉ definition.offers.map Prod.fst).map fun entry =>
        entry.2.line (String.singleton visibility.mark) entry.1 := by
  have hkeys : ∀ key, key ∈ node.surface.keys ↔ key ∈ definition.offers.map Prod.fst := by
    intro key
    rw [h.keys_surface, List.mem_eraseDups]
  have hlines : Diagram.membersLines visibility node.record = node.members.entries.map fun entry =>
      Diagram.memberLine visibility entry.2.name entry.2.shape.kind entry.2.shape.params := by
    simp [Diagram.membersLines, ClassNode.record, Member.record, Table.map, Table.values,
      Function.comp_def]
  rw [hlines, h.members, ClassDef.members, Table.map, List.filter_map, List.map_map]
  simp only [Function.comp_def, hkeys, Diagram.memberLine_property]

theorem lists_classBody : realm.Lists definition (Diagram.classBody node.record) := by
  have hexposed : String.singleton Visibility.exposed.mark = "+" := rfl
  have hrestricted : String.singleton Visibility.restricted.mark = "-" := rfl
  have hseparator : Diagram.separator = "    ...." := rfl
  have hempty : Diagram.surfaceLines node.record = [] ↔ ¬node.record.hasSurface = true := by
    simp [Diagram.surfaceLines, ClassRecord.hasSurface, Table.values, Table.isEmpty]
  refine ⟨_, _, ?_, h.surfaceLines_record, rfl⟩
  rw [Diagram.classBody, h.membersLines_record, h.membersLines_record, hexposed, hrestricted,
    hseparator]
  by_cases hsurface : node.record.hasSurface = true
  · have hoffered : Diagram.surfaceLines node.record ≠ [] := fun hnil => hempty.1 hnil hsurface
    rw [if_pos hsurface, if_neg hoffered, if_neg hoffered]
  · have hoffered : Diagram.surfaceLines node.record = [] := hempty.2 hsurface
    rw [if_neg hsurface, if_pos hoffered, if_pos hoffered, hoffered, List.nil_append]

theorem classHeading_append :
    Diagram.classHeading node.record ++ " \x7b" = definition.heading naming id := by
  have hname : node.record.name = naming id := h.name
  have hparent : node.record.parent = definition.parent.map naming := h.parent
  rw [Diagram.classHeading, hparent, hname, ClassDef.heading]
  cases definition.parent <;> rfl

end ClassNode.Shows

/-! ## All blocks -/

namespace Realm

variable {naming : ValueId → QualifiedName} {id : ValueId} {order : List ValueId}
  {nodes : List Node}

theorem Declares.block {node : Node} (h : realm.Declares naming id node)
    (settings : Diagram.Settings) :
    realm.Block naming settings.notes id (Diagram.nodeLines settings node.record) := by
  cases h with
  | @ofClass definition node hclass hshows =>
      have hnote : (settings.notes && node.record.hasSurface) = true ↔
          settings.notes = true ∧ definition.offers ≠ [] := by
        rw [Bool.and_eq_true, hshows.hasSurface_eq_true_iff]
      have hlines : Diagram.note node.record = noteLines (naming id) := by
        rw [← hshows.name]
        rfl
      have hblock : realm.Block naming settings.notes id _ := .ofClass hclass hshows.lists_classBody
      simpa only [Node.record, Diagram.nodeLines, Diagram.block, hshows.classHeading_append,
        hnote, hlines, List.cons_append] using hblock
  | @ofInterface requirements node hinterface hshows =>
      have hblock : realm.Block naming settings.notes id _ := .ofInterface hinterface
      have hrequired : Diagram.requiredLines node = requirements.entries.map fun entry =>
          (MemberKind.ofDeclaredType entry.2).line entry.1 := by
        rw [Diagram.requiredLines, ← InterfaceNode.required_iff.1 hshows.required, List.map_map]
        exact List.map_congr_left fun entry _ => Diagram.memberLine_kind _ _
      rw [← hshows.name, ← hrequired] at hblock
      exact hblock

/-- What the classes among the nodes implement is what the values implement. -/
theorem realizationLines_of_declares (h : List.Forall₂ (realm.Declares naming) order nodes) :
    ((nodes.map Node.record).filterMap NodeRecord.class?).flatMap Diagram.realizationLines =
      order.flatMap (realm.realizationLines naming) := by
  induction h with
  | nil => rfl
  | @cons id node _ nodes hnode _ ih =>
      rw [List.flatMap_cons, ← ih, realizationLines]
      cases hnode with
      | @ofClass definition node hclass hshows =>
          have hrecords : ((Node.classNode node :: nodes).map Node.record).filterMap
              NodeRecord.class? =
              node.record :: (nodes.map Node.record).filterMap NodeRecord.class? := rfl
          have hname : node.record.name = naming id := hshows.name
          have hinterfaces : node.record.interfaces = definition.implements.map naming :=
            hshows.interfaces
          rw [hclass, hrecords, List.flatMap_cons, Diagram.realizationLines, hinterfaces, hname,
            List.map_map]
          rfl
      | ofInterface hinterface _ =>
          have hnone : realm.class? id = none := Option.not_isSome_iff_eq_none.1
            (not_isClass_of_isInterface (Option.isSome_of_eq_some hinterface))
          rw [hnone]
          rfl

/-- A value among those that the nodes are declared for has its node there. -/
theorem exists_declares (h : List.Forall₂ (realm.Declares naming) order nodes) (hid : id ∈ order) :
    ∃ node ∈ nodes, realm.Declares naming id node := by
  obtain ⟨index, hindex, rfl⟩ := List.getElem_of_mem hid
  have hlt : index < nodes.length := h.length_eq ▸ hindex
  exact ⟨nodes[index], List.getElem_mem hlt, h.get hindex hlt⟩

end Realm

namespace Session

variable {session : Session realm} {text : String} {id : ValueId}

theorem Declared.parts {roots : List ValueId} (h : session.Declared roots) :
    session.Parts roots := by
  obtain ⟨order, _, hnodes, hclasses, _⟩ := h
  intro id hid
  obtain ⟨horder, hisClass⟩ := (hclasses id).2 hid
  obtain ⟨node, hnode, hdeclares⟩ := Realm.exists_declares hnodes horder
  obtain ⟨definition, own, rfl, hclass, hshows⟩ := hdeclares.exists_shows hisClass
  exact ⟨definition, own, hclass, hnode, hshows.name, fun key hkey => hshows.mem_surface_iff hkey⟩

/-- When rendering succeeds, each class among the ancestors of the roots has one
place in the text, and what is written there lists the class. -/
theorem render_lists (h : Reachable session) (hrender : session.render.1 = .ok text) :
    session.render.2.Parts session.roots ∧
      ∃ order : List ValueId, order.Nodup ∧
        (∀ id, id ∈ order ∧ (realm.class? id).isSome ↔ realm.Ancestral session.roots id) ∧
        session.Writes session.render.2.nameOf order text := by
  obtain ⟨hgrown, hdeclared, rfl⟩ := of_render h hrender
  refine ⟨hdeclared.parts, ?_⟩
  obtain ⟨order, hnodup, hnodes, hclasses, _⟩ := hdeclared
  have hsettings : session.render.2.settings = session.settings := hgrown.settings
  have hrelations : session.render.2.relations = session.relations := hgrown.relations
  have hblocks := hnodes.imp fun _ _ hnode => hnode.block session.settings
  refine ⟨order, hnodup, hclasses, _, _, List.forall₂_map_right_iff.2 hblocks, rfl, ?_⟩
  rw [diagram, Diagram.text, Diagram.ofRecords, Diagram.lines, hsettings, hrelations,
    Realm.realizationLines_of_declares hnodes, List.flatMap, List.map_map]
  rfl

/-- A class whose constructor returns its surface: one key is stated twice, one
forwards to a method of the parent under another name, and one is no property of
the class. -/
def facade : Realm where
  values := #[
    .classDef {
      parent := some ⟨1⟩
      prototype := ⟨[("__construct", .callable ⟨some
          "return \x7b go: this.x, run: this.start, x: 1, go: this.stop \x7d", none⟩),
        ("start", .callable ⟨none, some ["a", "b"]⟩), ("x", .field)], by decide⟩ },
    .classDef { prototype := ⟨[("stop", .callable ⟨none, some ["c"]⟩)], by decide⟩ }]

theorem render_facade_lists :
    let session : Session facade := { roots := [⟨0⟩] }
    let text := String.join (["class Anonymous2 \x7b", "    + stop(c)", "\x7d", "",
      "class Anonymous1 extends Anonymous2 \x7b",
      "    + go(c)", "    + run(a, b)", "    + x", "    ....",
      "    - __construct()", "    - start(a, b)", "\x7d", "",
      "note left of Anonymous1 \x7b", "    Class has a public API. Inherited methods are",
      "    protected unless specified in this class.", "\x7d", ""].map (· ++ "\n"))
    Reachable session ∧ session.render.1 = .ok text ∧
      session.render.2.Parts session.roots ∧
      ∃ order : List ValueId, order.Nodup ∧
        (∀ id, id ∈ order ∧ (facade.class? id).isSome ↔ facade.Ancestral session.roots id) ∧
        session.Writes session.render.2.nameOf order text := by
  intro session text
  have hreachable : Reachable session :=
    .start (show withRoots [⟨0⟩] [] = .ok session from rfl)
  have hrender : session.render.1 = .ok text := by decide +kernel
  exact ⟨hreachable, hrender, render_lists hreachable hrender⟩

end Session

end ClassDiagram
