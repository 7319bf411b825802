import ClassDiagram.Graph.Json
import ClassDiagram.Proofs.ValueText
import Mathlib.Data.Prod.Basic

/-!
# A graph is known from its JSON text

The way back from the text of a graph has two parts. From the text to the JSON value
nothing is lost, because the value has no numbers in it (`compact_inj`); all that has to
be said of a graph there is how deep its brackets nest. From the value to the graph
nothing is lost because every field of a record stands beside its own name, and a class
and an interface differ in their first field. That is an injection for each layer, from
the kinds and lists of texts outwards.

The records are known whatever they state. That those of a graph determine the graph is
then a fact about shapes: a field has no parameters, and a callable of a surface has a
target.
-/

namespace ClassDiagram

open Json

/-! ## No numbers -/

theorem Json.numberless_ofTexts (nesting : Nat) (values : List String) :
    Numberless (nesting + 1) (ofTexts values) :=
  .array (List.forall_mem_map.2 fun value _ => .text value)

theorem Json.numberless_ofText? (nesting : Nat) (value : Option String) :
    Numberless nesting (ofText? value) := by
  cases value with
  | none => exact .null
  | some value => exact .text value

theorem Table.numberless_toJson {α : Type} {nesting : Nat} {write : α → Json}
    (h : ∀ value, Numberless nesting (write value)) (t : Table String α) :
    Numberless (nesting + 1) (t.toJson write) :=
  .object (List.forall_mem_map.2 fun entry _ => h entry.2)

theorem MemberRecord.numberless_toJson (record : MemberRecord) : Numberless 2 record.toJson := by
  refine .object ?_
  simp only [List.forall_mem_cons]
  exact ⟨.text _, .text _, numberless_ofTexts _ _, nofun⟩

theorem SurfaceRecord.numberless_toJson (record : SurfaceRecord) : Numberless 2 record.toJson := by
  refine .object ?_
  simp only [List.forall_mem_cons]
  exact ⟨.text _, .text _, numberless_ofTexts _ _, numberless_ofText? _ _, nofun⟩

theorem ClassRecord.numberless_toJson (record : ClassRecord) : Numberless 4 record.toJson := by
  have hmembers := record.members.numberless_toJson MemberRecord.numberless_toJson
  have hsurface := record.surface.numberless_toJson SurfaceRecord.numberless_toJson
  refine .object ?_
  simp only [List.forall_mem_cons]
  exact ⟨.text _, .text _, numberless_ofText? _ _, hmembers, hsurface,
    .array (List.forall_mem_map.2 fun _ _ => .text _), nofun⟩

theorem InterfaceNode.numberless_toJson (node : InterfaceNode) : Numberless 4 node.toJson := by
  have hrequired : ∀ entry ∈ node.required,
      Numberless 2 (.array [.text entry.1, entry.2.toJson]) := by
    intro entry _
    refine .array ?_
    simp only [List.forall_mem_cons]
    exact ⟨.text _, .text _, nofun⟩
  refine .object ?_
  simp only [List.forall_mem_cons]
  exact ⟨.text _, .text _, .array (List.forall_mem_map.2 hrequired), nofun⟩

theorem Json.numberless_ofRecords (records : List NodeRecord) :
    Numberless 5 (ofRecords records) := by
  refine .object (List.forall_mem_map.2 fun record _ => ?_)
  cases record with
  | classRecord record => exact record.numberless_toJson
  | interfaceRecord node => exact node.numberless_toJson

/-! ## From the value to the records -/

@[simp] theorem Json.ofTexts_inj {values others : List String} :
    ofTexts values = ofTexts others ↔ values = others := by
  rw [ofTexts, ofTexts, array.injEq]
  exact (List.map_injective_iff.2 fun _ _ => text.inj).eq_iff

@[simp] theorem Json.ofText?_inj {value other : Option String} :
    ofText? value = ofText? other ↔ value = other := by
  cases value <;> cases other <;> simp [ofText?]

@[simp] theorem MemberKind.toJson_inj {kind other : MemberKind} :
    kind.toJson = other.toJson ↔ kind = other := by
  cases kind <;> cases other <;> simp [toJson, name]

@[simp] theorem QualifiedName.text_inj {name other : QualifiedName} :
    name.text = other.text ↔ name = other := by
  cases name
  cases other
  simp

@[simp] theorem QualifiedName.toJson_inj {name other : QualifiedName} :
    name.toJson = other.toJson ↔ name = other := by
  simp [toJson]

theorem Table.toJson_inj {α : Type} {write : α → Json} (hwrite : Function.Injective write)
    {t u : Table String α} : t.toJson write = u.toJson write ↔ t = u := by
  have hentry : Function.Injective fun entry : String × α => (entry.1, write entry.2) :=
    Function.injective_id.prodMap hwrite
  refine ⟨fun h => ?_, fun h => by rw [h]⟩
  exact ext_entries (List.map_injective_iff.2 hentry (object.inj h))

theorem MemberRecord.toJson_injective : Function.Injective MemberRecord.toJson := by
  rintro ⟨name, kind, params⟩ ⟨name', kind', params'⟩ h
  simpa [toJson] using h

theorem SurfaceRecord.toJson_injective : Function.Injective SurfaceRecord.toJson := by
  rintro ⟨name, kind, params, target⟩ ⟨name', kind', params', target'⟩ h
  simpa [toJson] using h

theorem ClassRecord.toJson_injective : Function.Injective ClassRecord.toJson := by
  have hparent : Function.Injective (Option.map QualifiedName.text) :=
    Option.map_injective fun _ _ => QualifiedName.text_inj.1
  have hinterfaces : Function.Injective (List.map QualifiedName.toJson) :=
    List.map_injective_iff.2 fun _ _ => QualifiedName.toJson_inj.1
  rintro ⟨name, parent, members, surface, interfaces⟩
    ⟨name', parent', members', surface', interfaces'⟩ h
  simpa [toJson, hparent.eq_iff, hinterfaces.eq_iff,
    Table.toJson_inj MemberRecord.toJson_injective,
    Table.toJson_inj SurfaceRecord.toJson_injective] using h

theorem InterfaceNode.toJson_injective : Function.Injective InterfaceNode.toJson := by
  have hrequired : Function.Injective (List.map fun entry : String × MemberKind =>
      array [.text entry.1, entry.2.toJson]) := by
    refine List.map_injective_iff.2 ?_
    rintro ⟨name, kind⟩ ⟨name', kind'⟩ h
    simpa using h
  rintro ⟨name, required⟩ ⟨name', required'⟩ h
  simpa [toJson, hrequired.eq_iff] using h

/-- The first field says whether the node is a class. -/
theorem ClassRecord.toJson_ne (record : ClassRecord) (node : InterfaceNode) :
    record.toJson ≠ node.toJson := by
  simp [toJson, InterfaceNode.toJson]

theorem NodeRecord.toJson_injective : Function.Injective NodeRecord.toJson := by
  intro record other h
  cases record with
  | classRecord record =>
      cases other with
      | classRecord other => exact congrArg classRecord (ClassRecord.toJson_injective h)
      | interfaceRecord node => exact absurd h (record.toJson_ne node)
  | interfaceRecord node =>
      cases other with
      | classRecord other => exact absurd h.symm (other.toJson_ne node)
      | interfaceRecord other => exact congrArg interfaceRecord (InterfaceNode.toJson_injective h)

theorem Json.ofRecords_inj {records others : List NodeRecord} :
    ofRecords records = ofRecords others ↔ records = others := by
  have hmember : Function.Injective fun record : NodeRecord => (record.name.text, record.toJson) :=
    fun _ _ h => NodeRecord.toJson_injective (Prod.mk.inj h).2
  rw [ofRecords, ofRecords, object.injEq, (List.map_injective_iff.2 hmember).eq_iff]

/-! ## From the records to the graph -/

theorem SurfaceEntry.record_injective : Function.Injective SurfaceEntry.record := by
  rintro ⟨name, exposure⟩ ⟨name', exposure'⟩ h
  cases exposure <;> cases exposure' <;> cases h <;> rfl

theorem ClassNode.record_injective : Function.Injective ClassNode.record := by
  have hmember : ∀ a b : Member, a.record = b.record → a = b := fun _ _ => Member.record_inj.1
  have hentry : ∀ a b : SurfaceEntry, a.record = b.record → a = b :=
    fun _ _ h => SurfaceEntry.record_injective h
  rintro ⟨name, parent, members, surface, interfaces⟩
    ⟨name', parent', members', surface', interfaces'⟩ h
  simp only [record, ClassRecord.mk.injEq, Table.map_inj hmember, Table.map_inj hentry] at h
  obtain ⟨rfl, rfl, rfl, rfl, rfl⟩ := h
  rfl

theorem Node.record_injective : Function.Injective Node.record := by
  intro node other h
  cases node <;> cases other
  · exact congrArg classNode (ClassNode.record_injective (NodeRecord.classRecord.inj h))
  · cases h
  · cases h
  · exact congrArg interfaceNode (NodeRecord.interfaceRecord.inj h)

theorem Graph.ext_nodes {graph other : Graph} (h : graph.nodes = other.nodes) : graph = other := by
  cases graph
  cases other
  cases h
  rfl

/-- Records with the same text are the same and stand in the same order, whatever text
their names are and whatever they state of an entry. In particular two graphs with the
same text are the same. -/
theorem Graph.compact_toJson_inj :
    (∀ records others : List NodeRecord,
      compact (ofRecords records) = compact (ofRecords others) ↔ records = others) ∧
    ∀ graph other : Graph, compact graph.toJson = compact other.toJson ↔ graph = other := by
  have hrecords : ∀ records others : List NodeRecord,
      compact (ofRecords records) = compact (ofRecords others) ↔ records = others := by
    intro records others
    rw [compact_inj (numberless_ofRecords records) (numberless_ofRecords others), ofRecords_inj]
  refine ⟨hrecords, fun graph other => ?_⟩
  rw [toJson, toJson, hrecords, (List.map_injective_iff.2 Node.record_injective).eq_iff]
  exact ⟨ext_nodes, congrArg Graph.nodes⟩

end ClassDiagram
