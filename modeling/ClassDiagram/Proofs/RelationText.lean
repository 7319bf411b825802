import ClassDiagram.Proofs.Brackets
import ClassDiagram.Relation
import Mathlib.Data.List.Nodup

/-!
# Relations are read back

A relation is written as an object with all five of its fields, absent ones as null. To
read that back is to read its members one behind the other (`Successive.reads_elements`),
and each member states another field (`Stated.reads_record`). Only the last step knows
the fields of a relation, and all it has to say is how each of them is read.
-/

namespace ClassDiagram.Json

namespace Reader

variable {α σ : Type}

/-! ## Records -/

theorem find?_name {fields : List (FieldReader σ)} (hnames : (fields.map FieldReader.name).Nodup)
    {field : FieldReader σ} (hfield : field ∈ fields) :
    fields.find? (·.name = field.name) = some field := by
  cases hfind : fields.find? (·.name = field.name) with
  | none => simpa using List.find?_eq_none.1 hfind field hfield
  | some other =>
      have hname : other.name = field.name := by simpa using List.find?_some hfind
      rw [List.inj_on_of_nodup_map hnames (List.mem_of_find?_eq_some hfind) hfield hname]

/-- A member that states a field for the first time is read. -/
theorem reads_fieldMember {fields : List (FieldReader σ)}
    (hnames : (fields.map FieldReader.name).Nodup) {field : FieldReader σ} (hfield : field ∈ fields)
    {seen : List String} (hseen : field.name ∉ seen) {state next : σ} {content : List Char}
    (hread : (field.read state).Reads content next) :
    (fieldMember fields (seen, state)).Reads (memberChars field.name content)
      (field.name :: seen, next) := by
  refine (reads_name field.name).bind ?_
  rw [find?_name hnames hfield]
  dsimp only
  rw [if_neg hseen]
  exact reads_colon.bind (hread.map _)

/-- From the first state to the last, each field reads the content that stands beside it. -/
inductive Stated : σ → List (FieldReader σ × List Char) → σ → Prop
  | nil (state : σ) : Stated state [] state
  | cons {state next final : σ} {field : FieldReader σ} {content : List Char}
      {stated : List (FieldReader σ × List Char)} :
      (field.read state).Reads content next → Stated next stated final →
        Stated state ((field, content) :: stated) final

/-- The members that state the fields. -/
def memberPieces (stated : List (FieldReader σ × List Char)) : List (List Char) :=
  stated.map fun (field, content) => memberChars field.name content

section Record

variable {fields : List (FieldReader σ)}

theorem Stated.successive (hnames : (fields.map FieldReader.name).Nodup) {start final : σ}
    {stated : List (FieldReader σ × List Char)} (h : Stated start stated final) :
    ∀ seen : List String, (∀ s ∈ stated, s.1 ∈ fields ∧ s.1.name ∉ seen) →
      (stated.map (·.1.name)).Nodup →
        ∃ names, Successive .object (fieldMember fields) (seen, start) (memberPieces stated)
          (names, final) := by
  induction h with
  | nil state => exact fun seen _ _ => ⟨seen, .nil _⟩
  | @cons state next final field content stated hread _ ih =>
      intro seen hfields hdistinct
      obtain ⟨⟨hfield, hseen⟩, hfields⟩ := List.forall_mem_cons.1 hfields
      rw [List.map_cons, List.nodup_cons] at hdistinct
      have hlater : ∀ s ∈ stated, s.1 ∈ fields ∧ s.1.name ∉ field.name :: seen := by
        intro s hs
        refine ⟨(hfields s hs).1, List.not_mem_cons_of_ne_of_not_mem ?_ (hfields s hs).2⟩
        exact fun hname => hdistinct.1 (List.mem_map.2 ⟨s, hs, hname⟩)
      obtain ⟨names, hsuccessive⟩ := ih (field.name :: seen) hlater hdistinct.2
      exact ⟨names, .cons (opens_memberChars _ _) (reads_fieldMember hnames hfield hseen hread)
        hsuccessive⟩

/-- An object that states fields of a record, each once, is read as the record of
the last state. -/
theorem Stated.reads_record (hnames : (fields.map FieldReader.name).Nodup) {start final : σ}
    {stated : List (FieldReader σ × List Char)} (h : Stated start stated final)
    (hfields : ∀ s ∈ stated, s.1 ∈ fields) (hdistinct : (stated.map (·.1.name)).Nodup)
    {finish : σ → Except Mismatch α} {value : α} (hfinish : finish final = .ok value)
    (expected : String) (enough : Nat → Except Mismatch Unit) :
    (record expected fields start finish enough).Reads
      ('\x7b' :: ([','].intercalate (memberPieces stated) ++ ['\x7d'])) value := by
  obtain ⟨names, hmembers⟩ :=
    h.successive hnames [] (fun s hs => ⟨hfields s hs, List.not_mem_nil⟩) hdistinct
  refine Reads.peek rfl ?_
  dsimp only
  rw [if_pos rfl]
  refine Reads.advance (hmembers.reads_elements.bind_nil ?_) _
  dsimp only
  rw [hfinish]
  exact reads_pure value

end Record

end Reader

theorem readAll_of_reads {α : Type} {content : Reader α} {value : α} {cs : List Char}
    (h : content.Reads cs value) : readAll content (String.ofList cs) = .ok value := by
  have hcontent := h []
  rw [List.append_nil] at hcontent
  have hwhole : (Reader.whole content).run cs = .ok (value, []) := by
    rw [Reader.whole, Reader.run_bind, hcontent]
    rfl
  simp only [readAll, String.toList_ofList, hwhole]

end ClassDiagram.Json

namespace ClassDiagram.Relation

open Json Reader

/-- The contents of the fields as they are written, in order. -/
def contents (relation : Relation) : List (List Char) :=
  [textChars relation.source, textChars relation.target, compactChars (ofText? relation.label),
    compactChars (ofText? relation.sourceCardinality),
    compactChars (ofText? relation.targetCardinality)]

theorem compactChars_toJson (relation : Relation) :
    compactChars relation.toJson =
      '\x7b' :: ([','].intercalate (memberPieces (fields.zip relation.contents)) ++ ['\x7d']) := by
  rw [toJson, compactChars, compactMembers_eq]
  rfl

theorem stated_contents (relation : Relation) :
    Stated {} (fields.zip relation.contents)
      ⟨some relation.source, some relation.target, relation.label, relation.sourceCardinality,
        relation.targetCardinality⟩ :=
  .cons ((reads_text relation.source).map _) <|
  .cons ((reads_text relation.target).map _) <|
  .cons ((reads_optional_text relation.label).map _) <|
  .cons ((reads_optional_text relation.sourceCardinality).map _) <|
  .cons ((reads_optional_text relation.targetCardinality).map _) <| .nil _

theorem nodup_names : (fields.map FieldReader.name).Nodup := by decide

theorem reads_toJson (relation : Relation) :
    reader.Reads (compactChars relation.toJson) relation := by
  rw [compactChars_toJson]
  refine relation.stated_contents.reads_record nodup_names (fun _ hs => (List.of_mem_zip hs).1)
    nodup_names ?_ _ _
  rfl

/-- A relation is read back from the text as which it is written. An absent label or
cardinality stays apart from an empty one. -/
theorem ofText_compact_toJson (relation : Relation) :
    ofText (compact relation.toJson) = .ok relation :=
  readAll_of_reads relation.reads_toJson

-- An empty label is written as a text, and an absent cardinality as null.
example : compact (toJson ⟨"Ann\x01", "Bob", some "", none, some "0..*"⟩) =
    "\x7b\"from\":\"Ann\\u0001\",\"to\":\"Bob\",\"label\":\"\"," ++
      "\"from_cardinality\":null,\"to_cardinality\":\"0..*\"\x7d" := by cbv

end ClassDiagram.Relation
