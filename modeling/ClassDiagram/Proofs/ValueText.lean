import ClassDiagram.Proofs.Brackets

/-!
# Values are read back

A value without numbers is read back from its text, whatever stands behind it
(`reads_value`). Numbers are left out because a number goes on as long as digits follow,
so its text does not say where it ends. Each of the other values ends with a mark of its
own, and the induction is over the value: an array or object is a list between brackets
whose pieces are read by the hypothesis.

What is read back has only one text, and so two such values with the same text are the
same (`compact_inj`). How deep the brackets nest is only counted because the reader
counts it too.
-/

namespace ClassDiagram.Json

/-- A value without numbers in which at most so many brackets are open at a time. -/
inductive Numberless : (nesting : Nat) → Json → Prop
  | null {nesting : Nat} : Numberless nesting .null
  | bool {nesting : Nat} (value : Bool) : Numberless nesting (.bool value)
  | text {nesting : Nat} (value : String) : Numberless nesting (.text value)
  | array {nesting : Nat} {items : List Json} (h : ∀ item ∈ items, Numberless nesting item) :
      Numberless (nesting + 1) (.array items)
  | object {nesting : Nat} {members : List (String × Json)}
      (h : ∀ member ∈ members, Numberless nesting member.2) :
      Numberless (nesting + 1) (.object members)

namespace Reader

variable {α β : Type}

/-! ## Lists that are collected -/

section Collected

variable {values : List α}

theorem successive_collect {bracket : Bracket} {item : Reader α} {piece : α → List Char}
    (h : ∀ value ∈ values, Opens bracket (piece value) ∧ item.Reads (piece value) value)
    (done : List α) :
    Successive bracket (fun done => do pure ((← item) :: done)) done (values.map piece)
      (values.reverse ++ done) := by
  induction values generalizing done with
  | nil => exact .nil done
  | cons value values ih =>
      obtain ⟨⟨hopens, hread⟩, hrest⟩ := List.forall_mem_cons.1 h
      rw [List.reverse_cons, List.append_assoc]
      exact .cons hopens (hread.map (· :: done)) (ih hrest (value :: done))

/-- The values are collected with the last one first, and turned round. -/
theorem reads_collected (bracket : Bracket) (item : Reader α) (piece : α → List Char)
    (h : ∀ value ∈ values, Opens bracket (piece value) ∧ item.Reads (piece value) value)
    (f : List α → β) :
    (elements bracket (fun done => do pure ((← item) :: done)) [] >>=
        fun reversed => pure (f reversed.reverse)).Reads
      ([','].intercalate (values.map piece) ++ [bracket.close]) (f values) := by
  have hcollect := (successive_collect h []).reads_elements.map fun reversed => f reversed.reverse
  rwa [List.append_nil, List.reverse_reverse] at hcollect

end Collected

theorem reads_member {inner : Reader Json} {content : Json} (key : String)
    (h : inner.Reads (compactChars content) content) :
    (member inner).Reads (memberChars key (compactChars content)) (key, content) :=
  (reads_name key).bind (reads_colon.bind (h.map fun content => (key, content)))

/-! ## Values -/

/-- Only a number starts with a mark that is not its own. -/
theorem opens_compactChars {nesting : Nat} {content : Json} (h : Numberless nesting content)
    (bracket : Bracket) : Opens bracket (compactChars content) := by
  cases h with
  | null => exact ⟨'n', _, rfl, rfl, by cases bracket <;> decide⟩
  | bool value =>
      cases value with
      | true => exact ⟨'t', _, rfl, rfl, by cases bracket <;> decide⟩
      | false => exact ⟨'f', _, rfl, rfl, by cases bracket <;> decide⟩
  | text value => exact ⟨'"', _, rfl, rfl, by cases bracket <;> decide⟩
  | array _ => exact ⟨'[', _, by rw [compactChars], rfl, by cases bracket <;> decide⟩
  | object _ => exact ⟨'\x7b', _, by rw [compactChars], rfl, by cases bracket <;> decide⟩

/-- Between brackets or not, a value is read by its first mark. -/
theorem exists_value_eq (nesting : Nat) :
    ∃ inner, ∀ cs, (value nesting).run cs = (valueWith inner).run cs := by
  cases nesting with
  | zero => exact ⟨none, fun _ => rfl⟩
  | succ nesting => exact ⟨some (value nesting), fun _ => rfl⟩

theorem reads_value {nesting : Nat} {content : Json} (h : Numberless nesting content) :
    (value nesting).Reads (compactChars content) content := by
  induction h with
  | @null nesting =>
      obtain ⟨inner, hvalue⟩ := exists_value_eq nesting
      exact fun rest => hvalue _
  | @bool nesting value =>
      obtain ⟨inner, hvalue⟩ := exists_value_eq nesting
      cases value <;> exact fun rest => hvalue _
  | @text nesting value =>
      obtain ⟨inner, hvalue⟩ := exists_value_eq nesting
      exact fun rest => (hvalue _).trans ((reads_textRest value).map Json.text rest)
  | @array nesting items h ih =>
      have hitems := reads_collected .array (value nesting) compactChars
        (fun item hitem => ⟨opens_compactChars (h item hitem) _, ih item hitem⟩) Json.array
      rw [compactChars, compactItems_eq]
      exact hitems.advance '['
  | @object nesting members h ih =>
      have hmembers := reads_collected .object (member (value nesting))
        (fun m => memberChars m.1 (compactChars m.2))
        (fun m hm => ⟨opens_memberChars m.1 _, reads_member m.1 (ih m hm)⟩) Json.object
      rw [compactChars, compactMembers_eq]
      exact hmembers.advance '\x7b'

end Reader

/-- Values without numbers have different texts. -/
theorem compact_inj {nesting : Nat} {content other : Json} (h : Numberless nesting content)
    (h' : Numberless nesting other) : compact content = compact other ↔ content = other := by
  refine ⟨fun heq => ?_, fun heq => congrArg compact heq⟩
  have hread := Reader.reads_value h []
  have hread' := Reader.reads_value h' []
  rw [String.ofList_injective heq, hread'] at hread
  exact ((Prod.mk.inj (Except.ok.inj hread)).1).symm

end ClassDiagram.Json
