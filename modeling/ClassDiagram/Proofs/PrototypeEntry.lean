import ClassDiagram.Model.Reader
import ClassDiagram.Proofs.Linking

/-!
# What an entry of a prototype states

An entry is an object, and its members may come in any order, repeat their names and
have names that mean nothing. All that matters is which values stand under the three
names that do mean something (`stated`).

A field of a record is read at most once, and the other fields do not touch its
content. So while the members are gone through, each field has a slot: it is free or
taken, and how a slot is filled depends on the values of its own name alone (`Slot`).
That turns the reading of a record into one condition for each field, whatever the
order of the members.

An entry that states no second `value` is a field or a callable just as its members
say (`asProperty_eq_ok_iff`). Repeated names are where the reader departs from that:
nothing is read from a name that comes twice (`asProperty_repeated`).
-/

namespace ClassDiagram.Json

/-! ## Texts and lists of texts -/

theorem asText_eq_ok_iff {value : Json} {content : String} :
    asText value = .ok content ↔ value = .text content := by
  cases value <;> simp [asText]

theorem decodeItems_asText_eq_ok_iff {items : List Json} {texts : List String} :
    decodeItems asText items = .ok texts ↔ items = texts.map .text := by
  induction items generalizing texts with
  | nil => cases texts <;> simp [decodeItems]
  | cons item items ih =>
      have hstep : decodeItems asText (item :: items) = .ok texts ↔ ∃ first more,
          asText item = .ok first ∧ decodeItems asText items = .ok more ∧ first :: more = texts := by
        rw [decodeItems]
        cases asText item with
        | error m => simp
        | ok first => simp [map_eq_ok_iff]
      rw [hstep, eq_comm, List.map_eq_cons_iff]
      simp only [asText_eq_ok_iff, ih]
      constructor
      · rintro ⟨first, more, rfl, rfl, rfl⟩
        exact ⟨first, more, rfl, rfl, rfl⟩
      · rintro ⟨first, more, rfl, rfl, rfl⟩
        exact ⟨first, more, rfl, rfl, rfl⟩

theorem asList_asText_eq_ok_iff {value : Json} {texts : List String} :
    asList asText value = .ok texts ↔ value = ofTexts texts := by
  cases value <;> simp [asList, ofTexts, decodeItems_asText_eq_ok_iff]

section Optional

variable {α : Type} {decode : Json → Except Mismatch α}

theorem asOptional_of_ne_null {value : Json} (h : value ≠ .null) :
    asOptional decode value = (decode value).map some := by
  cases value with
  | null => exact absurd rfl h
  | _ => rfl

/-- An optional content is read from null, or from what is written for it. -/
theorem asOptional_eq_ok_iff {write : α → Json}
    (hdecode : ∀ value content, decode value = .ok content ↔ value = write content)
    (hwrite : ∀ content, write content ≠ .null) {value : Json} {content : Option α} :
    asOptional decode value = .ok content ↔ value = content.elim .null write := by
  by_cases hvalue : value = .null
  · subst hvalue
    cases content with
    | none => exact iff_of_true rfl rfl
    | some content => exact iff_of_false nofun (hwrite content).symm
  · rw [asOptional_of_ne_null hvalue, map_eq_ok_iff]
    cases content with
    | none => exact iff_of_false (by simp) hvalue
    | some content => simp [hdecode]

end Optional

/-! ## The fields of a record -/

/-- The values that stand under the name, in order. -/
def stated (name : String) (members : List (String × Json)) : List Json :=
  members.filterMap fun member => if member.1 = name then some member.2 else none

theorem stated_cons_self (name : String) (value : Json) (members : List (String × Json)) :
    stated name ((name, value) :: members) = value :: stated name members := by
  simp [stated]

theorem stated_cons_of_ne {name other : String} (h : other ≠ name) (value : Json)
    (members : List (String × Json)) :
    stated name ((other, value) :: members) = stated name members := by
  simp [stated, h]

/-- The values under a name leave the content of its field as it was, if there are
none, or are one value, of which the content is read while the field is free. -/
def Slot {β : Type} (read : Json → Except Mismatch β) (free : Prop) (start final : β)
    (values : List Json) : Prop :=
  values = [] ∧ final = start ∨ free ∧ ∃ value, values = [value] ∧ read value = .ok final

section Slot

variable {β : Type} {read : Json → Except Mismatch β} {free : Prop} {start final : β}

theorem slot_nil_iff : Slot read free start final [] ↔ final = start := by
  simp [Slot]

/-- A value fills the slot, and a second one does not fit. -/
theorem slot_cons_iff {value : Json} {values : List Json} :
    Slot read free start final (value :: values) ↔
      free ∧ ∃ next, read value = .ok next ∧ Slot read False next final values := by
  constructor
  · rintro (⟨⟨⟩, _⟩ | ⟨hfree, _, ⟨⟩, hread⟩)
    exact ⟨hfree, final, hread, .inl ⟨rfl, rfl⟩⟩
  · rintro ⟨hfree, next, hread, ⟨rfl, rfl⟩ | ⟨⟨⟩, _⟩⟩
    exact .inr ⟨hfree, value, rfl, hread⟩

theorem slot_congr {free' : Prop} (h : free ↔ free') {values : List Json} :
    Slot read free start final values ↔ Slot read free' start final values := by
  rw [Slot, Slot, h]

end Slot

namespace Fields

variable {σ : Type} {fields : List (FieldDecoder σ)} {seen : List String} {state final : σ}
  {name : String}

theorem decodeNamed_cons_of_none (h : fields.find? (·.name = name) = none) (value : Json)
    (members : List (String × Json)) :
    decodeNamed fields seen state ((name, value) :: members) =
      decodeNamed fields seen state members := by
  rw [decodeNamed, h]

theorem decodeNamed_cons_eq_ok_iff {field : FieldDecoder σ}
    (h : fields.find? (·.name = name) = some field) {value : Json}
    {members : List (String × Json)} :
    decodeNamed fields seen state ((name, value) :: members) = .ok final ↔
      name ∉ seen ∧ ∃ next, field.decode state value = .ok next ∧
        decodeNamed fields (name :: seen) next members = .ok final := by
  rw [decodeNamed, h]
  dsimp only
  by_cases hseen : name ∈ seen
  · simp [hseen]
  · rw [if_neg hseen]
    cases field.decode state value with
    | error m => simp
    | ok next => simp [hseen]

end Fields

end ClassDiagram.Json

namespace ClassDiagram.Model

open Json

theorem decodeNamed_fieldFields_eq_ok_iff {members : List (String × Json)} {seen : List String}
    {start final : Option Json} :
    Fields.decodeNamed fieldFields seen start members = .ok final ↔
      Slot (fun value => .ok (some value)) ("value" ∉ seen) start final
        (stated "value" members) := by
  induction members generalizing seen start with
  | nil => simp [Fields.decodeNamed, stated, slot_nil_iff, eq_comm]
  | cons member members ih =>
      obtain ⟨name, value⟩ := member
      by_cases hname : name = "value"
      · subst hname
        rw [Fields.decodeNamed_cons_eq_ok_iff rfl, stated_cons_self, slot_cons_iff]
        simp only [ih, List.mem_cons_self, not_true_eq_false]
      · have hnone : fieldFields.find? (·.name = name) = none := by
          simp [fieldFields, Ne.symm hname]
        rw [Fields.decodeNamed_cons_of_none hnone, stated_cons_of_ne hname, ih]

theorem decodeNamed_callableFields_eq_ok_iff {members : List (String × Json)} {seen : List String}
    {start final : Callable} :
    Fields.decodeNamed callableFields seen start members = .ok final ↔
      Slot (asOptional asText) ("source" ∉ seen) start.source final.source
          (stated "source" members) ∧
        Slot (asOptional (asList asText)) ("params" ∉ seen) start.params final.params
          (stated "params" members) := by
  induction members generalizing seen start with
  | nil =>
      obtain ⟨source, params⟩ := start
      obtain ⟨source', params'⟩ := final
      simp [Fields.decodeNamed, stated, slot_nil_iff, eq_comm]
  | cons member members ih =>
      obtain ⟨name, value⟩ := member
      by_cases hsource : name = "source"
      · subst hsource
        rw [Fields.decodeNamed_cons_eq_ok_iff rfl, stated_cons_self,
          stated_cons_of_ne (by decide), slot_cons_iff]
        constructor
        · rintro ⟨hseen, next, hdecode, hrest⟩
          obtain ⟨source, hread, ⟨⟩⟩ := bind_eq_ok_iff.1 hdecode
          obtain ⟨htaken, hother⟩ := ih.1 hrest
          exact ⟨⟨hseen, source, hread, (slot_congr (by simp)).1 htaken⟩,
            (slot_congr (by simp)).1 hother⟩
        · rintro ⟨⟨hseen, source, hread, htaken⟩, hother⟩
          exact ⟨hseen, { start with source := source }, bind_eq_ok_iff.2 ⟨source, hread, rfl⟩,
            ih.2 ⟨(slot_congr (by simp)).2 htaken, (slot_congr (by simp)).2 hother⟩⟩
      · by_cases hparams : name = "params"
        · subst hparams
          rw [Fields.decodeNamed_cons_eq_ok_iff rfl, stated_cons_self,
            stated_cons_of_ne (by decide), slot_cons_iff]
          constructor
          · rintro ⟨hseen, next, hdecode, hrest⟩
            obtain ⟨params, hread, ⟨⟩⟩ := bind_eq_ok_iff.1 hdecode
            obtain ⟨hother, htaken⟩ := ih.1 hrest
            exact ⟨(slot_congr (by simp)).1 hother,
              hseen, params, hread, (slot_congr (by simp)).1 htaken⟩
          · rintro ⟨hother, hseen, params, hread, htaken⟩
            exact ⟨hseen, { start with params := params }, bind_eq_ok_iff.2 ⟨params, hread, rfl⟩,
              ih.2 ⟨(slot_congr (by simp)).2 hother, (slot_congr (by simp)).2 htaken⟩⟩
        · have hnone : callableFields.find? (·.name = name) = none := by
            simp [callableFields, Ne.symm hsource, Ne.symm hparams]
          rw [Fields.decodeNamed_cons_of_none hnone, stated_cons_of_ne hsource,
            stated_cons_of_ne hparams, ih]

/-- The members state the content under the name, once, or there is none and they have
no such member. -/
def States {α : Type} (write : α → Json) (name : String) (members : List (String × Json))
    (content : Option α) : Prop :=
  stated name members = [] ∧ content = none ∨
    stated name members = [content.elim .null write]

theorem slot_asOptional_iff {α : Type} {decode : Json → Except Mismatch α} {write : α → Json}
    (hdecode : ∀ value content, decode value = .ok content ↔ value = write content)
    (hwrite : ∀ content, write content ≠ .null) {name : String}
    {members : List (String × Json)} {content : Option α} :
    Slot (asOptional decode) (name ∉ []) none content (stated name members) ↔
      States write name members content := by
  simp [Slot, States, asOptional_eq_ok_iff hdecode hwrite]

theorem asCallable_eq_ok_iff {members : List (String × Json)} {callable : Callable} :
    asCallable members = .ok callable ↔
      States .text "source" members callable.source ∧
        States .ofTexts "params" members callable.params := by
  rw [asCallable, decodeNamed_callableFields_eq_ok_iff,
    slot_asOptional_iff (fun _ _ => asText_eq_ok_iff) (fun _ => nofun),
    slot_asOptional_iff (fun _ _ => asList_asText_eq_ok_iff) (fun _ => nofun)]

theorem asFieldValue_eq_ok_iff {members : List (String × Json)} {value : Json} :
    asFieldValue members = .ok value ↔ stated "value" members = [value] := by
  have hread : asFieldValue members = .ok value ↔
      Fields.decodeNamed fieldFields [] none members = .ok (some value) := by
    rw [asFieldValue]
    cases Fields.decodeNamed fieldFields [] none members with
    | error m => simp
    | ok found => cases found <;> simp
  rw [hread, decodeNamed_fieldFields_eq_ok_iff]
  simp [Slot]

/-- The property as which an entry of a prototype is loaded. -/
def asProperty (value : Json) : Except Mismatch Property :=
  (asPropertySpec value).map PropertySpec.toProperty

/-- The kinds are tried in turn, and the second only if the first does not fit. -/
theorem asProperty_object {members : List (String × Json)} {property : Property} :
    asProperty (.object members) = .ok property ↔
      property = .field ∧ (∃ value, asFieldValue members = .ok value) ∨
        (∀ value, asFieldValue members ≠ .ok value) ∧ ∃ callable,
          property = .callable callable ∧ asCallable members = .ok callable := by
  rw [asProperty, asPropertySpec, map_eq_ok_iff]
  cases asFieldValue members with
  | ok value => simp [PropertySpec.toProperty, eq_comm]
  | error m =>
      cases asCallable members with
      | ok callable => simp [PropertySpec.toProperty, eq_comm]
      | error m => simp

/-- An entry that states at most one `value` is a field if it states one. If it states
none, it is a callable with the source and the parameters that it states, each at
most once and as a text and a list of texts or null; if they are stated otherwise, it
is refused. Members of other names change nothing. -/
theorem asProperty_eq_ok_iff {members : List (String × Json)}
    (h : (stated "value" members).length ≤ 1) (property : Property) :
    asProperty (.object members) = .ok property ↔
      property = .field ∧ (∃ value, stated "value" members = [value]) ∨
        stated "value" members = [] ∧ ∃ source params,
          property = .callable ⟨source, params⟩ ∧
            States .text "source" members source ∧ States .ofTexts "params" members params := by
  have hnone : (∀ value, stated "value" members ≠ [value]) ↔ stated "value" members = [] := by
    constructor
    · intro hnot
      match hvalues : stated "value" members with
      | [] => rfl
      | [value] => exact absurd hvalues (hnot value)
      | _ :: _ :: _ =>
          rw [hvalues] at h
          exact absurd h (by simp)
    · intro hnil value
      rw [hnil]
      exact nofun
  simp only [asProperty_object, ne_eq, asFieldValue_eq_ok_iff, asCallable_eq_ok_iff]
  rw [← hnone]
  refine or_congr_right (and_congr_right fun _ => ?_)
  constructor
  · rintro ⟨⟨source, params⟩, hproperty, hsource, hparams⟩
    exact ⟨source, params, hproperty, hsource, hparams⟩
  · rintro ⟨source, params, hproperty, hsource, hparams⟩
    exact ⟨⟨source, params⟩, hproperty, hsource, hparams⟩

/-- An entry with members that mean something in any order, and one that means nothing. -/
def annotated : List (String × Json) :=
  [("params", .ofTexts ["name", "age"]), ("note", .bool true), ("source", .null)]

theorem asProperty_annotated : (stated "value" annotated).length ≤ 1 ∧
    asProperty (.object annotated) = .ok (.callable ⟨none, some ["name", "age"]⟩) :=
  ⟨by decide, (asProperty_eq_ok_iff (by decide) _).2
    (.inr ⟨rfl, none, some ["name", "age"], rfl, .inr rfl, .inr rfl⟩)⟩

/-- An entry that states two values. -/
def twoValues : List (String × Json) := [("value", .integer 1), ("value", .integer 2)]

/-- An entry that states its source twice, and alike. -/
def twoSources : List (String × Json) :=
  [("source", .text "function(a) \x7b\x7d"), ("source", .text "function(a) \x7b\x7d")]

/-- Of two values none is read, and a source that is stated twice is not read either, be
it the same. -/
theorem asProperty_repeated :
    ((∃ value, ("value", value) ∈ twoValues) ∧ asProperty (.object twoValues) ≠ .ok .field) ∧
      (stated "value" twoSources = [] ∧
        (∀ value ∈ stated "source" twoSources, ∃ source : Option String,
          value = source.elim .null .text) ∧
        (∀ value ∈ stated "params" twoSources, ∃ params : Option (List String),
          value = params.elim .null .ofTexts) ∧
        ∀ callable, asProperty (.object twoSources) ≠ .ok (.callable callable)) := by
  refine ⟨⟨⟨_, List.mem_cons_self⟩, nofun⟩, rfl, ?_, nofun, nofun⟩
  intro value hvalue
  exact ⟨some "function(a) \x7b\x7d", by simpa [stated, twoSources] using hvalue⟩

end ClassDiagram.Model
