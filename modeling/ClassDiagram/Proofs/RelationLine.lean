import ClassDiagram.Diagram
import ClassDiagram.Proofs.Separated

/-!
# A relation can be read off its line

The line of a relation has the two ends, the arrow between them and up to two
cardinalities between quotes. Which of the cardinalities are there is not said apart,
and they may hold anything but a quote, blanks and arrows included. The ends and the
arrow are words without blanks and quotes, so the line comes apart from the left: a
word ends at the first space, and behind that space stands a quote exactly if a
cardinality follows (`cardinality_append_inj`). An arrow is never empty. An end may be,
but the one that could be mistaken stands last.

What shows on a line is not all that a relation holds: an empty label or cardinality
counts as an absent one. `Shows` says it of the fields.
-/

namespace ClassDiagram

/-- A text without blanks and quotes. -/
def Text.IsWord (value : String) : Prop := ∀ c ∈ value.toList, isBlank c = false ∧ c ≠ '"'

namespace Text.IsWord

variable {value : String}

instance : Decidable (IsWord value) := List.decidableBAll _ value.toList

theorem not_space_mem (h : IsWord value) : ' ' ∉ value.toList :=
  fun hspace => absurd (h ' ' hspace).1 (by decide)

theorem not_quote_mem (h : IsWord value) : '"' ∉ value.toList := fun hquote => (h '"' hquote).2 rfl

end Text.IsWord

namespace Relation

/-- The arrow for the label: the label itself, or a plain arrow if there is none or it is
empty. -/
inductive Arrow : Option String → String → Prop
  | absent : Arrow none "->"
  | empty : Arrow (some "") "->"
  | label {text : String} (h : text ≠ "") : Arrow (some text) text

/-- What counts of a cardinality: the text, or nothing if there is none or it is empty. -/
inductive Counts : Option String → Option String → Prop
  | absent : Counts none none
  | empty : Counts (some "") none
  | text {text : String} (h : text ≠ "") : Counts (some text) (some text)

/-- The relation shows these ends, with this arrow and these cardinalities between them. -/
structure Shows (relation : Relation) (source target arrow : String)
    (sourceCount targetCount : Option String) : Prop where
  source_eq : relation.source = source
  target_eq : relation.target = target
  edge_eq : relation.edge = arrow
  sourceLabel?_eq : relation.sourceLabel? = sourceCount
  targetLabel?_eq : relation.targetLabel? = targetCount
  arrow : Arrow relation.label arrow
  sourceCount : Counts relation.sourceCardinality sourceCount
  targetCount : Counts relation.targetCardinality targetCount

/-- The ends and the label are words, and the cardinalities have no quotes. -/
structure Plain (relation : Relation) : Prop where
  source : Text.IsWord relation.source
  target : Text.IsWord relation.target
  label : ∀ label ∈ relation.label, Text.IsWord label
  sourceCardinality : ∀ text ∈ relation.sourceCardinality, '"' ∉ text.toList
  targetCardinality : ∀ text ∈ relation.targetCardinality, '"' ∉ text.toList

theorem counts_nonempty? (text : Option String) : Counts text (nonempty? text) := by
  cases text with
  | none => exact .absent
  | some text =>
      by_cases hempty : text = ""
      · subst hempty
        exact .empty
      · have hkept : nonempty? (some text) = some text := by simp [nonempty?, hempty]
        rw [hkept]
        exact .text hempty

theorem Counts.arrow {label count : Option String} (h : Counts label count) :
    Arrow label (count.getD defaultEdge) := by
  cases h with
  | absent => exact .absent
  | empty => exact .empty
  | text h => exact .label h

theorem shows (relation : Relation) :
    relation.Shows relation.source relation.target relation.edge relation.sourceLabel?
      relation.targetLabel? where
  source_eq := rfl
  target_eq := rfl
  edge_eq := rfl
  sourceLabel?_eq := rfl
  targetLabel?_eq := rfl
  arrow := (counts_nonempty? relation.label).arrow
  sourceCount := counts_nonempty? relation.sourceCardinality
  targetCount := counts_nonempty? relation.targetCardinality

theorem mem_of_mem_nonempty? {text : Option String} {value : String} (h : value ∈ nonempty? text) :
    value ∈ text ∧ value ≠ "" := by
  simpa [nonempty?, Option.filter_eq_some_iff] using h

theorem edge_ne_empty (relation : Relation) : relation.edge ≠ "" := by
  rw [edge]
  cases hlabel : nonempty? relation.label with
  | none => decide
  | some label => exact (mem_of_mem_nonempty? hlabel).2

theorem Plain.edge {relation : Relation} (h : relation.Plain) : Text.IsWord relation.edge := by
  rw [Relation.edge]
  cases hlabel : nonempty? relation.label with
  | none => exact (by decide : Text.IsWord defaultEdge)
  | some label => exact h.label label (mem_of_mem_nonempty? hlabel).1

theorem Plain.not_quote_mem_sourceLabel? {relation : Relation} (h : relation.Plain) :
    ∀ text ∈ relation.sourceLabel?, '"' ∉ text.toList :=
  fun text htext => h.sourceCardinality text (mem_of_mem_nonempty? htext).1

theorem Plain.not_quote_mem_targetLabel? {relation : Relation} (h : relation.Plain) :
    ∀ text ∈ relation.targetLabel?, '"' ∉ text.toList :=
  fun text htext => h.targetCardinality text (mem_of_mem_nonempty? htext).1

end Relation

namespace Diagram

theorem toList_cardinality (text : Option String) :
    (cardinality text).toList =
      match text with
      | some text => ' ' :: '"' :: (text.toList ++ ['"'])
      | none => [] := by
  cases text <;> simp [cardinality]

theorem toList_relationLine (relation : Relation) :
    (relationLine relation).toList =
      relation.source.toList ++ ((cardinality relation.sourceLabel?).toList ++
        ' ' :: (relation.edge.toList ++ ((cardinality relation.targetLabel?).toList ++
          ' ' :: relation.target.toList))) := by
  simp [relationLine]

/-- With a cardinality or without, a space comes next. -/
theorem head?_cardinality_append (text : Option String) (rest : List Char) :
    ∀ c ∈ ((cardinality text).toList ++ ' ' :: rest).head?, c = ' ' := by
  cases text <;> simp [toList_cardinality]

/-- A cardinality, or that there is none, is determined if no quote follows the space
behind it. -/
theorem cardinality_append_inj {text other : Option String} {rest rest' : List Char}
    (htext : ∀ t ∈ text, '"' ∉ t.toList) (hother : ∀ t ∈ other, '"' ∉ t.toList)
    (hrest : '"' ∉ rest.head?) (hrest' : '"' ∉ rest'.head?)
    (h : (cardinality text).toList ++ ' ' :: rest = (cardinality other).toList ++ ' ' :: rest') :
    text = other ∧ rest = rest' := by
  rw [toList_cardinality, toList_cardinality] at h
  cases text with
  | none =>
      cases other with
      | none => exact ⟨rfl, (List.cons.inj h).2⟩
      | some other =>
          rw [(List.cons.inj h).2] at hrest
          exact absurd rfl hrest
  | some text =>
      cases other with
      | none =>
          rw [← (List.cons.inj h).2] at hrest'
          exact absurd rfl hrest'
      | some other =>
          simp only [List.cons_append, List.append_assoc, List.nil_append] at h
          obtain ⟨htexts, hrests⟩ := Text.append_cons_inj (htext text rfl) (hother other rfl)
            (List.cons.inj (List.cons.inj h).2).2
          exact ⟨congrArg some (String.toList_inj.1 htexts), (List.cons.inj hrests).2⟩

theorem not_quote_mem_head?_edge {relation : Relation} (h : relation.Plain) (rest : List Char) :
    '"' ∉ (relation.edge.toList ++ rest).head? := by
  have hedge : relation.edge.toList ≠ [] := fun hnil =>
    relation.edge_ne_empty (String.toList_inj.1 hnil)
  rw [List.head?_append_of_ne_nil _ hedge]
  exact fun hquote => h.edge.not_quote_mem (List.mem_of_mem_head? hquote)

/-- Two plain relations have the same line exactly if they show the same: the ends, the
arrow, and which cardinalities there are. -/
theorem relationLine_eq_relationLine_iff {first second : Relation} (hfirst : first.Plain)
    (hsecond : second.Plain) :
    relationLine first = relationLine second ↔
      ∃ source target arrow sourceCount targetCount,
        first.Shows source target arrow sourceCount targetCount ∧
          second.Shows source target arrow sourceCount targetCount := by
  constructor
  · intro h
    have hline := congrArg String.toList h
    rw [toList_relationLine, toList_relationLine] at hline
    obtain ⟨hsource, hline⟩ := Text.append_inj_of_head? hfirst.source.not_space_mem
      hsecond.source.not_space_mem (head?_cardinality_append _ _) (head?_cardinality_append _ _)
      hline
    obtain ⟨hsourceLabel, hline⟩ := cardinality_append_inj
      hfirst.not_quote_mem_sourceLabel? hsecond.not_quote_mem_sourceLabel?
      (not_quote_mem_head?_edge hfirst _) (not_quote_mem_head?_edge hsecond _) hline
    obtain ⟨hedge, hline⟩ := Text.append_inj_of_head? hfirst.edge.not_space_mem
      hsecond.edge.not_space_mem (head?_cardinality_append _ _) (head?_cardinality_append _ _)
      hline
    obtain ⟨htargetLabel, htarget⟩ := cardinality_append_inj
      hfirst.not_quote_mem_targetLabel? hsecond.not_quote_mem_targetLabel?
      (fun hquote => hfirst.target.not_quote_mem (List.mem_of_mem_head? hquote))
      (fun hquote => hsecond.target.not_quote_mem (List.mem_of_mem_head? hquote)) hline
    refine ⟨_, _, _, _, _, first.shows, ?_⟩
    rw [String.toList_inj.1 hsource, String.toList_inj.1 htarget, String.toList_inj.1 hedge,
      hsourceLabel, htargetLabel]
    exact second.shows
  · rintro ⟨source, target, arrow, sourceCount, targetCount, h, h'⟩
    rw [relationLine, relationLine, h.source_eq, h.sourceLabel?_eq, h.edge_eq, h.targetLabel?_eq,
      h.target_eq, h'.source_eq, h'.sourceLabel?_eq, h'.edge_eq, h'.targetLabel?_eq, h'.target_eq]

/-- An empty cardinality shows like an absent one, and the default arrow like an absent
label. -/
theorem relationLine_absent_eq_empty :
    let absent : Relation := ⟨"", "Bob", none, some "1 -> *", none⟩
    let empty : Relation := ⟨"", "Bob", some "->", some "1 -> *", some ""⟩
    absent ≠ empty ∧ absent.Plain ∧ empty.Plain ∧ relationLine absent = relationLine empty := by
  intro absent empty
  have habsent : absent.Plain := ⟨by decide, by decide, by decide, by decide, by decide⟩
  have hempty : empty.Plain := ⟨by decide, by decide, by decide, by decide, by decide⟩
  have hshows : absent.Shows "" "Bob" "->" (some "1 -> *") none :=
    ⟨rfl, rfl, by decide, by decide, by decide, .absent, .text (by decide), .absent⟩
  have hshows' : empty.Shows "" "Bob" "->" (some "1 -> *") none :=
    ⟨rfl, rfl, by decide, by decide, by decide, .label (by decide), .text (by decide), .empty⟩
  exact ⟨by decide, habsent, hempty, (relationLine_eq_relationLine_iff habsent hempty).2
    ⟨_, _, _, _, _, hshows, hshows'⟩⟩

end Diagram

end ClassDiagram
