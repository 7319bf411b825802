import ClassDiagram.Text.Blank

/-!
# Qualified names

A class or interface is called by the dotted path that leads to it, or by a
synthesized name if no path does. A path is built from segments, and a segment
must not be empty, must not hold a dot and must not hold a blank: these are
the three ways in which a path could stop being readable as its segments.
-/

namespace ClassDiagram

/-- Why a text cannot be one segment of a dotted path. -/
inductive SegmentProblem where
  | empty
  | dotted
  | blank
deriving DecidableEq, Repr

namespace SegmentProblem

/-- The rule that is broken, in words. -/
def message : SegmentProblem → String
  | empty => "must not be empty"
  | dotted => "must not contain '.'"
  | blank => "must not contain whitespace"

/-- The first of the three rules that the text breaks, if it breaks one. -/
def find? (segment : String) : Option SegmentProblem :=
  if segment.toList = [] then some empty
  else if '.' ∈ segment.toList then some dotted
  else if segment.toList.any Text.isBlank then some blank
  else none

end SegmentProblem

/-- A text that can be one segment of a dotted path. -/
def IsSegment (segment : String) : Prop :=
  segment.toList ≠ [] ∧ '.' ∉ segment.toList ∧ ∀ c ∈ segment.toList, Text.isBlank c = false

theorem SegmentProblem.find?_eq_none_iff {segment : String} :
    SegmentProblem.find? segment = none ↔ IsSegment segment := by
  rw [SegmentProblem.find?, IsSegment]
  by_cases hempty : segment.toList = []
  · simp [hempty]
  · by_cases hdot : '.' ∈ segment.toList
    · simp [hempty, hdot]
    · simp only [if_neg hempty, if_neg hdot]
      constructor
      · intro h
        refine ⟨hempty, hdot, fun c hc => Bool.eq_false_iff.2 fun hb => ?_⟩
        rw [if_pos (List.any_eq_true.2 ⟨c, hc, hb⟩)] at h
        cases h
      · rintro ⟨-, -, h⟩
        refine if_neg fun hany => ?_
        obtain ⟨c, hc, hb⟩ := List.any_eq_true.1 hany
        rw [h c hc] at hb
        cases hb

instance (segment : String) : Decidable (IsSegment segment) :=
  decidable_of_iff _ SegmentProblem.find?_eq_none_iff

/-- The name of a class or interface within one diagram. -/
structure QualifiedName where
  /-- The name as it is written. -/
  text : String
deriving DecidableEq, Repr

namespace QualifiedName

/-- The word that all synthesized names start with. -/
def anonymousWord : String := "Anonymous"

/-- The synthesized name with the given number. -/
def anonymous (number : Nat) : QualifiedName := ⟨anonymousWord ++ toString number⟩

/-- Whether the name has the form of a synthesized name: the word, then at
least one ASCII digit, then nothing else. -/
def isAnonymous (name : QualifiedName) : Bool :=
  match anonymousWord.toList.isPrefixOf? name.text.toList with
  | some (digit :: digits) => (digit :: digits).all Char.isDigit
  | _ => false

/-- The path extended by one more segment. -/
def child (name : QualifiedName) (segment : String) : QualifiedName :=
  ⟨name.text ++ "." ++ segment⟩

/-- The path that starts with `first` and goes on with `path`. -/
def ofPath (first : String) (path : List String) : QualifiedName :=
  path.foldl child ⟨first⟩

end QualifiedName

end ClassDiagram
