import ClassDiagram.Text.Letter

/-!
# Identifiers

An identifier starts with a letter, an underscore or a dollar sign and goes on
with these and numerals. Letters and numerals are those of the Unicode
standard.
-/

namespace ClassDiagram.Text

/-- Whether an identifier can start with the character. -/
def isIdentifierStart (c : Char) : Bool := isLetter c || c = '_' || c = '$'

/-- Whether an identifier can go on with the character. -/
def isIdentifierRest (c : Char) : Bool := isLetterOrNumeral c || c = '_' || c = '$'

theorem isIdentifierRest_of_isIdentifierStart {c : Char} (h : isIdentifierStart c = true) :
    isIdentifierRest c = true := by
  simp only [isIdentifierStart, isIdentifierRest, isLetterOrNumeral, Bool.or_eq_true] at h ⊢
  rcases h with (h | h) | h
  · exact .inl (.inl (.inl h))
  · exact .inl (.inr h)
  · exact .inr h

/-- Whether the text is an identifier. -/
def isIdentifier : List Char → Bool
  | [] => false
  | c :: cs => isIdentifierStart c && cs.all isIdentifierRest

/-- The longest identifier at the start of the text, and what follows it. -/
def identifier? : List Char → Option (List Char × List Char)
  | [] => none
  | c :: cs =>
      if isIdentifierStart c then
        some (c :: cs.takeWhile isIdentifierRest, cs.dropWhile isIdentifierRest)
      else none

/-- What is read and what follows it make up the text. -/
theorem append_of_identifier? {cs name rest : List Char} (h : identifier? cs = some (name, rest)) :
    name ++ rest = cs := by
  cases cs with
  | nil => cases h
  | cons c cs =>
      rw [identifier?] at h
      split at h
      · cases h
        rw [List.cons_append, List.takeWhile_append_dropWhile]
      · cases h

end ClassDiagram.Text
