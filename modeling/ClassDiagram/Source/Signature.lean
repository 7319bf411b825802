import ClassDiagram.Text.Blank
import ClassDiagram.Text.Letter
import ClassDiagram.Text.Occurrence

/-!
# Parameters of a function

A function header is the word `function`, perhaps a name, and a list of
parameters between parentheses, all on one line except for the blanks around
the name. The word is looked for anywhere in the source text, also within
other words, and the first occurrence that goes on as a header counts.

Every run of characters is read as far as it goes. No header is lost by that:
blanks, name and list end at different characters.
-/

namespace ClassDiagram.Source

/-- The word that starts a header. -/
def functionWord : List Char := "function".toList

/-- Whether the name in a header can contain the character. -/
def isHeaderName (c : Char) : Bool := Text.isLetterOrNumeral c || c = '_' || c = '$'

/-- Whether the list of parameters in a header can contain the character. -/
def isHeaderList (c : Char) : Bool := c ≠ ')' && !Text.isLineBreak c

/-- The list of parameters of the header at the start of the text, from behind
the opening to before the closing parenthesis. -/
def headerList? (cs : List Char) : Option (List Char) :=
  match functionWord.isPrefixOf? cs with
  | none => none
  | some afterWord =>
      let afterName := (afterWord.dropWhile Text.isLayout).dropWhile isHeaderName
      match afterName.dropWhile Text.isLayout with
      | '(' :: inside =>
          match inside.dropWhile isHeaderList with
          | ')' :: _ => some (inside.takeWhile isHeaderList)
          | _ => none
      | _ => none

/-- The parameters in a list: what stands between the commas, trimmed, without
the empty ones. -/
def splitParameters (list : List Char) : List (List Char) :=
  ((list.splitOn ',').map Text.trim).filter (!·.isEmpty)

/-- The parameters in the first header of the source text, if it has one. -/
def parameters? (source : String) : Option (List String) :=
  ((Text.occurrences functionWord source.toList).findSome? headerList?).map fun list =>
    (splitParameters list).map String.ofList

end ClassDiagram.Source
