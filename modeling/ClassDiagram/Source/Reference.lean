import ClassDiagram.Text.Blank
import ClassDiagram.Text.Identifier

/-!
# References to members

An expression refers to a member of its own object if it is `this`, a dot and
an identifier, perhaps followed by a call of `bind` that binds it to `this`
again. Spaces and tabs may stand between the parts, and blanks of any kind
around the whole. Nothing else may follow.
-/

namespace ClassDiagram.Source

/-- What follows the word at the start of the text and the gap behind the word. -/
def afterToken? (word : String) (cs : List Char) : Option (List Char) :=
  (word.toList.isPrefixOf? cs).map (·.dropWhile Text.isGap)

/-- What follows the words when they stand at the start of the text, one after
the other and each with a gap behind it. -/
def afterTokens? : (words : List String) → List Char → Option (List Char)
  | [], cs => some cs
  | word :: words, cs => (afterToken? word cs).bind (afterTokens? words)

/-- The parts of a call that binds a member to its object. -/
def bindTokens : List String := [".", "bind", "(", "this", ")"]

/-- The member that the trimmed expression refers to. -/
def referenceIn? (cs : List Char) : Option (List Char) :=
  match (afterTokens? ["this", "."] cs).bind Text.identifier? with
  | none => none
  | some (name, rest) =>
      let suffix := rest.dropWhile Text.isGap
      if suffix = [] || afterTokens? bindTokens suffix = some [] then some name else none

/-- The member that the expression refers to, if it is a reference. -/
def memberReference? (expression : String) : Option String :=
  (referenceIn? (Text.trim expression.toList)).map String.ofList

end ClassDiagram.Source
