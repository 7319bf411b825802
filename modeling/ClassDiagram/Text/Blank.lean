import ClassDiagram.Text.CodeRange

/-!
# Blanks, trimming and words

Three sets of blanks occur. `isBlank` is the Unicode property White_Space and
decides what may not stand in a name, what is trimmed, and where words end.
The readers of source text use two narrower sets of their own: `isLayout` with
line breaks and `isGap` without.

Texts are treated as lists of characters. `trim` cuts blanks from both ends,
and `words` are the maximal runs of characters that are not blank.
-/

namespace ClassDiagram.Text

/-- The ranges of the property White_Space. -/
def blankRanges : List CodeRange :=
  [⟨0x09, 0x0D⟩, ⟨0x20, 0x20⟩, ⟨0x85, 0x85⟩, ⟨0xA0, 0xA0⟩, ⟨0x1680, 0x1680⟩, ⟨0x2000, 0x200A⟩,
    ⟨0x2028, 0x2029⟩, ⟨0x202F, 0x202F⟩, ⟨0x205F, 0x205F⟩, ⟨0x3000, 0x3000⟩]

/-- Whether the character has the property White_Space. -/
def isBlank (c : Char) : Bool := inRanges blankRanges c

/-- Whether the character is a space, a tab or a line break. -/
def isLayout (c : Char) : Bool := c = ' ' || c = '\t' || c = '\n' || c = '\r'

/-- Whether the character is a space or a tab. -/
def isGap (c : Char) : Bool := c = ' ' || c = '\t'

/-- Whether the character ends a line. -/
def isLineBreak (c : Char) : Bool := c = '\n' || c = '\r'

/-- Cuts blanks from the end. -/
def trimEnd (cs : List Char) : List Char := (cs.reverse.dropWhile isBlank).reverse

/-- Cuts blanks from both ends. -/
def trim (cs : List Char) : List Char := trimEnd (cs.dropWhile isBlank)

/-- The maximal runs of characters that are not blank, in order. -/
def words (cs : List Char) : List (List Char) := (cs.splitOnP isBlank).filter (!·.isEmpty)

end ClassDiagram.Text
