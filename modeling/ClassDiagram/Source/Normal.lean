import ClassDiagram.Text.Blank

/-!
# Source text in normal form

The look of a source text is not what matters in it. In normal form its line
breaks are gone, its words stand one space apart, and no blank is left at
either end. Line breaks are removed before the words are separated, so a line
break alone does not keep two words apart.
-/

namespace ClassDiagram.Source

/-- The normal form of the characters of a source text. -/
def normal (cs : List Char) : List Char :=
  [' '].intercalate (Text.words (cs.filter (!Text.isLineBreak ·)))

/-- The normal form of a source text. -/
def normalised (source : String) : String := String.ofList (normal source.toList)

end ClassDiagram.Source
