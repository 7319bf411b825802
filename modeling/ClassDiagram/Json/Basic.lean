import ClassDiagram.Number.Binary64

/-!
# JSON values

A JSON value is a tree. The members of an object are kept as they were
written, in order and with repetitions, because what a repetition means is for
the reader of the object to say. `canonical` is one such reading: the last of
several members of one name counts, and the names are sorted.
-/

namespace ClassDiagram

/-- A JSON value. -/
inductive Json where
  | null
  | bool (value : Bool)
  | integer (value : Int)
  | float (value : Number.Binary64)
  | text (value : String)
  | array (items : List Json)
  | object (members : List (String × Json))

namespace Json

instance : Inhabited Json := ⟨null⟩

/-- A text, or null if there is none. -/
def ofText? : Option String → Json
  | some value => text value
  | none => null

/-- The array of the texts. -/
def ofTexts (values : List String) : Json := array (values.map text)

/-- Puts a member into a list of members sorted by name; a member of the same
name is replaced. -/
def insertSorted (name : String) (value : Json) : List (String × Json) → List (String × Json)
  | [] => [(name, value)]
  | (other, old) :: rest =>
      if name < other then (name, value) :: (other, old) :: rest
      else if name = other then (name, value) :: rest
      else (other, old) :: insertSorted name value rest

mutual

/-- The value with the members of every object sorted by name and, of several
members of one name, only the last. -/
def canonical : Json → Json
  | null => null
  | bool value => bool value
  | integer value => integer value
  | float value => float value
  | text value => text value
  | array items => array (canonicalItems items)
  | object members => object (canonicalMembers [] members)

/-- The canonical forms of the items. -/
def canonicalItems : List Json → List Json
  | [] => []
  | item :: rest => canonical item :: canonicalItems rest

/-- Adds the canonical forms of the members to sorted ones, first to last. -/
def canonicalMembers (sorted : List (String × Json)) :
    List (String × Json) → List (String × Json)
  | [] => sorted
  | (name, value) :: rest =>
      canonicalMembers (insertSorted name (canonical value) sorted) rest

end

end Json

end ClassDiagram
