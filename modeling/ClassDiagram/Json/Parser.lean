import ClassDiagram.Json.Numeral
import ClassDiagram.Json.Text

/-!
# Reading whole values

A value is read into a tree by recursion on the number of brackets that may
still be opened, so a text cannot nest without bound.

A part of a text that nobody asked for is skipped: its grammar is checked and
nothing else. Nesting is not bounded there; a text cannot have more brackets
than characters, so its length is bound enough for the recursion.

`readAll` reads a text that holds one thing and blanks around it.
-/

namespace ClassDiagram.Json

namespace Reader

/-- Takes the rest of a word of which the first letter has been seen. -/
def word : List Char → Reader Unit
  | [] => pure ()
  | letter :: letters => do
      match ← look with
      | none => fail (.fault .endInValue)
      | some c => if c = letter then do advance; word letters else fault .expectedWord

/-- Takes the colon between a name and its value. -/
def colon : Reader Unit := do
  match ← peek with
  | some c => if c = ':' then advance else fault .expectedColon
  | none => fault .endInObject

/-- Takes the opening quote of a name, and the name. -/
def name : Reader String := do
  match ← peek with
  | some c =>
      if c = '"' then do
        advance
        textRest
      else fault .nameNotText
  | none => fault .endInValue

/-- The nesting of brackets that a text may have. -/
def maxNesting : Nat := 127

/-- Reads a member of an object whose value `inner` reads. -/
def member (inner : Reader Json) : Reader (String × Json) := do
  let key ← name
  colon
  let content ← inner
  pure (key, content)

/-- Reads a value; `inner` reads what stands between brackets, and without it
no bracket may be opened. -/
def valueWith (inner : Option (Reader Json)) : Reader Json := do
  match ← peek with
  | none => fault .endInValue
  | some c =>
      if c = 'n' then do
        advance
        word ['u', 'l', 'l']
        pure .null
      else if c = 't' then do
        advance
        word ['r', 'u', 'e']
        pure (.bool true)
      else if c = 'f' then do
        advance
        word ['a', 'l', 's', 'e']
        pure (.bool false)
      else if c = '"' then do
        advance
        let characters ← textRest
        pure (.text characters)
      else if c = '-' then do
        advance
        number true
      else if c.isDigit then number false
      else if c = '[' then
        match inner with
        | none => fault .nestingTooDeep
        | some item => do
            advance
            let reversed ← elements .array (fun done => do pure ((← item) :: done)) []
            pure (.array reversed.reverse)
      else if c = '\x7b' then
        match inner with
        | none => fault .nestingTooDeep
        | some content => do
            advance
            let reversed ← elements .object (fun done => do pure ((← member content) :: done)) []
            pure (.object reversed.reverse)
      else fault .expectedValue

/-- Reads a value in which at most `nesting` brackets are open at a time. -/
def value : (nesting : Nat) → Reader Json
  | 0 => valueWith none
  | inner + 1 => delay fun _ => valueWith (some (value inner))

/-- Skips a name, its colon and what `inner` skips. -/
def skipMember (inner : Reader Unit) : Reader Unit := do
  match ← peek with
  | none => fault .endInObject
  | some c =>
      if c = '"' then do
        advance
        skipTextRest
        colon
        inner
      else fault .nameNotText

/-- Skips a value; `inner` skips what stands between brackets, and without it
no bracket may be opened. -/
def skipWith (inner : Option (Reader Unit)) : Reader Unit := do
  match ← peek with
  | none => fault .endInValue
  | some c =>
      if c = 'n' then do
        advance
        word ['u', 'l', 'l']
      else if c = 't' then do
        advance
        word ['r', 'u', 'e']
      else if c = 'f' then do
        advance
        word ['a', 'l', 's', 'e']
      else if c = '"' then do
        advance
        skipTextRest
      else if c = '-' then do
        advance
        skipNumber
      else if c.isDigit then skipNumber
      else if c = '[' then
        match inner with
        | none => fault .nestingTooDeep
        | some item => do
            advance
            elements .array (fun _ => item) ()
      else if c = '\x7b' then
        match inner with
        | none => fault .nestingTooDeep
        | some content => do
            advance
            elements .object (fun _ => skipMember content) ()
      else fault .expectedValue

/-- Skips a value in which at most `nesting` brackets are open at a time. -/
def skipNested : (nesting : Nat) → Reader Unit
  | 0 => skipWith none
  | inner + 1 => delay fun _ => skipWith (some (skipNested inner))

/-- Skips a value, however deeply it nests. -/
def skipValue : Reader Unit where
  run cs := (skipNested cs.length).run cs
  length_le h := (skipNested _).length_le h

/-- Reads one thing that is all the text holds. -/
def whole {α : Type} (content : Reader α) : Reader α := do
  let result ← content
  match ← peek with
  | none => pure result
  | some _ => fault .trailingCharacters

end Reader

/-- Reads the text with the reader; a problem is reported with its place. -/
def readAll {α : Type} (content : Reader α) (text : String) : Except Error α :=
  let cs := text.toList
  match (Reader.whole content).run cs with
  | .ok (result, _) => .ok result
  | .error failure =>
      .error ⟨failure.problem, Position.after (cs.take (cs.length - failure.rest.length))⟩

end ClassDiagram.Json
