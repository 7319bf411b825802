import ClassDiagram.Json.Parser
import ClassDiagram.Table

/-!
# Reading things of a given shape

The readers of this module ask for something: a text, a truth value, a list, a
table, a record. What stands there instead, if it is something else, is read
as far as its first mark or to its end if it is plain, and then reported.

A record is written as an object or as an array. In an object its fields stand
in any order, fields that the record does not have are skipped, and a field
that the record has may stand only once. In an array the fields stand in the
order of the record, later ones may be missing, and nothing may follow the
last.
-/

namespace ClassDiagram.Json

/-- A field of a record that is built up in a state of type `σ`. -/
structure FieldReader (σ : Type) where
  /-- The name of the field. -/
  name : String
  /-- Reads the value of the field and puts it into the state. -/
  read : σ → Reader σ

namespace Reader

variable {α σ : Type}

/-- Reads what stands next and reports it as a mismatch. -/
def wrongType (expected : String) : Reader α := do
  match ← peek with
  | none => fault .endInValue
  | some c =>
      if c = '[' then mismatch (.wrongType .array expected)
      else if c = '\x7b' then mismatch (.wrongType .object expected)
      else
        match ← valueWith none with
        | .null => mismatch (.wrongType .null expected)
        | .bool b => mismatch (.wrongType (.bool b) expected)
        | .integer n => mismatch (.wrongType (.integer n) expected)
        | .float x => mismatch (.wrongType (.float x) expected)
        | .text s => mismatch (.wrongType (.text s) expected)
        | .array _ => mismatch (.wrongType .array expected)
        | .object _ => mismatch (.wrongType .object expected)

/-- Reads a text. -/
def textOr (expected : String) : Reader String := do
  if (← peek) = some '"' then do
    advance
    textRest
  else wrongType expected

/-- Reads a text. -/
def text : Reader String := textOr "a string"

/-- Reads a truth value. -/
def bool : Reader Bool := do
  match ← peek with
  | none => fault .endInValue
  | some c =>
      if c = 't' then do
        advance
        word ['r', 'u', 'e']
        pure true
      else if c = 'f' then do
        advance
        word ['a', 'l', 's', 'e']
        pure false
      else wrongType "a boolean"

/-- Reads what `content` reads, or null. -/
def optional (content : Reader α) : Reader (Option α) := do
  if (← peek) = some 'n' then do
    advance
    word ['u', 'l', 'l']
    pure none
  else do
    let result ← content
    pure (some result)

/-- Reads an array of what `item` reads. -/
def list (item : Reader α) : Reader (List α) := do
  if (← peek) = some '[' then do
    advance
    let reversed ← elements .array (fun done => do pure ((← item) :: done)) []
    pure reversed.reverse
  else wrongType "a sequence"

/-- Reads an object of what `content` reads. A name that stands more than once
keeps its first place and takes the last content. -/
def table (content : Reader α) : Reader (Table String α) := do
  if (← peek) = some '\x7b' then do
    advance
    elements .object
      (fun done => do
        let key ← name
        colon
        pure (done.insert key (← content))) ∅
  else wrongType "a map"

/-- Reads a member of a record, which is a field or is skipped. The state is
paired with the names of the fields that have been read. -/
def fieldMember (fields : List (FieldReader σ)) (state : List String × σ) : Reader (List String × σ) := do
  let key ← name
  match fields.find? (·.name = key) with
  | none => do
      colon
      skipValue
      pure state
  | some field =>
      if key ∈ state.1 then mismatch (.duplicateField key)
      else do
        colon
        let next ← field.read state.2
        pure (key :: state.1, next)

/-- Whether an item of an array follows; `isFirst` says whether none stands
before it. The comma in front of the item is taken. -/
def hasItem (isFirst : Bool) : Reader Bool := do
  match ← peek with
  | none => fault .endInArray
  | some c =>
      if c = ']' then pure false
      else if isFirst then pure true
      else if c = ',' then do
        advance
        match ← peek with
        | none => fault .endInValue
        | some next => if next = ']' then fault .trailingComma else pure true
      else fault .expectedItemOrEnd

/-- Takes the end of an array after its last field. -/
def closeArray : Reader Unit := do
  match ← peek with
  | none => fault .endInArray
  | some c =>
      if c = ']' then advance
      else if c = ',' then do
        advance
        if (← peek) = some ']' then fault .trailingComma else fault .trailingCharacters
      else fault .trailingCharacters

/-- Reads fields in their order as long as there are items, and counts them. -/
def fieldItems (count : Nat) : (fields : List (FieldReader σ)) → σ → Reader (Nat × σ)
  | [], state => pure (count, state)
  | field :: fields, state => do
      if ← hasItem (count = 0) then do
        let next ← field.read state
        fieldItems (count + 1) fields next
      else pure (count, state)

/-- Reads a record. `finish` makes it from the state, or says which field is
missing; `enough` says whether an array of the given length is long enough. -/
def record (expected : String) (fields : List (FieldReader σ)) (start : σ)
    (finish : σ → Except Mismatch α) (enough : Nat → Except Mismatch Unit) : Reader α := do
  match ← peek with
  | none => fault .endInValue
  | some c =>
      if c = '\x7b' then do
        advance
        let (_, final) ← elements .object (fieldMember fields) ([], start)
        ofExcept (finish final)
      else if c = '[' then do
        advance
        let (count, final) ← fieldItems 0 fields start
        ofExcept (enough count)
        closeArray
        ofExcept (finish final)
      else wrongType expected

end Reader

end ClassDiagram.Json
