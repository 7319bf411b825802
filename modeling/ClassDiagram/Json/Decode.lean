import ClassDiagram.Json.Basic
import ClassDiagram.Json.Error
import ClassDiagram.Table

/-!
# Taking values apart

What a value means is sometimes known only after it has been read. The
functions of this module ask a value that has been read for something: a text,
a list, a table, the fields of a record. They report what they find instead in
the same words as the readers do.

The fields of a record are stated by name or by position. By name, they come
in any order, those that the record does not have are passed over, and one
that it has may come only once. By position, later ones may be missing, and
there may be no more than the record has.
-/

namespace ClassDiagram.Json

/-- What a value is, for a report. -/
def found : Json → Found
  | null => .null
  | bool value => .bool value
  | integer value => .integer value
  | float value => .float value
  | text value => .text value
  | array _ => .array
  | object _ => .object

/-- The text that the value is. -/
def asText : Json → Except Mismatch String
  | text value => .ok value
  | other => .error (.wrongType other.found "a string")

/-- The decoded items, in order. -/
def decodeItems {α : Type} (decode : Json → Except Mismatch α) :
    List Json → Except Mismatch (List α)
  | [] => .ok []
  | item :: items =>
      match decode item with
      | .error m => .error m
      | .ok first => (decodeItems decode items).map (first :: ·)

/-- The list that the value is, with its items decoded. -/
def asList {α : Type} (decode : Json → Except Mismatch α) : Json → Except Mismatch (List α)
  | array items => decodeItems decode items
  | other => .error (.wrongType other.found "a sequence")

/-- Binds the names of the members to their decoded values, in order. -/
def decodeMembers {α : Type} (decode : Json → Except Mismatch α) (done : Table String α) :
    List (String × Json) → Except Mismatch (Table String α)
  | [] => .ok done
  | (name, value) :: members =>
      match decode value with
      | .error m => .error m
      | .ok content => decodeMembers decode (done.insert name content) members

/-- The table that the value is, with its values decoded. A name that stands
more than once keeps its first place and takes the last value. -/
def asTable {α : Type} (decode : Json → Except Mismatch α) :
    Json → Except Mismatch (Table String α)
  | object members => decodeMembers decode ∅ members
  | other => .error (.wrongType other.found "a map")

/-- Nothing if the value is null, and else the decoded value. -/
def asOptional {α : Type} (decode : Json → Except Mismatch α) :
    Json → Except Mismatch (Option α)
  | null => .ok none
  | other => (decode other).map some

/-- A field of a record that is built up in a state of type `σ`. -/
structure FieldDecoder (σ : Type) where
  /-- The name of the field. -/
  name : String
  /-- Puts the value of the field into the state. -/
  decode : σ → Json → Except Mismatch σ

/-- The fields of a record as they are stated. -/
inductive Fields where
  | named (members : List (String × Json))
  | listed (items : List Json)

namespace Fields

variable {σ : Type}

/-- Goes through fields that are stated by name; `seen` are the names before. -/
def decodeNamed (fields : List (FieldDecoder σ)) (seen : List String) (state : σ) :
    List (String × Json) → Except Mismatch σ
  | [] => .ok state
  | (name, value) :: members =>
      match fields.find? (·.name = name) with
      | none => decodeNamed fields seen state members
      | some field =>
          if name ∈ seen then .error (.duplicateField name)
          else
            match field.decode state value with
            | .error m => .error m
            | .ok next => decodeNamed fields (name :: seen) next members

/-- How many items there are, in words. -/
def countText : Nat → String
  | 1 => "1 element in sequence"
  | count => toString count ++ " elements in sequence"

/-- Goes through fields that are stated by position; `count` come before. -/
def decodeListed (count : Nat) :
    (fields : List (FieldDecoder σ)) → (state : σ) → List Json → Except Mismatch σ
  | _, state, [] => .ok state
  | [], _, items => .error (.wrongLength (count + items.length) (countText count))
  | field :: fields, state, item :: items =>
      match field.decode state item with
      | .error m => .error m
      | .ok next => decodeListed (count + 1) fields next items

/-- The state after all the fields that are stated. -/
def decode (fields : List (FieldDecoder σ)) (start : σ) : Fields → Except Mismatch σ
  | named members => decodeNamed fields [] start members
  | listed items => decodeListed 0 fields start items

end Fields

end ClassDiagram.Json
