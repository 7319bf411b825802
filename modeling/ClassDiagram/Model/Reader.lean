import ClassDiagram.Json.Decode
import ClassDiagram.Model.Basic

/-!
# Reading models

A model is read from left to right, and what is wrong with it is reported as
soon as it is met, with one exception. The fields of a value depend on its
kind, and the kind may come last. So a value is first read as a whole, its
kind being checked when it is met, and its fields are looked at afterwards.

An entry of a prototype is a field if it can be read as one, and else a callable
if it can be read as that. A field states a `value` of any kind, once, and what
else it states is ignored.
-/

namespace ClassDiagram.Model

open Json

/-- The table of references that the value is. -/
def asReferences : Json → Except Mismatch (Table String String) := asTable asText

/-- The fields of a plain field: its value, which may be anything. -/
def fieldFields : List (FieldDecoder (Option Json)) := [⟨"value", fun _ value => .ok (some value)⟩]

/-- The value of a plain field, which it has to state. -/
def asFieldValue (members : List (String × Json)) : Except Mismatch Json :=
  match Fields.decodeNamed fieldFields [] none members with
  | .error m => .error m
  | .ok none => .error (.missingField "value")
  | .ok (some value) => .ok value

/-- The fields of a callable. -/
def callableFields : List (FieldDecoder Callable) :=
  [⟨"source", fun callable value => do
      pure { callable with source := ← asOptional asText value }⟩,
    ⟨"params", fun callable value => do
      pure { callable with params := ← asOptional (asList asText) value }⟩]

/-- The callable that the members state. -/
def asCallable (members : List (String × Json)) : Except Mismatch Callable :=
  Fields.decodeNamed callableFields [] ⟨none, none⟩ members

/-- The entry of a prototype that is stated: the first of the two kinds as which it
can be read. -/
def asPropertySpec : Json → Except Mismatch PropertySpec
  | object members =>
      match asFieldValue members with
      | .ok value => .ok (.field value)
      | .error _ =>
          match asCallable members with
          | .ok callable => .ok (.callable callable)
          | .error _ => .error (.noAlternative "PropertySpec")
  | _ => .error (.noAlternative "PropertySpec")

/-- The fields of an object. -/
def objectFields : List (FieldDecoder (Table String String)) :=
  [⟨"entries", fun _ value => asReferences value⟩]

/-- The fields of a function: its source text and its entries. -/
def functionFields : List (FieldDecoder (String × Table String String)) :=
  [⟨"source", fun function value => do pure (← asText value, function.2)⟩,
    ⟨"entries", fun function value => do pure (function.1, ← asReferences value)⟩]

/-- The fields of a class. -/
def classFields : List (FieldDecoder ClassSpec) :=
  [⟨"extends", fun definition value => do
      pure { definition with parent := ← asOptional asText value }⟩,
    ⟨"implements", fun definition value => do
      pure { definition with implements := ← asList asText value }⟩,
    ⟨"prototype", fun definition value => do
      pure { definition with prototype := ← asTable asPropertySpec value }⟩,
    ⟨"public_surface", fun definition value => do
      pure { definition with surface := ← asOptional asReferences value }⟩,
    ⟨"statics", fun definition value => do
      pure { definition with statics := ← asReferences value }⟩]

/-- The fields of an interface. -/
def interfaceFields : List (FieldDecoder (Table String String)) :=
  [⟨"members", fun _ value => asReferences value⟩]

/-- The fields of a scalar: a value of any kind. -/
def scalarFields : List (FieldDecoder Json) := [⟨"value", fun _ value => .ok value⟩]

/-- The value of the given kind with the given fields. -/
def valueOfFields (stated : Fields) : ValueKind → Except Mismatch ValueSpec
  | .object => (stated.decode objectFields ∅).map .object
  | .function =>
      (stated.decode functionFields ("", ∅)).map fun (source, entries) => .function source entries
  | .classDef => (stated.decode classFields {}).map .classDef
  | .interfaceDef => (stated.decode interfaceFields ∅).map .interfaceDef
  | .scalar => (stated.decode scalarFields null).map .scalar

/-- The kind of the name. -/
def asKind (name : String) : Except Mismatch ValueKind :=
  match ValueKind.ofName? name with
  | some kind => .ok kind
  | none => .error (.unknownVariant name (ValueKind.all.map ValueKind.name))

/-- Reads a kind. -/
def kindReader : Reader ValueKind := do
  Reader.ofExcept (asKind (← Reader.textOr "variant identifier"))

/-- Reads a field of a value as a tree. Three brackets are open around it: those
of the model, of its table of values and of the value. -/
def fieldReader : Reader Json := Reader.value (Reader.maxNesting - 3)

/-- Reads a member of a value, after a kind if one was read and the members
before it, the latest first. -/
def memberReader (state : Option ValueKind × List (String × Json)) :
    Reader (Option ValueKind × List (String × Json)) := do
  let key ← Reader.name
  if key = "kind" then
    if state.1.isSome then Reader.mismatch (.duplicateField "kind")
    else do
      Reader.colon
      let kind ← kindReader
      pure (some kind, state.2)
  else do
    Reader.colon
    let content ← fieldReader
    pure (state.1, (key, content) :: state.2)

/-- Reads an item of a value: the kind if none was read, and else a field. -/
def itemReader (state : Option ValueKind × List Json) :
    Reader (Option ValueKind × List Json) := do
  match state.1 with
  | none => do
      let kind ← kindReader
      pure (some kind, [])
  | some kind => do
      let content ← fieldReader
      pure (some kind, content :: state.2)

/-- The value of the fields, if the kind was stated. -/
def finishValue (kind : Option ValueKind) (stated : Fields) : Reader ValueSpec :=
  match kind with
  | none => Reader.mismatch (.missingField "kind")
  | some kind => Reader.ofExcept (valueOfFields stated kind)

/-- Reads a value. -/
def valueReader : Reader ValueSpec := do
  match ← Reader.peek with
  | none => Reader.fault .endInValue
  | some c =>
      if c = '\x7b' then do
        Reader.advance
        let (kind, members) ← Reader.elements .object memberReader (none, [])
        finishValue kind (.named members.reverse)
      else if c = '[' then do
        Reader.advance
        let (kind, items) ← Reader.elements .array itemReader (none, [])
        finishValue kind (.listed items.reverse)
      else Reader.wrongType "internally tagged enum ValueSpec"

/-- The fields of a model, in the order in which an array states them. -/
def fields : List (FieldReader Model) :=
  [⟨"values", fun model => do pure { model with values := ← Reader.table valueReader }⟩,
    ⟨"scopes", fun model => do pure { model with scopes := ← Reader.table Reader.text }⟩,
    ⟨"classes", fun model => do pure { model with classes := ← Reader.list Reader.text }⟩,
    ⟨"relations", fun model => do
      pure { model with relations := ← Reader.list Relation.reader }⟩,
    ⟨"notes", fun model => do pure { model with notes := ← Reader.bool }⟩]

/-- Reads a model; no field has to be there. -/
def reader : Reader Model :=
  Reader.record "struct DiagramModel" fields {} .ok fun _ => .ok ()

/-- Reads a model from a text that holds nothing else. -/
def ofText (text : String) : Except Json.Error Model := readAll reader text

end ClassDiagram.Model
