import ClassDiagram.Model.Reader
import ClassDiagram.Session

/-!
# Linking models

Linking a model replaces the names by which its values refer to each other by
ids: the id of a value is the position of its name. Of what is written for a
property or a scalar it takes what a realm keeps. It fails at the first name
that is not the name of a value, and at the first key of an entry that is not
a segment, in the order of the model: the values, the scopes, the classes; and
within a class its parent, its interfaces, its static members.
-/

namespace ClassDiagram

/-- A model whose values refer to each other by id. -/
structure LinkedModel where
  /-- The names of the values, by id. -/
  names : List String
  /-- The values. -/
  realm : Realm
  /-- The scopes. -/
  scopes : Table String ValueId
  /-- The root classes. -/
  classes : List ValueId
  /-- The relations. -/
  relations : List Relation
  /-- Whether to write notes. -/
  notes : Bool

namespace Model

/-- The id of the value of the name: its position. -/
def idOf? (names : List String) (name : String) : Option ValueId :=
  (names.idxOf? name).map ValueId.mk

/-- The id of the value of the name, which is referred to at the given place. -/
def linkName (names : List String) (mention : Mention) (name : String) : Except Error ValueId :=
  match idOf? names name with
  | some id => .ok id
  | none => .error (.unknownValue mention name)

/-- The ids of the values of the names, in order. -/
def linkNames (names : List String) (mention : Mention) :
    List String → Except Error (List ValueId)
  | [] => .ok []
  | name :: rest =>
      match linkName names mention name with
      | .error error => .error error
      | .ok id => (linkNames names mention rest).map (id :: ·)

/-- Links the entries of a value; their keys must be segments. -/
def linkEntries (names : List String) (owner : String) (entries : Table String String) :
    Except Error (Table String ValueId) :=
  entries.traverse fun key target =>
    match SegmentProblem.find? key with
    | some problem => .error (.malformedModelEntry key problem owner)
    | none => linkName names (.entry owner key) target

/-- Links the parent of a class, if it has one. -/
def linkParent (names : List String) (owner : String) :
    Option String → Except Error (Option ValueId)
  | none => .ok none
  | some parent => (linkName names (.parentOf owner) parent).map some

/-- Links a class: the parent, then the interfaces, then the static members. -/
def linkClass (names : List String) (owner : String) (definition : ClassSpec) :
    Except Error (ClassDef ValueId) := do
  let parent ← linkParent names owner definition.parent
  let interfaces ← linkNames names (.interfaceOf owner) definition.implements
  let statics ← linkEntries names owner definition.statics
  pure
    { parent := parent
      implements := interfaces
      prototype := definition.prototype.map fun _ => PropertySpec.toProperty
      surface := definition.surface
      statics := statics }

/-- Links a value. -/
def linkValue (names : List String) (owner : String) :
    ValueSpec → Except Error (Value ValueId)
  | .object entries => (linkEntries names owner entries).map .object
  | .function source entries => (linkEntries names owner entries).map (.function source)
  | .classDef definition => (linkClass names owner definition).map .classDef
  | .interfaceDef requirements => .ok (.interfaceDef requirements)
  | .scalar value => .ok (.scalar value.literal)

/-- Links the model: the values, then the scopes, then the classes. -/
def link (model : Model) : Except Error LinkedModel := do
  let names := model.values.keys
  let values ← model.values.traverse (linkValue names)
  let scopes ← model.scopes.traverse fun scope target => linkName names (.scope scope) target
  let classes ← linkNames names .classes model.classes
  pure
    { names := names
      realm := ⟨values.values.toArray⟩
      scopes := scopes
      classes := classes
      relations := model.relations
      notes := model.notes }

end Model

namespace LinkedModel

/-- Reads and links a model. -/
def ofText (text : String) : Except Error LinkedModel :=
  match Model.ofText text with
  | .error error => .error (.json error)
  | .ok model => model.link

/-- Reads and links the model in a file, if the file can be read. -/
def ofFile : Except FileProblem String → Except Error LinkedModel
  | .error problem => .error (.io problem)
  | .ok content => ofText content

/-- The id of the value of the name. -/
def idOf? (model : LinkedModel) (name : String) : Option ValueId :=
  Model.idOf? model.names name

/-- The session that the model states: its classes, its scopes, its relations,
and no notes if it wants none. -/
def session (model : LinkedModel) : Except Error (Session model.realm) :=
  match Session.withRoots model.classes model.scopes.entries with
  | .error error => .error error
  | .ok registered =>
      let related := model.relations.foldl Session.addRelation registered
      .ok (if model.notes then related else related.setNotes false)

/-- Compiles the classes of the model. -/
def compile (model : LinkedModel) : Except Error Graph :=
  match model.session with
  | .error error => .error error
  | .ok session =>
      match session.compileAll with
      | (.error error, _) => .error error
      | (.ok (), final) => .ok final.graph

/-- Writes the diagram of the model. Notes are written if both the model and
`notes` want them. -/
def render (model : LinkedModel) (notes enclose : Bool) : Except Error String :=
  match model.session with
  | .error error => .error error
  | .ok session =>
      let noted := if notes then session else session.setNotes false
      (noted.setEnclose enclose).render.1

end LinkedModel

/-- Compiles the classes of the model in the text. -/
def compileText (text : String) : Except Error Graph := do
  (← LinkedModel.ofText text).compile

/-- Writes the diagram of the model in the text. -/
def renderText (text : String) (notes enclose : Bool) : Except Error String := do
  (← LinkedModel.ofText text).render notes enclose

end ClassDiagram
