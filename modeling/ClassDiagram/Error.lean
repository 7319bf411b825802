import ClassDiagram.Json.Error
import ClassDiagram.Name
import ClassDiagram.Value

/-!
# What can go wrong

Reading source text never fails: what is not recognised is absent. Everything
else can, and an `Error` is the cause: which value was missing, which name was
malformed, which reference led nowhere.

Causes fall into a few kinds, and a message consists of the heading of the
kind and the detail of the cause.
-/

namespace ClassDiagram

/-- Why the content of a file could not be read or written. -/
inductive FileProblem where
  /-- The operating system refused, for the reason with the given number. -/
  | refused (reason : String) (number : Nat)
  /-- The content is not text. -/
  | notText
deriving DecidableEq, Repr

namespace FileProblem

/-- There is nothing at the path. -/
def missing : FileProblem := refused "No such file or directory" 2

/-- Something on the way along the path is not a directory. -/
def notDirectory : FileProblem := refused "Not a directory" 20

/-- There is a directory at the path. -/
def isDirectory : FileProblem := refused "Is a directory" 21

/-- The path, or a name on it, is longer than can be. -/
def nameTooLong : FileProblem := refused "File name too long" 36

/-- The problem in words. -/
def message : FileProblem → String
  | refused reason number => reason ++ " (os error " ++ toString number ++ ")"
  | notText => "stream did not contain valid UTF-8"

end FileProblem

/-- Where in a model a value is referred to by name. -/
inductive Mention where
  | entry (owner key : String)
  | parentOf (owner : String)
  | interfaceOf (owner : String)
  | scope (name : String)
  | classes
deriving DecidableEq, Repr

namespace Mention

/-- The place in words. -/
def text : Mention → String
  | entry owner key => owner ++ "." ++ key
  | parentOf owner => owner ++ ".extends"
  | interfaceOf owner => owner ++ ".implements"
  | scope name => "scope " ++ name
  | classes => "classes"

end Mention

/-- The kinds of error; two of them are about a name. -/
inductive ErrorKind where
  | reference
  | entry (name : String)
  | key (name : String)
  | model
  | json
  | io
deriving DecidableEq, Repr

namespace ErrorKind

/-- The heading of the kind. -/
def heading : ErrorKind → String
  | reference => "Invalid class reference"
  | entry name => "Invalid namespace entry '" ++ name ++ "'"
  | key name => "Malformed scope key '" ++ name ++ "'"
  | model => "Model error"
  | json => "JSON error"
  | io => "IO error"

/-- The message with the given detail. -/
def message (kind : ErrorKind) (detail : String) : String := kind.heading ++ ": " ++ detail

end ErrorKind

/-- What went wrong. -/
inductive Error where
  /-- A class or interface was asked for and no value has the id. -/
  | missingDefinition (id : ValueId)
  /-- A class was asked for and the value is of another kind. -/
  | notClass (id : ValueId) (kind : ValueKind)
  /-- An interface was asked for and the value is of another kind. -/
  | notInterface (id : ValueId) (kind : ValueKind)
  /-- The value to be bound to the name does not exist. -/
  | missingValue (name : String) (id : ValueId)
  /-- The container in which the name is to be bound does not exist. -/
  | missingContainer (name : String) (id : ValueId)
  /-- The value in which the name is to be bound holds no entries. -/
  | notContainer (name : String) (id : ValueId) (kind : ValueKind)
  /-- The value of the scope holds no entries. -/
  | scopeNotContainer (name : String) (kind : ValueKind)
  /-- The name of an entry is not a segment. -/
  | malformedEntry (name : String) (problem : SegmentProblem)
  /-- The name of a scope is not a segment. -/
  | malformedScope (name : String) (problem : SegmentProblem)
  /-- The name of an entry of a value of a model is not a segment. -/
  | malformedModelEntry (name : String) (problem : SegmentProblem) (owner : String)
  /-- A model refers to a value that it does not hold. -/
  | unknownValue (mention : Mention) (name : String)
  /-- The text of a model could not be read. -/
  | json (error : Json.Error)
  /-- The file of a model could not be read. -/
  | io (problem : FileProblem)
deriving DecidableEq, Repr

namespace Error

/-- The kind of the error. -/
def kind : Error → ErrorKind
  | missingDefinition _ | notClass _ _ | notInterface _ _ => .reference
  | missingValue name _ | missingContainer name _ | notContainer name _ _
  | scopeNotContainer name _ => .entry name
  | malformedEntry name _ | malformedScope name _ | malformedModelEntry name _ _ => .key name
  | unknownValue _ _ => .model
  | json _ => .json
  | io _ => .io

/-- The cause in words. -/
def detail : Error → String
  | missingDefinition id | missingValue _ id => "value " ++ id.text ++ " does not exist"
  | notClass id kind => "value " ++ id.text ++ " is " ++ kind.nameWithArticle ++ ", not a class"
  | notInterface id kind =>
      "value " ++ id.text ++ " is " ++ kind.nameWithArticle ++ ", not an interface"
  | missingContainer _ id => "container " ++ id.text ++ " does not exist"
  | notContainer _ id kind => kind.name ++ " " ++ id.text ++ " cannot hold entries"
  | scopeNotContainer _ kind =>
      "scope values must be objects, functions or classes, got " ++ kind.name
  | malformedEntry _ problem => "entry names " ++ problem.message
  | malformedScope _ problem => "scope names " ++ problem.message
  | malformedModelEntry _ problem owner =>
      "entry names " ++ problem.message ++ " (in '" ++ owner ++ "')"
  | unknownValue mention name => mention.text ++ " refers to unknown value '" ++ name ++ "'"
  | json error => error.message
  | io problem => problem.message

/-- The message of the error. -/
def message (error : Error) : String := error.kind.message error.detail

end Error

end ClassDiagram
