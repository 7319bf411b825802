import ClassDiagram.Error
import ClassDiagram.Table

/-!
# Trees of files in memory

A tree of files in memory is the text of its files, each under the names that
lead to it from the root. There is a directory wherever those names lead
through, and on the way to the working directory. Four devices stand beside
the files.

A path is followed one step after the other. Every step but the last must lead
into a directory, also where a later step leads back out of it, and what goes
wrong first decides. What the last step may lead to depends on whether the
file is to be read or to be written.
-/

namespace ClassDiagram.Command

/-- A path: where it starts, and the steps that it takes from there. -/
structure Path where
  /-- Whether it starts at the root, and not in the working directory. -/
  isAbsolute : Bool
  /-- The names of the steps. -/
  steps : List String
  /-- Whether a slash ends it, so that it asks for a directory. -/
  endsInSlash : Bool
deriving DecidableEq, Repr

namespace Path

/-- The longest path, in bytes. -/
def maxLength : Nat := 4095

/-- The longest name in a directory, in bytes. -/
def maxNameLength : Nat := 255

/-- The path that is written so. Slashes separate the steps, and several in a
row are as good as one. -/
def ofString (text : String) : Path where
  isAbsolute := text.toList.head? = some '/'
  steps := (text.splitOn "/").filter (· ≠ "")
  endsInSlash := text.toList.getLast? = some '/'

end Path

/-- What can be read or written like a file, without being one. -/
inductive Device where
  /-- Is always empty and forgets what is written to it. -/
  | null
  /-- Standard input. -/
  | input
  /-- Standard output. -/
  | output
  /-- The standard error output. -/
  | errors
deriving DecidableEq, Repr

/-- What stands under names that lead from the root. -/
inductive Node where
  | directory
  | file (text : String)
  | device (device : Device)
deriving DecidableEq, Repr

/-- A tree of files, and the place in it where paths start. -/
structure FileTree where
  /-- The text of the files, each under the names that lead to it. -/
  files : Table (List String) String := ∅
  /-- The names that lead to the working directory. -/
  workingDirectory : List String := ["tmp", "work"]

namespace FileTree

/-- The devices, each with the names that lead to it. -/
def devices : List (List String × Device) :=
  [(["dev", "null"], .null), (["dev", "stdin"], .input), (["dev", "stdout"], .output),
    (["dev", "stderr"], .errors)]

/-- Whether the names lead to something, or lead through it. -/
def isOnTheWay (tree : FileTree) (names : List String) : Bool :=
  names.isPrefixOf tree.workingDirectory || tree.files.keys.any names.isPrefixOf ||
    devices.any fun (device, _) => names.isPrefixOf device

/-- What stands under the names. -/
def node? (tree : FileTree) (names : List String) : Option Node :=
  match tree.files.get? names, devices.lookup names with
  | some text, _ => some (.file text)
  | none, some device => some (.device device)
  | none, none => if tree.isOnTheWay names then some .directory else none

/-- What stands in a directory under a name. -/
def child? (tree : FileTree) (directory : List String) (name : String) :
    Except FileProblem (Option Node) :=
  if Path.maxNameLength < name.utf8ByteSize then .error .nameTooLong
  else .ok (tree.node? (directory ++ [name]))

/-- Takes a step from a directory into a directory. The root is above itself. -/
def enter (tree : FileTree) (directory : List String) (step : String) :
    Except FileProblem (List String) :=
  if step = "." then .ok directory
  else if step = ".." then .ok directory.dropLast
  else
    match tree.child? directory step with
    | .error problem => .error problem
    | .ok none => .error .missing
    | .ok (some .directory) => .ok (directory ++ [step])
    | .ok (some _) => .error .notDirectory

/-- Takes all steps of a path but the last. The result is the directory that
they lead to and the last name, if the path ends in one. -/
def approach (tree : FileTree) (path : Path) :
    Except FileProblem (List String × Option String) :=
  let start := if path.isAbsolute then [] else tree.workingDirectory
  match path.steps.dropLast.foldlM tree.enter start with
  | .error problem => .error problem
  | .ok directory =>
      .ok (directory, path.steps.getLast?.filter fun name => name ≠ "." && name ≠ "..")

/-- Takes all steps of a path but the last, if the text is one of a path. -/
def approachText (tree : FileTree) (text : String) :
    Except FileProblem (List String × Option String) :=
  if text = "" then .error .missing
  else if Path.maxLength < text.utf8ByteSize then .error .nameTooLong
  else tree.approach (Path.ofString text)

/-- What can be read. -/
inductive Inlet where
  | text (text : String)
  | device (device : Device)
deriving DecidableEq, Repr

/-- What is read at the path. -/
def inlet (tree : FileTree) (path : String) : Except FileProblem Inlet :=
  match tree.approachText path with
  | .error problem => .error problem
  | .ok (_, none) => .error .isDirectory
  | .ok (directory, some name) =>
      match tree.child? directory name with
      | .error problem => .error problem
      | .ok none => .error .missing
      | .ok (some .directory) => .error .isDirectory
      | .ok (some (.file text)) =>
          if (Path.ofString path).endsInSlash then .error .notDirectory else .ok (.text text)
      | .ok (some (.device device)) =>
          if (Path.ofString path).endsInSlash then .error .notDirectory
          else .ok (.device device)

/-- What can be written. -/
inductive Outlet where
  /-- A file, which is there or can be made. -/
  | file (names : List String)
  | device (device : Device)
deriving DecidableEq, Repr

/-- What is written at the path. -/
def outlet (tree : FileTree) (path : String) : Except FileProblem Outlet :=
  match tree.approachText path with
  | .error problem => .error problem
  | .ok (_, none) => .error .isDirectory
  | .ok (directory, some name) =>
      if (Path.ofString path).endsInSlash then .error .isDirectory
      else
        match tree.child? directory name with
        | .error problem => .error problem
        | .ok (some .directory) => .error .isDirectory
        | .ok (some (.device device)) => .ok (.device device)
        | .ok _ => .ok (.file (directory ++ [name]))

/-- Puts a file with the text under the names. -/
def put (tree : FileTree) (names : List String) (text : String) : FileTree :=
  { tree with files := tree.files.insert names text }

/-- The tree with the given files below its working directory. -/
def ofFiles (files : List (String × String)) : FileTree :=
  files.foldl
    (fun tree (path, text) =>
      tree.put (tree.workingDirectory ++ (Path.ofString path).steps.filter (· ≠ ".")) text)
    {}

end FileTree

end ClassDiagram.Command
