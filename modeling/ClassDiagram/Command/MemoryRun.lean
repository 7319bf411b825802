import ClassDiagram.Command.FileTree
import ClassDiagram.Command.Run

/-!
# Runs in memory

The surroundings of a run can be a value: the environment, standard input and
a tree of files in memory. What the run leaves can then be looked at.
-/

namespace ClassDiagram.Command

/-- A run in memory: what it finds and what it leaves. -/
structure MemoryRun where
  /-- The environment variables that are set. -/
  environment : List (String × String) := []
  /-- Standard input. -/
  input : String := ""
  /-- The files. -/
  tree : FileTree := {}
  /-- What has been written to standard output. -/
  output : String := ""
  /-- What has been written to the standard error output. -/
  errors : String := ""

namespace MemoryRun

/-- Writes to standard output. -/
def print (text : String) (run : MemoryRun) : MemoryRun :=
  { run with output := run.output ++ text }

/-- Writes to the standard error output. -/
def report (text : String) (run : MemoryRun) : MemoryRun :=
  { run with errors := run.errors ++ text }

/-- The text that is read at a path. -/
def read (run : MemoryRun) (path : String) : Except FileProblem String :=
  match run.tree.inlet path with
  | .error problem => .error problem
  | .ok (.text text) => .ok text
  | .ok (.device .input) => .ok run.input
  | .ok (.device _) => .ok ""

/-- Writes the text at a path. -/
def write (run : MemoryRun) (path text : String) : Except FileProblem MemoryRun :=
  match run.tree.outlet path with
  | .error problem => .error problem
  | .ok (.file names) => .ok { run with tree := run.tree.put names text }
  | .ok (.device .output) => .ok (run.print text)
  | .ok (.device .errors) => .ok (run.report text)
  | .ok (.device _) => .ok run

/-- The surroundings of a run in memory. -/
def surroundings : Surroundings (StateM MemoryRun) where
  environment name := return (← get).environment.lookup name
  readInput := return .ok (← get).input
  readFile path := return (← get).read path
  writeFile path text := do
    match (← get).write path text with
    | .error problem => return .error problem
    | .ok after => do
        set after
        return .ok ()
  print text := modify (print text)
  report text := modify (report text)

end MemoryRun

end ClassDiagram.Command
