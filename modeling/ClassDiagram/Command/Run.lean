import ClassDiagram.Command.Answer

/-!
# Running a command

A run reads its input, makes its answer from the text it has read and puts the
answer where it belongs. All that a run needs of the world around it is
gathered in `Surroundings`, so a run is the same whether it meets a real file
system or a directory in memory.
-/

namespace ClassDiagram.Command

/-- The name of the program. -/
def programName : String := "classplot"

/-- The version of the program. -/
def version : String := "0.1.0"

/-- How the program is used. -/
def usage : String :=
  "Compile class hierarchy models into PlantUML class diagrams\n\n" ++
  "Usage: classplot [-v] [--log-level LEVEL] [--log-format FORMAT] COMMAND\n\n" ++
  "Commands:\n" ++
  "  render [-i PATH] [-o PATH] [--no-notes] [--enclose]\n" ++
  "  inspect [-i PATH] [--json]\n" ++
  "  validate [-i PATH]\n"

/-- What a run needs of the world around it. -/
structure Surroundings (m : Type → Type) where
  /-- The value of an environment variable, if it is set. -/
  environment : String → m (Option String)
  /-- All of standard input. -/
  readInput : m (Except FileProblem String)
  /-- The text of a file. -/
  readFile : String → m (Except FileProblem String)
  /-- Writes the text of a file: the path, then the text. -/
  writeFile : String → String → m (Except FileProblem Unit)
  /-- Writes to standard output. -/
  print : String → m Unit
  /-- Writes to the standard error output. -/
  report : String → m Unit

/-- Why a run fails. -/
inductive Failure where
  /-- Standard input could not be read. -/
  | input (problem : FileProblem)
  /-- The file of the model could not be read. -/
  | inputFile (path : String) (problem : FileProblem)
  /-- The file for the diagram could not be written. -/
  | outputFile (path : String) (problem : FileProblem)
  /-- The model has an error. -/
  | model (error : Error)
deriving DecidableEq, Repr

/-- Why a run fails, in words. -/
def Failure.message : Failure → String
  | input problem => problem.message
  | inputFile path problem => "Failed to read input file '" ++ path ++ "': " ++ problem.message
  | outputFile path problem =>
      "Failed to write output file '" ++ path ++ "': " ++ problem.message
  | model error => error.message

section Run

variable {m : Type → Type} [Monad m]

/-- Reads the input of an action. -/
def readInput (around : Surroundings m) (action : Action) : m (Except Failure String) := do
  match action.inputPath? with
  | some path => return (← around.readFile path).mapError (Failure.inputFile path)
  | none => return (← around.readInput).mapError Failure.input

/-- Puts out an answer. One with an error is never written to a file. -/
def deliver (around : Surroundings m) (action : Action) (answer : Answer) :
    m (Except Failure Unit) := do
  match answer.error, action.outputPath? with
  | some error, _ => do
      around.print answer.text
      return .error (.model error)
  | none, some path =>
      return (← around.writeFile path answer.text).mapError (Failure.outputFile path)
  | none, none => do
      around.print answer.text
      return .ok ()

/-- Does what the arguments ask for. -/
def perform (around : Surroundings m) (invocation : Invocation) : m (Except Failure Unit) := do
  match ← readInput around invocation.action with
  | .error failure => return .error failure
  | .ok content => do
      if invocation.common.verbose then
        around.report ("Read " ++ toString content.utf8ByteSize ++ " bytes of input\n")
      deliver around invocation.action (invocation.action.answer content)

/-- The variable that chooses the form of the log, before the switch for it. -/
def formatVariable : String := "CLASSPLOT_LOG_FORMAT"

/-- Checks the form of the log. One that is not known does not end the run. -/
def startLog (around : Surroundings m) (common : Common) : m Unit := do
  let word := (← around.environment formatVariable).getD common.logFormat.name
  match LogFormat.ofWord? word with
  | some _ => return ()
  | none =>
      around.report
        ("Warning: Failed to initialize logging: " ++ LogFormat.startMessage word ++ "\n")

/-- Runs the program with the given arguments and returns its exit code: 0 if
all went well, 1 if the run failed, 2 if the arguments were rejected. -/
def run (around : Surroundings m) (arguments : List String) : m Nat := do
  match Invocation.ofArguments arguments with
  | .error .version => do
      around.print (programName ++ " " ++ version ++ "\n")
      return 0
  | .error .help => do
      around.print usage
      return 0
  | .error .rejected => do
      around.report usage
      return 2
  | .ok invocation => do
      startLog around invocation.common
      if invocation.common.verbose then
        around.report ("Classplot v" ++ version ++ "\n")
      match ← perform around invocation with
      | .ok () => return 0
      | .error failure => do
          around.report ("Error: " ++ failure.message ++ "\n")
          return 1

end Run

end ClassDiagram.Command
