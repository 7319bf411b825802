import ClassDiagram.Command.Log
import ClassDiagram.Command.Switch

/-!
# Commands and their arguments

There are three commands: one renders a model, one lists what it compiles to,
and one checks that it does. The name of the command follows the switches that
all commands share, and the switches of the command follow its name.
-/

namespace ClassDiagram.Command

/-- What to do with a model. A path that is absent means standard input or
output, and so does a single dash. -/
inductive Action where
  /-- Writes the diagram. -/
  | render (input output : Option String) (notes enclose : Bool)
  /-- Lists the nodes. -/
  | inspect (input : Option String) (json : Bool)
  /-- Checks the model. -/
  | validate (input : Option String)
deriving DecidableEq, Repr

/-- The settings that all commands share. -/
structure Common where
  /-- Whether to report on the run. -/
  verbose : Bool := false
  /-- How much to log. -/
  logLevel : LogLevel := .warn
  /-- In what form to log. -/
  logFormat : LogFormat := .compact
deriving DecidableEq, Repr

/-- What the arguments ask for. -/
structure Invocation where
  /-- The shared settings. -/
  common : Common
  /-- What to do. -/
  action : Action
deriving DecidableEq, Repr

namespace Invocation

/-- The switch that asks for help. -/
def helpSwitch (σ : Type) : Switch σ := ⟨"help", some 'h', .halt .help⟩

/-- The switches that all commands share. -/
def commonSwitches : List (Switch Common) :=
  [⟨"verbose", some 'v', .flag fun common => { common with verbose := true }⟩,
    ⟨"log-level", none, .value fun word common =>
      (LogLevel.ofName? word).map fun level => { common with logLevel := level }⟩,
    ⟨"log-format", none, .value fun word common =>
      (LogFormat.ofName? word).map fun format => { common with logFormat := format }⟩,
    ⟨"version", some 'V', .halt .version⟩,
    helpSwitch Common]

/-- The switches of the commands. -/
structure Settings where
  /-- Where the model is read. -/
  input : Option String := none
  /-- Where the diagram is written. -/
  output : Option String := none
  /-- Whether to leave out the notes. -/
  noNotes : Bool := false
  /-- Whether to mark the start and the end of the diagram. -/
  enclose : Bool := false
  /-- Whether to write JSON. -/
  json : Bool := false

/-- A switch that takes a path, which must not be empty. -/
def pathSwitch (name : String) (letter : Char) (set : String → Settings → Settings) :
    Switch Settings :=
  ⟨name, some letter, .value fun path settings =>
    if path = "" then none else some (set path settings)⟩

/-- The switch for the path of the model. -/
def inputSwitch : Switch Settings :=
  pathSwitch "input" 'i' fun path settings => { settings with input := some path }

/-- The switches for rendering. -/
def renderSwitches : List (Switch Settings) :=
  [inputSwitch,
    pathSwitch "output" 'o' fun path settings => { settings with output := some path },
    ⟨"no-notes", none, .flag fun settings => { settings with noNotes := true }⟩,
    ⟨"enclose", none, .flag fun settings => { settings with enclose := true }⟩,
    helpSwitch Settings]

/-- The switches for listing. -/
def inspectSwitches : List (Switch Settings) :=
  [inputSwitch, ⟨"json", none, .flag fun settings => { settings with json := true }⟩,
    helpSwitch Settings]

/-- The switches for checking. -/
def validateSwitches : List (Switch Settings) := [inputSwitch, helpSwitch Settings]

/-- Reads the switches of a command; nothing may follow them but two dashes. -/
def readSettings (switches : List (Switch Settings)) (arguments : List String) :
    Except Halt Settings :=
  match Switch.read switches ⟨{}, []⟩ arguments with
  | .error reason => .error reason
  | .ok (settings, []) => .ok settings
  | .ok (settings, ["--"]) => .ok settings
  | .ok _ => .error .rejected

/-- The names of the commands. -/
def commandNames : List String := ["render", "inspect", "validate", "help"]

/-- Reads the name of a command and its switches. -/
def readAction : List String → Except Halt Action
  | "render" :: arguments =>
      (readSettings renderSwitches arguments).map fun settings =>
        .render settings.input settings.output (!settings.noNotes) settings.enclose
  | "inspect" :: arguments =>
      (readSettings inspectSwitches arguments).map fun settings =>
        .inspect settings.input settings.json
  | "validate" :: arguments =>
      (readSettings validateSwitches arguments).map fun settings => .validate settings.input
  | ["help"] => .error .help
  | ["help", name] => .error (if name ∈ commandNames then .help else .rejected)
  | _ => .error .rejected

/-- What the arguments ask for, or why they do not lead to a command. -/
def ofArguments (arguments : List String) : Except Halt Invocation :=
  match Switch.read commonSwitches ⟨{}, []⟩ arguments with
  | .error reason => .error reason
  | .ok (common, rest) => (readAction rest).map fun action => ⟨common, action⟩

end Invocation

end ClassDiagram.Command
