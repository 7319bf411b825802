import ClassDiagram.Command.Arguments
import ClassDiagram.Command.Summary
import ClassDiagram.Model.Link

/-!
# Answers

What a command answers depends on the text of the model and on nothing else.
An answer is a text to be put out; a model with an error may have one too.
-/

namespace ClassDiagram.Command

/-- What a command answers to the text of a model: a text to be put out, and
the error of the model if it has one. -/
structure Answer where
  /-- The text. -/
  text : String
  /-- The error. -/
  error : Option Error := none

/-- The summaries of the nodes that the model in the text compiles to. -/
def summaries (content : String) : Except Error (List Summary) :=
  (compileText content).map fun graph => graph.nodes.map Summary.ofNode

/-- The number of nodes, in words. -/
def nodeCount (count : Nat) : String := toString count ++ " node(s)"

/-- The listing of summaries, a line for each and the total. -/
def listing (nodes : List Summary) : String :=
  String.join (nodes.map fun node => node.line ++ "\n") ++
    "\nTotal: " ++ nodeCount nodes.length ++ "\n"

namespace Action

/-- The path of the model as it is given. -/
def input? : Action → Option String
  | render input _ _ _ => input
  | inspect input _ => input
  | validate input => input

/-- The path of the answer as it is given. -/
def output? : Action → Option String
  | render _ output _ _ => output
  | inspect _ _ => none
  | validate _ => none

/-- The path of the model, unless it is read from standard input. -/
def inputPath? (action : Action) : Option String := action.input?.filter (· ≠ "-")

/-- The path of the answer, unless it goes to standard output. -/
def outputPath? (action : Action) : Option String := action.output?.filter (· ≠ "-")

/-- The answer to the text of a model. -/
def answer (content : String) : Action → Answer
  | render _ _ notes enclose =>
      match renderText content notes enclose with
      | .ok diagram => ⟨diagram, none⟩
      | .error error => ⟨"", some error⟩
  | inspect _ json =>
      match summaries content with
      | .ok nodes =>
          if json then ⟨(Json.array (nodes.map Summary.toJson)).pretty ++ "\n", none⟩
          else ⟨listing nodes, none⟩
      | .error error => ⟨"", some error⟩
  | validate _ =>
      match summaries content with
      | .ok nodes => ⟨"✓ Valid model (" ++ nodeCount nodes.length ++ ")\n", none⟩
      | .error error => ⟨"✗ Invalid model: " ++ error.message ++ "\n", some error⟩

end Action

end ClassDiagram.Command
