import ClassDiagram.Command.Answer
import ClassDiagram.Command.Arguments
import ClassDiagram.Command.FileTree
import ClassDiagram.Command.Log
import ClassDiagram.Command.MemoryRun
import ClassDiagram.Command.Run
import ClassDiagram.Command.Summary
import ClassDiagram.Command.Switch
import ClassDiagram.Diagram
import ClassDiagram.Error
import ClassDiagram.Graph.Basic
import ClassDiagram.Graph.Json
import ClassDiagram.Json.Basic
import ClassDiagram.Json.Decode
import ClassDiagram.Json.Error
import ClassDiagram.Json.Numeral
import ClassDiagram.Json.Parser
import ClassDiagram.Json.Printer
import ClassDiagram.Json.Reader
import ClassDiagram.Json.Shape
import ClassDiagram.Json.Text
import ClassDiagram.Main
import ClassDiagram.Member
import ClassDiagram.Model.Basic
import ClassDiagram.Model.Link
import ClassDiagram.Model.Reader
import ClassDiagram.Name
import ClassDiagram.Number.Binary64
import ClassDiagram.Number.Shortest
import ClassDiagram.Number.Text
import ClassDiagram.Proofs.Binding
import ClassDiagram.Proofs.Compile
import ClassDiagram.Proofs.Declared
import ClassDiagram.Proofs.Embedding
import ClassDiagram.Proofs.FirstTrail
import ClassDiagram.Proofs.Frame
import ClassDiagram.Proofs.HiddenRoot
import ClassDiagram.Proofs.Legible
import ClassDiagram.Proofs.Linking
import ClassDiagram.Proofs.Listing
import ClassDiagram.Proofs.Mirror
import ClassDiagram.Proofs.Naming
import ClassDiagram.Proofs.Nearest
import ClassDiagram.Proofs.Numbering
import ClassDiagram.Proofs.Ownership
import ClassDiagram.Proofs.Parameters
import ClassDiagram.Proofs.ParentsFirst
import ClassDiagram.Proofs.ParentsPresent
import ClassDiagram.Proofs.Path
import ClassDiagram.Proofs.Reachable
import ClassDiagram.Proofs.Reading
import ClassDiagram.Proofs.Refusal
import ClassDiagram.Proofs.Rendered
import ClassDiagram.Proofs.Represented
import ClassDiagram.Proofs.Reshaped
import ClassDiagram.Proofs.ReturnedLiteral
import ClassDiagram.Proofs.Separated
import ClassDiagram.Proofs.Trail
import ClassDiagram.Realm
import ClassDiagram.Relation
import ClassDiagram.Scope.Resolver
import ClassDiagram.Scope.Search
import ClassDiagram.Session
import ClassDiagram.Source.Literal
import ClassDiagram.Source.Normal
import ClassDiagram.Source.Reference
import ClassDiagram.Source.Signature
import ClassDiagram.Surface
import ClassDiagram.Table
import ClassDiagram.Text.Blank
import ClassDiagram.Text.CodeRange
import ClassDiagram.Text.Identifier
import ClassDiagram.Text.Letter
import ClassDiagram.Text.Occurrence
import ClassDiagram.Text.Printable
import ClassDiagram.Text.Quoted
import ClassDiagram.Value
import ClassDiagram.Proofs.Exposure
import ClassDiagram.Proofs.FirstFault
import ClassDiagram.Proofs.Sound
import ClassDiagram.Proofs.Translation
import ClassDiagram.Proofs.LateScope
import ClassDiagram.Proofs.Unscoped
import ClassDiagram.Proofs.MemberReference
import ClassDiagram.Proofs.NormalForm
import ClassDiagram.Proofs.PrototypeEntry
import ClassDiagram.Proofs.Escaping
import ClassDiagram.Proofs.RelationText
import ClassDiagram.Proofs.Brackets
import ClassDiagram.Proofs.ValueText
import ClassDiagram.Proofs.RelationLine
import ClassDiagram.Proofs.Nesting
import ClassDiagram.Proofs.GraphText
