import ClassDiagram.Command.Run

/-!
# The program

The outermost layer: the surroundings of a run are the real ones.
-/

namespace ClassDiagram.Program

open Command

/-- The problem that the operating system reports. -/
def problemOf : IO.Error → FileProblem
  | .alreadyExists _ number reason | .noFileOrDirectory _ number reason
  | .interrupted _ number reason | .invalidArgument _ number reason
  | .permissionDenied _ number reason | .resourceExhausted _ number reason
  | .inappropriateType _ number reason | .noSuchThing _ number reason
  | .otherError number reason | .resourceBusy number reason
  | .resourceVanished number reason | .unsupportedOperation number reason
  | .hardwareFault number reason | .unsatisfiedConstraints number reason
  | .illegalOperation number reason | .protocolError number reason
  | .timeExpired number reason => .refused reason number.toNat
  | .unexpectedEof => .refused "Unexpected end of file" 0
  | .userError reason => .refused reason 0

/-- The text of which the bytes are. -/
def textOf (bytes : ByteArray) : Except FileProblem String :=
  match String.fromUTF8? bytes with
  | some text => .ok text
  | none => .error .notText

/-- The surroundings of a real run. -/
def surroundings : Surroundings IO where
  environment name := IO.getEnv name
  readInput := do
    try return textOf (← (← IO.getStdin).readBinToEnd)
    catch problem => return .error (problemOf problem)
  readFile path := do
    try return textOf (← (← IO.FS.Handle.mk path .read).readBinToEnd)
    catch problem => return .error (problemOf problem)
  writeFile path text := do
    try
      let file ← IO.FS.Handle.mk path .write
      file.putStr text
      file.flush
      return .ok ()
    catch problem => return .error (problemOf problem)
  print text := do
    let stdout ← IO.getStdout
    stdout.putStr text
    stdout.flush
  report text := do
    let stderr ← IO.getStderr
    stderr.putStr text
    stderr.flush

end ClassDiagram.Program

/-- Runs the program. -/
def main (arguments : List String) : IO UInt32 := do
  return (← ClassDiagram.Command.run ClassDiagram.Program.surroundings arguments).toUInt32
