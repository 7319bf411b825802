/-!
# Switches

The arguments of a command start with switches. A switch has a long name,
written behind two dashes, and perhaps a letter, written behind one. Letters
can be joined behind one dash.

A switch may take a value. It follows an equals sign behind the name, or is
the next argument; behind a letter it may also follow at once. An argument
that itself looks like a switch is never a value, but a single dash is one.

Every switch may be given once. Arguments are read from left to right, and the
first that is rejected, or that asks for something else to be done instead,
decides.
-/

namespace ClassDiagram.Command

/-- Why the arguments do not lead to a command. -/
inductive Halt where
  | rejected
  | help
  | version
deriving DecidableEq, Repr

/-- What a switch does to settings of type `σ`. -/
inductive Effect (σ : Type) where
  /-- Changes the settings. -/
  | flag (set : σ → σ)
  /-- Changes the settings by a value, which may be rejected. -/
  | value (set : String → σ → Option σ)
  /-- Ends the reading of arguments. -/
  | halt (reason : Halt)

/-- A switch for settings of type `σ`. -/
structure Switch (σ : Type) where
  /-- The long name. -/
  name : String
  /-- The letter, if there is one. -/
  letter : Option Char := none
  /-- What it does. -/
  effect : Effect σ

/-- The settings so far, and the names of the switches that were given. -/
structure Given (σ : Type) where
  /-- The settings. -/
  settings : σ
  /-- The names. -/
  names : List String := []

/-- A switch whose value has not been read. -/
structure Pending (σ : Type) where
  /-- The name of the switch. -/
  name : String
  /-- What the value does. -/
  set : String → σ → Option σ

namespace Switch

variable {σ : Type}

/-- Gives the switch of the name, which must not have been given before. -/
def give (given : Given σ) (name : String) (set : σ → Option σ) : Except Halt (Given σ) :=
  if name ∈ given.names then .error .rejected
  else
    match set given.settings with
    | none => .error .rejected
    | some settings => .ok ⟨settings, name :: given.names⟩

/-- Reads a long name and the value attached to it. -/
def readName (switches : List (Switch σ)) (given : Given σ) (name : String)
    (attached : Option String) : Except Halt (Given σ × Option (Pending σ)) :=
  match switches.find? (·.name = name) with
  | none => .error .rejected
  | some switch =>
      match switch.effect, attached with
      | .flag set, none => (give given name fun settings => some (set settings)).map (·, none)
      | .halt reason, none => .error reason
      | .value set, none => .ok (given, some ⟨name, set⟩)
      | .value set, some value => (give given name (set value)).map (·, none)
      | _, some _ => .error .rejected

/-- Reads letters, up to one that takes what follows it as its value. -/
def readLetters (switches : List (Switch σ)) (given : Given σ) :
    List Char → Except Halt (Given σ × Option (Pending σ))
  | [] => .ok (given, none)
  | letter :: letters =>
      match switches.find? (·.letter = some letter) with
      | none => .error .rejected
      | some switch =>
          match switch.effect with
          | .flag set =>
              match give given switch.name fun settings => some (set settings) with
              | .error reason => .error reason
              | .ok next => readLetters switches next letters
          | .halt reason => .error reason
          | .value set =>
              match letters with
              | [] => .ok (given, some ⟨switch.name, set⟩)
              | '=' :: value => (give given switch.name (set (String.ofList value))).map (·, none)
              | value => (give given switch.name (set (String.ofList value))).map (·, none)

/-- Whether an argument is written like a switch. -/
def isWrittenLike : List Char → Bool
  | '-' :: _ :: _ => true
  | _ => false

/-- Reads an argument that is written like a switch. Anything else, and two
dashes alone, is left. -/
def readArgument (switches : List (Switch σ)) (given : Given σ) :
    List Char → Option (Except Halt (Given σ × Option (Pending σ)))
  | ['-', '-'] => none
  | '-' :: '-' :: long =>
      let name := String.ofList (long.takeWhile (· ≠ '='))
      match long.dropWhile (· ≠ '=') with
      | [] => some (readName switches given name none)
      | _ :: value => some (readName switches given name (some (String.ofList value)))
  | '-' :: letter :: letters => some (readLetters switches given (letter :: letters))
  | _ => none

/-- Reads switches, and returns the settings and the arguments that are left. -/
def read (switches : List (Switch σ)) (given : Given σ) :
    List String → Except Halt (σ × List String)
  | [] => .ok (given.settings, [])
  | argument :: arguments =>
      match readArgument switches given argument.toList with
      | none => .ok (given.settings, argument :: arguments)
      | some (.error reason) => .error reason
      | some (.ok (next, none)) => read switches next arguments
      | some (.ok (next, some pending)) =>
          match arguments with
          | [] => .error .rejected
          | value :: rest =>
              if isWrittenLike value.toList then .error .rejected
              else
                match give next pending.name (pending.set value) with
                | .error reason => .error reason
                | .ok final => read switches final rest

end Switch

end ClassDiagram.Command
