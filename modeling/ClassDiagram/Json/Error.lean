import ClassDiagram.Number.Text
import ClassDiagram.Text.Quoted

/-!
# What can be wrong with a JSON text

Two kinds of things can be wrong. A text can fail to be JSON: a `Fault` says
where the grammar broke, and some faults mean that the text simply ended too
early. Or the text is JSON so far and describes something of another shape
than was asked for: that is a `Mismatch`.

The text is read from left to right and the first problem in that order is the
one reported, whichever kind it is. A problem is reported with the line and
the column, in bytes, up to which the text was looked at.
-/

namespace ClassDiagram.Json

/-- Where the grammar broke. -/
inductive Fault where
  | endInValue
  | endInArray
  | endInObject
  | endInText
  | expectedValue
  | expectedWord
  | expectedColon
  | expectedItemOrEnd
  | expectedMemberOrEnd
  | nameNotText
  | trailingComma
  | trailingCharacters
  | invalidNumber
  | numberOutOfRange
  | invalidEscape
  | controlCharacter
  | loneSurrogate
  | unfinishedSurrogatePair
  | nestingTooDeep
deriving DecidableEq, Repr

namespace Fault

/-- Whether the fault is that the text ended. -/
def isEnd : Fault → Bool
  | endInValue | endInArray | endInObject | endInText => true
  | _ => false

/-- The fault in words. -/
def message : Fault → String
  | endInValue => "EOF while parsing a value"
  | endInArray => "EOF while parsing a list"
  | endInObject => "EOF while parsing an object"
  | endInText => "EOF while parsing a string"
  | expectedValue => "expected value"
  | expectedWord => "expected ident"
  | expectedColon => "expected `:`"
  | expectedItemOrEnd => "expected `,` or `]`"
  | expectedMemberOrEnd => "expected `,` or `\x7d`"
  | nameNotText => "key must be a string"
  | trailingComma => "trailing comma"
  | trailingCharacters => "trailing characters"
  | invalidNumber => "invalid number"
  | numberOutOfRange => "number out of range"
  | invalidEscape => "invalid escape"
  | controlCharacter => "control character (\\u0000-\\u001F) found while parsing a string"
  | loneSurrogate => "lone leading surrogate in hex escape"
  | unfinishedSurrogatePair => "unexpected end of hex escape"
  | nestingTooDeep => "recursion limit exceeded"

end Fault

/-- What stood where something else was asked for. -/
inductive Found where
  | null
  | bool (value : Bool)
  | integer (value : Int)
  | float (value : Number.Binary64)
  | text (value : String)
  | array
  | object
deriving DecidableEq, Repr

namespace Found

/-- What stood there, in words. -/
def message : Found → String
  | null => "null"
  | bool true => "boolean `true`"
  | bool false => "boolean `false`"
  | integer value => "integer `" ++ String.ofList (Number.integerChars value) ++ "`"
  | float value => "floating point `" ++ String.ofList value.toChars ++ "`"
  | text value => "string " ++ Text.quoted value
  | array => "sequence"
  | object => "map"

end Found

/-- How the text differs from what was asked for. -/
inductive Mismatch where
  | wrongType (found : Found) (expected : String)
  | wrongLength (length : Nat) (expected : String)
  | missingField (name : String)
  | duplicateField (name : String)
  | unknownVariant (name : String) (known : List String)
  | noAlternative (type : String)
deriving DecidableEq, Repr

namespace Mismatch

/-- The difference in words. -/
def message : Mismatch → String
  | wrongType found expected => "invalid type: " ++ found.message ++ ", expected " ++ expected
  | wrongLength length expected =>
      "invalid length " ++ toString length ++ ", expected " ++ expected
  | missingField name => "missing field `" ++ name ++ "`"
  | duplicateField name => "duplicate field `" ++ name ++ "`"
  | unknownVariant name known =>
      "unknown variant `" ++ name ++ "`, expected one of " ++
        ", ".intercalate (known.map fun k => "`" ++ k ++ "`")
  | noAlternative type => "data did not match any variant of untagged enum " ++ type

end Mismatch

/-- What is wrong with a text. -/
inductive Problem where
  | fault (fault : Fault)
  | mismatch (mismatch : Mismatch)
deriving DecidableEq, Repr

namespace Problem

/-- The problem in words. -/
def message : Problem → String
  | fault f => f.message
  | mismatch m => m.message

end Problem

/-- A place in a text: the line, counted from one, and the bytes of that line
up to the place. -/
structure Position where
  /-- The line. -/
  line : Nat
  /-- The bytes of the line before the place. -/
  column : Nat
deriving DecidableEq, Repr

namespace Position

/-- The place behind the given text. -/
def after (cs : List Char) : Position :=
  cs.foldl
    (fun place c =>
      if c = '\n' then ⟨place.line + 1, 0⟩ else ⟨place.line, place.column + c.utf8Size⟩)
    ⟨1, 0⟩

end Position

/-- A problem and the place up to which the text was looked at. -/
structure Error where
  /-- The problem. -/
  problem : Problem
  /-- The place. -/
  place : Position
deriving DecidableEq, Repr

namespace Error

/-- The problem and its place in words. -/
def message (e : Error) : String :=
  e.problem.message ++ " at line " ++ toString e.place.line ++ " column " ++
    toString e.place.column

end Error

end ClassDiagram.Json
