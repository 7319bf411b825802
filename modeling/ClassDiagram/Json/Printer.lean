import ClassDiagram.Json.Basic
import ClassDiagram.Number.Text

/-!
# Writing JSON

`compact` writes a value without any blanks, `pretty` with one item or member
to a line and two spaces for each level. Inside a text the quote, the
backslash and the characters below the space are escaped, five of them by a
letter of their own and the rest by their code point; every other character
stands for itself.
-/

namespace ClassDiagram.Json

/-- The hexadecimal digit of a number below sixteen, in lower case. -/
def hexDigit (n : Nat) : Char := Nat.digitChar n

/-- How one character is written inside a text. -/
def escapeChar (c : Char) : List Char :=
  if c = '"' then ['\\', '"']
  else if c = '\\' then ['\\', '\\']
  else if c = '\x08' then ['\\', 'b']
  else if c = '\x0c' then ['\\', 'f']
  else if c = '\n' then ['\\', 'n']
  else if c = '\r' then ['\\', 'r']
  else if c = '\t' then ['\\', 't']
  else if c.toNat < 0x20 then
    ['\\', 'u', '0', '0', hexDigit (c.toNat / 16), hexDigit (c.toNat % 16)]
  else [c]

/-- The characters of a text with what has to be escaped escaped. -/
def escape (cs : List Char) : List Char := cs.flatMap escapeChar

/-- A text between quotes. -/
def textChars (value : String) : List Char := '"' :: (escape value.toList ++ ['"'])

/-- The words for the two truth values. -/
def boolChars : Bool → List Char
  | true => ['t', 'r', 'u', 'e']
  | false => ['f', 'a', 'l', 's', 'e']

/-- The word for no value. -/
def nullChars : List Char := ['n', 'u', 'l', 'l']

mutual

/-- The value without blanks. -/
def compactChars : Json → List Char
  | null => nullChars
  | bool value => boolChars value
  | integer value => Number.integerChars value
  | float value => value.toChars
  | text value => textChars value
  | array items => '[' :: (compactItems items ++ [']'])
  | object members => '\x7b' :: (compactMembers members ++ ['\x7d'])

/-- The items with commas between them. -/
def compactItems : List Json → List Char
  | [] => []
  | [item] => compactChars item
  | item :: next :: rest => compactChars item ++ ',' :: compactItems (next :: rest)

/-- The members with commas between them. -/
def compactMembers : List (String × Json) → List Char
  | [] => []
  | [(name, value)] => textChars name ++ ':' :: compactChars value
  | (name, value) :: next :: rest =>
      textChars name ++ ':' :: compactChars value ++ ',' :: compactMembers (next :: rest)

end

/-- The value as text without blanks. -/
def compact (value : Json) : String := String.ofList (compactChars value)

/-- A new line, indented to the given level. -/
def newLine (level : Nat) : List Char := '\n' :: List.replicate (2 * level) ' '

mutual

/-- The value over several lines, with its opening mark at the given level. -/
def prettyChars (level : Nat) : Json → List Char
  | array [] => ['[', ']']
  | array (item :: rest) =>
      '[' :: (prettyItems (level + 1) (item :: rest) ++ newLine level ++ [']'])
  | object [] => ['\x7b', '\x7d']
  | object (member :: rest) =>
      '\x7b' :: (prettyMembers (level + 1) (member :: rest) ++ newLine level ++ ['\x7d'])
  | null => nullChars
  | bool value => boolChars value
  | integer value => Number.integerChars value
  | float value => value.toChars
  | text value => textChars value

/-- The items, each on a new line. -/
def prettyItems (level : Nat) : List Json → List Char
  | [] => []
  | [item] => newLine level ++ prettyChars level item
  | item :: next :: rest =>
      newLine level ++ prettyChars level item ++ ',' :: prettyItems level (next :: rest)

/-- The members, each on a new line. -/
def prettyMembers (level : Nat) : List (String × Json) → List Char
  | [] => []
  | [(name, value)] => newLine level ++ textChars name ++ [':', ' '] ++ prettyChars level value
  | (name, value) :: next :: rest =>
      newLine level ++ textChars name ++ [':', ' '] ++ prettyChars level value ++
        ',' :: prettyMembers level (next :: rest)

end

/-- The value as text over several lines. -/
def pretty (value : Json) : String := String.ofList (prettyChars 0 value)

/-- The literal of a scalar: a text as it is, any other value in canonical form
without blanks. -/
def literal : Json → String
  | text value => value
  | other => compact (canonical other)

end ClassDiagram.Json
