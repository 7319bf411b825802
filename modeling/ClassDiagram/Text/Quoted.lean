import ClassDiagram.Text.Printable

/-!
# Quoted text in messages

A message that reports a piece of input shows it between double quotes. The
quotes and backslashes inside it are marked by a backslash, four control
characters have short marks, and any other character that does not show as a
mark of its own is written by its code point in hexadecimal.
-/

namespace ClassDiagram.Text

/-- The code point in hexadecimal, without leading zeros. -/
def hexOfChar (c : Char) : List Char := Nat.toDigits 16 c.toNat

/-- How one character is written inside the quotes. -/
def quoteChar (c : Char) : List Char :=
  if c = '\x00' then ['\\', '0']
  else if c = '\t' then ['\\', 't']
  else if c = '\r' then ['\\', 'r']
  else if c = '\n' then ['\\', 'n']
  else if c = '\\' then ['\\', '\\']
  else if c = '"' then ['\\', '"']
  else if isPrintable c then [c]
  else ['\\', 'u', '\x7b'] ++ hexOfChar c ++ ['\x7d']

/-- The text between double quotes, every character shown. -/
def quoted (text : String) : String :=
  String.ofList ('"' :: text.toList.flatMap quoteChar ++ ['"'])

end ClassDiagram.Text
