import ClassDiagram.Source.Normal
import ClassDiagram.Text.Occurrence

/-!
# Object literals that are returned

The public surface of a class can be read from the source text of its
constructor: from the first object literal that follows the word `return`. The
literal is flat. Between its braces stand entries with commas between them and
perhaps one more comma at the end; an entry is a key, a colon and a value, and
neither holds a brace or a comma. The text is read in normal form.

A key and a value are read as far as they go, and nothing that has been read is
given back. A comma is read too if no entry follows it, and then ends the list.
-/

namespace ClassDiagram.Source

/-- The word that a literal follows. -/
def returnWord : List Char := "return".toList

/-- Whether a value can hold the character. -/
def isValueChar (c : Char) : Bool := c ≠ '\x7b' && c ≠ '\x7d' && c ≠ ','

/-- Whether a key can hold the character. -/
def isKeyChar (c : Char) : Bool := isValueChar c && c ≠ ':'

/-- The longest run of such characters at the start of the text, if there is one
at all, and what follows it. -/
def run? (p : Char → Bool) (cs : List Char) : Option (List Char × List Char) :=
  if cs.takeWhile p = [] then none else some (cs.takeWhile p, cs.dropWhile p)

theorem length_of_run? {p : Char → Bool} {cs run rest : List Char}
    (h : run? p cs = some (run, rest)) : rest.length ≤ cs.length := by
  rw [run?] at h
  split at h
  · cases h
  · cases h
    exact (List.dropWhile_sublist p).length_le

/-- The entry at the start of the text, and what follows it. -/
def entryAt? (cs : List Char) : Option ((List Char × List Char) × List Char) :=
  match run? isKeyChar cs with
  | some (key, ':' :: behind) =>
      (run? isValueChar behind).map fun (value, rest) => ((key, value), rest)
  | _ => none

theorem length_of_entryAt? {cs : List Char} {entry : List Char × List Char} {rest : List Char}
    (h : entryAt? cs = some (entry, rest)) : rest.length < cs.length := by
  rw [entryAt?] at h
  split at h
  · next key behind hkey =>
      obtain ⟨⟨value, rest⟩, hvalue, ⟨⟩⟩ := Option.map_eq_some_iff.1 h
      have := length_of_run? hkey
      have := length_of_run? hvalue
      rw [List.length_cons] at *
      omega
  · cases h

/-- The entries that follow an entry, each behind a comma, and what follows them. -/
def moreEntries (cs : List Char) : List (List Char × List Char) × List Char :=
  match cs with
  | ',' :: behind =>
      match _hentry : entryAt? behind with
      | some (entry, rest) => (moreEntries rest).map (entry :: ·) id
      | none => ([], behind)
  | _ => ([], cs)
termination_by cs.length
decreasing_by
  have := length_of_entryAt? _hentry
  rw [List.length_cons]
  omega

/-- Reads the literal that is returned at the start of the text. -/
def literalAt? (cs : List Char) : Option (List (List Char × List Char)) :=
  match returnWord.isPrefixOf? cs with
  | none => none
  | some afterWord =>
      match afterWord.dropWhile Text.isGap with
      | '\x7b' :: inside =>
          match entryAt? inside with
          | none => none
          | some (entry, rest) =>
              let (entries, rest) := moreEntries rest
              match rest.dropWhile Text.isGap with
              | '\x7d' :: _ => some (entry :: entries)
              | _ => none
      | _ => none

/-- Whether the text starts and ends with the quote and is more than one quote. -/
def isQuotedBy (quote : Char) (cs : List Char) : Bool :=
  2 ≤ cs.length && cs.head? = some quote && cs.getLast? = some quote

/-- The text without its quotes, if it stands between two equal ones. -/
def unquoted (cs : List Char) : List Char :=
  if isQuotedBy '\x27' cs || isQuotedBy '"' cs then cs.tail.dropLast else cs

/-- The keys and values of the first literal that the source text returns, if
it returns one. -/
def returnedLiteral? (source : String) : Option (List (String × String)) :=
  ((Text.occurrences returnWord (normal source.toList)).findSome? literalAt?).map fun entries =>
    entries.map fun (key, value) =>
      (String.ofList (unquoted (Text.trim key)), String.ofList (Text.trim value))

end ClassDiagram.Source
