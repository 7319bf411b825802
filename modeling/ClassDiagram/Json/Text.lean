import ClassDiagram.Json.Reader
import ClassDiagram.Text.Occurrence

/-!
# Reading a text between quotes

The characters behind the opening quote are taken one by one, and `Stance`
says what the ones before have prepared: nothing, an escape, some of the four
hexadecimal digits of a code unit, or half of a surrogate pair. So the reader
goes over the text once and every character has one meaning.

A text that is only skipped is read more laxly: its code units need not form
characters, and what they would form is not kept.
-/

namespace ClassDiagram.Json

/-- What the characters before have prepared. -/
inductive Stance where
  /-- Between two characters. -/
  | between
  /-- After a backslash. -/
  | escaped
  /-- Inside a code unit: digits still missing, the value so far, and the
  leading surrogate that the unit has to complete. -/
  | unit (missing : Nat) (value : Nat) (leading : Option Nat)
  /-- After a leading surrogate. -/
  | half (leading : Nat)
  /-- After a leading surrogate and a backslash. -/
  | halfEscaped (leading : Nat)
deriving DecidableEq, Repr

/-- The value of a hexadecimal digit in either case. -/
def hexValue? (c : Char) : Option Nat :=
  if '0' ≤ c ∧ c ≤ '9' then some (c.toNat - '0'.toNat)
  else if 'a' ≤ c ∧ c ≤ 'f' then some (c.toNat - 'a'.toNat + 10)
  else if 'A' ≤ c ∧ c ≤ 'F' then some (c.toNat - 'A'.toNat + 10)
  else none

/-- Whether the code unit is the first half of a pair. -/
def isLeadingSurrogate (n : Nat) : Bool := 0xD800 ≤ n && n ≤ 0xDBFF

/-- Whether the code unit is the second half of a pair. -/
def isTrailingSurrogate (n : Nat) : Bool := 0xDC00 ≤ n && n ≤ 0xDFFF

/-- The character of a surrogate pair. -/
def ofSurrogates (leading trailing : Nat) : Char :=
  Char.ofNat ((leading - 0xD800) * 0x400 + (trailing - 0xDC00) + 0x10000)

/-- The character that a letter behind a backslash stands for. -/
def escaped? (c : Char) : Option Char :=
  if c = '"' ∨ c = '\\' ∨ c = '/' then some c
  else if c = 'b' then some '\x08'
  else if c = 'f' then some '\x0c'
  else if c = 'n' then some '\n'
  else if c = 'r' then some '\r'
  else if c = 't' then some '\t'
  else none

/-- What a character does: it closes the text, or it prepares something and
may complete a character. -/
inductive Effect where
  | closes
  | goesOn (stance : Stance) (completed : Option Char)
deriving DecidableEq, Repr

/-- What a complete code unit does. -/
def finishUnit (value : Nat) : (leading : Option Nat) → Except Fault Effect
  | some first =>
      if isTrailingSurrogate value then .ok (.goesOn .between (some (ofSurrogates first value)))
      else .error .loneSurrogate
  | none =>
      if isTrailingSurrogate value then .error .loneSurrogate
      else if isLeadingSurrogate value then .ok (.goesOn (.half value) none)
      else .ok (.goesOn .between (some (Char.ofNat value)))

/-- What the character `c` does where `more` follows it. With `strict` off,
code units need not form characters. -/
def Stance.step (strict : Bool) (c : Char) (more : List Char) : Stance → Except Fault Effect
  | between =>
      if c = '"' then .ok .closes
      else if c = '\\' then .ok (.goesOn escaped none)
      else if c.toNat < 0x20 then .error .controlCharacter
      else .ok (.goesOn between (some c))
  | escaped =>
      if c = 'u' then .ok (.goesOn (unit 4 0 none) none)
      else
        match escaped? c with
        | some character => .ok (.goesOn between (some character))
        | none => .error .invalidEscape
  | unit missing value leading =>
      match hexValue? c with
      | some digit =>
          if 1 < missing then .ok (.goesOn (unit (missing - 1) (16 * value + digit) leading) none)
          else if strict then finishUnit (16 * value + digit) leading
          else .ok (.goesOn between none)
      | none =>
          -- A unit takes four bytes; a text that does not have them has ended too early.
          if Text.byteLength (c :: more) < missing then .error .endInText
          else .error .invalidEscape
  | half leading =>
      if c = '\\' then .ok (.goesOn (halfEscaped leading) none)
      else .error .unfinishedSurrogatePair
  | halfEscaped leading =>
      if c = 'u' then .ok (.goesOn (unit 4 0 (some leading)) none)
      else .error .unfinishedSurrogatePair

/-- Reads the characters up to the closing quote and puts them in front of
`done`, which holds the earlier ones, last first. -/
def textBody (strict : Bool) (stance : Stance) (done : List Char) :
    List Char → Except Failure (List Char × List Char)
  | [] => .error ⟨.fault .endInText, []⟩
  | c :: cs =>
      match stance.step strict c cs with
      | .error f => .error ⟨.fault f, cs⟩
      | .ok .closes => .ok (done, cs)
      | .ok (.goesOn next completed) => textBody strict next (completed.toList ++ done) cs

theorem length_textBody_le {strict : Bool} {stance : Stance} {done out cs rest : List Char}
    (h : textBody strict stance done cs = .ok (out, rest)) : rest.length ≤ cs.length := by
  fun_induction textBody strict stance done cs with
  | case1 => cases h
  | case2 => cases h
  | case3 =>
      cases h
      exact Nat.le_succ _
  | case4 _ _ _ _ _ _ _ ih => exact Nat.le_succ_of_le (ih h)

namespace Reader

/-- Reads the characters of a text behind its opening quote, and the closing quote. -/
def textRest : Reader String where
  run cs :=
    match textBody true .between [] cs with
    | .error failure => .error failure
    | .ok (reversed, rest) => .ok (String.ofList reversed.reverse, rest)
  length_le {cs _ _} h := by
    cases hbody : textBody true .between [] cs with
    | error failure =>
        rw [hbody] at h
        cases h
    | ok pair =>
        rw [hbody] at h
        cases h
        exact length_textBody_le hbody

/-- Skips the characters of a text behind its opening quote, and the closing quote. -/
def skipTextRest : Reader Unit where
  run cs :=
    match textBody false .between [] cs with
    | .error failure => .error failure
    | .ok (_, rest) => .ok ((), rest)
  length_le {cs _ _} h := by
    cases hbody : textBody false .between [] cs with
    | error failure =>
        rw [hbody] at h
        cases h
    | ok pair =>
        rw [hbody] at h
        cases h
        exact length_textBody_le hbody

end Reader

end ClassDiagram.Json
