import ClassDiagram.Json.Printer
import ClassDiagram.Json.Shape

/-!
# Texts are read back

A piece of a JSON text is read as a value if a reader takes just the piece and
returns the value, whatever stands behind (`Reader.Reads`). Pieces that stand one
behind the other are then read one after the other, and nothing has to be known about
where they end.

For a text between quotes this is so because no character is written with a bare
quote: each is written in one of three ways, and from each the reader is back between
two characters with that character read (`textBody_escapeChar`). The escapes of the
control characters are the only ones with digits in them, and their code units are too
small to be halves of a pair.
-/

namespace ClassDiagram.Json

/-! ## Pieces of a text -/

namespace Reader

variable {α β : Type}

/-- The reader takes the piece and nothing else, and returns the value. -/
def Reads (reader : Reader α) (piece : List Char) (value : α) : Prop :=
  ∀ rest, reader.run (piece ++ rest) = .ok (value, rest)

theorem Reads.bind {first : Reader α} {next : α → Reader β} {piece more : List Char} {a : α} {b : β}
    (hfirst : first.Reads piece a) (hnext : (next a).Reads more b) :
    (first >>= next).Reads (piece ++ more) b := by
  intro rest
  rw [run_bind, List.append_assoc, hfirst (more ++ rest)]
  exact hnext rest

theorem reads_pure (value : α) : (pure value : Reader α).Reads [] value := fun _ => rfl

theorem Reads.bind_nil {first : Reader α} {next : α → Reader β} {piece : List Char} {a : α} {b : β}
    (hfirst : first.Reads piece a) (hnext : (next a).Reads [] b) :
    (first >>= next).Reads piece b := by
  have hbind := hfirst.bind hnext
  rwa [List.append_nil] at hbind

theorem Reads.map {reader : Reader α} {piece : List Char} {a : α} (h : reader.Reads piece a)
    (f : α → β) : (reader >>= fun a => pure (f a)).Reads piece (f a) :=
  h.bind_nil (reads_pure (f a))

theorem dropBlanks_cons {c : Char} (h : Text.isLayout c = false) (cs : List Char) :
    dropBlanks (c :: cs) = c :: cs := List.dropWhile_cons_of_neg (by simp [h])

/-- A mark that is not blank is shown at once. -/
theorem Reads.peek {next : Option Char → Reader α} {c : Char} {cs : List Char} {a : α}
    (hc : Text.isLayout c = false) (hnext : (next (some c)).Reads (c :: cs) a) :
    (peek >>= next).Reads (c :: cs) a := by
  intro rest
  have hpeek : Reader.peek.run (c :: (cs ++ rest)) = .ok (some c, c :: (cs ++ rest)) := by
    change Except.ok ((dropBlanks _).head?, dropBlanks _) = _
    rw [dropBlanks_cons hc]
    rfl
  rw [List.cons_append, run_bind, hpeek]
  exact hnext rest

theorem Reads.advance {reader : Reader α} {cs : List Char} {a : α} (h : reader.Reads cs a)
    (c : Char) : (advance >>= fun _ => reader).Reads (c :: cs) a := h

theorem reads_colon : colon.Reads [':'] () := fun _ => rfl

end Reader

/-! ## Characters -/

theorem textBody_goesOn {strict : Bool} {stance next : Stance} {completed : Option Char} {c : Char}
    {cs : List Char} (h : stance.step strict c cs = .ok (.goesOn next completed)) (done : List Char) :
    textBody strict stance done (c :: cs) =
      textBody strict next (completed.toList ++ done) cs := by
  rw [textBody, h]

theorem hexValue?_hexDigit : ∀ n < 16, hexValue? (hexDigit n) = some n := by decide

/-- A code unit below the space is a character of its own. -/
theorem finishUnit_of_lt {n : Nat} (h : n < 0x20) :
    finishUnit n none = .ok (.goesOn .between (some (Char.ofNat n))) := by
  have htrailing : isTrailingSurrogate n = false := by
    simp only [isTrailingSurrogate, Bool.and_eq_false_iff, decide_eq_false_iff_not]
    omega
  have hleading : isLeadingSurrogate n = false := by
    simp only [isLeadingSurrogate, Bool.and_eq_false_iff, decide_eq_false_iff_not]
    omega
  simp [finishUnit, htrailing, hleading]

theorem textBody_unit {n : Nat} (h : n < 0x20) (done rest : List Char) :
    textBody true .between done
        ('\\' :: 'u' :: '0' :: '0' :: hexDigit (n / 16) :: hexDigit (n % 16) :: rest) =
      textBody true .between (Char.ofNat n :: done) rest := by
  have hopen : textBody true .between done
      ('\\' :: 'u' :: '0' :: '0' :: hexDigit (n / 16) :: hexDigit (n % 16) :: rest) =
        textBody true (.unit 2 0 none) done (hexDigit (n / 16) :: hexDigit (n % 16) :: rest) := rfl
  have hhigh : (Stance.unit 2 0 none).step true (hexDigit (n / 16)) (hexDigit (n % 16) :: rest) =
      .ok (.goesOn (.unit 1 (n / 16) none) none) := by
    simp [Stance.step, hexValue?_hexDigit (n / 16) (by omega)]
  have hlow : (Stance.unit 1 (n / 16) none).step true (hexDigit (n % 16)) rest =
      .ok (.goesOn .between (some (Char.ofNat n))) := by
    simp [Stance.step, hexValue?_hexDigit (n % 16) (by omega), Nat.div_add_mod, finishUnit_of_lt h]
  rw [hopen, textBody_goesOn hhigh, textBody_goesOn hlow]
  rfl

/-- However a character is written, it is read, and the reader is between two
characters again. -/
theorem textBody_escapeChar (c : Char) (done rest : List Char) :
    textBody true .between done (escapeChar c ++ rest) = textBody true .between (c :: done) rest := by
  by_cases hletter : c ∈ ['"', '\\', '\x08', '\x0c', '\n', '\r', '\t']
  · simp only [List.mem_cons, List.not_mem_nil, or_false] at hletter
    rcases hletter with rfl | rfl | rfl | rfl | rfl | rfl | rfl <;> rfl
  simp only [List.mem_cons, List.not_mem_nil, or_false, not_or] at hletter
  obtain ⟨hquote, hbackslash, hb, hf, hn, hr, ht⟩ := hletter
  rw [escapeChar, if_neg hquote, if_neg hbackslash, if_neg hb, if_neg hf, if_neg hn, if_neg hr,
    if_neg ht]
  by_cases hcontrol : c.toNat < 0x20
  · have hunit := textBody_unit hcontrol done rest
    rw [Char.ofNat_toNat] at hunit
    rwa [if_pos hcontrol]
  · rw [if_neg hcontrol]
    have hplain : Stance.between.step true c rest = .ok (.goesOn .between (some c)) := by
      rw [Stance.step, if_neg hquote, if_neg hbackslash, if_neg hcontrol]
    exact textBody_goesOn hplain done

theorem textBody_escape (cs done rest : List Char) :
    textBody true .between done (escape cs ++ rest) =
      textBody true .between (cs.reverse ++ done) rest := by
  induction cs generalizing done with
  | nil => rfl
  | cons c cs ih =>
      rw [escape, List.flatMap_cons, List.append_assoc, textBody_escapeChar, ← escape, ih,
        List.reverse_cons, List.append_assoc]
      rfl

namespace Reader

/-! ## Texts -/

theorem reads_textRest (value : String) : textRest.Reads (escape value.toList ++ ['"']) value := by
  intro rest
  have hbody : textBody true .between [] ((escape value.toList ++ ['"']) ++ rest) =
      .ok (value.toList.reverse, rest) := by
    rw [List.append_assoc, textBody_escape, List.append_nil]
    rfl
  simp only [textRest, hbody, List.reverse_reverse, String.ofList_toList]

theorem reads_name (value : String) : name.Reads (textChars value) value := reads_textRest value

theorem reads_text (value : String) : text.Reads (textChars value) value := reads_textRest value

/-- Null is read as an absent text, and nothing else is. -/
theorem reads_optional_text (value : Option String) :
    (optional text).Reads (compactChars (ofText? value)) value := by
  cases value with
  | none => exact fun _ => rfl
  | some value => exact (reads_text value).map some

end Reader

end ClassDiagram.Json
