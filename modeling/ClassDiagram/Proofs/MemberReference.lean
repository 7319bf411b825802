import ClassDiagram.Proofs.Reading
import ClassDiagram.Source.Reference

/-!
# The references that are read are those of the grammar

`Refers` is the grammar: a reference is a sequence of words with gaps behind
them, `this`, a dot and a name, perhaps followed by the words of a call that
binds the member to its object. The reader takes each gap and the name as far as
they go, gives nothing back, and looks for the call only where the name has
ended. It reads what the grammar has and nothing else
(`memberReference?_eq_some_iff`).

Two things make that so. No word starts with a gap character, so a gap ends
where the next word starts (`afterTokens?_append`). And a name holds neither a
gap character nor a dot, so it ends in the same place whether a call follows it
or not, also if the name is itself `this` or `bind` (`head?_behind_name`).
-/

namespace ClassDiagram.Source

/-! ## The grammar -/

/-- The words one after the other, each with spaces and tabs behind it. -/
inductive Spaced : List (List Char) → List Char → Prop where
  | nil : Spaced [] []
  | cons {word gap cs : List Char} {words : List (List Char)} :
      (∀ c ∈ gap, c = ' ' ∨ c = '\t') → Spaced words cs →
        Spaced (word :: words) (word ++ (gap ++ cs))

/-- A letter, an underscore or a dollar sign, and then only these and numerals. -/
def IsName (cs : List Char) : Prop :=
  ∃ first rest, cs = first :: rest ∧
    (Text.isLetter first = true ∨ first = '_' ∨ first = '$') ∧
    ∀ c ∈ rest, Text.isLetterOrNumeral c = true ∨ c = '_' ∨ c = '$'

/-- The text refers to the member of the name. -/
def Refers (name cs : List Char) : Prop :=
  IsName name ∧
    (Spaced ["this".toList, ".".toList, name] cs ∨
      Spaced ["this".toList, ".".toList, name, ".".toList, "bind".toList, "(".toList,
        "this".toList, ")".toList] cs)

/-! ## Words and gaps -/

theorem spaced_append_iff {words others : List (List Char)} {cs : List Char} :
    Spaced (words ++ others) cs ↔
      ∃ front back, cs = front ++ back ∧ Spaced words front ∧ Spaced others back := by
  induction words generalizing cs with
  | nil =>
      constructor
      · exact fun h => ⟨[], cs, rfl, .nil, h⟩
      · rintro ⟨front, back, rfl, hfront, hback⟩
        cases hfront
        exact hback
  | cons word words ih =>
      constructor
      · intro h
        cases h with
        | cons hgap h =>
            obtain ⟨front, back, rfl, hfront, hback⟩ := ih.1 h
            exact ⟨_, back, by simp, .cons hgap hfront, hback⟩
      · rintro ⟨front, back, rfl, hfront, hback⟩
        cases hfront with
        | cons hgap hfront =>
            rw [List.append_assoc, List.append_assoc]
            exact .cons hgap (ih.2 ⟨_, back, rfl, hfront, hback⟩)

theorem spaced_nil_iff {cs : List Char} : Spaced [] cs ↔ cs = [] := by
  constructor
  · intro h
    cases h
    rfl
  · rintro rfl
    exact .nil

theorem spaced_cons_iff {word cs : List Char} {words : List (List Char)} :
    Spaced (word :: words) cs ↔ ∃ gap rest, cs = word ++ (gap ++ rest) ∧
      (∀ c ∈ gap, Text.isGap c = true) ∧ Spaced words rest := by
  have hisGap : ∀ c, Text.isGap c = true ↔ c = ' ' ∨ c = '\t' := by simp [Text.isGap]
  simp only [hisGap]
  constructor
  · intro h
    cases h with
    | cons hgap h => exact ⟨_, _, rfl, hgap, h⟩
  · rintro ⟨gap, rest, rfl, hgap, h⟩
    exact .cons hgap h

theorem spaced_singleton_iff {word cs : List Char} :
    Spaced [word] cs ↔ ∃ gap, cs = word ++ gap ∧ ∀ c ∈ gap, Text.isGap c = true := by
  simp [spaced_cons_iff, spaced_nil_iff]

/-- The text starts with a character that can stand in no gap. -/
def startsWord : List Char → Bool
  | [] => false
  | c :: _ => !Text.isGap c

theorem head?_of_startsWord {word rest : List Char} (h : startsWord word = true) :
    ∀ c ∈ (word ++ rest).head?, Text.isGap c = false := by
  cases word with
  | nil => cases h
  | cons first word => simpa [startsWord] using h

/-- No gap stands in front of words, or of what follows them if there are none. -/
theorem Spaced.head?_append {words : List (List Char)} {cs rest : List Char}
    (h : Spaced words cs) (hwords : ∀ word ∈ words, startsWord word = true)
    (hrest : ∀ c ∈ rest.head?, Text.isGap c = false) :
    ∀ c ∈ (cs ++ rest).head?, Text.isGap c = false := by
  cases h with
  | nil => exact hrest
  | @cons word gap cs words _ _ =>
      rw [List.append_assoc]
      exact head?_of_startsWord (hwords word List.mem_cons_self)

theorem afterToken?_eq_some_iff {word : String} {cs rest : List Char} :
    afterToken? word cs = some rest ↔
      ∃ front, cs = front ++ rest ∧ Spaced [word.toList] front ∧
        ∀ c ∈ rest.head?, Text.isGap c = false := by
  simp only [afterToken?, Option.map_eq_some_iff, List.isPrefixOf?_eq_some_iff_append_eq,
    spaced_singleton_iff]
  constructor
  · rintro ⟨behind, rfl, rfl⟩
    refine ⟨word.toList ++ behind.takeWhile Text.isGap, ?_, ⟨_, rfl, ?_⟩,
      Text.head?_dropWhile Text.isGap behind⟩
    · rw [List.append_assoc, List.takeWhile_append_dropWhile]
    · exact List.all_eq_true.1 List.all_takeWhile
  · rintro ⟨front, rfl, ⟨gap, rfl, hgap⟩, hrest⟩
    exact ⟨gap ++ rest, (List.append_assoc ..).symm, Text.dropWhile_append_of_head? hgap hrest⟩

theorem spaced_of_afterTokens? {words : List String} {cs rest : List Char}
    (h : afterTokens? words cs = some rest) :
    ∃ front, cs = front ++ rest ∧ Spaced (words.map String.toList) front := by
  induction words generalizing cs with
  | nil =>
      cases h
      exact ⟨[], rfl, .nil⟩
  | cons word words ih =>
      obtain ⟨behind, hword, hwords⟩ := Option.bind_eq_some_iff.1 h
      obtain ⟨front, rfl, hfront, _⟩ := afterToken?_eq_some_iff.1 hword
      obtain ⟨more, rfl, hmore⟩ := ih hwords
      exact ⟨front ++ more, (List.append_assoc ..).symm,
        spaced_append_iff.2 ⟨front, more, rfl, hfront, hmore⟩⟩

theorem afterTokens?_append {words : List String} {front rest : List Char}
    (h : Spaced (words.map String.toList) front) (hwords : ∀ word ∈ words, startsWord word.toList = true)
    (hrest : ∀ c ∈ rest.head?, Text.isGap c = false) :
    afterTokens? words (front ++ rest) = some rest := by
  induction words generalizing front with
  | nil =>
      cases h
      rfl
  | cons word words ih =>
      obtain ⟨_, hwords⟩ := List.forall_mem_cons.1 hwords
      rw [List.map_cons, ← List.singleton_append] at h
      obtain ⟨first, more, rfl, hfirst, hmore⟩ := spaced_append_iff.1 h
      have hbehind := hmore.head?_append (List.forall_mem_map.2 hwords) hrest
      rw [afterTokens?, List.append_assoc, afterToken?_eq_some_iff.2 ⟨first, rfl, hfirst, hbehind⟩]
      exact ih hmore hwords

/-! ## Names -/

theorem isName_iff {cs : List Char} : IsName cs ↔ Text.isIdentifier cs = true := by
  cases cs with
  | nil => simp [IsName, Text.isIdentifier]
  | cons c cs =>
      simp [IsName, Text.isIdentifier, Text.isIdentifierStart, Text.isIdentifierRest, or_assoc]

theorem identifier?_eq_some_iff {cs name rest : List Char} :
    Text.identifier? cs = some (name, rest) ↔
      IsName name ∧ cs = name ++ rest ∧ ∀ c ∈ rest.head?, Text.isIdentifierRest c = false := by
  rw [isName_iff]
  constructor
  · intro h
    cases cs with
    | nil => cases h
    | cons c cs =>
        have happend := Text.append_of_identifier? h
        rw [Text.identifier?] at h
        split at h
        · next hstart =>
            cases h
            exact ⟨by simp [Text.isIdentifier, hstart], happend.symm,
              Text.head?_dropWhile Text.isIdentifierRest cs⟩
        · cases h
  · rintro ⟨hname, rfl, hrest⟩
    cases name with
    | nil => cases hname
    | cons c name =>
        rw [Text.isIdentifier, Bool.and_eq_true, List.all_eq_true] at hname
        rw [List.cons_append, Text.identifier?, if_pos hname.1,
          Text.takeWhile_append_of_head? hname.2 hrest, Text.dropWhile_append_of_head? hname.2 hrest]

theorem isGap_eq_false_of_isIdentifierRest {c : Char} (h : Text.isIdentifierRest c = true) :
    Text.isGap c = false := by
  have hgaps : [' ', '\t'].any Text.isIdentifierRest = false := by decide
  have hmem : Text.isGap c = true → c ∈ [' ', '\t'] := by simp [Text.isGap]
  exact Bool.eq_false_iff.2 fun hgap => List.any_eq_false.1 hgaps c (hmem hgap) h

/-- A name ends at a gap, at the dot of a call and at the end of the text. -/
theorem head?_behind_name {gap rest : List Char} (hgap : ∀ c ∈ gap, Text.isGap c = true)
    (hrest : ∀ c ∈ rest.head?, c = '.') :
    ∀ c ∈ (gap ++ rest).head?, Text.isIdentifierRest c = false := by
  have hdot : Text.isIdentifierRest '.' = false := by decide
  cases gap with
  | nil => exact fun c hc => hrest c hc ▸ hdot
  | cons blank gap =>
      have hblank := hgap blank List.mem_cons_self
      refine fun c hc => Bool.eq_false_iff.2 fun hname => ?_
      cases hc
      rw [isGap_eq_false_of_isIdentifierRest hname] at hblank
      cases hblank

/-! ## The reference -/

theorem startsWord_of_isName {name : List Char} (h : IsName name) : startsWord name = true := by
  rw [isName_iff] at h
  cases name with
  | nil => cases h
  | cons first name =>
      have hfirst := Text.isIdentifierRest_of_isIdentifierStart (Bool.and_eq_true_iff.1 h).1
      rw [startsWord, isGap_eq_false_of_isIdentifierRest hfirst]
      rfl

/-- What stands in front of the name, what stands behind it, and the gap between. -/
theorem spaced_name_iff {name cs : List Char} {words : List (List Char)} :
    Spaced ("this".toList :: ".".toList :: name :: words) cs ↔
      ∃ front gap suffix, cs = front ++ (name ++ (gap ++ suffix)) ∧
        Spaced (["this", "."].map String.toList) front ∧ (∀ c ∈ gap, Text.isGap c = true) ∧
        Spaced words suffix := by
  have hwords : "this".toList :: ".".toList :: name :: words =
      ["this", "."].map String.toList ++ (name :: words) := rfl
  rw [hwords, spaced_append_iff]
  constructor
  · rintro ⟨front, back, rfl, hfront, hback⟩
    obtain ⟨gap, suffix, rfl, hgap, hsuffix⟩ := spaced_cons_iff.1 hback
    exact ⟨front, gap, suffix, rfl, hfront, hgap, hsuffix⟩
  · rintro ⟨front, gap, suffix, rfl, hfront, hgap, hsuffix⟩
    exact ⟨front, _, rfl, hfront, spaced_cons_iff.2 ⟨gap, suffix, rfl, hgap, hsuffix⟩⟩

theorem refers_iff {name cs : List Char} :
    Refers name cs ↔ ∃ front gap suffix, cs = front ++ (name ++ (gap ++ suffix)) ∧ IsName name ∧
      Spaced (["this", "."].map String.toList) front ∧ (∀ c ∈ gap, Text.isGap c = true) ∧
      (suffix = [] ∨ Spaced (bindTokens.map String.toList) suffix) := by
  rw [Refers, spaced_name_iff, spaced_name_iff]
  simp only [spaced_nil_iff]
  constructor
  · rintro ⟨hname, ⟨front, gap, suffix, hcs, hfront, hgap, hsuffix⟩ |
      ⟨front, gap, suffix, hcs, hfront, hgap, hsuffix⟩⟩
    · exact ⟨front, gap, suffix, hcs, hname, hfront, hgap, .inl hsuffix⟩
    · exact ⟨front, gap, suffix, hcs, hname, hfront, hgap, .inr hsuffix⟩
  · rintro ⟨front, gap, suffix, hcs, hname, hfront, hgap, hsuffix | hsuffix⟩
    · exact ⟨hname, .inl ⟨front, gap, suffix, hcs, hfront, hgap, hsuffix⟩⟩
    · exact ⟨hname, .inr ⟨front, gap, suffix, hcs, hfront, hgap, hsuffix⟩⟩

theorem head?_call {cs : List Char} (h : cs = [] ∨ Spaced (bindTokens.map String.toList) cs) :
    ∀ c ∈ cs.head?, c = '.' := by
  rcases h with rfl | h
  · exact nofun
  · cases h with
    | cons _ _ => simp

theorem afterTokens?_bindTokens_iff {cs : List Char} :
    afterTokens? bindTokens cs = some [] ↔ Spaced (bindTokens.map String.toList) cs := by
  constructor
  · intro h
    obtain ⟨front, rfl, hfront⟩ := spaced_of_afterTokens? h
    rwa [List.append_nil]
  · intro h
    rw [← List.append_nil cs]
    exact afterTokens?_append h (by decide) nofun

theorem bind_identifier?_eq_some_iff {cs name rest : List Char} :
    (afterTokens? ["this", "."] cs).bind Text.identifier? = some (name, rest) ↔
      ∃ front, cs = front ++ (name ++ rest) ∧ IsName name ∧
        Spaced (["this", "."].map String.toList) front ∧
        ∀ c ∈ rest.head?, Text.isIdentifierRest c = false := by
  rw [Option.bind_eq_some_iff]
  constructor
  · rintro ⟨behind, htokens, hread⟩
    obtain ⟨front, rfl, hfront⟩ := spaced_of_afterTokens? htokens
    obtain ⟨hname, rfl, hrest⟩ := identifier?_eq_some_iff.1 hread
    exact ⟨front, rfl, hname, hfront, hrest⟩
  · rintro ⟨front, rfl, hname, hfront, hrest⟩
    have hstart : ∀ c ∈ (name ++ rest).head?, Text.isGap c = false :=
      head?_of_startsWord (startsWord_of_isName hname)
    exact ⟨name ++ rest, afterTokens?_append hfront (by decide) hstart,
      identifier?_eq_some_iff.2 ⟨hname, rfl, hrest⟩⟩

theorem referenceIn?_eq_some_iff {cs name : List Char} :
    referenceIn? cs = some name ↔ Refers name cs := by
  rw [refers_iff]
  constructor
  · intro h
    rw [referenceIn?] at h
    split at h
    · cases h
    · next found rest hbody =>
        dsimp only at h
        split at h
        · next hsuffix =>
            cases h
            obtain ⟨front, rfl, hname, hfront, _⟩ := bind_identifier?_eq_some_iff.1 hbody
            rw [Bool.or_eq_true, decide_eq_true_eq, decide_eq_true_eq,
              afterTokens?_bindTokens_iff] at hsuffix
            exact ⟨front, rest.takeWhile Text.isGap, rest.dropWhile Text.isGap,
              by rw [List.takeWhile_append_dropWhile], hname, hfront,
              List.all_eq_true.1 List.all_takeWhile, hsuffix⟩
        · cases h
  · rintro ⟨front, gap, suffix, rfl, hname, hfront, hgap, hsuffix⟩
    have hdot := head?_call hsuffix
    have hbody := bind_identifier?_eq_some_iff.2
      ⟨front, rfl, hname, hfront, head?_behind_name hgap hdot⟩
    -- The gap ends where the call starts, or with the text.
    have hdrop : (gap ++ suffix).dropWhile Text.isGap = suffix :=
      Text.dropWhile_append_of_head? hgap fun c hc => hdot c hc ▸ rfl
    simp only [referenceIn?, hbody, hdrop]
    rw [if_pos]
    rwa [Bool.or_eq_true, decide_eq_true_eq, decide_eq_true_eq, afterTokens?_bindTokens_iff]

/-- An expression is read as a reference to a member exactly if, trimmed, it is one
in the grammar. -/
theorem memberReference?_eq_some_iff (expression name : String) :
    memberReference? expression = some name ↔
      ∃ core, Text.Trims expression.toList core ∧ Refers name.toList core := by
  have hname : ∀ cs, String.ofList cs = name ↔ cs = name.toList := fun cs =>
    ⟨fun h => h ▸ (String.toList_ofList).symm, fun h => h ▸ String.ofList_toList⟩
  simp only [memberReference?, Option.map_eq_some_iff, hname, exists_eq_right,
    referenceIn?_eq_some_iff]
  constructor
  · exact fun h => ⟨_, Text.trims_trim _, h⟩
  · rintro ⟨core, hcore, h⟩
    rwa [hcore.trim_eq]

-- The member may have the name of a word of the call, and a longer path is no reference.
example : memberReference? "\u00A0this . bind.bind( this )\n" = some "bind" := by cbv
example : memberReference? "this.bind.render" = none := by cbv

end ClassDiagram.Source
