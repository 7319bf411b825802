import ClassDiagram.Proofs.Reading
import ClassDiagram.Proofs.Separated
import ClassDiagram.Source.Literal

/-!
# The literals that are read are those of the grammar

`ReturnsAt` is the grammar: it puts a returned literal together from its parts
and says nothing of how it is taken apart. The reader takes the longest runs
and gives nothing back, so it could miss a literal or read another one than the
grammar has. It does neither (`returnedLiteral?_reads`).

In one place the grammar leaves a choice. Blanks before the closing brace belong
to the last value or to the gap behind it. The reader gives them to the value,
and since values are trimmed that makes no difference (`literalAt?_of_returnsAt`).
Everything else is determined: a key ends at the first colon, an entry at the
first comma or brace, and a gap that follows the last comma has no colon in it.
-/

namespace ClassDiagram.Source

/-! ## The grammar -/

/-- How an entry is written. -/
def entryText (entry : List Char × List Char) : List Char := entry.1 ++ ':' :: entry.2

/-- The key and the value are not empty and hold nothing that could end them. -/
structure IsEntry (entry : List Char × List Char) : Prop where
  key_ne_nil : entry.1 ≠ []
  key : ∀ c ∈ entry.1, c ∉ ['\x7b', '\x7d', ',', ':']
  value_ne_nil : entry.2 ≠ []
  value : ∀ c ∈ entry.2, c ∉ ['\x7b', '\x7d', ',']

/-- How entries are written, one behind the other. -/
def entriesText (entries : List (List Char × List Char)) : List Char :=
  [','].intercalate (entries.map entryText)

/-- The text starts with a literal that is returned. -/
def ReturnsAt (entries : List (List Char × List Char)) (cs : List Char) : Prop :=
  ∃ gap comma gap' rest, entries ≠ [] ∧ (∀ entry ∈ entries, IsEntry entry) ∧
    (∀ c ∈ gap, c = ' ' ∨ c = '\t') ∧ (comma = [] ∨ comma = [',']) ∧
    (∀ c ∈ gap', c = ' ' ∨ c = '\t') ∧
    cs = "return".toList ++ (gap ++ '\x7b' :: (entriesText entries ++
      (comma ++ (gap' ++ '\x7d' :: rest))))

/-- The core is what stands between two equal quotes, or else the text itself. -/
def Unquotes (cs core : List Char) : Prop :=
  (∃ quote ∈ ['\x27', '"'], cs = quote :: (core ++ [quote])) ∨
    (cs = core ∧ ∀ quote ∈ ['\x27', '"'], ∀ inner, cs ≠ quote :: (inner ++ [quote]))

/-- The key is shown trimmed and without its quotes, the value is shown trimmed. -/
def Shows (entry : List Char × List Char) (pair : String × String) : Prop :=
  (∃ key, Text.Trims entry.1 key ∧ Unquotes key pair.1.toList) ∧
    Text.Trims entry.2 pair.2.toList

/-! ## What is shown -/

theorem isQuotedBy_iff {quote : Char} {cs : List Char} :
    isQuotedBy quote cs = true ↔ ∃ inner, cs = quote :: (inner ++ [quote]) := by
  cases cs with
  | nil => simp [isQuotedBy]
  | cons c cs =>
      cases cs using List.reverseRecOn with
      | nil => simp [isQuotedBy]
      | append_singleton inner last =>
          have hlast : (c :: (inner ++ [last])).getLast? = some last := by
            rw [← List.cons_append, List.getLast?_concat]
          constructor
          · intro h
            obtain ⟨rfl, rfl⟩ : c = quote ∧ last = c := by
              have hends : c = quote ∧ last = quote := by simpa [isQuotedBy, hlast] using h
              exact ⟨hends.1, hends.2.trans hends.1.symm⟩
            exact ⟨inner, rfl⟩
          · rintro ⟨other, hother⟩
            obtain ⟨rfl, hrest⟩ := List.cons.inj hother
            obtain ⟨rfl, hsingle⟩ := List.append_inj' hrest rfl
            cases hsingle
            simp [isQuotedBy, hlast]

theorem unquoted_eq_iff {cs core : List Char} : unquoted cs = core ↔ Unquotes cs core := by
  have hquoted : (isQuotedBy '\x27' cs || isQuotedBy '"' cs) = true ↔
      ∃ quote ∈ ['\x27', '"'], ∃ inner, cs = quote :: (inner ++ [quote]) := by
    simp [isQuotedBy_iff]
  rw [unquoted]
  by_cases h : ∃ quote ∈ ['\x27', '"'], ∃ inner, cs = quote :: (inner ++ [quote])
  · rw [if_pos (hquoted.2 h)]
    obtain ⟨quote, hquote, inner, rfl⟩ := h
    rw [List.tail_cons, List.dropLast_concat]
    constructor
    · rintro rfl
      exact .inl ⟨quote, hquote, rfl⟩
    · rintro (⟨other, _, heq⟩ | ⟨_, hnone⟩)
      · exact (List.append_inj' (List.cons.inj heq).2 rfl).1
      · exact absurd rfl (hnone quote hquote inner)
  · rw [if_neg (h ∘ hquoted.1)]
    constructor
    · exact fun heq => .inr ⟨heq, fun quote hquote inner hcs => h ⟨quote, hquote, inner, hcs⟩⟩
    · rintro (⟨quote, hquote, hcs⟩ | ⟨heq, _⟩)
      · exact absurd ⟨quote, hquote, core, hcs⟩ h
      · exact heq

/-- What is shown of an entry. -/
def shown (entry : List Char × List Char) : String × String :=
  (String.ofList (unquoted (Text.trim entry.1)), String.ofList (Text.trim entry.2))

theorem shows_iff {entry : List Char × List Char} {pair : String × String} :
    Shows entry pair ↔ shown entry = pair := by
  simp only [Shows, ← Text.trim_eq_iff, ← unquoted_eq_iff]
  simp [shown, Prod.ext_iff, String.ext_iff]

theorem forall₂_shows_iff {entries : List (List Char × List Char)}
    {pairs : List (String × String)} :
    List.Forall₂ Shows entries pairs ↔ entries.map shown = pairs := by
  have hshows : ∀ entry pair, Shows entry pair ↔ shown entry = pair := fun _ _ => shows_iff
  exact Text.forall₂_iff_map_eq hshows

/-! ## One entry -/

theorem isValueChar_iff {c : Char} : isValueChar c = true ↔ c ∉ ['\x7b', '\x7d', ','] := by
  simp [isValueChar, and_assoc]

theorem isKeyChar_iff {c : Char} : isKeyChar c = true ↔ c ∉ ['\x7b', '\x7d', ',', ':'] := by
  simp [isKeyChar, isValueChar, and_assoc]

theorem run?_eq_some_iff {p : Char → Bool} {cs run rest : List Char} :
    run? p cs = some (run, rest) ↔ run ≠ [] ∧ cs = run ++ rest ∧ (∀ c ∈ run, p c = true) ∧
      ∀ c ∈ rest.head?, p c = false := by
  rw [run?]
  constructor
  · intro h
    split at h
    · cases h
    · next hne =>
        cases h
        exact ⟨hne, List.takeWhile_append_dropWhile.symm, List.all_eq_true.1 List.all_takeWhile,
          Text.head?_dropWhile p cs⟩
  · rintro ⟨hne, rfl, hrun, hrest⟩
    rw [Text.takeWhile_append_of_head? hrun hrest, Text.dropWhile_append_of_head? hrun hrest,
      if_neg hne]

theorem entryAt?_eq_some_iff {cs rest : List Char} {entry : List Char × List Char} :
    entryAt? cs = some (entry, rest) ↔
      IsEntry entry ∧ cs = entryText entry ++ rest ∧ ∀ c ∈ rest.head?, isValueChar c = false := by
  obtain ⟨key, value⟩ := entry
  constructor
  · intro h
    rw [entryAt?] at h
    split at h
    · next found behind hkey =>
        obtain ⟨_, hvalue, ⟨⟩⟩ := Option.map_eq_some_iff.1 h
        obtain ⟨hkeyne, rfl, hkeys, _⟩ := run?_eq_some_iff.1 hkey
        obtain ⟨hvaluene, rfl, hvalues, hrest⟩ := run?_eq_some_iff.1 hvalue
        exact ⟨⟨hkeyne, fun c hc => isKeyChar_iff.1 (hkeys c hc), hvaluene,
          fun c hc => isValueChar_iff.1 (hvalues c hc)⟩, by simp [entryText], hrest⟩
    · cases h
  · rintro ⟨hentry, rfl, hrest⟩
    have hkey : run? isKeyChar (entryText (key, value) ++ rest) =
        some (key, ':' :: (value ++ rest)) :=
      run?_eq_some_iff.2 ⟨hentry.key_ne_nil, by simp [entryText],
        fun c hc => isKeyChar_iff.2 (hentry.key c hc), by simp [isKeyChar]⟩
    have hvalue : run? isValueChar (value ++ rest) = some (value, rest) :=
      run?_eq_some_iff.2 ⟨hentry.value_ne_nil, rfl,
        fun c hc => isValueChar_iff.2 (hentry.value c hc), hrest⟩
    simp only [entryAt?, hkey, hvalue, Option.map_some]

theorem isGap_iff {c : Char} : Text.isGap c = true ↔ c = ' ' ∨ c = '\t' := by
  simp [Text.isGap]

theorem isKeyChar_of_isGap {c : Char} (h : Text.isGap c = true) : isKeyChar c = true := by
  rcases isGap_iff.1 h with rfl | rfl <;> decide

/-- There is no entry in a gap before a brace. -/
theorem entryAt?_gap {gap : List Char} (hgap : ∀ c ∈ gap, Text.isGap c = true) (rest : List Char) :
    entryAt? (gap ++ '\x7d' :: rest) = none := by
  by_cases hne : gap = []
  · subst hne
    rfl
  · have hrun : run? isKeyChar (gap ++ '\x7d' :: rest) = some (gap, '\x7d' :: rest) :=
      run?_eq_some_iff.2 ⟨hne, rfl, fun c hc => isKeyChar_of_isGap (hgap c hc),
        by simp [isKeyChar, isValueChar]⟩
    rw [entryAt?, hrun]
    rfl

/-! ## All entries -/

theorem entriesText_cons (entry : List Char × List Char) (entries : List (List Char × List Char)) :
    entriesText (entry :: entries) =
      entryText entry ++ entries.flatMap fun entry => ',' :: entryText entry := by
  rw [entriesText, List.map_cons, Text.intercalate_cons, List.flatMap_map]
  rfl

/-- What stands between the last entry and the brace that closes the literal, if
the last value has all that could be part of it. -/
def Closes (comma gap : List Char) : Prop :=
  comma = [] ∧ gap = [] ∨ comma = [','] ∧ ∀ c ∈ gap, Text.isGap c = true

theorem Closes.isGap {comma gap : List Char} (h : Closes comma gap) :
    ∀ c ∈ gap, Text.isGap c = true := by
  rcases h with ⟨_, rfl⟩ | ⟨_, hgap⟩
  · exact nofun
  · exact hgap

/-- What follows an entry cannot be part of its value. -/
theorem head?_close {comma gap : List Char} (hclose : Closes comma gap) (rest : List Char)
    (entries : List (List Char × List Char)) :
    ∀ c ∈ (entries.flatMap (fun entry => ',' :: entryText entry) ++
      (comma ++ (gap ++ '\x7d' :: rest))).head?, isValueChar c = false := by
  cases entries with
  | nil => rcases hclose with ⟨rfl, rfl⟩ | ⟨rfl, _⟩ <;> simp [isValueChar]
  | cons entry entries => simp [isValueChar]

theorem moreEntries_spec (cs : List Char) : ∃ comma, (comma = [] ∨ comma = [',']) ∧
    cs = (moreEntries cs).1.flatMap (fun entry => ',' :: entryText entry) ++
      (comma ++ (moreEntries cs).2) ∧ ∀ entry ∈ (moreEntries cs).1, IsEntry entry := by
  fun_induction moreEntries cs with
  | case1 behind entry rest hentry ih =>
      obtain ⟨comma, hcomma, hrest, hentries⟩ := ih
      obtain ⟨hfirst, hbehind, _⟩ := entryAt?_eq_some_iff.1 hentry
      refine ⟨comma, hcomma, ?_, List.forall_mem_cons.2 ⟨hfirst, hentries⟩⟩
      rw [Prod.map_fst, Prod.map_snd, List.flatMap_cons, List.append_assoc, id, ← hrest, hbehind]
      rfl
  | case2 behind hnone => exact ⟨[','], .inr rfl, rfl, nofun⟩
  | case3 cs hcs => exact ⟨[], .inl rfl, rfl, nofun⟩

theorem moreEntries_append {comma gap : List Char} (hclose : Closes comma gap) (rest : List Char)
    {entries : List (List Char × List Char)} (hentries : ∀ entry ∈ entries, IsEntry entry) :
    moreEntries (entries.flatMap (fun entry => ',' :: entryText entry) ++
      (comma ++ (gap ++ '\x7d' :: rest))) = (entries, gap ++ '\x7d' :: rest) := by
  induction entries with
  | nil =>
      rw [List.flatMap_nil, List.nil_append]
      rcases hclose with ⟨rfl, rfl⟩ | ⟨rfl, hgap⟩
      · rw [moreEntries]
        · rfl
        · simp
      · rw [List.singleton_append, moreEntries, entryAt?_gap hgap]
  | cons entry entries ih =>
      obtain ⟨hentry, hentries⟩ := List.forall_mem_cons.1 hentries
      -- The value ends at the comma of the next entry, or where the list is closed.
      rw [List.flatMap_cons, List.append_assoc]
      have hread := entryAt?_eq_some_iff.2 ⟨hentry, rfl, head?_close hclose rest entries⟩
      rw [List.cons_append, moreEntries, hread]
      dsimp only
      rw [ih hentries]
      rfl

/-! ## The literal -/

theorem literalAt?_eq_some_iff {cs : List Char} {entries : List (List Char × List Char)} :
    literalAt? cs = some entries ↔ ∃ afterWord inside entry behind rest,
      returnWord.isPrefixOf? cs = some afterWord ∧
      afterWord.dropWhile Text.isGap = '\x7b' :: inside ∧
      entryAt? inside = some (entry, behind) ∧
      (moreEntries behind).2.dropWhile Text.isGap = '\x7d' :: rest ∧
      entries = entry :: (moreEntries behind).1 := by
  constructor
  · intro h
    rw [literalAt?] at h
    split at h
    · cases h
    · next afterWord hword =>
        split at h
        · next inside hopen =>
            split at h
            · cases h
            · next entry behind hentry =>
                dsimp only at h
                split at h
                · next rest hclose =>
                    exact ⟨afterWord, inside, entry, behind, rest, hword, hopen, hentry, hclose,
                      (Option.some.inj h).symm⟩
                · cases h
        · cases h
  · rintro ⟨afterWord, inside, entry, behind, rest, hword, hopen, hentry, hclose, rfl⟩
    simp only [literalAt?, hword, hopen, hentry, hclose]

theorem returnsAt_of_literalAt? {cs : List Char} {entries : List (List Char × List Char)}
    (h : literalAt? cs = some entries) : ReturnsAt entries cs := by
  have hgap : ∀ {cs : List Char}, ∀ c ∈ cs.takeWhile Text.isGap, c = ' ' ∨ c = '\t' :=
    fun c hc => isGap_iff.1 (List.all_eq_true.1 List.all_takeWhile c hc)
  obtain ⟨afterWord, inside, entry, behind, rest, hword, hopen, hentry, hclose, rfl⟩ :=
    literalAt?_eq_some_iff.1 h
  obtain ⟨hfirst, hinside, _⟩ := entryAt?_eq_some_iff.1 hentry
  obtain ⟨comma, hcomma, hbehind, hentries⟩ := moreEntries_spec behind
  refine ⟨afterWord.takeWhile Text.isGap, comma, (moreEntries behind).2.takeWhile Text.isGap,
    rest, List.cons_ne_nil _ _, List.forall_mem_cons.2 ⟨hfirst, hentries⟩, hgap, hcomma, hgap, ?_⟩
  rw [← hclose, List.takeWhile_append_dropWhile, entriesText_cons, List.append_assoc, ← hbehind,
    ← hinside, ← hopen, List.takeWhile_append_dropWhile]
  exact (List.isPrefixOf?_eq_some_iff_append_eq.1 hword).symm

theorem literalAt?_of_closes {gap comma gap' : List Char} (rest : List Char)
    {entries : List (List Char × List Char)} (hne : entries ≠ [])
    (hentries : ∀ entry ∈ entries, IsEntry entry) (hgap : ∀ c ∈ gap, Text.isGap c = true)
    (hclose : Closes comma gap') :
    literalAt? ("return".toList ++ (gap ++ '\x7b' :: (entriesText entries ++
      (comma ++ (gap' ++ '\x7d' :: rest))))) = some entries := by
  obtain ⟨entry, entries, rfl⟩ := List.exists_cons_of_ne_nil hne
  obtain ⟨hentry, hentries⟩ := List.forall_mem_cons.1 hentries
  have hread : entryAt? (entriesText (entry :: entries) ++ (comma ++ (gap' ++ '\x7d' :: rest))) =
      some (entry, entries.flatMap (fun entry => ',' :: entryText entry) ++
        (comma ++ (gap' ++ '\x7d' :: rest))) := by
    rw [entriesText_cons, List.append_assoc]
    exact entryAt?_eq_some_iff.2 ⟨hentry, rfl, head?_close hclose rest entries⟩
  have hmore := moreEntries_append hclose rest hentries
  refine literalAt?_eq_some_iff.2 ⟨_, _, entry, _, rest,
    List.isPrefixOf?_eq_some_iff_append_eq.2 rfl,
    Text.dropWhile_append_of_head? hgap (by simp [Text.isGap]), hread, ?_, by rw [hmore]⟩
  rw [hmore]
  exact Text.dropWhile_append_of_head? hclose.isGap (by simp [Text.isGap])

/-- Blanks before the closing brace can be part of the last value. -/
theorem entriesText_concat (entries : List (List Char × List Char)) (key value gap : List Char) :
    entriesText (entries ++ [(key, value)]) ++ gap =
      entriesText (entries ++ [(key, value ++ gap)]) := by
  cases entries with
  | nil => simp [entriesText_cons, entryText]
  | cons entry entries => simp [entriesText_cons, entryText]

theorem isValueChar_of_isGap {c : Char} (h : Text.isGap c = true) : isValueChar c = true := by
  rcases isGap_iff.1 h with rfl | rfl <;> decide

theorem isBlank_of_isGap {c : Char} (h : Text.isGap c = true) : Text.isBlank c = true := by
  rcases isGap_iff.1 h with rfl | rfl <;> decide

/-- The reader reads the literal of the grammar, up to blanks at the end of the
last value. -/
theorem literalAt?_of_returnsAt {cs : List Char} {entries : List (List Char × List Char)}
    (h : ReturnsAt entries cs) :
    ∃ others, literalAt? cs = some others ∧ others.map shown = entries.map shown := by
  obtain ⟨gap, comma, gap', rest, hne, hentries, hgap, hcomma, hgap', rfl⟩ := h
  have hgap : ∀ c ∈ gap, Text.isGap c = true := fun c hc => isGap_iff.2 (hgap c hc)
  have hgap' : ∀ c ∈ gap', Text.isGap c = true := fun c hc => isGap_iff.2 (hgap' c hc)
  rcases hcomma with rfl | rfl
  · -- Without a comma the value takes the gap behind it as well.
    obtain ⟨before, ⟨key, value⟩, rfl⟩ := (List.eq_nil_or_concat' entries).resolve_left hne
    obtain ⟨hbefore, hlast⟩ := List.forall_mem_append.1 hentries
    have hlast := hlast _ (List.mem_singleton_self _)
    have htrim : Text.trim (value ++ gap') = Text.trim value :=
      ((Text.trims_trim value).append fun c hc => isBlank_of_isGap (hgap' c hc)).trim_eq
    refine ⟨before ++ [(key, value ++ gap')], ?_, by simp [shown, htrim]⟩
    rw [List.nil_append, ← List.append_assoc (entriesText _), entriesText_concat]
    have hlonger : IsEntry (key, value ++ gap') :=
      { key_ne_nil := hlast.key_ne_nil
        key := hlast.key
        value_ne_nil := by simp [hlast.value_ne_nil]
        value := List.forall_mem_append.2 ⟨hlast.value, fun c hc =>
          isValueChar_iff.1 (isValueChar_of_isGap (hgap' c hc))⟩ }
    exact literalAt?_of_closes rest (by simp)
      (List.forall_mem_append.2 ⟨hbefore, List.forall_mem_singleton.2 hlonger⟩) hgap
      (.inl ⟨rfl, rfl⟩)
  · exact ⟨entries, literalAt?_of_closes rest hne hentries hgap (.inr ⟨rfl, hgap'⟩), rfl⟩

theorem literalAt?_eq_none_iff (cs : List Char) :
    literalAt? cs = none ↔ ∀ entries, ¬ ReturnsAt entries cs := by
  constructor
  · intro h entries hreturns
    obtain ⟨others, hread, _⟩ := literalAt?_of_returnsAt hreturns
    rw [h] at hread
    cases hread
  · exact fun h => Option.eq_none_iff_forall_ne_some.2 fun entries hread =>
      h entries (returnsAt_of_literalAt? hread)

theorem literalAt?_eq_none {cs : List Char} (h : ¬ returnWord <+: cs) : literalAt? cs = none := by
  refine (literalAt?_eq_none_iff cs).2 fun entries hreturns => h ?_
  obtain ⟨_, _, _, _, _, _, _, _, _, rfl⟩ := hreturns
  exact List.prefix_append returnWord _

theorem returnedLiteral?_eq (source : String) : returnedLiteral? source =
    ((normal source.toList).tails.findSome? literalAt?).map (List.map shown) := by
  rw [returnedLiteral?, Text.findSome?_occurrences (by decide) (by decide)
    fun _ => literalAt?_eq_none]
  rfl

/-- The reader finds a literal exactly if one is returned anywhere in the source
text in normal form, and then reads the leftmost. -/
theorem returnedLiteral?_reads (source : String) :
    ((returnedLiteral? source).isSome = true ↔
      ∃ before entries, Text.Stands ReturnsAt (normal source.toList) before entries) ∧
    ∀ pairs, returnedLiteral? source = some pairs ↔
      ∃ before entries, Text.StandsFirst ReturnsAt (normal source.toList) before entries ∧
        List.Forall₂ Shows entries pairs := by
  rw [returnedLiteral?_eq]
  constructor
  · rw [Option.isSome_map, ← Option.ne_none_iff_isSome, Ne, Text.findSome?_tails_eq_none_iff]
    simp only [literalAt?_eq_none_iff, not_forall, not_not]
    constructor
    · rintro ⟨before, rest, hsplit, entries, hreturns⟩
      exact ⟨before, entries, rest, hsplit, hreturns⟩
    · rintro ⟨before, entries, rest, hsplit, hreturns⟩
      exact ⟨before, rest, hsplit, entries, hreturns⟩
  · intro pairs
    simp only [Option.map_eq_some_iff, Text.findSome?_tails_eq_some_iff,
      Text.leftmost_iff_of_none literalAt?_eq_none_iff, forall₂_shows_iff]
    constructor
    · rintro ⟨entries, ⟨before, rest, hsplit, hread, hfirst⟩, hshown⟩
      exact ⟨before, entries, ⟨⟨rest, hsplit, returnsAt_of_literalAt? hread⟩, hfirst⟩, hshown⟩
    · rintro ⟨before, entries, ⟨⟨rest, hsplit, hreturns⟩, hfirst⟩, hshown⟩
      obtain ⟨others, hread, hothers⟩ := literalAt?_of_returnsAt hreturns
      exact ⟨others, ⟨before, rest, hsplit, hread, hfirst⟩, hothers.trans hshown⟩

end ClassDiagram.Source
