import ClassDiagram.Proofs.Separated
import ClassDiagram.Source.Normal
import Mathlib.Data.List.Basic

/-!
# What is left of a text in normal form

The letters of a text are its characters that are not blank. In normal form they
are all there, in order, and two that follow each other have a space between them
just if the text had a blank there that breaks no line (`IsNormalForm`).

Line breaks are removed from the text as a whole and the words are then found and
joined, so none of this can be read off the definition. What can be used is an
equation for one letter and the gap behind it (`normal_letter_gap`). Every text is
some blanks and then a list of such runs, and `cleaned` is the normal form run by
run (`normal_runsText`); the rest is induction on the runs. In normal form each gap
is a separator already, and a separator stays as it is (`cleaned_cleaned`).
-/

namespace ClassDiagram.Text

/-! ## Words -/

/-- A blank separates the words before it from the words behind it. -/
theorem words_append_cons {blank : Char} (h : isBlank blank = true) (before behind : List Char) :
    words (before ++ blank :: behind) = words before ++ words behind := by
  rw [words, List.splitOnP_append_cons before behind h, List.filter_append]
  rfl

theorem words_blanks_append {blanks : List Char} (h : ∀ c ∈ blanks, isBlank c = true)
    (cs : List Char) : words (blanks ++ cs) = words cs := by
  induction blanks with
  | nil => rfl
  | cons blank blanks ih =>
      obtain ⟨hblank, hblanks⟩ := List.forall_mem_cons.1 h
      exact (words_append_cons hblank [] (blanks ++ cs)).trans (ih hblanks)

theorem words_singleton {c : Char} (h : isBlank c = false) : words [c] = [[c]] := by
  simp [words, List.splitOnP_cons_eq_if_modifyHead, h]

/-- A letter in front of blanks is a word of its own. -/
theorem words_letter_blanks {a : Char} {blanks : List Char} (ha : isBlank a = false)
    (hne : blanks ≠ []) (h : ∀ c ∈ blanks, isBlank c = true) (cs : List Char) :
    words (a :: (blanks ++ cs)) = [a] :: words cs := by
  obtain ⟨blank, blanks, rfl⟩ := List.exists_cons_of_ne_nil hne
  obtain ⟨hblank, hblanks⟩ := List.forall_mem_cons.1 h
  have hsplit := words_append_cons hblank [a] (blanks ++ cs)
  rwa [words_singleton ha, words_blanks_append hblanks] at hsplit

/-- A letter starts a word, and a letter in front of it belongs to that word. -/
theorem exists_words_cons {b : Char} (hb : isBlank b = false) (cs : List Char) :
    ∃ word more, words (b :: cs) = word :: more ∧
      ∀ a, isBlank a = false → words (a :: b :: cs) = (a :: word) :: more := by
  obtain ⟨head, tail, hsplit⟩ := List.exists_cons_of_ne_nil (List.splitOnP_ne_nil isBlank cs)
  refine ⟨b :: head, tail.filter (!·.isEmpty), ?_, fun a ha => ?_⟩
  · simp [words, List.splitOnP_cons_eq_if_modifyHead, hb, hsplit]
  · simp [words, List.splitOnP_cons_eq_if_modifyHead, ha, hb, hsplit]

theorem isBlank_of_isLineBreak {c : Char} (h : isLineBreak c = true) : isBlank c = true := by
  have hbreak : c = '\n' ∨ c = '\r' := by simpa [isLineBreak] using h
  rcases hbreak with rfl | rfl <;> decide

end ClassDiagram.Text

namespace ClassDiagram.Source

open Text (isBlank isLineBreak words)

/-! ## One letter -/

/-- What stands in normal form for the blanks between two letters. -/
def separator (gap : List Char) : List Char :=
  if gap.all (fun c => c = '\r' || c = '\n') then [] else [' ']

theorem separator_eq (gap : List Char) :
    separator gap = if gap.filter (!isLineBreak ·) = [] then [] else [' '] := by
  have hempty : gap.all (fun c => c = '\r' || c = '\n') = true ↔
      gap.filter (!isLineBreak ·) = [] := by
    simp [isLineBreak, or_comm, or_iff_not_imp_left]
  rw [separator]
  simp only [hempty]

theorem isBlank_of_mem_separator {gap : List Char} : ∀ c ∈ separator gap, isBlank c = true := by
  intro c hc
  rw [separator] at hc
  split at hc
  · cases hc
  · cases List.mem_singleton.1 hc
    decide

/-- A separator is its own normal form. -/
theorem separator_separator (gap : List Char) : separator (separator gap) = separator gap := by
  rw [separator.eq_def gap]
  split <;> decide

variable {a b : Char} {gap : List Char}

theorem filter_cons_of_letter (ha : isBlank a = false) (cs : List Char) :
    (a :: cs).filter (!isLineBreak ·) = a :: cs.filter (!isLineBreak ·) := by
  refine List.filter_cons_of_pos ?_
  rw [Bool.not_eq_true']
  refine Bool.eq_false_iff.2 fun hbreak => ?_
  rw [Text.isBlank_of_isLineBreak hbreak] at ha
  cases ha

theorem isBlank_of_mem_filter (hgap : ∀ c ∈ gap, isBlank c = true) :
    ∀ c ∈ gap.filter (!isLineBreak ·), isBlank c = true :=
  fun c hc => hgap c (List.mem_of_mem_filter hc)

theorem normal_blanks_append (hgap : ∀ c ∈ gap, isBlank c = true) (cs : List Char) :
    normal (gap ++ cs) = normal cs := by
  rw [normal, List.filter_append, Text.words_blanks_append (isBlank_of_mem_filter hgap)]
  rfl

/-- A letter keeps its place, and the gap between it and the next one becomes a
separator. -/
theorem normal_letter_gap (ha : isBlank a = false) (hb : isBlank b = false)
    (hgap : ∀ c ∈ gap, isBlank c = true) (cs : List Char) :
    normal (a :: (gap ++ b :: cs)) = a :: (separator gap ++ normal (b :: cs)) := by
  obtain ⟨word, more, hwords, hlonger⟩ := Text.exists_words_cons hb (cs.filter (!isLineBreak ·))
  rw [normal, normal, separator_eq, filter_cons_of_letter ha, List.filter_append,
    filter_cons_of_letter hb]
  by_cases hkept : gap.filter (!isLineBreak ·) = []
  · rw [if_pos hkept, hkept, List.nil_append, hlonger a ha, hwords, Text.intercalate_cons,
      Text.intercalate_cons]
    rfl
  · rw [if_neg hkept, Text.words_letter_blanks ha hkept (isBlank_of_mem_filter hgap), hwords,
      List.intercalate_cons_cons]
    rfl

theorem normal_last_letter (ha : isBlank a = false) (hgap : ∀ c ∈ gap, isBlank c = true) :
    normal (a :: gap) = [a] := by
  rw [normal, filter_cons_of_letter ha]
  by_cases hkept : gap.filter (!isLineBreak ·) = []
  · rw [hkept, Text.words_singleton ha, List.intercalate_singleton]
  · rw [← List.append_nil (gap.filter (!isLineBreak ·)),
      Text.words_letter_blanks ha hkept (isBlank_of_mem_filter hgap)]
    exact List.intercalate_singleton

/-! ## Runs -/

/-- A letter and the blanks behind it. -/
structure IsRun (run : Char × List Char) : Prop where
  letter : isBlank run.1 = false
  gap : ∀ c ∈ run.2, isBlank c = true

/-- The runs one after the other. -/
def runsText (runs : List (Char × List Char)) : List Char := runs.flatMap fun run => run.1 :: run.2

theorem runsText_cons (run : Char × List Char) (runs : List (Char × List Char)) :
    runsText (run :: runs) = run.1 :: (run.2 ++ runsText runs) := rfl

theorem runsText_append (runs others : List (Char × List Char)) :
    runsText (runs ++ others) = runsText runs ++ runsText others := List.flatMap_append

/-- The runs of the normal form: every gap but the last is a separator. -/
def cleaned : List (Char × List Char) → List (Char × List Char)
  | [] => []
  | [(letter, _)] => [(letter, [])]
  | (letter, gap) :: next :: runs => (letter, separator gap) :: cleaned (next :: runs)

theorem map_fst_cleaned (runs : List (Char × List Char)) :
    (cleaned runs).map Prod.fst = runs.map Prod.fst := by
  fun_induction cleaned runs with
  | case1 => rfl
  | case2 letter gap => rfl
  | case3 letter gap next runs ih => rw [List.map_cons, ih]; rfl

theorem cleaned_cons (run : Char × List Char) (runs : List (Char × List Char)) :
    ∃ gap more, cleaned (run :: runs) = (run.1, gap) :: more := by
  cases runs with
  | nil => exact ⟨_, _, rfl⟩
  | cons next runs => exact ⟨_, _, rfl⟩

theorem cleaned_append (runs : List (Char × List Char)) (run : Char × List Char)
    (others : List (Char × List Char)) : cleaned (runs ++ run :: others) =
      runs.map (fun run => (run.1, separator run.2)) ++ cleaned (run :: others) := by
  induction runs with
  | nil => rfl
  | cons first runs ih =>
      obtain ⟨next, more, hnext⟩ := List.exists_cons_of_ne_nil (List.append_ne_nil_of_right_ne_nil
        runs (List.cons_ne_nil run others))
      rw [List.cons_append, hnext, cleaned, ← hnext, ih]
      rfl

theorem cleaned_cleaned (runs : List (Char × List Char)) : cleaned (cleaned runs) = cleaned runs := by
  fun_induction cleaned runs with
  | case1 => rfl
  | case2 letter gap => rfl
  | case3 letter gap next runs ih =>
      obtain ⟨gap', more, hnext⟩ := cleaned_cons next runs
      rw [hnext] at ih ⊢
      rw [cleaned, ih, separator_separator]

theorem isRun_cleaned {runs : List (Char × List Char)} (h : ∀ run ∈ runs, IsRun run) :
    ∀ run ∈ cleaned runs, IsRun run := by
  fun_induction cleaned runs with
  | case1 => exact nofun
  | case2 letter gap =>
      exact List.forall_mem_singleton.2 ⟨(h _ List.mem_cons_self).letter, nofun⟩
  | case3 letter gap next runs ih =>
      obtain ⟨hrun, hruns⟩ := List.forall_mem_cons.1 h
      exact List.forall_mem_cons.2 ⟨⟨hrun.letter, fun c => isBlank_of_mem_separator c⟩, ih hruns⟩

/-- Every text is some blanks and then runs. -/
theorem exists_runs (cs : List Char) : ∃ lead runs, cs = lead ++ runsText runs ∧
    (∀ c ∈ lead, isBlank c = true) ∧ ∀ run ∈ runs, IsRun run := by
  induction cs with
  | nil => exact ⟨[], [], rfl, nofun, nofun⟩
  | cons c cs ih =>
      obtain ⟨lead, runs, rfl, hlead, hruns⟩ := ih
      cases hc : isBlank c with
      | true => exact ⟨c :: lead, runs, rfl, List.forall_mem_cons.2 ⟨hc, hlead⟩, hruns⟩
      | false =>
          exact ⟨[], (c, lead) :: runs, rfl, nofun, List.forall_mem_cons.2 ⟨⟨hc, hlead⟩, hruns⟩⟩

theorem normal_runsText {runs : List (Char × List Char)} (h : ∀ run ∈ runs, IsRun run) :
    normal (runsText runs) = runsText (cleaned runs) := by
  fun_induction cleaned runs with
  | case1 => rfl
  | case2 letter gap =>
      have hrun := h (letter, gap) List.mem_cons_self
      rw [runsText_cons, runsText, List.flatMap_nil, List.append_nil,
        normal_last_letter hrun.letter hrun.gap]
      rfl
  | case3 letter gap next runs ih =>
      obtain ⟨hrun, hruns⟩ := List.forall_mem_cons.1 h
      have hnext := (hruns next List.mem_cons_self).letter
      rw [runsText_cons, runsText_cons next, normal_letter_gap hrun.letter hnext hrun.gap,
        ← runsText_cons next, ih hruns]
      rfl

/-! ## What the normal form shows -/

/-- The characters that are not blank. -/
def letters (cs : List Char) : List Char := cs.filter (!isBlank ·)

theorem letters_blanks_append (hgap : ∀ c ∈ gap, isBlank c = true) (cs : List Char) :
    letters (gap ++ cs) = letters cs := by
  have hnone : letters gap = [] := List.filter_eq_nil_iff.2 (by simpa using hgap)
  rw [letters, List.filter_append, ← letters, hnone]
  rfl

theorem letters_cons (ha : isBlank a = false) (cs : List Char) :
    letters (a :: cs) = a :: letters cs :=
  List.filter_cons_of_pos (by simp [ha])

theorem letters_runsText {runs : List (Char × List Char)} (h : ∀ run ∈ runs, IsRun run) :
    letters (runsText runs) = runs.map Prod.fst := by
  induction runs with
  | nil => rfl
  | cons run runs ih =>
      obtain ⟨hrun, hruns⟩ := List.forall_mem_cons.1 h
      rw [runsText_cons, letters_cons hrun.letter, letters_blanks_append hrun.gap, ih hruns]
      rfl

/-- The letter ahead stands in front of the blank. -/
theorem exists_cons_of_letter {cs before after : List Char} {blank : Char}
    (ha : isBlank a = false) (hblank : isBlank blank = true)
    (hsplit : a :: cs = before ++ blank :: after) :
    ∃ before', before = a :: before' ∧ cs = before' ++ blank :: after := by
  cases before with
  | nil =>
      obtain ⟨rfl, _⟩ := List.cons.inj hsplit
      rw [ha] at hblank
      cases hblank
  | cons first before =>
      obtain ⟨rfl, hcs⟩ := List.cons.inj hsplit
      exact ⟨before, rfl, hcs⟩

/-- A blank in normal form is a space between two letters. -/
theorem blank_runsText_cleaned {runs : List (Char × List Char)} (h : ∀ run ∈ runs, IsRun run)
    {before after : List Char} {blank : Char}
    (hsplit : runsText (cleaned runs) = before ++ blank :: after) (hblank : isBlank blank = true) :
    blank = ' ' ∧ ∃ before' a b after', before = before' ++ [a] ∧ after = b :: after' ∧
      isBlank a = false ∧ isBlank b = false := by
  fun_induction cleaned runs generalizing before with
  | case1 => simp [runsText] at hsplit
  | case2 letter gap =>
      obtain ⟨_, _, hnil⟩ := exists_cons_of_letter (h _ List.mem_cons_self).letter hblank hsplit
      simp at hnil
  | case3 letter gap next runs ih =>
      obtain ⟨hrun, hruns⟩ := List.forall_mem_cons.1 h
      rw [runsText_cons] at hsplit
      obtain ⟨before, rfl, hrest⟩ := exists_cons_of_letter hrun.letter hblank hsplit
      -- Further on a letter stands in front of the blank already.
      have hlater : ∀ {before' : List Char} (ahead : List Char),
          runsText (cleaned (next :: runs)) = before' ++ blank :: after →
            blank = ' ' ∧ ∃ front a b after', letter :: (ahead ++ before') = front ++ [a] ∧
              after = b :: after' ∧ isBlank a = false ∧ isBlank b = false := by
        intro before' ahead hsplit'
        obtain ⟨hspace, front, a, b, after', rfl, hletters⟩ := ih hruns hsplit'
        exact ⟨hspace, letter :: (ahead ++ front), a, b, after', by simp, hletters⟩
      dsimp only [separator] at hrest
      split at hrest
      · exact hlater [] hrest
      · cases before with
        | nil =>
            obtain ⟨rfl, rfl⟩ := List.cons.inj hrest
            obtain ⟨gap', more, hnext⟩ := cleaned_cons next runs
            exact ⟨rfl, [], letter, next.1, _, rfl, by rw [hnext]; rfl, hrun.letter,
              (hruns next List.mem_cons_self).letter⟩
        | cons space before =>
            obtain ⟨rfl, hbehind⟩ := List.cons.inj hrest
            exact hlater [' '] hbehind

/-- Two letters that follow each other do so in normal form, with a separator
between them. -/
theorem exists_normal_eq (ha : isBlank a = false) (hb : isBlank b = false)
    (hgap : ∀ c ∈ gap, isBlank c = true) (before after : List Char) : ∃ before' after',
      normal (before ++ a :: (gap ++ b :: after)) =
          before' ++ a :: (separator gap ++ b :: after') ∧
        letters before' = letters before ∧ letters after' = letters after := by
  obtain ⟨lead, runs, rfl, hlead, hruns⟩ := exists_runs before
  obtain ⟨lead', others, rfl, hlead', hothers⟩ := exists_runs after
  have htail : ∀ run ∈ (b, lead') :: others, IsRun run :=
    List.forall_mem_cons.2 ⟨⟨hb, hlead'⟩, hothers⟩
  have hall : ∀ run ∈ runs ++ (a, gap) :: (b, lead') :: others, IsRun run :=
    List.forall_mem_append.2 ⟨hruns, List.forall_mem_cons.2 ⟨⟨ha, hgap⟩, htail⟩⟩
  have htext : (lead ++ runsText runs) ++ a :: (gap ++ b :: (lead' ++ runsText others)) =
      lead ++ runsText (runs ++ (a, gap) :: (b, lead') :: others) := by
    rw [runsText_append, runsText_cons, runsText_cons, List.append_assoc]
  obtain ⟨gap', more, hmore⟩ := cleaned_cons (b, lead') others
  refine ⟨runsText (runs.map fun run => (run.1, separator run.2)), gap' ++ runsText more, ?_, ?_, ?_⟩
  · rw [htext, normal_blanks_append hlead, normal_runsText hall, cleaned_append, cleaned, hmore,
      runsText_append, runsText_cons, runsText_cons]
  · have hseparated : ∀ run ∈ runs.map fun run => (run.1, separator run.2), IsRun run :=
      List.forall_mem_map.2 fun run hrun =>
        ⟨(hruns run hrun).letter, fun c => isBlank_of_mem_separator c⟩
    rw [letters_runsText hseparated, letters_blanks_append hlead, letters_runsText hruns,
      List.map_map]
    rfl
  · have hletters := letters_runsText (isRun_cleaned htail)
    rw [map_fst_cleaned, hmore, runsText_cons, letters_cons hb, List.map_cons] at hletters
    rw [(List.cons.inj hletters).2, letters_blanks_append hlead', letters_runsText hothers]

/-- The form keeps the letters of the text. Between two letters that follow each other
it has a space if the text has a blank there that breaks no line, and else nothing;
it has no other blanks. -/
structure IsNormalForm (cs form : List Char) : Prop where
  letters_eq : letters form = letters cs
  between : ∀ {before gap after : List Char} {a b : Char},
    cs = before ++ a :: (gap ++ b :: after) → isBlank a = false → isBlank b = false →
      (∀ c ∈ gap, isBlank c = true) → ∃ before' after',
        form = before' ++ a :: (separator gap ++ b :: after') ∧
          letters before' = letters before ∧ letters after' = letters after
  blanks : ∀ {before after : List Char} {blank : Char}, form = before ++ blank :: after →
    isBlank blank = true → blank = ' ' ∧ ∃ before' a b after', before = before' ++ [a] ∧
      after = b :: after' ∧ isBlank a = false ∧ isBlank b = false

theorem isNormalForm_normal (cs : List Char) : IsNormalForm cs (normal cs) := by
  obtain ⟨lead, runs, hcs, hlead, hruns⟩ := exists_runs cs
  have hform : normal cs = runsText (cleaned runs) := by
    rw [hcs, normal_blanks_append hlead, normal_runsText hruns]
  refine ⟨?_, ?_, ?_⟩
  · rw [hform, letters_runsText (isRun_cleaned hruns), map_fst_cleaned, hcs,
      letters_blanks_append hlead, letters_runsText hruns]
  · intro before gap after a b hsplit ha hb hgap
    rw [hsplit]
    exact exists_normal_eq ha hb hgap before after
  · intro before after blank hsplit hblank
    exact blank_runsText_cleaned hruns (hform ▸ hsplit) hblank

theorem normal_normal (cs : List Char) : normal (normal cs) = normal cs := by
  obtain ⟨lead, runs, rfl, hlead, hruns⟩ := exists_runs cs
  rw [normal_blanks_append hlead, normal_runsText hruns, normal_runsText (isRun_cleaned hruns),
    cleaned_cleaned]

/-- A source text is turned into a normal form of it, and a text in normal form stays as
it is. -/
theorem normalised_isNormalForm (source : String) :
    IsNormalForm source.toList (normalised source).toList ∧
      normalised (normalised source) = normalised source := by
  have htoList : (normalised source).toList = normal source.toList := String.toList_ofList
  constructor
  · rw [htoList]
    exact isNormalForm_normal source.toList
  · rw [normalised.eq_def (normalised source), htoList, normal_normal, normalised]

-- A line break alone keeps nothing apart, and other blanks do.
example : normalised "\u2003re\r\nturn\n\t\x7b \u3000a" = "return \x7b a" := by cbv

end ClassDiagram.Source
