import ClassDiagram.Proofs.Reading
import ClassDiagram.Source.Signature

/-!
# The parameters that are read are those of the grammar

`HeadsAt` is the grammar of a function header and says how one is put together.
The reader takes the longest runs of blanks, of name characters and of list
characters, gives nothing back, and looks at an occurrence of the keyword only
if it does not overlap the one before. No header is lost by that
(`parameters?_reads`).

The reason is that what ends a run cannot be part of it. A blank is no name
character, the opening parenthesis is neither, and the list has to stop at the
closing one. The one choice that the grammar leaves is how the blanks divide
when the name is empty; the reader gives all of them to the gap before the name
(`dropWhile_header`). As for the keyword, no end of it is also its start.
-/

namespace ClassDiagram.Source

/-! ## The grammar -/

/-- The text starts with a header that has the list between its parentheses. -/
def HeadsAt (list cs : List Char) : Prop :=
  ∃ gap name gap' rest, (∀ c ∈ gap, c ∈ [' ', '\t', '\n', '\r']) ∧
    (∀ c ∈ name, Text.isLetterOrNumeral c = true ∨ c = '_' ∨ c = '$') ∧
    (∀ c ∈ gap', c ∈ [' ', '\t', '\n', '\r']) ∧ (∀ c ∈ list, c ∉ [')', '\n', '\r']) ∧
    cs = "function".toList ++ (gap ++ (name ++ (gap' ++ '(' :: (list ++ ')' :: rest))))

/-- The parameters are the parts of the list between its commas, in order, trimmed
and without the empty ones. -/
def Declares (list : List Char) (params : List String) : Prop :=
  ∃ parts cores, parts ≠ [] ∧ (∀ part ∈ parts, ',' ∉ part) ∧ list = [','].intercalate parts ∧
    List.Forall₂ Text.Trims parts cores ∧ params.map String.toList = cores.filter (· ≠ [])

/-! ## The parts of the list -/

theorem forall₂_trims_iff {parts cores : List (List Char)} :
    List.Forall₂ Text.Trims parts cores ↔ parts.map Text.trim = cores := by
  have htrims : ∀ cs core, Text.Trims cs core ↔ Text.trim cs = core :=
    fun _ _ => Text.trim_eq_iff.symm
  exact Text.forall₂_iff_map_eq htrims

theorem declares_iff {list : List Char} {params : List String} :
    Declares list params ↔ (splitParameters list).map String.ofList = params := by
  have hparams : ∀ texts : List (List Char),
      params.map String.toList = texts ↔ texts.map String.ofList = params := by
    intro texts
    constructor
    · rintro rfl
      simp
    · rintro rfl
      simp
  have hfilter : ∀ cores : List (List Char),
      cores.filter (· ≠ []) = cores.filter (!·.isEmpty) := fun cores =>
    List.filter_congr fun core _ => by cases core <;> rfl
  constructor
  · intro h
    obtain ⟨parts, cores, hne, hparts, hlist, hcores, hshown⟩ := h
    rw [splitParameters, Text.splitOn_eq_iff.2 ⟨hne, hparts, hlist⟩, forall₂_trims_iff.1 hcores,
      ← hfilter]
    exact (hparams _).1 hshown
  · intro h
    obtain ⟨hne, hparts, hlist⟩ := Text.splitOn_eq_iff.1 (rfl : list.splitOn ',' = _)
    refine ⟨_, _, hne, hparts, hlist, forall₂_trims_iff.2 rfl, ?_⟩
    rw [hfilter]
    exact (hparams _).2 h

/-! ## The header -/

theorem isLayout_iff {c : Char} : Text.isLayout c = true ↔ c ∈ [' ', '\t', '\n', '\r'] := by
  simp [Text.isLayout, or_assoc]

theorem isHeaderName_iff {c : Char} :
    isHeaderName c = true ↔ Text.isLetterOrNumeral c = true ∨ c = '_' ∨ c = '$' := by
  simp [isHeaderName, or_assoc]

theorem isHeaderList_iff {c : Char} : isHeaderList c = true ↔ c ∉ [')', '\n', '\r'] := by
  simp [isHeaderList, Text.isLineBreak]

theorem isHeaderName_of_isLayout {c : Char} (h : Text.isLayout c = true) :
    isHeaderName c = false := by
  have hlayout : [' ', '\t', '\n', '\r'].any isHeaderName = false := by decide
  exact Bool.eq_false_iff.2 (List.any_eq_false.1 hlayout c (isLayout_iff.1 h))

/-- Behind blanks, name and blanks the reader is at the parenthesis, also if there
is no name and so nothing that keeps the blanks apart. -/
theorem dropWhile_header {gap name gap' : List Char} (rest : List Char)
    (hgap : ∀ c ∈ gap, Text.isLayout c = true) (hname : ∀ c ∈ name, isHeaderName c = true)
    (hgap' : ∀ c ∈ gap', Text.isLayout c = true) :
    (((gap ++ (name ++ (gap' ++ '(' :: rest))).dropWhile Text.isLayout).dropWhile
      isHeaderName).dropWhile Text.isLayout = '(' :: rest := by
  have hopen : Text.isLayout '(' = false := by decide
  have hopen' : isHeaderName '(' = false := by decide
  cases name with
  | nil =>
      -- The gaps are one run here, and nothing is left for the two runs after it.
      have hgaps : (gap ++ ([] ++ (gap' ++ '(' :: rest))).dropWhile Text.isLayout =
          '(' :: rest := by
        rw [List.nil_append, ← List.append_assoc]
        exact Text.dropWhile_append_of_head? (List.forall_mem_append.2 ⟨hgap, hgap'⟩)
          (by simp [hopen])
      rw [hgaps, List.dropWhile_cons_of_neg (by simp [hopen']),
        List.dropWhile_cons_of_neg (by simp [hopen])]
  | cons first name =>
      -- Each run ends where the next one starts, as no character fits both.
      have hfirst : Text.isLayout first = false := by
        refine Bool.eq_false_iff.2 fun hlayout => ?_
        have hname := hname first List.mem_cons_self
        rw [isHeaderName_of_isLayout hlayout] at hname
        cases hname
      have hnext : ∀ c ∈ (gap' ++ '(' :: rest).head?, isHeaderName c = false := by
        cases gap' with
        | nil => simp [hopen']
        | cons blank gap' =>
            simpa using isHeaderName_of_isLayout (hgap' blank List.mem_cons_self)
      rw [Text.dropWhile_append_of_head? hgap (by simp [hfirst]),
        Text.dropWhile_append_of_head? hname hnext,
        Text.dropWhile_append_of_head? hgap' (by simp [hopen])]

theorem headsAt_of_headerList? {cs list : List Char} (h : headerList? cs = some list) :
    HeadsAt list cs := by
  have hrun : ∀ (p : Char → Bool) (cs : List Char), ∀ c ∈ cs.takeWhile p, p c = true :=
    fun _ _ => List.all_eq_true.1 List.all_takeWhile
  rw [headerList?] at h
  split at h
  · cases h
  · next afterWord hword =>
      obtain ⟨afterGap, hgap⟩ : ∃ afterGap, afterGap = afterWord.dropWhile Text.isLayout := ⟨_, rfl⟩
      obtain ⟨afterName, hname⟩ : ∃ afterName, afterName = afterGap.dropWhile isHeaderName :=
        ⟨_, rfl⟩
      rw [← hgap, ← hname] at h
      dsimp only at h
      split at h
      · next inside hopen =>
          split at h
          · next rest hclose =>
              cases h
              refine ⟨afterWord.takeWhile Text.isLayout, afterGap.takeWhile isHeaderName,
                afterName.takeWhile Text.isLayout, rest, fun c hc => isLayout_iff.1 (hrun _ _ c hc),
                fun c hc => isHeaderName_iff.1 (hrun _ _ c hc),
                fun c hc => isLayout_iff.1 (hrun _ _ c hc),
                fun c hc => isHeaderList_iff.1 (hrun _ _ c hc), ?_⟩
              rw [← hclose, List.takeWhile_append_dropWhile, ← hopen,
                List.takeWhile_append_dropWhile, hname, List.takeWhile_append_dropWhile, hgap,
                List.takeWhile_append_dropWhile]
              exact (List.isPrefixOf?_eq_some_iff_append_eq.1 hword).symm
          · cases h
      · cases h

theorem headerList?_eq_some_iff (cs list : List Char) :
    headerList? cs = some list ↔ HeadsAt list cs := by
  refine ⟨headsAt_of_headerList?, fun h => ?_⟩
  obtain ⟨gap, name, gap', rest, hgap, hname, hgap', hlist, rfl⟩ := h
  have hword : ∀ behind, functionWord.isPrefixOf? ("function".toList ++ behind) = some behind :=
    fun _ => List.isPrefixOf?_eq_some_iff_append_eq.2 rfl
  have hopen := dropWhile_header (list ++ ')' :: rest) (fun c hc => isLayout_iff.2 (hgap c hc))
    (fun c hc => isHeaderName_iff.2 (hname c hc)) fun c hc => isLayout_iff.2 (hgap' c hc)
  have hrun : ∀ c ∈ list, isHeaderList c = true := fun c hc => isHeaderList_iff.2 (hlist c hc)
  have hend : ∀ c ∈ (')' :: rest).head?, isHeaderList c = false := by simp [isHeaderList]
  have hclose := Text.dropWhile_append_of_head? hrun hend
  have hread := Text.takeWhile_append_of_head? hrun hend
  simp only [headerList?, hword, hopen, hclose, hread]

theorem headerList?_eq_none {cs : List Char} (h : ¬ functionWord <+: cs) :
    headerList? cs = none := by
  refine (Text.eq_none_iff_of_read headerList?_eq_some_iff cs).2 fun list hheads => h ?_
  obtain ⟨_, _, _, _, _, _, _, _, rfl⟩ := hheads
  exact List.prefix_append functionWord _

/-- The reader finds parameters exactly if a header stands anywhere in the source
text, and then they are those of the leftmost. -/
theorem parameters?_reads (source : String) :
    ((parameters? source).isSome = true ↔
      ∃ before list, Text.Stands HeadsAt source.toList before list) ∧
    ∀ params, parameters? source = some params ↔
      ∃ before list, Text.StandsFirst HeadsAt source.toList before list ∧ Declares list params := by
  rw [parameters?, Text.findSome?_occurrences (by decide) (by decide) fun _ => headerList?_eq_none,
    Option.isSome_map]
  refine ⟨Text.isSome_findSome?_tails_iff headerList?_eq_some_iff, fun params => ?_⟩
  simp only [Option.map_eq_some_iff, declares_iff,
    Text.findSome?_tails_eq_some_iff_standsFirst headerList?_eq_some_iff]
  constructor
  · intro h
    obtain ⟨list, ⟨before, hfirst⟩, hparams⟩ := h
    exact ⟨before, list, hfirst, hparams⟩
  · intro h
    obtain ⟨before, list, hfirst, hparams⟩ := h
    exact ⟨list, ⟨before, hfirst⟩, hparams⟩

-- The first word goes on without a parenthesis, and the name takes no blank.
example : parameters? "functional = function g\n(a, , b )" = some ["a", "b"] := by cbv

end ClassDiagram.Source
