import ClassDiagram.Text.Blank
import ClassDiagram.Text.Occurrence
import Mathlib.Data.List.Forall2
import Mathlib.Data.List.Infix

/-!
# What the readers of source text have in common

A reader takes the longest run of some characters, or looks for the places where
a keyword occurs, or trims what it has found. Here each of these is said without
the way in which it is computed.

The search for a keyword goes on behind an occurrence, so it could miss one that
overlaps. It does not, if no end of the keyword is also its start: then to try
something at each occurrence is to try it at each position
(`findSome?_occurrences`), and what is found is what there is at the leftmost
position (`findSome?_tails_eq_some_iff`). If at each position a reader finds just
what a grammar has there, the whole search finds the leftmost of all that the
grammar has (`findSome?_tails_eq_some_iff_standsFirst`).
-/

namespace ClassDiagram.Text

/-! ## Runs -/

section Runs

variable {p : Char → Bool} {run rest : List Char}

theorem head?_dropWhile (p : Char → Bool) (cs : List Char) :
    ∀ c ∈ (cs.dropWhile p).head?, p c = false := by
  intro c hc
  have h := List.head?_dropWhile_not p cs
  rw [Option.mem_def.1 hc] at h
  exact h

theorem dropWhile_append_of_head? (hrun : ∀ c ∈ run, p c = true)
    (hrest : ∀ c ∈ rest.head?, p c = false) : (run ++ rest).dropWhile p = rest := by
  rw [List.dropWhile_append_of_pos hrun]
  cases rest with
  | nil => rfl
  | cons c rest => exact List.dropWhile_cons_of_neg (by simp [hrest c rfl])

theorem takeWhile_append_of_head? (hrun : ∀ c ∈ run, p c = true)
    (hrest : ∀ c ∈ rest.head?, p c = false) : (run ++ rest).takeWhile p = run := by
  rw [List.takeWhile_append_of_pos hrun]
  cases rest with
  | nil => exact List.append_nil run
  | cons c rest => rw [List.takeWhile_cons_of_neg (by simp [hrest c rfl]), List.append_nil]

end Runs

/-! ## Trimming -/

/-- The text is the core between blanks, and the core neither starts nor ends
with a blank. -/
structure Trims (cs core : List Char) : Prop where
  split : ∃ before after, cs = before ++ (core ++ after) ∧
    (∀ c ∈ before, isBlank c = true) ∧ ∀ c ∈ after, isBlank c = true
  first : ∀ c ∈ core.head?, isBlank c = false
  last : ∀ c ∈ core.getLast?, isBlank c = false

theorem Trims.append {cs core blanks : List Char} (h : Trims cs core)
    (hblanks : ∀ c ∈ blanks, isBlank c = true) : Trims (cs ++ blanks) core := by
  obtain ⟨before, after, rfl, hbefore, hafter⟩ := h.split
  exact ⟨⟨before, after ++ blanks, by simp, hbefore, List.forall_mem_append.2 ⟨hafter, hblanks⟩⟩,
    h.first, h.last⟩

theorem trims_trim (cs : List Char) : Trims cs (trim cs) := by
  obtain ⟨tail, htail⟩ : ∃ tail, tail = cs.dropWhile isBlank := ⟨_, rfl⟩
  have hend : tail = trimEnd tail ++ (tail.reverse.takeWhile isBlank).reverse := by
    rw [trimEnd, ← List.reverse_append, List.takeWhile_append_dropWhile, List.reverse_reverse]
  rw [trim, ← htail]
  refine ⟨⟨cs.takeWhile isBlank, (tail.reverse.takeWhile isBlank).reverse, ?_, ?_, ?_⟩, ?_, ?_⟩
  · rw [← hend, htail, List.takeWhile_append_dropWhile]
  · exact List.all_eq_true.1 List.all_takeWhile
  · exact fun c hc => List.all_eq_true.1 List.all_takeWhile c (List.mem_reverse.1 hc)
  · intro c hc
    refine head?_dropWhile isBlank cs c ?_
    rw [← htail, hend, List.head?_append, Option.mem_def.1 hc]
    rfl
  · rw [trimEnd, List.getLast?_reverse]
    exact head?_dropWhile isBlank tail.reverse

theorem Trims.trim_eq {cs core : List Char} (h : Trims cs core) : trim cs = core := by
  obtain ⟨before, after, rfl, hbefore, hafter⟩ := h.split
  rw [trim, trimEnd]
  cases core with
  | nil =>
      have hblank : ∀ c ∈ before ++ after, isBlank c = true :=
        List.forall_mem_append.2 ⟨hbefore, hafter⟩
      have hnil : (before ++ after ++ []).dropWhile isBlank = [] :=
        dropWhile_append_of_head? hblank nofun
      rw [List.append_nil] at hnil
      rw [List.nil_append, hnil]
      rfl
  | cons c core =>
      rw [dropWhile_append_of_head? hbefore (by simpa using h.first), List.reverse_append,
        dropWhile_append_of_head? (by simpa using hafter) (List.head?_reverse ▸ h.last),
        List.reverse_reverse]

theorem trim_eq_iff {cs core : List Char} : trim cs = core ↔ Trims cs core :=
  ⟨fun h => h ▸ trims_trim cs, Trims.trim_eq⟩

/-! ## Parts -/

/-- What is shown part by part, if it is determined for each part, is determined for
all of them. -/
theorem forall₂_iff_map_eq {α β : Type} {R : α → β → Prop} {f : α → β}
    (h : ∀ a b, R a b ↔ f a = b) {parts : List α} {shown : List β} :
    List.Forall₂ R parts shown ↔ parts.map f = shown := by
  have hall := congrFun₂ List.forall₂_eq_eq_eq (parts.map f) shown
  rw [← hall, List.forall₂_map_left_iff]
  simp only [← h]

theorem not_of_mem_splitOnP {p : Char → Bool} {cs : List Char} :
    ∀ part ∈ cs.splitOnP p, ∀ c ∈ part, p c = false := by
  induction cs with
  | nil =>
      intro part hpart c hc
      rw [List.splitOnP_nil, List.mem_singleton] at hpart
      rw [hpart] at hc
      cases hc
  | cons first cs ih =>
      rw [List.splitOnP_cons_eq_if_modifyHead]
      split
      · exact List.forall_mem_cons.2 ⟨nofun, ih⟩
      · next hfirst =>
          obtain ⟨head, tail, hsplit⟩ := List.exists_cons_of_ne_nil (List.splitOnP_ne_nil p cs)
          rw [hsplit, List.forall_mem_cons] at ih
          rw [hsplit, List.modifyHead_cons]
          exact List.forall_mem_cons.2
            ⟨List.forall_mem_cons.2 ⟨Bool.eq_false_iff.2 hfirst, ih.1⟩, ih.2⟩

theorem not_mem_of_mem_splitOn {separator : Char} {cs : List Char} :
    ∀ part ∈ cs.splitOn separator, separator ∉ part := by
  intro part hpart hmem
  rw [List.splitOn_eq_splitOnP] at hpart
  simpa using not_of_mem_splitOnP part hpart separator hmem

/-- A text is split in just one way into parts without the separator. -/
theorem splitOn_eq_iff {separator : Char} {cs : List Char} {parts : List (List Char)} :
    cs.splitOn separator = parts ↔
      parts ≠ [] ∧ (∀ part ∈ parts, separator ∉ part) ∧ cs = [separator].intercalate parts := by
  constructor
  · rintro rfl
    exact ⟨List.splitOn_ne_nil separator cs, not_mem_of_mem_splitOn,
      (List.intercalate_splitOn separator).symm⟩
  · intro h
    obtain ⟨hne, hparts, hcs⟩ := h
    rw [hcs]
    exact List.splitOn_intercalate separator hparts hne

/-! ## The leftmost occurrence -/

section Leftmost

variable {β : Type} {f : List Char → Option β} {cs : List Char}

theorem findSome?_tails_eq_some_iff {found : β} : cs.tails.findSome? f = some found ↔
    ∃ before rest, cs = before ++ rest ∧ f rest = some found ∧
      ∀ shorter other, cs = shorter ++ other → shorter.length < before.length → f other = none := by
  induction cs with
  | nil =>
      rw [List.tails, List.findSome?_singleton]
      constructor
      · exact fun h => ⟨[], [], rfl, h, fun _ _ _ hlt => absurd hlt (Nat.not_lt_zero _)⟩
      · rintro ⟨before, rest, hsplit, h, _⟩
        rwa [(List.append_eq_nil_iff.1 hsplit.symm).2] at h
  | cons c cs ih =>
      rw [List.tails_cons, List.findSome?_cons]
      cases hhere : f (c :: cs) with
      | some other =>
          dsimp only
          constructor
          · exact fun h =>
              ⟨[], c :: cs, rfl, hhere.trans h, fun _ _ _ hlt => absurd hlt (Nat.not_lt_zero _)⟩
          · rintro ⟨before, rest, hsplit, h, hfirst⟩
            cases before with
            | nil => rw [← h, ← List.nil_append rest, ← hsplit, hhere]
            | cons b before =>
                rw [hfirst [] (c :: cs) rfl (Nat.succ_pos _)] at hhere
                cases hhere
      | none =>
          dsimp only
          rw [ih]
          constructor
          · rintro ⟨before, rest, rfl, h, hfirst⟩
            refine ⟨c :: before, rest, rfl, h, fun shorter other hsplit hlt => ?_⟩
            cases shorter with
            | nil => rwa [← List.nil_append other, ← hsplit]
            | cons b shorter =>
                exact hfirst shorter other (List.cons.inj hsplit).2 (Nat.lt_of_succ_lt_succ hlt)
          · rintro ⟨before, rest, hsplit, h, hfirst⟩
            cases before with
            | nil =>
                rw [← List.nil_append rest, ← hsplit, hhere] at h
                cases h
            | cons b before =>
                obtain ⟨rfl, rfl⟩ := List.cons.inj hsplit
                exact ⟨before, rest, rfl, h, fun shorter other hsplit hlt =>
                  hfirst (c :: shorter) other (congrArg (c :: ·) hsplit) (Nat.succ_lt_succ hlt)⟩

theorem findSome?_tails_eq_none_iff : cs.tails.findSome? f = none ↔
    ∀ before rest, cs = before ++ rest → f rest = none := by
  simp only [List.findSome?_eq_none_iff, List.mem_tails]
  constructor
  · rintro h before rest rfl
    exact h rest ⟨before, rfl⟩
  · rintro h rest ⟨before, rfl⟩
    exact h before rest rfl

/-- No end of the text, short of all of it, is also its start. -/
def Unbordered (needle : List Char) : Prop :=
  ∀ n < needle.length, 0 < n → ¬ needle.drop n <+: needle

instance (needle : List Char) : Decidable (Unbordered needle) :=
  inferInstanceAs (Decidable (∀ n < needle.length, 0 < n → ¬ needle.drop n <+: needle))

variable {needle : List Char}

theorem Unbordered.not_prefix_drop (h : Unbordered needle) (hcs : needle <+: cs) {n : Nat}
    (hn : n < needle.length) (hpos : 0 < n) : ¬ needle <+: cs.drop n := by
  intro hdrop
  refine h n hn hpos ?_
  -- Both the end of the needle and the needle itself start what stands there.
  exact List.prefix_of_prefix_length_le (hcs.drop n) hdrop (by simp)

/-- What the occurrences before have taken holds no further occurrence. -/
theorem findSome?_occurrencesFrom (hne : needle ≠ []) (hneedle : Unbordered needle)
    (hf : ∀ cs, ¬ needle <+: cs → f cs = none) (skip : Nat) (cs : List Char)
    (hskip : ∀ n < skip, ¬ needle <+: cs.drop n) :
    (occurrencesFrom needle skip cs).findSome? f = cs.tails.findSome? f := by
  fun_induction occurrencesFrom needle skip cs with
  | case1 skip hempty => exact absurd (List.isEmpty_iff.1 hempty) hne
  | case2 skip =>
      have hnil : f [] = none := hf [] fun h => hne (List.prefix_nil.1 h)
      rw [List.tails, List.findSome?_singleton, hnil]
      rfl
  | case3 skip c cs ih =>
      rw [List.tails_cons, List.findSome?_cons, hf (c :: cs) (hskip 0 (Nat.succ_pos skip))]
      exact ih fun n hn => hskip (n + 1) (Nat.succ_lt_succ hn)
  | case4 c cs hstart ih =>
      rw [List.tails_cons, List.findSome?_cons, List.findSome?_cons, ih]
      intro n hn
      -- What is skipped lies within the occurrence.
      exact hneedle.not_prefix_drop (List.isPrefixOf_iff_prefix.1 hstart)
        (Nat.add_lt_of_lt_sub hn) (Nat.succ_pos n)
  | case5 c cs hstart ih =>
      rw [List.tails_cons, List.findSome?_cons,
        hf (c :: cs) (hstart ∘ List.isPrefixOf_iff_prefix.2)]
      exact ih fun n hn => absurd hn (Nat.not_lt_zero n)

theorem findSome?_occurrences (hne : needle ≠ []) (hneedle : Unbordered needle)
    (hf : ∀ cs, ¬ needle <+: cs → f cs = none) (cs : List Char) :
    (occurrences needle cs).findSome? f = cs.tails.findSome? f :=
  findSome?_occurrencesFrom hne hneedle hf 0 cs (fun _ h => absurd h (Nat.not_lt_zero _))

end Leftmost

/-! ## What a grammar has in a text -/

section Grammar

variable {β : Type} {At : β → List Char → Prop} {f : List Char → Option β} {cs : List Char}

/-- The grammar has this behind the characters `before`. -/
def Stands (At : β → List Char → Prop) (cs before : List Char) (found : β) : Prop :=
  ∃ rest, cs = before ++ rest ∧ At found rest

/-- It has nothing farther to the left. -/
def StandsFirst (At : β → List Char → Prop) (cs before : List Char) (found : β) : Prop :=
  Stands At cs before found ∧
    ∀ before' found', Stands At cs before' found' → before.length ≤ before'.length

theorem leftmost_iff_of_none (hnone : ∀ cs, f cs = none ↔ ∀ found, ¬ At found cs)
    {before : List Char} :
    (∀ shorter rest, cs = shorter ++ rest → shorter.length < before.length → f rest = none) ↔
      ∀ before' found', Stands At cs before' found' → before.length ≤ before'.length := by
  constructor
  · intro h before' found' hstands
    obtain ⟨rest, hsplit, hat⟩ := hstands
    exact Nat.le_of_not_lt fun hlt => (hnone rest).1 (h before' rest hsplit hlt) found' hat
  · intro h shorter rest hsplit hlt
    exact (hnone rest).2 fun found hat =>
      absurd (h shorter found ⟨rest, hsplit, hat⟩) (Nat.not_le_of_lt hlt)

variable (hread : ∀ cs found, f cs = some found ↔ At found cs)

include hread

theorem eq_none_iff_of_read (cs : List Char) : f cs = none ↔ ∀ found, ¬ At found cs :=
  Option.eq_none_iff_forall_ne_some.trans (forall_congr' fun found => not_congr (hread cs found))

theorem findSome?_tails_eq_some_iff_standsFirst {found : β} :
    cs.tails.findSome? f = some found ↔ ∃ before, StandsFirst At cs before found := by
  have hnone := eq_none_iff_of_read hread
  rw [findSome?_tails_eq_some_iff]
  constructor
  · intro h
    obtain ⟨before, rest, hsplit, hrest, hfirst⟩ := h
    exact ⟨before, ⟨rest, hsplit, (hread rest found).1 hrest⟩,
      (leftmost_iff_of_none hnone).1 hfirst⟩
  · intro h
    obtain ⟨before, ⟨rest, hsplit, hat⟩, hfirst⟩ := h
    exact ⟨before, rest, hsplit, (hread rest found).2 hat,
      (leftmost_iff_of_none hnone).2 hfirst⟩

theorem isSome_findSome?_tails_iff :
    (cs.tails.findSome? f).isSome = true ↔ ∃ before found, Stands At cs before found := by
  constructor
  · intro h
    obtain ⟨found, hfound⟩ := Option.isSome_iff_exists.1 h
    obtain ⟨before, hstands, _⟩ := (findSome?_tails_eq_some_iff_standsFirst hread).1 hfound
    exact ⟨before, found, hstands⟩
  · intro h
    obtain ⟨before, found, rest, hsplit, hat⟩ := h
    refine Option.isSome_iff_ne_none.2 fun hnone => ?_
    have hrest := findSome?_tails_eq_none_iff.1 hnone before rest hsplit
    exact (eq_none_iff_of_read hread rest).1 hrest found hat

end Grammar

end ClassDiagram.Text
