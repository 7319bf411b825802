import ClassDiagram.Name
import ClassDiagram.Text.Identifier
import Mathlib.Data.List.Basic

/-!
# Texts that can be taken apart

Printing joins pieces and puts something between them. The pieces can be had
back if what stands between them starts with a character that none of them
contains: the first such character ends the first piece (`append_cons_inj`).
What can be had back from the front of a text can be had back block after block
(`flatMap_append_inj`), from the lines of a text down to the parameters of a
callable (`ended_inj`, `intercalate_inj`).

For names the condition comes for free. An identifier consists of letters,
numerals, underscores and dollar signs, and a path of identifiers has dots
besides; none of these is used for punctuation.
-/

namespace ClassDiagram

namespace Text

/-- A piece is determined if the text ends behind it or goes on with something
that it does not contain. -/
theorem append_inj_of_head? {α : Type} {a : α} {xs ys zs ws : List α} (hxs : a ∉ xs) (hys : a ∉ ys)
    (hzs : ∀ b ∈ zs.head?, b = a) (hws : ∀ b ∈ ws.head?, b = a) (h : xs ++ zs = ys ++ ws) :
    xs = ys ∧ zs = ws := by
  induction xs generalizing ys with
  | nil =>
      cases ys with
      | nil => exact ⟨rfl, h⟩
      | cons y ys =>
          have hzs' : zs = y :: (ys ++ ws) := h
          exact absurd (hzs y (by simp [hzs'])).symm (List.ne_of_not_mem_cons hys)
  | cons x xs ih =>
      cases ys with
      | nil =>
          have hws' : ws = x :: (xs ++ zs) := h.symm
          exact absurd (hws x (by simp [hws'])).symm (List.ne_of_not_mem_cons hxs)
      | cons y ys =>
          obtain ⟨rfl, hrest⟩ := List.cons.inj h
          obtain ⟨rfl, rfl⟩ := ih (List.not_mem_of_not_mem_cons hxs)
            (List.not_mem_of_not_mem_cons hys) hrest
          exact ⟨rfl, rfl⟩

/-- The first occurrence of a separator is determined. -/
theorem append_cons_inj {α : Type} {a : α} {xs ys zs ws : List α} (hxs : a ∉ xs) (hys : a ∉ ys)
    (h : xs ++ a :: zs = ys ++ a :: ws) : xs = ys ∧ zs = ws := by
  obtain ⟨hpiece, hrest⟩ := append_inj_of_head? hxs hys (by simp) (by simp) h
  exact ⟨hpiece, (List.cons.inj hrest).2⟩

/-- Blocks that stand one after the other can be had back if each can be had back
from the front of a text, and if what follows the last starts with no block. -/
theorem flatMap_append_inj {α β γ : Type} {p : α → Prop} {s : List β → Prop} {f : α → List β}
    {g : α → γ}
    (hblock : ∀ a b, p a → p b → ∀ rest rest', f a ++ rest = f b ++ rest' →
      g a = g b ∧ rest = rest')
    (hstop : ∀ a rest, ¬ s (f a ++ rest)) :
    ∀ {l m : List α} {rest rest' : List β}, (∀ a ∈ l, p a) → (∀ a ∈ m, p a) → s rest → s rest' →
      l.flatMap f ++ rest = m.flatMap f ++ rest' → l.map g = m.map g ∧ rest = rest' := by
  intro l
  induction l with
  | nil =>
      intro m rest rest' _ _ hrest _ h
      cases m with
      | nil => exact ⟨rfl, h⟩
      | cons b m =>
          rw [List.flatMap_nil, List.nil_append, List.flatMap_cons, List.append_assoc] at h
          exact absurd (h ▸ hrest) (hstop b _)
  | cons a l ih =>
      intro m rest rest' hl hm hrest hrest' h
      cases m with
      | nil =>
          rw [List.flatMap_nil, List.nil_append, List.flatMap_cons, List.append_assoc] at h
          exact absurd (h ▸ hrest') (hstop a _)
      | cons b m =>
          obtain ⟨ha, hl⟩ := List.forall_mem_cons.1 hl
          obtain ⟨hb, hm⟩ := List.forall_mem_cons.1 hm
          rw [List.flatMap_cons, List.flatMap_cons, List.append_assoc, List.append_assoc] at h
          obtain ⟨hhead, h⟩ := hblock a b ha hb _ _ h
          obtain ⟨htail, hrest⟩ := ih hl hm hrest hrest' h
          exact ⟨by rw [List.map_cons, List.map_cons, hhead, htail], hrest⟩

/-- What can be had back from the image of each element can be had back from the
list of the images. -/
theorem map_eq_map_of {α β γ : Type} {p : α → Prop} {f : α → β} {g : α → γ}
    (hfg : ∀ a b, p a → p b → f a = f b → g a = g b) {l m : List α} (hl : ∀ a ∈ l, p a)
    (hm : ∀ a ∈ m, p a) (h : l.map f = m.map f) : l.map g = m.map g := by
  refine (flatMap_append_inj (s := (· = [])) (f := fun a => [f a]) (fun a b ha hb _ _ hab => ?_)
    (fun a rest => List.cons_ne_nil _ _) hl hm rfl rfl ?_).1
  · exact ⟨hfg a b ha hb (List.cons.inj hab).1, (List.cons.inj hab).2⟩
  · rw [← List.map_eq_flatMap, ← List.map_eq_flatMap, h]

theorem map_inj_of {α β : Type} {p : α → Prop} {f : α → β}
    (hf : ∀ a b, p a → p b → f a = f b → a = b) {l m : List α} (hl : ∀ a ∈ l, p a)
    (hm : ∀ a ∈ m, p a) (h : l.map f = m.map f) : l = m := by
  have hmap := map_eq_map_of (g := id) hf hl hm h
  rwa [List.map_id, List.map_id] at hmap

/-- Images that say the same of each pair of elements say the same of two lists. -/
theorem map_eq_iff_map_eq {α β γ : Type} {f : α → β} {g : α → γ}
    (hfg : ∀ a b, f a = f b ↔ g a = g b) {l m : List α} : l.map f = m.map f ↔ l.map g = m.map g :=
  ⟨map_eq_map_of (p := fun _ => True) (fun a b _ _ => (hfg a b).1) (fun _ _ => trivial)
      fun _ _ => trivial,
    map_eq_map_of (p := fun _ => True) (fun a b _ _ => (hfg a b).2) (fun _ _ => trivial)
      fun _ _ => trivial⟩

section Pieces

variable {first : Char} {rest : List Char}

/-- Pieces can be had back if something follows each of them that starts with a
character that they do not contain. -/
theorem terminated_inj {pieces others : List (List Char)}
    (hpieces : ∀ piece ∈ pieces, first ∉ piece) (hothers : ∀ piece ∈ others, first ∉ piece)
    (h : pieces.flatMap (· ++ first :: rest) = others.flatMap (· ++ first :: rest)) :
    pieces = others := by
  have hpiece : ∀ piece other, first ∉ piece → first ∉ other → ∀ behind behind',
      (piece ++ first :: rest) ++ behind = (other ++ first :: rest) ++ behind' →
      id piece = id other ∧ behind = behind' := by
    intro piece other hpiece hother behind behind' h
    rw [List.append_assoc, List.append_assoc] at h
    obtain ⟨hpiece, hbehind⟩ := append_cons_inj hpiece hother h
    exact ⟨hpiece, List.append_cancel_left hbehind⟩
  have hmap := flatMap_append_inj (s := (· = [])) hpiece (by simp) hpieces hothers rfl rfl
    (by rw [List.append_nil, List.append_nil, h])
  rw [List.map_id, List.map_id] at hmap
  exact hmap.1

theorem intercalate_cons (separator piece : List Char) (pieces : List (List Char)) :
    separator.intercalate (piece :: pieces) = piece ++ pieces.flatMap (separator ++ ·) := by
  induction pieces generalizing piece with
  | nil => simp
  | cons next pieces ih =>
      rw [List.intercalate_cons_cons, ih, List.flatMap_cons]
      simp

theorem intercalate_append_separator (separator : List Char) {pieces : List (List Char)}
    (h : pieces ≠ []) :
    separator.intercalate pieces ++ separator = pieces.flatMap (· ++ separator) := by
  induction pieces with
  | nil => exact absurd rfl h
  | cons piece pieces ih =>
      cases pieces with
      | nil => simp
      | cons next pieces =>
          rw [List.intercalate_cons_cons, List.append_assoc, ih (List.cons_ne_nil _ _)]
          rfl

/-- Pieces that are not empty can be had back from the text in which they are
joined. -/
theorem intercalate_inj {pieces others : List (List Char)}
    (hpieces : ∀ piece ∈ pieces, piece ≠ [] ∧ first ∉ piece)
    (hothers : ∀ piece ∈ others, piece ≠ [] ∧ first ∉ piece)
    (h : (first :: rest).intercalate pieces = (first :: rest).intercalate others) :
    pieces = others := by
  have hnil : ∀ {pieces : List (List Char)}, (∀ piece ∈ pieces, piece ≠ [] ∧ first ∉ piece) →
      (first :: rest).intercalate pieces = [] → pieces = [] := by
    intro pieces hpieces h
    cases pieces with
    | nil => rfl
    | cons piece pieces =>
        rw [intercalate_cons] at h
        exact absurd (List.append_eq_nil_iff.1 h).1 (hpieces piece List.mem_cons_self).1
  by_cases hempty : pieces = []
  · subst hempty
    exact (hnil hothers h.symm).symm
  · have hother : others ≠ [] := by
      rintro rfl
      exact hempty (hnil hpieces h)
    have hseparated := congrArg (· ++ first :: rest) h
    rw [intercalate_append_separator _ hempty, intercalate_append_separator _ hother] at hseparated
    exact terminated_inj (fun p hp => (hpieces p hp).2) (fun p hp => (hothers p hp).2) hseparated

end Pieces

theorem mem_intercalate {c : Char} {separator : List Char} {pieces : List (List Char)}
    (h : c ∈ separator.intercalate pieces) : c ∈ separator ∨ ∃ piece ∈ pieces, c ∈ piece := by
  cases pieces with
  | nil => simp at h
  | cons piece pieces =>
      rw [intercalate_cons, List.mem_append, List.mem_flatMap] at h
      rcases h with h | ⟨other, hother, h⟩
      · exact .inr ⟨piece, List.mem_cons_self, h⟩
      · exact (List.mem_append.1 h).imp_right fun h => ⟨other, List.mem_cons_of_mem _ hother, h⟩

/-- Each line with its end. -/
def ended (lines : List String) : String := String.join (lines.map (· ++ "\n"))

theorem toList_ended (lines : List String) :
    (ended lines).toList = lines.flatMap fun line => line.toList ++ ['\n'] := by
  simp [ended, List.flatMap_map]

theorem ended_inj {lines others : List String} (hlines : ∀ line ∈ lines, '\n' ∉ line.toList)
    (hothers : ∀ line ∈ others, '\n' ∉ line.toList)
    (h : (ended lines).toList = (ended others).toList) : lines = others := by
  have htexts : (lines.map String.toList).flatMap (· ++ ['\n']) =
      (others.map String.toList).flatMap (· ++ ['\n']) := by
    rw [List.flatMap_map, List.flatMap_map, ← toList_ended, ← toList_ended, h]
  exact List.map_injective_iff.2 (fun _ _ => String.toList_inj.1)
    (terminated_inj (List.forall_mem_map.2 hlines) (List.forall_mem_map.2 hothers) htexts)

/-! ## Names without punctuation -/

/-- The characters that stand between names. -/
def punctuation : List Char := [' ', '\n', '(', ')', ',', '\x7b', '\x7d']

theorem not_mem_of_isIdentifier {cs : List Char} (h : isIdentifier cs = true) :
    ∀ c ∈ punctuation, c ∉ cs := by
  have hpunctuation : punctuation.any isIdentifierRest = false := by decide
  have hall : ∀ c ∈ cs, isIdentifierRest c = true := by
    cases cs with
    | nil => cases h
    | cons first cs =>
        rw [isIdentifier, Bool.and_eq_true, List.all_eq_true] at h
        exact List.forall_mem_cons.2 ⟨isIdentifierRest_of_isIdentifierStart h.1, h.2⟩
  intro c hc hmem
  exact List.any_eq_false.1 hpunctuation c hc (hall c hmem)

theorem ne_nil_of_isIdentifier {cs : List Char} (h : isIdentifier cs = true) : cs ≠ [] := by
  rintro rfl
  cases h

end Text

/-- The name is a path of identifiers. -/
def QualifiedName.IsPath (name : QualifiedName) : Prop :=
  ∃ segments : List (List Char), segments ≠ [] ∧
    (∀ segment ∈ segments, Text.isIdentifier segment = true) ∧
    name.text.toList = ['.'].intercalate segments

theorem QualifiedName.IsPath.not_mem {name : QualifiedName} (h : name.IsPath) :
    ∀ c ∈ Text.punctuation, c ∉ name.text.toList := by
  obtain ⟨segments, _, hsegments, htext⟩ := h
  intro c hc hmem
  rw [htext] at hmem
  rcases Text.mem_intercalate hmem with hdot | ⟨segment, hsegment, hmem⟩
  · rw [List.mem_singleton.1 hdot] at hc
    exact absurd hc (by decide)
  · exact Text.not_mem_of_isIdentifier (hsegments segment hsegment) c hc hmem

end ClassDiagram
