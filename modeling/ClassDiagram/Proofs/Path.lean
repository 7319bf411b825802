import ClassDiagram.Name
import Mathlib.Data.List.Basic

/-!
# A path is read back as its segments

A name is a text, and two names are the same if their texts are. So what keeps
the names of different values apart is that the text of a path determines the
segments it was built from. It does because no segment holds a dot: cutting the
text at its dots gives the segments back, in order, and `ofPath_inj` is that.

A synthesized name is a word and digits. It holds no dot, while a path of at
least one key does, so the two kinds of name never meet
(`ofPath_ne_anonymous`); and the digits determine the number
(`anonymous_inj`). The test `isAnonymous` reads no more than the text, and the
dot is what it tells the two kinds of name apart by.
-/

namespace ClassDiagram.QualifiedName

theorem toList_foldl_child (path : List String) : ∀ name : QualifiedName,
    (path.foldl child name).text.toList =
      name.text.toList ++ path.flatMap fun key => '.' :: key.toList := by
  induction path with
  | nil =>
      intro name
      simp
  | cons key path ih =>
      intro name
      rw [List.foldl_cons, ih, child]
      simp

/-- The text of a path is its segments with dots between them. -/
theorem toList_ofPath (first : String) (path : List String) :
    (ofPath first path).text.toList =
      ['.'].intercalate ((first :: path).map String.toList) := by
  rw [ofPath, toList_foldl_child]
  induction path generalizing first with
  | nil => simp
  | cons key path ih =>
      have htail := ih key
      rw [List.map_cons, List.map_cons, List.intercalate_cons_cons, ← List.map_cons, ← htail]
      simp

/-- Cutting the text of a path at its dots gives the segments. -/
theorem splitOn_toList_ofPath {first : String} {path : List String} (hfirst : IsSegment first)
    (hpath : ∀ key ∈ path, IsSegment key) :
    (ofPath first path).text.toList.splitOn '.' = (first :: path).map String.toList := by
  rw [toList_ofPath]
  refine List.splitOn_intercalate '.' (fun segment hmem => ?_) (by simp)
  obtain ⟨key, hkey, rfl⟩ := List.mem_map.1 hmem
  rcases List.mem_cons.1 hkey with rfl | hkey
  · exact hfirst.2.1
  · exact (hpath key hkey).2.1

/-- The segments of a path are determined by its text. -/
theorem ofPath_inj {first other : String} {path keys : List String} (hfirst : IsSegment first)
    (hpath : ∀ key ∈ path, IsSegment key) (hother : IsSegment other)
    (hkeys : ∀ key ∈ keys, IsSegment key) (h : ofPath first path = ofPath other keys) :
    first = other ∧ path = keys := by
  have hsplit : (first :: path).map String.toList = (other :: keys).map String.toList := by
    rw [← splitOn_toList_ofPath hfirst hpath, ← splitOn_toList_ofPath hother hkeys, h]
  have hcons : first :: path = other :: keys :=
    (List.map_inj_right fun _ _ => String.toList_inj.1).1 hsplit
  exact ⟨(List.cons.inj hcons).1, (List.cons.inj hcons).2⟩

theorem toList_anonymous (number : Nat) :
    (anonymous number).text.toList = anonymousWord.toList ++ Nat.toDigits 10 number := by
  rw [anonymous, String.toList_append, Nat.toString_eq_repr, Nat.toList_repr]

/-- A synthesized name determines its number. -/
theorem anonymous_inj {first second : Nat} (h : anonymous first = anonymous second) :
    first = second := by
  have hdigits : Nat.toDigits 10 first = Nat.toDigits 10 second := by
    have hlist : anonymousWord.toList ++ Nat.toDigits 10 first =
        anonymousWord.toList ++ Nat.toDigits 10 second := by
      rw [← toList_anonymous, ← toList_anonymous, h]
    exact List.append_cancel_left hlist
  rw [← Nat.ofDigitChars_ten_toDigits (n := first), hdigits, Nat.ofDigitChars_ten_toDigits]

theorem dot_not_mem_anonymous (number : Nat) : '.' ∉ (anonymous number).text.toList := by
  rw [toList_anonymous, List.mem_append, not_or]
  refine ⟨by decide, fun hmem => ?_⟩
  have hdigit := Nat.isDigit_of_mem_toDigits (by omega) (by omega) hmem
  exact absurd hdigit (by decide)

theorem dot_mem_ofPath (first : String) {path : List String} (hpath : path ≠ []) :
    '.' ∈ (ofPath first path).text.toList := by
  rw [ofPath, toList_foldl_child]
  cases path with
  | nil => exact absurd rfl hpath
  | cons key path => simp

/-- A path of at least one key is no synthesized name. -/
theorem ofPath_ne_anonymous (first : String) {path : List String} (hpath : path ≠ [])
    (number : Nat) : ofPath first path ≠ anonymous number := by
  intro h
  have hdot := dot_mem_ofPath first hpath
  rw [h] at hdot
  exact dot_not_mem_anonymous number hdot

/-! ## The form of a synthesized name -/

theorem isAnonymous_iff {name : QualifiedName} :
    name.isAnonymous = true ↔ ∃ digits, digits ≠ [] ∧ (∀ c ∈ digits, c.isDigit = true) ∧
      name.text.toList = anonymousWord.toList ++ digits := by
  rw [isAnonymous]
  constructor
  · intro h
    split at h
    · next digit digits hprefix =>
        refine ⟨digit :: digits, List.cons_ne_nil _ _, List.all_eq_true.1 h, ?_⟩
        exact (List.isPrefixOf?_eq_some_iff_append_eq.1 hprefix).symm
    · cases h
  · rintro ⟨digits, hne, hdigits, htext⟩
    obtain ⟨digit, rest, rfl⟩ := List.exists_cons_of_ne_nil hne
    rw [List.isPrefixOf?_eq_some_iff_append_eq.2 htext.symm]
    exact List.all_eq_true.2 hdigits

theorem isAnonymous_anonymous (number : Nat) : (anonymous number).isAnonymous = true :=
  isAnonymous_iff.2 ⟨Nat.toDigits 10 number, Nat.toDigits_ne_nil,
    fun _ hc => Nat.isDigit_of_mem_toDigits (by omega) (by omega) hc, toList_anonymous number⟩

/-- A path of at least one key is not taken for a synthesized name, whatever
its scope and keys are called. -/
theorem isAnonymous_ofPath (first : String) {path : List String} (hpath : path ≠ []) :
    (ofPath first path).isAnonymous = false := by
  refine Bool.eq_false_iff.2 fun h => ?_
  obtain ⟨digits, _, hdigits, htext⟩ := isAnonymous_iff.1 h
  have hdot := dot_mem_ofPath first hpath
  rw [htext, List.mem_append] at hdot
  rcases hdot with hword | hdigit
  · exact absurd hword (by decide)
  · exact absurd (hdigits _ hdigit) (by decide)

end ClassDiagram.QualifiedName
