/-!
# Small letters and capitals

Some words are recognised in any mixture of small letters and capitals. A text is
compared with such a word after its ASCII capitals have been made small. `Spells`
says without changing anything which texts are then the word.
-/

namespace ClassDiagram.Text

/-- The text has the letters of the word, each of them as it is or as a capital. -/
inductive Spells : (cs word : List Char) → Prop
  | nil : Spells [] []
  | small {cs word : List Char} (letter : Char) (h : Spells cs word) :
      Spells (letter :: cs) (letter :: word)
  | capital {cs word : List Char} (letter : Char) (h : Spells cs word) :
      Spells (letter.toUpper :: cs) (letter :: word)

theorem toNat_toLower (c : Char) : c.toLower.toNat =
    if 65 ≤ c.toNat ∧ c.toNat ≤ 90 then c.toNat + 32 else c.toNat := by
  by_cases h : 65 ≤ c.toNat ∧ c.toNat ≤ 90
  · have hcapital : c.val ≥ 'A'.val ∧ c.val ≤ 'Z'.val := h
    have hshift : 'a'.val - 'A'.val = 32 := by decide
    have hval : c.val.toNat ≤ 90 := h.2
    rw [if_pos h]
    refine (congrArg Char.toNat (dif_pos hcapital)).trans ?_
    show (c.val + ('a'.val - 'A'.val)).toNat = c.val.toNat + 32
    rw [hshift, UInt32.toNat_add]
    exact Nat.mod_eq_of_lt (by simp; omega)
  · have hcapital : ¬(c.val ≥ 'A'.val ∧ c.val ≤ 'Z'.val) := h
    rw [if_neg h]
    exact congrArg Char.toNat (dif_neg hcapital)

theorem toNat_toUpper (c : Char) : c.toUpper.toNat =
    if 97 ≤ c.toNat ∧ c.toNat ≤ 122 then c.toNat - 32 else c.toNat := by
  by_cases h : 97 ≤ c.toNat ∧ c.toNat ≤ 122
  · have hsmall : 'a'.val ≤ c.val ∧ c.val ≤ 'z'.val := h
    -- The shift is to the left, and so it goes round.
    have hshift : 'A'.val - 'a'.val = 4294967264 := by decide
    have hval : 97 ≤ c.val.toNat ∧ c.val.toNat ≤ 122 := h
    rw [if_pos h]
    refine (congrArg Char.toNat (dif_pos hsmall)).trans ?_
    show (c.val + ('A'.val - 'a'.val)).toNat = c.val.toNat - 32
    rw [hshift, UInt32.toNat_add]
    simp
    omega
  · have hsmall : ¬('a'.val ≤ c.val ∧ c.val ≤ 'z'.val) := h
    rw [if_neg h]
    exact congrArg Char.toNat (dif_neg hsmall)

/-- What becomes the small letter is that letter or its capital. -/
theorem toLower_eq_iff {c letter : Char} (h : letter.isLower = true) :
    c.toLower = letter ↔ c = letter ∨ c = letter.toUpper := by
  have hletter : 97 ≤ letter.toNat ∧ letter.toNat ≤ 122 := by
    have hbounds : (decide (letter.val ≥ 'a'.val) && decide (letter.val ≤ 'z'.val)) = true := h
    rw [Bool.and_eq_true, decide_eq_true_iff, decide_eq_true_iff] at hbounds
    exact hbounds
  rw [← Char.toNat_inj, ← Char.toNat_inj, ← Char.toNat_inj, toNat_toLower, toNat_toUpper,
    if_pos hletter]
  split <;> omega

theorem map_toLower_eq_iff {word : List Char} (hword : ∀ letter ∈ word, letter.isLower = true)
    {cs : List Char} : cs.map Char.toLower = word ↔ Spells cs word := by
  constructor
  · intro h
    induction cs generalizing word with
    | nil =>
        cases h
        exact .nil
    | cons c cs ih =>
        obtain ⟨letter, word, rfl⟩ := List.exists_cons_of_ne_nil
          (show word ≠ [] from h ▸ List.cons_ne_nil _ _)
        obtain ⟨hletter, hrest⟩ := List.cons.inj h
        have hspells := ih (fun letter hmem => hword letter (List.mem_cons_of_mem _ hmem)) hrest
        rcases (toLower_eq_iff (hword letter List.mem_cons_self)).1 hletter with rfl | rfl
        · exact .small _ hspells
        · exact .capital _ hspells
  · intro h
    induction h with
    | nil => rfl
    | small letter _ ih =>
        rw [List.map_cons, ih fun letter hmem => hword letter (List.mem_cons_of_mem _ hmem),
          (toLower_eq_iff (hword letter List.mem_cons_self)).2 (.inl rfl)]
    | capital letter _ ih =>
        rw [List.map_cons, ih fun letter hmem => hword letter (List.mem_cons_of_mem _ hmem),
          (toLower_eq_iff (hword letter List.mem_cons_self)).2 (.inr rfl)]

end ClassDiagram.Text
