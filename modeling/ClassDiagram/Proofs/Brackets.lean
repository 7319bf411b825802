import ClassDiagram.Proofs.Escaping
import ClassDiagram.Proofs.Separated

/-!
# Lists between brackets are read back

The items of an array and the members of an object are pieces with commas between them
and a closing mark behind the last. They are read by one loop, and what the loop needs
of a piece is that its reader takes just the piece and that the piece starts with a mark
by which the loop knows that an element is coming (`Opens`). Then the pieces are read
one behind the other, whatever each of them does to the state that is built up
(`Successive.reads_elements`).
-/

namespace ClassDiagram.Json

/-- The characters of a member: its name, a colon and its content. -/
def memberChars (key : String) (content : List Char) : List Char := textChars key ++ ':' :: content

theorem compactMembers_eq (members : List (String × Json)) :
    compactMembers members =
      [','].intercalate
        (members.map fun member => memberChars member.1 (compactChars member.2)) := by
  induction members with
  | nil => rfl
  | cons member members ih =>
      cases members with
      | nil => simp [compactMembers, memberChars]
      | cons next members =>
          rw [compactMembers, ih, List.map_cons, List.map_cons, List.map_cons,
            List.intercalate_cons_cons]
          simp [memberChars]

theorem compactItems_eq (items : List Json) :
    compactItems items = [','].intercalate (items.map compactChars) := by
  induction items with
  | nil => rfl
  | cons item items ih =>
      cases items with
      | nil => simp [compactItems]
      | cons next items =>
          rw [compactItems, ih, List.map_cons, List.map_cons, List.map_cons,
            List.intercalate_cons_cons]
          simp

namespace Reader

variable {α σ : Type}

/-- The piece starts with a mark that is neither a blank nor the end of the list. -/
def Opens (bracket : Bracket) (piece : List Char) : Prop :=
  ∃ first rest, piece = first :: rest ∧ Text.isLayout first = false ∧ first ≠ bracket.close

/-- From the first state to the last, each piece is an element that is read. -/
inductive Successive (bracket : Bracket) (element : σ → Reader σ) : σ → List (List Char) → σ → Prop
  | nil (state : σ) : Successive bracket element state [] state
  | cons {state next final : σ} {piece : List Char} {pieces : List (List Char)} :
      Opens bracket piece → (element state).Reads piece next →
        Successive bracket element next pieces final →
        Successive bracket element state (piece :: pieces) final

section Elements

variable {bracket : Bracket} {element : σ → Reader σ}

theorem isLayout_close (bracket : Bracket) : Text.isLayout bracket.close = false := by
  cases bracket <;> rfl

theorem Reads.afterComma {reader : Reader α} {piece : List Char} {value : α}
    (hopens : Opens bracket piece) (h : reader.Reads piece value) :
    (afterComma bracket reader).Reads piece value := by
  obtain ⟨first, tail, rfl, hlayout, hclose⟩ := hopens
  refine Reads.peek hlayout ?_
  dsimp only
  rwa [if_neg hclose]

theorem moreElements_close (state : σ) (rest : List Char) :
    moreElements bracket element state (bracket.close :: rest) = .ok (state, rest) := by
  rw [moreElements]
  split
  · next h => rw [dropBlanks_cons (isLayout_close bracket)] at h; cases h
  · next h =>
      rw [dropBlanks_cons (isLayout_close bracket)] at h
      obtain ⟨rfl, rfl⟩ := List.cons.inj h
      rw [if_pos rfl]

theorem moreElements_comma {state next : σ} {piece : List Char} (hopens : Opens bracket piece)
    (h : (element state).Reads piece next) (rest : List Char) :
    moreElements bracket element state (',' :: (piece ++ rest)) =
      moreElements bracket element next rest := by
  have hcomma : ',' ≠ bracket.close := by cases bracket <;> decide
  rw [moreElements]
  split
  · next hnil => rw [dropBlanks_cons rfl] at hnil; cases hnil
  · next hcons =>
      rw [dropBlanks_cons rfl] at hcons
      obtain ⟨rfl, rfl⟩ := List.cons.inj hcons
      rw [if_neg hcomma, if_pos rfl]
      have helement := h.afterComma hopens rest
      split
      · next hfailure => rw [helement] at hfailure; cases hfailure
      · next hnext =>
          rw [helement] at hnext
          cases hnext
          rfl

theorem Successive.moreElements_eq {state final : σ} {pieces : List (List Char)}
    (h : Successive bracket element state pieces final) (rest : List Char) :
    moreElements bracket element state (pieces.flatMap ([','] ++ ·) ++ bracket.close :: rest) =
      .ok (final, rest) := by
  induction h with
  | nil state => exact moreElements_close state rest
  | cons hopens hpiece _ ih =>
      rw [List.flatMap_cons, List.append_assoc, List.append_assoc]
      exact (moreElements_comma hopens hpiece _).trans ih

/-- Pieces with commas between them, and the closing mark, are read as a list. -/
theorem Successive.reads_elements {start final : σ} {pieces : List (List Char)}
    (h : Successive bracket element start pieces final) :
    (elements bracket element start).Reads ([','].intercalate pieces ++ [bracket.close]) final := by
  cases h with
  | nil =>
      refine Reads.peek (isLayout_close bracket) ?_
      dsimp only
      rw [if_pos rfl]
      exact (reads_pure start).advance bracket.close
  | @cons _ next _ piece pieces hopens hpiece hpieces =>
      have hmore : (⟨moreElements bracket element next, length_moreElements_le⟩ : Reader σ).Reads
          (pieces.flatMap ([','] ++ ·) ++ [bracket.close]) final := by
        intro rest
        rw [List.append_assoc]
        exact hpieces.moreElements_eq rest
      rw [Text.intercalate_cons, List.append_assoc]
      obtain ⟨first, tail, rfl, hlayout, hclose⟩ := hopens
      refine Reads.peek hlayout ?_
      dsimp only
      rw [if_neg hclose]
      exact hpiece.bind hmore

end Elements

theorem opens_memberChars (key : String) (content : List Char) :
    Opens .object (memberChars key content) := ⟨'"', _, rfl, rfl, by decide⟩

end Reader

end ClassDiagram.Json
