import ClassDiagram.Surface
import Mathlib.Logic.Relation

/-!
# The nearest class that has a property

A property is looked up in the class and then along the chain of its parents,
and the first class that has it decides. `Nearest` says which class that is, and
it counts nothing: parents are followed as long as they are classes of the realm.
The look-up has to come to an end on chains that lead in a circle, so it is cut
after as many steps as there are values.

That the cut loses nothing holds of a look-up for anything that classes can have
(`foundWithin_size`). A walk that only just finds it never comes to the same value
twice, since otherwise it could be shorter. So each step before the last one takes
up another value of the realm (`lt_unlisted`), and there are not more steps than
values. For a property this is `nearestProperty?_eq_some_iff`, and for being a
certain class it says that no class of the chain is left out (`mem_lineage_iff`).
-/

namespace ClassDiagram.Realm

variable {realm : Realm} {name : String} {definition above owner : ClassDef ValueId}
  {property : Property} {steps : Nat}

/-- The owner is the first class with a property of the name, from the class on
along its parents. -/
inductive Nearest (realm : Realm) (name : String) : ClassDef ValueId → ClassDef ValueId → Prop
  | own {definition : ClassDef ValueId} (h : (definition.prototype.get? name).isSome) :
      Nearest realm name definition definition
  | inherited {definition above owner : ClassDef ValueId} {parent : ValueId}
      (hnone : definition.prototype.get? name = none) (hparent : definition.parent = some parent)
      (hclass : realm.class? parent = some above) (h : Nearest realm name above owner) :
      Nearest realm name definition owner

/-- The class extends the other one, which is a class of the realm. -/
def Inherits (realm : Realm) (definition above : ClassDef ValueId) : Prop :=
  ∃ parent, definition.parent = some parent ∧ realm.class? parent = some above

/-! ## Looking something up -/

section Found

variable {β : Type} {f : ClassDef ValueId → Option β} {found : β}

/-- What is found in so many steps if the classes have what `f` says. -/
def foundWithin (realm : Realm) (f : ClassDef ValueId → Option β) (steps : Nat)
    (definition : ClassDef ValueId) : Option β :=
  (realm.lineageWithin steps definition).findSome? f

theorem foundWithin_zero : realm.foundWithin f 0 definition = f definition := by
  rw [foundWithin, lineageWithin, List.findSome?_singleton]

theorem foundWithin_of_some (h : f definition = some found) :
    realm.foundWithin f steps definition = some found := by
  cases steps with
  | zero => rw [foundWithin_zero, h]
  | succ steps => rw [foundWithin, lineageWithin, List.findSome?_cons, h]

theorem foundWithin_of_inherits (hnone : f definition = none)
    (hinherits : realm.Inherits definition above) :
    realm.foundWithin f (steps + 1) definition = realm.foundWithin f steps above := by
  obtain ⟨parent, hparent, hclass⟩ := hinherits
  have hbind : definition.parent.bind realm.class? = some above := by rw [hparent]; exact hclass
  rw [foundWithin, lineageWithin, List.findSome?_cons, hnone, hbind]
  rfl

/-- What is found is in the class or is found from its parent on. -/
theorem foundWithin_cases (h : realm.foundWithin f steps definition = some found) :
    f definition = some found ∨
      ∃ fewer above, steps = fewer + 1 ∧ f definition = none ∧ realm.Inherits definition above ∧
        realm.foundWithin f fewer above = some found := by
  cases hown : f definition with
  | some other =>
      rw [foundWithin_of_some hown] at h
      exact .inl h
  | none =>
      cases steps with
      | zero =>
          rw [foundWithin_zero, hown] at h
          cases h
      | succ fewer =>
          cases hbind : definition.parent.bind realm.class? with
          | none =>
              rw [foundWithin, lineageWithin, List.findSome?_cons, hown, hbind] at h
              cases h
          | some above =>
              have hinherits : realm.Inherits definition above := Option.bind_eq_some_iff.1 hbind
              rw [foundWithin_of_inherits hown hinherits] at h
              exact .inr ⟨fewer, above, rfl, rfl, hinherits, h⟩

theorem foundWithin_mono : ∀ {steps more : Nat} {definition : ClassDef ValueId}, steps ≤ more →
    realm.foundWithin f steps definition = some found →
    realm.foundWithin f more definition = some found := by
  intro steps
  induction steps with
  | zero =>
      intro more definition _ h
      rw [foundWithin_zero] at h
      exact foundWithin_of_some h
  | succ steps ih =>
      intro more definition hle h
      rcases foundWithin_cases h with hown | ⟨fewer, above, hsteps, hnone, hinherits, habove⟩
      · exact foundWithin_of_some hown
      · cases hsteps
        obtain ⟨more, rfl⟩ : ∃ rest, more = rest + 1 := ⟨more - 1, by omega⟩
        rw [foundWithin_of_inherits hnone hinherits]
        exact ih (by omega) habove

/-- A walk through classes that finds something, while fewer steps find nothing
from here, and no more than fewer steps find anything from the values listed: it
does not come to the values listed. -/
theorem lt_unlisted : ∀ {steps : Nat} {id : ValueId} {definition : ClassDef ValueId}
    {listed : List ValueId}, realm.class? id = some definition →
    realm.foundWithin f steps definition = some found →
    (∀ fewer, fewer < steps → realm.foundWithin f fewer definition = none) →
    (∀ other ∈ listed, ∀ past, realm.class? other = some past →
      realm.foundWithin f steps past = none) →
    steps < realm.unlisted listed := by
  intro steps
  induction steps with
  | zero =>
      intro id definition listed hclass hfound _ hlisted
      have hfresh : id ∉ listed := fun hmem => by
        rw [hlisted id hmem definition hclass] at hfound
        cases hfound
      exact Nat.lt_of_le_of_lt (Nat.zero_le _)
        (unlisted_cons_lt (index_lt_size_of_class? hclass) hfresh)
  | succ steps ih =>
      intro id definition listed hclass hfound hfewer hlisted
      have hfresh : id ∉ listed := fun hmem => by
        rw [hlisted id hmem definition hclass] at hfound
        cases hfound
      have hless := unlisted_cons_lt (index_lt_size_of_class? hclass) hfresh
      have hnow := hfewer 0 (Nat.succ_pos steps)
      rw [foundWithin_zero] at hnow
      rcases foundWithin_cases hfound with hown | ⟨fewer, above, hsteps, hnone, hinherits, hrest⟩
      · rw [hnow] at hown
        cases hown
      · cases hsteps
        have hbelow : ∀ fewer, fewer < steps → realm.foundWithin f fewer above = none := by
          intro fewer hlt
          rw [← foundWithin_of_inherits hnone hinherits]
          exact hfewer (fewer + 1) (by omega)
        obtain ⟨parent, _, habove⟩ := hinherits
        refine Nat.lt_of_le_of_lt (ih habove hrest hbelow fun other hother past hpast => ?_) hless
        rcases List.mem_cons.1 hother with rfl | hother
        · cases hclass.symm.trans hpast
          exact hfewer steps (Nat.lt_succ_self steps)
        -- What is found in so many steps is found in one step more.
        · cases hshort : realm.foundWithin f steps past with
          | none => rfl
          | some found =>
              have hlong := foundWithin_mono (Nat.le_succ steps) hshort
              rw [hlisted other hother past hpast] at hlong
              cases hlong

theorem unlisted_nil (realm : Realm) : realm.unlisted [] = realm.size := by
  simp [unlisted, List.countP_true]

/-- What is found in any number of steps is found in as many as there are values. -/
theorem foundWithin_size (h : realm.foundWithin f steps definition = some found) :
    realm.foundWithin f realm.size definition = some found := by
  induction steps using Nat.strongRecOn with
  | ind steps ih =>
      by_cases hfewer : ∀ fewer, fewer < steps → realm.foundWithin f fewer definition = none
      · rcases foundWithin_cases h with hown | ⟨fewer, above, rfl, hnone, hinherits, habove⟩
        · exact foundWithin_of_some hown
        · have hbelow : ∀ less, less < fewer → realm.foundWithin f less above = none := by
            intro less hless
            rw [← foundWithin_of_inherits hnone hinherits]
            exact hfewer (less + 1) (by omega)
          obtain ⟨parent, _, hclass⟩ := hinherits
          have hlt : fewer < realm.unlisted [] :=
            lt_unlisted hclass habove hbelow fun _ hmem => by cases hmem
          rw [unlisted_nil] at hlt
          exact foundWithin_mono hlt h
      · obtain ⟨fewer, hfewer⟩ := Classical.not_forall.1 hfewer
        obtain ⟨hlt, hfound⟩ := Classical.not_imp.1 hfewer
        obtain ⟨other, hother⟩ := Option.ne_none_iff_exists'.1 hfound
        have hsame := (foundWithin_mono (Nat.le_of_lt hlt) hother).symm.trans h
        cases hsame
        exact ih fewer hlt hother

end Found

/-! ## The chain of parents -/

theorem foundWithin_eq_some_iff_mem :
    realm.foundWithin (fun other => if other = owner then some () else none) steps definition =
      some () ↔ owner ∈ realm.lineageWithin steps definition := by
  have hsome : ∀ result : Option Unit, result = some () ↔ result.isSome = true := fun result => by
    cases result <;> simp
  rw [foundWithin, hsome, List.findSome?_isSome_iff]
  simp

theorem reflTransGen_of_mem_lineageWithin : ∀ {steps : Nat} {definition : ClassDef ValueId},
    owner ∈ realm.lineageWithin steps definition →
    Relation.ReflTransGen realm.Inherits definition owner := by
  intro steps
  induction steps with
  | zero =>
      intro definition h
      rw [lineageWithin, List.mem_singleton] at h
      rw [h]
  | succ steps ih =>
      intro definition h
      rw [lineageWithin, List.mem_cons] at h
      rcases h with rfl | h
      · exact .refl
      · cases hbind : definition.parent.bind realm.class? with
        | none =>
            rw [hbind] at h
            cases h
        | some above =>
            rw [hbind] at h
            exact .head (Option.bind_eq_some_iff.1 hbind) (ih h)

theorem exists_mem_lineageWithin (h : Relation.ReflTransGen realm.Inherits definition owner) :
    ∃ steps, owner ∈ realm.lineageWithin steps definition := by
  induction h using Relation.ReflTransGen.head_induction_on with
  | refl => exact ⟨0, List.mem_singleton_self owner⟩
  | head hinherits _ ih =>
      obtain ⟨steps, hmem⟩ := ih
      obtain ⟨parent, hparent, hclass⟩ := hinherits
      refine ⟨steps + 1, List.mem_cons_of_mem _ ?_⟩
      rw [hparent, Option.bind_some, hclass]
      exact hmem

/-- All classes of the chain are looked at, and no others. -/
theorem mem_lineage_iff :
    owner ∈ realm.lineage definition ↔ Relation.ReflTransGen realm.Inherits definition owner := by
  refine ⟨reflTransGen_of_mem_lineageWithin, fun h => ?_⟩
  obtain ⟨steps, hmem⟩ := exists_mem_lineageWithin h
  exact foundWithin_eq_some_iff_mem.1 (foundWithin_size (foundWithin_eq_some_iff_mem.2 hmem))

theorem length_lineageWithin_le (realm : Realm) : ∀ (steps : Nat) (definition : ClassDef ValueId),
    (realm.lineageWithin steps definition).length ≤ steps + 1 := by
  intro steps
  induction steps with
  | zero => exact fun _ => Nat.le_refl 1
  | succ steps ih =>
      intro definition
      rw [lineageWithin, List.length_cons]
      split
      · exact Nat.succ_le_succ (ih _)
      · exact Nat.succ_le_succ (Nat.zero_le _)

/-! ## The nearest property -/

/-- The property that is found in so many steps. -/
def nearestWithin (realm : Realm) (name : String) (steps : Nat) (definition : ClassDef ValueId) :
    Option Property :=
  (realm.lineageWithin steps definition).findSome? (·.prototype.get? name)

theorem nearestWithin_eq : realm.nearestWithin name steps definition =
    realm.foundWithin (·.prototype.get? name) steps definition := rfl

theorem exists_nearestWithin (h : realm.Nearest name definition owner) :
    ∃ steps, realm.nearestWithin name steps definition = owner.prototype.get? name := by
  induction h with
  | own h => exact ⟨0, foundWithin_zero⟩
  | inherited hnone hparent hclass _ ih =>
      obtain ⟨steps, hsteps⟩ := ih
      exact ⟨steps + 1, (foundWithin_of_inherits hnone ⟨_, hparent, hclass⟩).trans hsteps⟩

theorem exists_nearest : ∀ {steps : Nat} {definition : ClassDef ValueId},
    realm.nearestWithin name steps definition = some property →
    ∃ owner, realm.Nearest name definition owner ∧ owner.prototype.get? name = some property := by
  intro steps
  induction steps with
  | zero =>
      intro definition h
      rw [nearestWithin_eq, foundWithin_zero] at h
      exact ⟨definition, .own (Option.isSome_of_eq_some h), h⟩
  | succ steps ih =>
      intro definition h
      rcases foundWithin_cases h with hown | ⟨fewer, above, hsteps, hnone, hinherits, habove⟩
      · exact ⟨definition, .own (Option.isSome_of_eq_some hown), hown⟩
      · cases hsteps
        obtain ⟨owner, howner, hproperty⟩ := ih habove
        obtain ⟨parent, hparent, hclass⟩ := hinherits
        exact ⟨owner, .inherited hnone hparent hclass howner, hproperty⟩

/-- What is looked up is what the nearest class has. -/
theorem nearestProperty?_eq_some_iff : realm.nearestProperty? definition name = some property ↔
    ∃ owner, realm.Nearest name definition owner ∧
      owner.prototype.get? name = some property := by
  constructor
  · exact fun h => exists_nearest h
  · intro h
    obtain ⟨owner, howner, hproperty⟩ := h
    obtain ⟨steps, hsteps⟩ := exists_nearestWithin howner
    exact foundWithin_size (hsteps.trans hproperty)

end ClassDiagram.Realm
