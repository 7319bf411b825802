import ClassDiagram.Scope.Search

/-!
# Trails through a realm

This file says what a scope leads to without mentioning a search. A trail goes
from a container to one of its entries, from there to an entry of that value,
and so on; it only takes entries whose keys are segments. A trail from the root
of a scope spells a path by its keys.

There may be many trails to one value, and infinitely many if the realm has
circles. `FirstTrail` picks one: among those that come to no value twice, the
one that at the first container where they part takes the earliest entry. It is
unique (`FirstTrail.unique`), and it is what the search is measured against.

`CutOff` is the notion that the search needs. While it is busy below some
containers it has finished with other values for good, and the reason is that
no trail leads from them to the target without coming back to a container it is
busy with. The two facts that carry the argument are `CutOff.mono`, for going
down into a container, and `CutOff.of_finished`, for coming back from it.
-/

namespace ClassDiagram.Scope

/-- An entry of a container together with its place among the entries. -/
structure Step where
  /-- The number of entries before it. -/
  place : Nat
  /-- Its key. -/
  key : String
  /-- Its value. -/
  id : ValueId

namespace Step

/-- The step takes an entry of the container, and the key is a segment. -/
def LeavesFrom (realm : Realm) (step : Step) (container : ValueId) : Prop :=
  (realm.entriesOf container)[step.place]? = some (step.key, step.id) ∧ IsSegment step.key

/-- The visit that the step leads to from a value reached by the keys. -/
def visit (keys : List String) (step : Step) : Visit := ⟨keys ++ [step.key], step.id⟩

/-- The place decides the step. -/
theorem eq_of_place_eq {realm : Realm} {container : ValueId} {first second : Step}
    (hfirst : first.LeavesFrom realm container) (hsecond : second.LeavesFrom realm container)
    (h : first.place = second.place) : first = second := by
  have hentry := hfirst.1
  rw [h, hsecond.1] at hentry
  cases first
  cases second
  cases hentry
  cases h
  rfl

end Step

/-- The keys of the entries of a value are distinct. -/
theorem keys_entriesOf_nodup (realm : Realm) (id : ValueId) :
    ((realm.entriesOf id).map Prod.fst).Nodup := by
  unfold Realm.entriesOf
  split
  · next entries _ => exact entries.keys_nodup
  · exact List.nodup_nil

/-- The key decides the place. -/
theorem Step.place_eq_of_key_eq {realm : Realm} {container : ValueId} {first second : Step}
    (hfirst : first.LeavesFrom realm container) (hsecond : second.LeavesFrom realm container)
    (h : first.key = second.key) : first.place = second.place := by
  have hkeys := keys_entriesOf_nodup realm container
  have hplace : first.place < ((realm.entriesOf container).map Prod.fst).length := by
    rw [List.length_map]
    exact (List.getElem?_eq_some_iff.1 hfirst.1).1
  refine (List.getElem?_inj hplace hkeys).1 ?_
  rw [List.getElem?_map, List.getElem?_map, hfirst.1, hsecond.1]
  exact congrArg some h

/-- The steps that leave the container, in the order of the entries. -/
def stepsFrom (realm : Realm) (container : ValueId) : List Step :=
  ((realm.entriesOf container).zipIdx.filter fun entry => decide (IsSegment entry.1.1)).map
    fun entry => ⟨entry.2, entry.1.1, entry.1.2⟩

theorem mem_stepsFrom {realm : Realm} {container : ValueId} {step : Step} :
    step ∈ stepsFrom realm container ↔ step.LeavesFrom realm container := by
  simp only [stepsFrom, List.mem_map, List.mem_filter, decide_eq_true_eq]
  constructor
  · intro hmem
    obtain ⟨⟨⟨key, id⟩, place⟩, ⟨hmem, hkey⟩, rfl⟩ := hmem
    exact ⟨List.mk_mem_zipIdx_iff_getElem?.1 hmem, hkey⟩
  · intro hleaves
    obtain ⟨hentry, hkey⟩ := hleaves
    exact ⟨((step.key, step.id), step.place),
      ⟨List.mk_mem_zipIdx_iff_getElem?.2 hentry, hkey⟩, rfl⟩

/-- The places go up along the list of steps. -/
theorem pairwise_place_stepsFrom (realm : Realm) (container : ValueId) :
    (stepsFrom realm container).Pairwise fun first second => first.place < second.place := by
  rw [stepsFrom, List.pairwise_map]
  refine List.Pairwise.filter _ ?_
  have hplaces := List.pairwise_lt_range' (s := 0) (n := (realm.entriesOf container).length)
  rw [← List.zipIdx_map_snd 0, List.pairwise_map] at hplaces
  exact hplaces

/-- The visits that a visited value leads to are those of its steps. -/
theorem children_eq_map_visit (realm : Realm) (visit : Visit) :
    visit.children realm = (stepsFrom realm visit.id).map (Step.visit visit.keys) := by
  have hfilter : (realm.entriesOf visit.id).filter (fun entry => decide (IsSegment entry.1)) =
      (((realm.entriesOf visit.id).zipIdx.filter fun entry =>
        decide (IsSegment entry.1.1)).map Prod.fst) := by
    have hmap := List.filter_map (f := Prod.fst) (l := (realm.entriesOf visit.id).zipIdx)
      (p := fun entry : String × ValueId => decide (IsSegment entry.1))
    rw [List.zipIdx_map_fst] at hmap
    exact hmap
  rw [Visit.children, hfilter, stepsFrom, List.map_map, List.map_map]
  rfl

/-- The steps lead from one value to the other. -/
inductive Trail (realm : Realm) : ValueId → List Step → ValueId → Prop
  | nil (id : ValueId) : Trail realm id [] id
  | cons {id target : ValueId} {step : Step} {steps : List Step}
      (hstep : step.LeavesFrom realm id) (hrest : Trail realm step.id steps target) :
      Trail realm id (step :: steps) target

/-- Some trail leads from one value to the other. -/
def Reaches (realm : Realm) (id target : ValueId) : Prop := ∃ steps, Trail realm id steps target

namespace Trail

variable {realm : Realm} {id target : ValueId} {steps : List Step}

theorem snoc {middle : ValueId} {step : Step} (h : Trail realm id steps middle)
    (hstep : step.LeavesFrom realm middle) : Trail realm id (steps ++ [step]) step.id := by
  induction h with
  | nil id => exact .cons hstep (.nil _)
  | cons hfirst _ ih => exact .cons hfirst (ih hstep)

theorem isSegment_key (h : Trail realm id steps target) :
    ∀ key ∈ steps.map Step.key, IsSegment key := by
  induction h with
  | nil id =>
      intro key hkey
      cases hkey
  | cons hstep _ ih =>
      intro key hkey
      rcases List.mem_cons.1 hkey with rfl | hkey
      · exact hstep.2
      · exact ih key hkey

/-- From one value the keys decide the trail, and so where it ends. -/
theorem eq_of_keys_eq (h : Trail realm id steps target) :
    ∀ {others : List Step} {other : ValueId}, Trail realm id others other →
      steps.map Step.key = others.map Step.key → steps = others ∧ target = other := by
  induction h with
  | nil id =>
      intro others other hother hkeys
      cases hother with
      | nil => exact ⟨rfl, rfl⟩
      | cons _ _ => cases hkeys
  | cons hstep _ ih =>
      intro others other hother hkeys
      cases hother with
      | nil => cases hkeys
      | cons hstep' hrest' =>
          obtain ⟨hkey, hrest⟩ := List.cons.inj hkeys
          have hsame := Step.eq_of_place_eq hstep hstep'
            (Step.place_eq_of_key_eq hstep hstep' hkey)
          subst hsame
          obtain ⟨rfl, rfl⟩ := ih hrest' hrest
          exact ⟨rfl, rfl⟩

end Trail

/-- The steps lead to the target, come to no value twice and to none of the
avoided, and no other such steps come first: at the first container where two
of them part, the earlier entry decides. -/
structure FirstTrailOff (realm : Realm) (avoided : List ValueId) (id target : ValueId)
    (steps : List Step) : Prop where
  trail : Trail realm id steps target
  avoids : ∀ step ∈ steps, step.id ∉ avoided
  simple : (steps.map Step.id).Nodup
  first : ∀ others, Trail realm id others target → (∀ step ∈ others, step.id ∉ avoided) →
    (others.map Step.id).Nodup →
      others = steps ∨ List.Lex (fun a b => a.place < b.place) steps others

/-- The first of the trails to the target that come to no value twice, the
value they start from included. -/
structure FirstTrail (realm : Realm) (id target : ValueId) (steps : List Step) : Prop where
  trail : Trail realm id steps target
  simple : (id :: steps.map Step.id).Nodup
  first : ∀ others, Trail realm id others target → (id :: others.map Step.id).Nodup →
    others = steps ∨ List.Lex (fun a b => a.place < b.place) steps others

/-- There is only one first trail. -/
theorem FirstTrail.unique {realm : Realm} {id target : ValueId} {steps others : List Step}
    (h : FirstTrail realm id target steps) (hother : FirstTrail realm id target others) :
    steps = others := by
  rcases h.first others hother.trail hother.simple with heq | hless
  · exact heq.symm
  · rcases hother.first steps h.trail h.simple with heq | hless'
    · exact heq
    · exact absurd hless' (List.lex_asymm (fun hab hba => absurd hba (by omega)) hless)

/-- A trail that avoids the value it starts from comes to no value twice if the
rest of it does not. -/
theorem FirstTrailOff.firstTrail {realm : Realm} {id target : ValueId} {steps : List Step}
    (h : FirstTrailOff realm [id] id target steps) : FirstTrail realm id target steps where
  trail := h.trail
  simple := by
    refine List.nodup_cons.2 ⟨fun hmem => ?_, h.simple⟩
    obtain ⟨step, hstep, hid⟩ := List.mem_map.1 hmem
    exact h.avoids step hstep (by rw [hid]; exact List.mem_singleton_self id)
  first := by
    intro others htrail hnodup
    obtain ⟨hid, hsimple⟩ := List.nodup_cons.1 hnodup
    refine h.first others htrail (fun step hstep havoided => ?_) hsimple
    rw [List.mem_singleton] at havoided
    exact hid (havoided ▸ List.mem_map_of_mem hstep)

/-- Every trail from the value to the target comes to one of the avoided. -/
def CutOff (realm : Realm) (target : ValueId) (avoided : List ValueId) (id : ValueId) : Prop :=
  ∀ steps, Trail realm id steps target → ∃ step ∈ steps, step.id ∈ avoided

theorem cutOff_nil_iff {realm : Realm} {target id : ValueId} :
    CutOff realm target [] id ↔ ¬ Reaches realm id target := by
  constructor
  · rintro h ⟨steps, htrail⟩
    obtain ⟨step, _, hmem⟩ := h steps htrail
    cases hmem
  · intro h steps htrail
    exact absurd ⟨steps, htrail⟩ h

/-- What is cut off stays cut off when more is avoided. -/
theorem CutOff.mono {realm : Realm} {target id : ValueId} {avoided more : List ValueId}
    (h : CutOff realm target avoided id) (hsub : ∀ other ∈ avoided, other ∈ more) :
    CutOff realm target more id := by
  intro steps htrail
  obtain ⟨step, hstep, hmem⟩ := h steps htrail
  exact ⟨step, hstep, hsub _ hmem⟩

/-- A trail either never comes to a value or goes on from its last visit there
without coming to it again. -/
theorem Trail.avoids_or_restarts {realm : Realm} {start target : ValueId} {steps : List Step}
    (h : Trail realm start steps target) {avoided : List ValueId}
    (havoids : ∀ step ∈ steps, step.id ∉ avoided) (id : ValueId) :
    (∀ step ∈ steps, step.id ∉ id :: avoided) ∨
      ∃ rest, Trail realm id rest target ∧ ∀ step ∈ rest, step.id ∉ id :: avoided := by
  induction h with
  | nil start =>
      left
      intro step hstep
      cases hstep
  | @cons start target step steps hstep hrest ih =>
      rcases ih fun other hother => havoids other (List.mem_cons_of_mem _ hother) with
        hclear | hrestart
      · by_cases hid : step.id = id
        · right
          subst hid
          exact ⟨steps, hrest, hclear⟩
        · left
          intro other hother
          rcases List.mem_cons.1 hother with rfl | hother
          · rw [List.mem_cons, not_or]
            exact ⟨hid, havoids _ List.mem_cons_self⟩
          · exact hclear other hother
      · exact .inr hrestart

/-- When all steps of a container lead to values that are cut off, the
container may be left: it is cut off too, and so is everything that was cut off
only as long as it was avoided. -/
theorem CutOff.of_finished {realm : Realm} {target id other : ValueId} {avoided : List ValueId}
    (htarget : id ≠ target)
    (hsteps : ∀ step : Step, step.LeavesFrom realm id → step.id ∉ id :: avoided →
      CutOff realm target (id :: avoided) step.id)
    (hother : other = id ∨ CutOff realm target (id :: avoided) other) :
    CutOff realm target avoided other := by
  -- No trail leads on from the container itself, past everything avoided.
  have hid : ∀ rest, Trail realm id rest target →
      ¬ ∀ step ∈ rest, step.id ∉ id :: avoided := by
    intro rest hrest hclear
    cases hrest with
    | nil => exact htarget rfl
    | cons hstep hrest =>
        obtain ⟨later, hlater, hmem⟩ :=
          hsteps _ hstep (hclear _ List.mem_cons_self) _ hrest
        exact hclear later (List.mem_cons_of_mem _ hlater) hmem
  intro steps htrail
  refine Classical.byContradiction fun hnone => ?_
  have havoids : ∀ step ∈ steps, step.id ∉ avoided :=
    fun step hstep hmem => hnone ⟨step, hstep, hmem⟩
  rcases htrail.avoids_or_restarts havoids id with hclear | ⟨rest, hrest, hclear⟩
  · rcases hother with rfl | hcut
    · exact hid steps htrail hclear
    · obtain ⟨step, hstep, hmem⟩ := hcut steps htrail
      exact hclear step hstep hmem
  · exact hid rest hrest hclear

end ClassDiagram.Scope
