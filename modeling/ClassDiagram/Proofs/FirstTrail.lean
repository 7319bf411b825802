import ClassDiagram.Proofs.Trail

/-!
# The search finds the first trail

`explore` works through one list of pending visits. Read as a list it hides
what it does: it goes down into a value, comes back, and goes on with what was
pending before. `explore_append` takes the list apart at the point of coming
back, and `explore_induction` is the induction that goes with it: one
hypothesis for what a value leads to, one for what comes after it.

The invariant is `Explored`. Of the values that have been visited, the search
is still busy with some, those on the way from the root down to where it is.
Every other one is finished: it is cut off from the target by the values the
search is busy with. Nothing finished can stand on a trail to the target, so
passing it over loses nothing, and the entries that were taken before the
current one lead only to values that are visited. That is why the trail that is
found is the first.

Between two scopes the search is busy with nothing, and then cut off means not
reached at all. So the visits that were made for the earlier scopes take
nothing away from the later ones either (`searchFrom_spec`), and the search
that shares them agrees with the definition that knows no visits
(`search_eq_firstTrail`).
-/

namespace ClassDiagram.Scope

variable {realm : Realm} {target : ValueId}

@[simp] theorem visitedIds_cons (visit : Visit) (visits : List Visit) :
    visitedIds (visit :: visits) = visit.id :: visitedIds visits := rfl

/-! ## One visit at a time -/

theorem explore_cons_seen {visits pending : List Visit} {visit : Visit}
    (hseen : visit.id ∈ visitedIds visits) :
    explore realm target visits (visit :: pending) = explore realm target visits pending := by
  rw [explore, if_pos hseen]

theorem explore_cons_found {visits pending : List Visit} {visit : Visit}
    (hfresh : visit.id ∉ visitedIds visits) (htarget : visit.id = target) :
    explore realm target visits (visit :: pending) = (some visit.keys, visit :: visits) := by
  rw [explore, if_neg hfresh, if_pos htarget]

/-- What is pending is explored in order, each part after the visits of the
part before it. -/
theorem explore_append (realm : Realm) (target : ValueId) (visits first rest : List Visit) :
    explore realm target visits (first ++ rest) =
      match explore realm target visits first with
      | (some keys, final) => (some keys, final)
      | (none, final) => explore realm target final rest := by
  fun_induction explore realm target visits first with
  | case1 visits => rfl
  | case2 visits visit pending hseen ih =>
      rw [List.cons_append, explore_cons_seen hseen, ih]
  | case3 visits visit pending hfresh htarget =>
      rw [List.cons_append, explore_cons_found hfresh htarget]
  | case4 visits visit pending hfresh htarget ih =>
      rw [List.cons_append, explore, if_neg hfresh, if_neg htarget, ← List.append_assoc, ih]

/-- A value that is new is left for what was pending before it only after
everything it leads to. -/
theorem explore_cons_fresh {visits pending : List Visit} {visit : Visit}
    (hfresh : visit.id ∉ visitedIds visits) (htarget : visit.id ≠ target) :
    explore realm target visits (visit :: pending) =
      match explore realm target (visit :: visits) (visit.children realm) with
      | (some keys, final) => (some keys, final)
      | (none, final) => explore realm target final pending := by
  rw [explore, if_neg hfresh, if_neg htarget, explore_append]

/-- Visits are only ever added. -/
theorem visits_suffix_explore (realm : Realm) (target : ValueId) (visits pending : List Visit) :
    visits <:+ (explore realm target visits pending).2 := by
  fun_induction explore realm target visits pending with
  | case1 visits => exact List.suffix_refl visits
  | case2 visits visit pending _ ih => exact ih
  | case3 visits visit pending _ _ => exact List.suffix_cons visit visits
  | case4 visits visit pending _ _ ih => exact (List.suffix_cons visit visits).trans ih

theorem mem_visitedIds_explore {visits : List Visit} {id : ValueId} (pending : List Visit)
    (h : id ∈ visitedIds visits) :
    id ∈ visitedIds (explore realm target visits pending).2 := by
  obtain ⟨visit, hvisit, rfl⟩ := List.mem_map.1 h
  exact List.mem_map_of_mem ((visits_suffix_explore realm target visits pending).mem hvisit)

/-! ## Induction over a search

The measure is that of `explore` itself. Coming back from a value leaves fewer
values unmarked as well, because the visits made below it are only added. -/

/-- To prove something of every search, prove it of a value that is new from
what it leads to and from what is pending afterwards. -/
theorem explore_induction (realm : Realm) (target : ValueId)
    {motive : (visits pending : List Visit) → Prop}
    (nil : ∀ visits, motive visits [])
    (seen : ∀ visits visit pending, visit.id ∈ visitedIds visits → motive visits pending →
      motive visits (visit :: pending))
    (found : ∀ visits visit pending, visit.id ∉ visitedIds visits → visit.id = target →
      motive visits (visit :: pending))
    (fresh : ∀ visits visit pending, visit.id ∉ visitedIds visits → visit.id ≠ target →
      motive (visit :: visits) (visit.children realm) →
      motive (explore realm target (visit :: visits) (visit.children realm)).2 pending →
      motive visits (visit :: pending)) :
    ∀ visits pending, motive visits pending
  | visits, [] => nil visits
  | visits, visit :: pending => by
      by_cases hseen : visit.id ∈ visitedIds visits
      · exact seen visits visit pending hseen
          (explore_induction realm target nil seen found fresh visits pending)
      · by_cases htarget : visit.id = target
        · exact found visits visit pending hseen htarget
        · exact fresh visits visit pending hseen htarget
            (explore_induction realm target nil seen found fresh (visit :: visits)
              (visit.children realm))
            (explore_induction realm target nil seen found fresh
              (explore realm target (visit :: visits) (visit.children realm)).2 pending)
termination_by visits pending => effort realm visits pending
decreasing_by
  · exact Nat.lt_succ_self _
  · exact effort_lt hseen (fun _ hmem => hmem) (by simp)
  · exact effort_lt hseen (fun _ hmem => mem_visitedIds_explore _ hmem) (by simp)

/-! ## The invariant -/

/-- The search is busy with the values in `busy`, and has finished with the
others it has visited: those values cut them off from the target. -/
structure Explored (realm : Realm) (target : ValueId) (busy : List ValueId)
    (visits : List Visit) : Prop where
  visited : ∀ id ∈ busy, id ∈ visitedIds visits
  finished : ∀ id ∈ visitedIds visits, id ∈ busy ∨ CutOff realm target busy id

/-- Going down into a value makes the search busy with one value more. -/
theorem Explored.enter {busy : List ValueId} {visits : List Visit}
    (h : Explored realm target busy visits) (visit : Visit) :
    Explored realm target (visit.id :: busy) (visit :: visits) where
  visited := by
    intro id hid
    rcases List.mem_cons.1 hid with rfl | hid
    · exact List.mem_cons_self
    · exact List.mem_cons_of_mem _ (h.visited id hid)
  finished := by
    intro id hid
    rcases List.mem_cons.1 hid with rfl | hid
    · exact .inl List.mem_cons_self
    · rcases h.finished id hid with hbusy | hcut
      · exact .inl (List.mem_cons_of_mem _ hbusy)
      · exact .inr (hcut.mono fun other hother => List.mem_cons_of_mem _ hother)

/-- Once all its steps lead to visited values, the search is done with a value
that is not the target. -/
theorem Explored.leave {id : ValueId} {busy : List ValueId} {visits : List Visit}
    (h : Explored realm target (id :: busy) visits) (htarget : id ≠ target)
    (hsteps : ∀ step ∈ stepsFrom realm id, step.id ∈ visitedIds visits) :
    Explored realm target busy visits where
  visited := fun other hother => h.visited other (List.mem_cons_of_mem _ hother)
  finished := by
    intro other hother
    have hclosed : ∀ step : Step, step.LeavesFrom realm id → step.id ∉ id :: busy →
        CutOff realm target (id :: busy) step.id := by
      intro step hstep hclear
      rcases h.finished step.id (hsteps step (mem_stepsFrom.2 hstep)) with hbusy | hcut
      · exact absurd hbusy hclear
      · exact hcut
    rcases h.finished other hother with hbusy | hcut
    · rcases List.mem_cons.1 hbusy with rfl | hbusy
      · exact .inr (CutOff.of_finished htarget hclosed (.inl rfl))
      · exact .inl hbusy
    · exact .inr (CutOff.of_finished htarget hclosed (.inr hcut))

/-- A trail that avoids what the search is busy with does not start with a step
to a visited value. -/
theorem Explored.step_not_visited {busy : List ValueId} {visits : List Visit}
    (h : Explored realm target busy visits) {step : Step} {steps : List Step}
    (htrail : Trail realm step.id steps target)
    (hclear : ∀ other ∈ step :: steps, other.id ∉ busy) : step.id ∉ visitedIds visits := by
  intro hvisited
  rcases h.finished step.id hvisited with hbusy | hcut
  · exact hclear step List.mem_cons_self hbusy
  · obtain ⟨later, hlater, hmem⟩ := hcut steps htrail
    exact hclear later (List.mem_cons_of_mem _ hlater) hmem

/-- The first trail through the first step that leads to a new value is the
first trail altogether. -/
theorem FirstTrailOff.cons {busy : List ValueId} {visits : List Visit} {container : ValueId}
    {before after steps : List Step} {step : Step} (htarget : container ≠ target)
    (hexplored : Explored realm target busy visits)
    (hsteps : stepsFrom realm container = before ++ step :: after)
    (hbefore : ∀ earlier ∈ before, earlier.id ∈ visitedIds visits)
    (hfresh : step.id ∉ visitedIds visits)
    (h : FirstTrailOff realm (step.id :: busy) step.id target steps) :
    FirstTrailOff realm busy container target (step :: steps) where
  trail := by
    refine .cons (mem_stepsFrom.1 ?_) h.trail
    rw [hsteps]
    exact List.mem_append_right _ List.mem_cons_self
  avoids := by
    intro other hother
    rcases List.mem_cons.1 hother with rfl | hother
    · exact fun hbusy => hfresh (hexplored.visited _ hbusy)
    · exact fun hbusy => h.avoids other hother (List.mem_cons_of_mem _ hbusy)
  simple := by
    refine List.nodup_cons.2 ⟨fun hmem => ?_, h.simple⟩
    obtain ⟨other, hother, hid⟩ := List.mem_map.1 hmem
    exact h.avoids other hother (hid ▸ List.mem_cons_self)
  first := by
    intro others htrail hclear hnodup
    cases htrail with
    | nil => exact absurd rfl htarget
    | @cons _ _ head rest hhead hrest =>
        have hmem : head ∈ before ++ step :: after := hsteps ▸ mem_stepsFrom.2 hhead
        rcases List.mem_append.1 hmem with hearlier | hlater
        · exact absurd (hbefore head hearlier) (hexplored.step_not_visited hrest hclear)
        · rcases List.mem_cons.1 hlater with rfl | hlater
          · -- The same first step: the rests decide, and they avoid its value.
            obtain ⟨hid, hsimple⟩ := List.nodup_cons.1 hnodup
            have hoff : ∀ other ∈ rest, other.id ∉ head.id :: busy := by
              intro other hother hbusy
              rcases List.mem_cons.1 hbusy with heq | hbusy
              · exact hid (heq ▸ List.mem_map_of_mem hother)
              · exact hclear other (List.mem_cons_of_mem _ hother) hbusy
            rcases h.first rest hrest hoff hsimple with rfl | hless
            · exact .inl rfl
            · exact .inr (List.Lex.cons hless)
          · have hplaces := pairwise_place_stepsFrom realm container
            rw [hsteps, List.pairwise_append] at hplaces
            exact .inr (List.Lex.rel (List.rel_of_pairwise_cons hplaces.2.1 hlater))

/-- What exploring the steps of one container comes to, when those before the
given point lead to visited values: the first trail to the target, or nothing
but finished values. -/
theorem explore_spec (realm : Realm) (target : ValueId) : ∀ visits pending : List Visit,
    ∀ (busy : List ValueId) (container : ValueId) (keys : List String) (before after : List Step),
    container ≠ target → stepsFrom realm container = before ++ after →
    pending = after.map (Step.visit keys) →
    (∀ step ∈ before, step.id ∈ visitedIds visits) → Explored realm target busy visits →
    match explore realm target visits pending with
    | (some found, _) => ∃ steps, found = keys ++ steps.map Step.key ∧
        FirstTrailOff realm busy container target steps
    | (none, final) => Explored realm target busy final ∧
        ∀ step ∈ stepsFrom realm container, step.id ∈ visitedIds final := by
  refine explore_induction realm target ?nil ?seen ?found ?fresh
  case nil =>
    intro visits busy container keys before after hcontainer hsteps hpending hbefore hexplored
    rw [explore]
    rw [List.map_eq_nil_iff.1 hpending.symm, List.append_nil] at hsteps
    exact ⟨hexplored, hsteps ▸ hbefore⟩
  case seen =>
    intro visits visit pending hseen ih busy container keys before after hcontainer hsteps hpending
      hbefore hexplored
    obtain ⟨step, rest, rfl, rfl, rfl⟩ := List.map_eq_cons_iff.1 hpending.symm
    rw [explore_cons_seen hseen]
    refine ih busy container keys (before ++ [step]) rest hcontainer (by simp [hsteps]) rfl ?_
      hexplored
    intro earlier hearlier
    rcases List.mem_append.1 hearlier with hearlier | hlast
    · exact hbefore earlier hearlier
    · rw [List.mem_singleton.1 hlast]
      exact hseen
  case found =>
    intro visits visit pending hfresh htarget busy container keys before after hcontainer hsteps
      hpending hbefore hexplored
    obtain ⟨step, rest, rfl, rfl, rfl⟩ := List.map_eq_cons_iff.1 hpending.symm
    rw [explore_cons_found hfresh htarget]
    have hrest : FirstTrailOff realm (step.id :: busy) step.id target [] := by
      refine ⟨htarget ▸ .nil _, fun _ hmem => (List.not_mem_nil hmem).elim, List.nodup_nil, ?_⟩
      intro others _ _ _
      cases others with
      | nil => exact .inl rfl
      | cons _ _ => exact .inr List.Lex.nil
    exact ⟨[step], rfl, hrest.cons hcontainer hexplored hsteps hbefore hfresh⟩
  case fresh =>
    intro visits visit pending hfresh htarget ihbelow ihafter busy container keys before after
      hcontainer hsteps hpending hbefore hexplored
    obtain ⟨step, rest, rfl, rfl, rfl⟩ := List.map_eq_cons_iff.1 hpending.symm
    have hbelow := ihbelow (step.id :: busy) step.id (keys ++ [step.key]) []
      (stepsFrom realm step.id) htarget rfl (children_eq_map_visit realm (step.visit keys))
      (fun _ hmem => (List.not_mem_nil hmem).elim) (hexplored.enter (step.visit keys))
    have hgrow : ∀ id ∈ step.id :: visitedIds visits, id ∈ visitedIds
        (explore realm target (step.visit keys :: visits) ((step.visit keys).children realm)).2 :=
      fun id hid => mem_visitedIds_explore _ hid
    rw [explore_cons_fresh hfresh htarget]
    revert hbelow hgrow ihafter
    rcases explore realm target (step.visit keys :: visits) ((step.visit keys).children realm) with
      ⟨_ | found, final⟩
    · intro ihafter hbelow hgrow
      refine ihafter busy container keys (before ++ [step]) rest hcontainer (by simp [hsteps])
        rfl ?_ (hbelow.1.leave htarget hbelow.2)
      intro earlier hearlier
      rcases List.mem_append.1 hearlier with hearlier | hlast
      · exact hgrow _ (List.mem_cons_of_mem _ (hbefore earlier hearlier))
      · rw [List.mem_singleton.1 hlast]
        exact hgrow _ List.mem_cons_self
    · intro _ hbelow _
      obtain ⟨steps, hkeys, hfirst⟩ := hbelow
      exact ⟨step :: steps, by simp [hkeys], hfirst.cons hcontainer hexplored hsteps hbefore hfresh⟩

/-! ## From scope to scope -/

/-- The name that the scopes give the target if each is taken by itself: the
first scope whose root reaches it, and the keys of the first trail from there. -/
def NamedBy (realm : Realm) (scopes : List (String × ValueId)) (target : ValueId)
    (name : QualifiedName) : Prop :=
  ∃ earlier scope later steps, scopes = earlier ++ scope :: later ∧
    (∀ other ∈ earlier, ¬ Reaches realm other.2 target) ∧
    FirstTrail realm scope.2 target steps ∧
    name = QualifiedName.ofPath scope.1 (steps.map Step.key)

theorem NamedBy.reaches {scopes : List (String × ValueId)} {name : QualifiedName}
    (h : NamedBy realm scopes target name) : ∃ scope ∈ scopes, Reaches realm scope.2 target := by
  obtain ⟨earlier, scope, later, steps, rfl, _, hfirst, _⟩ := h
  exact ⟨scope, List.mem_append_right _ List.mem_cons_self, steps, hfirst.trail⟩

/-- The scopes give at most one name. -/
theorem NamedBy.unique {scopes : List (String × ValueId)} {name other : QualifiedName}
    (h : NamedBy realm scopes target name) (hother : NamedBy realm scopes target other) :
    name = other := by
  classical
  have hfind : ∀ {name}, NamedBy realm scopes target name → ∃ scope steps,
      scopes.find? (fun scope => decide (Reaches realm scope.2 target)) = some scope ∧
      FirstTrail realm scope.2 target steps ∧
      name = QualifiedName.ofPath scope.1 (steps.map Step.key) := by
    rintro name ⟨earlier, scope, later, steps, hscopes, hearlier, hfirst, hname⟩
    refine ⟨scope, steps, List.find?_eq_some_iff_append.2 ⟨?_, earlier, later, hscopes, ?_⟩,
      hfirst, hname⟩
    · exact decide_eq_true ⟨steps, hfirst.trail⟩
    · intro scope hmem
      rw [decide_eq_false (hearlier scope hmem)]
      rfl
  obtain ⟨scope, steps, hscope, hfirst, rfl⟩ := hfind h
  obtain ⟨scope', steps', hscope', hfirst', rfl⟩ := hfind hother
  cases hscope.symm.trans hscope'
  rw [hfirst.unique hfirst']

/-- A search of further scopes, when nothing that has been visited reaches the
target. -/
theorem searchFrom_spec (realm : Realm) (target : ValueId) :
    ∀ (scopes : List (String × ValueId)) (visits : List Visit),
    (∀ scope ∈ scopes, scope.2 ≠ target) → Explored realm target [] visits →
    match (searchFrom realm target visits scopes).1 with
    | some name => NamedBy realm scopes target name
    | none => ∀ scope ∈ scopes, ¬ Reaches realm scope.2 target := by
  intro scopes
  induction scopes with
  | nil =>
      intro visits _ _ scope hscope
      cases hscope
  | cons scope scopes ih =>
      intro visits hroots hexplored
      obtain ⟨name, root⟩ := scope
      have hroot : root ≠ target := hroots _ List.mem_cons_self
      have hspec := explore_spec realm target (⟨[], root⟩ :: visits)
        (Visit.children realm ⟨[], root⟩) [root] root [] [] (stepsFrom realm root) hroot rfl
        (children_eq_map_visit realm ⟨[], root⟩)
        (fun _ hmem => (List.not_mem_nil hmem).elim) (hexplored.enter ⟨[], root⟩)
      rw [searchFrom]
      revert hspec
      rcases explore realm target (⟨[], root⟩ :: visits) (Visit.children realm ⟨[], root⟩) with
        ⟨_ | keys, final⟩
      · intro hspec
        obtain ⟨hfinal, hsteps⟩ := hspec
        have hleft := hfinal.leave hroot hsteps
        have hunreached : ¬ Reaches realm root target := by
          rcases hleft.finished root (hfinal.visited root List.mem_cons_self) with hbusy | hcut
          · cases hbusy
          · exact cutOff_nil_iff.1 hcut
        have hothers : ∀ other ∈ scopes, other.2 ≠ target :=
          fun other hother => hroots other (List.mem_cons_of_mem _ hother)
        have hrest := ih final hothers hleft
        simp only [] at hrest ⊢
        revert hrest
        rcases (searchFrom realm target final scopes).1 with _ | found
        · intro hrest other hother
          rcases List.mem_cons.1 hother with rfl | hother
          · exact hunreached
          · exact hrest other hother
        · intro hrest
          obtain ⟨earlier, scope, later, steps, rfl, hearlier, hfirst, hname⟩ := hrest
          refine ⟨(name, root) :: earlier, scope, later, steps, rfl, ?_, hfirst, hname⟩
          intro other hother
          rcases List.mem_cons.1 hother with rfl | hother
          · exact hunreached
          · exact hearlier other hother
      · intro hspec
        obtain ⟨steps, rfl, hfirst⟩ := hspec
        exact ⟨[], (name, root), scopes, steps, rfl, fun _ hmem => (List.not_mem_nil hmem).elim,
          hfirst.firstTrail, rfl⟩

/-- The search, with its visits shared by all scopes, finds a target that is
not a root exactly when the root of some scope reaches it, and gives it the
name that the scopes give it one by one. -/
theorem search_eq_firstTrail (realm : Realm) (scopes : Table String ValueId) (target : ValueId)
    (hroot : target ∉ scopes.values) :
    ((search realm scopes target).1.isSome = true ↔
      ∃ scope ∈ scopes.entries, Reaches realm scope.2 target) ∧
    ∀ name, (search realm scopes target).1 = some name ↔
      NamedBy realm scopes.entries target name := by
  have hroots : ∀ scope ∈ scopes.entries, scope.2 ≠ target :=
    fun scope hscope heq => hroot (heq ▸ List.mem_map_of_mem hscope)
  have hspec := searchFrom_spec realm target scopes.entries [] hroots
    ⟨fun _ hmem => (List.not_mem_nil hmem).elim, fun _ hmem => (List.not_mem_nil hmem).elim⟩
  rw [search]
  revert hspec
  rcases (searchFrom realm target [] scopes.entries).1 with _ | found
  · intro hnone
    constructor
    · simpa using hnone
    · intro name
      constructor
      · intro h
        cases h
      · intro hnamed
        obtain ⟨scope, hscope, hreaches⟩ := hnamed.reaches
        exact absurd hreaches (hnone scope hscope)
  · intro hfound
    refine ⟨⟨fun _ => hfound.reaches, fun _ => rfl⟩, fun name => ⟨?_, ?_⟩⟩
    · intro h
      cases h
      exact hfound
    · intro hnamed
      rw [hfound.unique hnamed]

/-- A realm with circles: two objects that hold each other, one that holds
itself, and a class that the first two hold. -/
def circles : Realm where
  values := #[
    .object ⟨[("Self", ⟨0⟩), ("a b", ⟨2⟩), ("Inner", ⟨1⟩), ("Late", ⟨2⟩)], by decide⟩,
    .object ⟨[("Back", ⟨0⟩), ("Target", ⟨2⟩)], by decide⟩,
    .classDef {},
    .object ⟨[("Here", ⟨3⟩)], by decide⟩]

/-- The first scope does not reach the class, and the second reaches it by the
key `a b`, which is passed over, by `Inner` and by `Late`. -/
theorem namedBy_inner_of_circles :
    let scopes : Table String ValueId := ⟨[("Empty", ⟨3⟩), ("App", ⟨0⟩)], by decide⟩
    (⟨2⟩ : ValueId) ∉ scopes.values ∧
      NamedBy circles scopes.entries ⟨2⟩ ⟨"App.Inner.Target"⟩ := by
  intro scopes
  refine ⟨by decide, ((search_eq_firstTrail circles scopes ⟨2⟩ (by decide)).2 _).1 ?_⟩
  simp +decide [scopes, search, searchFrom, circles, Visit.children, Realm.entriesOf, Realm.get?,
    Value.entries?, explore, QualifiedName.ofPath, QualifiedName.child]

end ClassDiagram.Scope
