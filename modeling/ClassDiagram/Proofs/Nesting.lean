import ClassDiagram.Proofs.Naming
import Mathlib.Data.List.Nodup
import Mathlib.Data.List.Perm.Subperm
import Mathlib.Data.Prod.Lex
import Mathlib.Logic.Relation
import Mathlib.Order.WellFounded

/-!
# The search as nested calls

`explore` keeps one list of what is pending. A search that goes down by calling
itself does the same and shows two things more: how many calls are open at a time,
and how often a value is compared or its entries are walked. This file states that
search step by step, with its open calls on a stack and a record of what it has
done.

It has the same outcome, because what is pending is what the open calls have not
come to, the innermost first (`Advance.outcome_eq`). It ends, because every step takes
something away: a scope, a value of the realm that is not marked, or an entry
(`wellFounded_advance`).

The bounds come from the marks. A value is compared when it is marked and never
again. Apart from the roots only what has been compared is walked, so the walks of
a value are counted by its comparisons and the scopes that it is the root of
(`Tallied`). And the open calls stand at different values, of which all but the
innermost have entries and so are in the realm (`Stacked`).
-/

namespace ClassDiagram.Scope

variable {realm : Realm} {target : ValueId}

/-! ## Steps -/

/-- A call that has not returned. -/
structure Call where
  /-- The visit of the value whose entries it walks. -/
  visit : Visit
  /-- The entries that it has not come to. -/
  entries : List (String × ValueId)

/-- The call for a visited value. -/
def Visit.call (realm : Realm) (visit : Visit) : Call := ⟨visit, realm.entriesOf visit.id⟩

/-- What a search has done, the latest first. -/
structure Record where
  /-- The visits. -/
  visits : List Visit := []
  /-- The values that have been compared with the target. -/
  compared : List ValueId := []
  /-- The values whose entries have been walked, once for each call. -/
  walked : List ValueId := []

namespace Record

/-- The root of a scope is marked without a comparison, and its entries are walked. -/
def start (record : Record) (root : ValueId) : Record :=
  { record with visits := ⟨[], root⟩ :: record.visits, walked := root :: record.walked }

/-- A value is marked and compared. -/
def compare (record : Record) (visit : Visit) : Record :=
  { record with visits := visit :: record.visits, compared := visit.id :: record.compared }

/-- The entries of a value are walked. -/
def walk (record : Record) (id : ValueId) : Record :=
  { record with walked := id :: record.walked }

end Record

/-- How far a search has come. -/
inductive Progress where
  /-- It is the turn of the scope; the innermost call comes first, and the turn of
  the other scopes is still to come. -/
  | searching (scope : String) (calls : List Call) (scopes : List (String × ValueId))
      (record : Record)
  /-- The search is over. -/
  | ended (answer : Option QualifiedName) (record : Record)

namespace Progress

/-- The turn of the first scope begins; without a scope the search is over. -/
def turn (realm : Realm) (record : Record) : List (String × ValueId) → Progress
  | [] => ended none record
  | (scope, root) :: scopes =>
      searching scope [Visit.call realm ⟨[], root⟩] scopes (record.start root)

/-- A search of the scopes before its first step. -/
def start (realm : Realm) (scopes : Table String ValueId) : Progress :=
  turn realm {} scopes.entries

/-- What the search has done so far. -/
def record : Progress → Record
  | searching _ _ _ record => record
  | ended _ record => record

/-- The calls that are open, the innermost first. -/
def calls : Progress → List Call
  | searching _ calls _ _ => calls
  | ended _ _ => []

end Progress

/-- One step of the search. -/
inductive Advance (realm : Realm) (target : ValueId) : Progress → Progress → Prop
  /-- All calls have returned, and the turn passes to the next scope. -/
  | turn {scope : String} {scopes : List (String × ValueId)} {record : Record} :
      Advance realm target (.searching scope [] scopes record) (.turn realm record scopes)
  /-- A call that has come to the end of its entries returns. -/
  | leave {scope : String} {visit : Visit} {calls : List Call}
      {scopes : List (String × ValueId)} {record : Record} :
      Advance realm target (.searching scope (⟨visit, []⟩ :: calls) scopes record)
        (.searching scope calls scopes record)
  /-- An entry is passed over for its key, or because its value is marked. -/
  | pass {scope key : String} {visit : Visit} {id : ValueId} {entries : List (String × ValueId)}
      {calls : List Call} {scopes : List (String × ValueId)} {record : Record}
      (hpass : ¬ IsSegment key ∨ id ∈ visitedIds record.visits) :
      Advance realm target (.searching scope (⟨visit, (key, id) :: entries⟩ :: calls) scopes record)
        (.searching scope (⟨visit, entries⟩ :: calls) scopes record)
  /-- The value of an entry is the target: all calls return its name. -/
  | find {scope key : String} {visit : Visit} {id : ValueId} {entries : List (String × ValueId)}
      {calls : List Call} {scopes : List (String × ValueId)} {record : Record}
      (hkey : IsSegment key) (hfresh : id ∉ visitedIds record.visits) (htarget : id = target) :
      Advance realm target (.searching scope (⟨visit, (key, id) :: entries⟩ :: calls) scopes record)
        (.ended (some (.ofPath scope (visit.keys ++ [key])))
          (record.compare ⟨visit.keys ++ [key], id⟩))
  /-- The value of an entry is another one: its entries are walked by a further call. -/
  | enter {scope key : String} {visit : Visit} {id : ValueId} {entries : List (String × ValueId)}
      {calls : List Call} {scopes : List (String × ValueId)} {record : Record}
      (hkey : IsSegment key) (hfresh : id ∉ visitedIds record.visits) (htarget : id ≠ target) :
      Advance realm target (.searching scope (⟨visit, (key, id) :: entries⟩ :: calls) scopes record)
        (.searching scope
          (Visit.call realm ⟨visit.keys ++ [key], id⟩ :: ⟨visit, entries⟩ :: calls) scopes
          ((record.compare ⟨visit.keys ++ [key], id⟩).walk id))

/-- The search comes from the one stage to the other. -/
def Run (realm : Realm) (target : ValueId) : Progress → Progress → Prop :=
  Relation.ReflTransGen (Advance realm target)

/-- A search that is not over can make a step. -/
theorem exists_advance (realm : Realm) (target : ValueId) (scope : String) (calls : List Call)
    (scopes : List (String × ValueId)) (record : Record) :
    ∃ later, Advance realm target (.searching scope calls scopes record) later := by
  match calls with
  | [] => exact ⟨_, .turn⟩
  | ⟨visit, []⟩ :: calls => exact ⟨_, .leave⟩
  | ⟨visit, (key, id) :: entries⟩ :: calls =>
      by_cases hkey : IsSegment key
      · by_cases hseen : id ∈ visitedIds record.visits
        · exact ⟨_, .pass (.inr hseen)⟩
        · by_cases htarget : id = target
          · exact ⟨_, .find hkey hseen htarget⟩
          · exact ⟨_, .enter hkey hseen htarget⟩
      · exact ⟨_, .pass (.inl hkey)⟩

/-! ## The outcome -/

/-- The visits that an open call has not come to. -/
def Call.pending (call : Call) : List Visit :=
  (call.entries.filter fun entry => decide (IsSegment entry.1)).map
    fun entry => ⟨call.visit.keys ++ [entry.1], entry.2⟩

theorem pending_call (realm : Realm) (visit : Visit) :
    (visit.call realm).pending = visit.children realm := rfl

section Pending

variable {visit : Visit} {key : String} {id : ValueId} {entries : List (String × ValueId)}

theorem Call.pending_cons_of_pos (hkey : IsSegment key) :
    Call.pending ⟨visit, (key, id) :: entries⟩ =
      ⟨visit.keys ++ [key], id⟩ :: Call.pending ⟨visit, entries⟩ := by
  simp [Call.pending, hkey]

theorem Call.pending_cons_of_neg (hkey : ¬ IsSegment key) :
    Call.pending ⟨visit, (key, id) :: entries⟩ = Call.pending ⟨visit, entries⟩ := by
  simp [Call.pending, hkey]

end Pending

/-- What the search comes to from here, and its visits in the end. -/
def Progress.outcome (realm : Realm) (target : ValueId) :
    Progress → Option QualifiedName × List Visit
  | ended answer record => (answer, record.visits)
  | searching scope calls scopes record =>
      match explore realm target record.visits (calls.flatMap Call.pending) with
      | (some keys, final) => (some (.ofPath scope keys), final)
      | (none, final) => searchFrom realm target final scopes

theorem outcome_turn (record : Record) (scopes : List (String × ValueId)) :
    (Progress.turn realm record scopes).outcome realm target =
      searchFrom realm target record.visits scopes := by
  cases scopes with
  | nil => rfl
  | cons scope scopes =>
      obtain ⟨scope, root⟩ := scope
      rw [searchFrom, Progress.turn, Progress.outcome, List.flatMap_cons, List.flatMap_nil,
        List.append_nil, pending_call]
      rfl

/-- A step changes nothing about what the search comes to. -/
theorem Advance.outcome_eq {stage later : Progress} (h : Advance realm target stage later) :
    later.outcome realm target = stage.outcome realm target := by
  cases h with
  | turn =>
      rw [outcome_turn, Progress.outcome, List.flatMap_nil, explore]
  | leave => rfl
  | @pass scope key visit id entries calls scopes record hpass =>
      by_cases hkey : IsSegment key
      · have hseen : id ∈ visitedIds record.visits := hpass.resolve_left (not_not_intro hkey)
        rw [Progress.outcome, Progress.outcome, List.flatMap_cons, List.flatMap_cons,
          Call.pending_cons_of_pos hkey, List.cons_append, explore_cons_seen hseen]
      · rw [Progress.outcome, Progress.outcome, List.flatMap_cons, List.flatMap_cons,
          Call.pending_cons_of_neg hkey]
  | find hkey hfresh htarget =>
      rw [Progress.outcome, Progress.outcome, List.flatMap_cons, Call.pending_cons_of_pos hkey,
        List.cons_append, explore_cons_found hfresh htarget]
      rfl
  | enter hkey hfresh htarget =>
      rw [Progress.outcome, Progress.outcome, List.flatMap_cons, List.flatMap_cons,
        List.flatMap_cons, Call.pending_cons_of_pos hkey, List.cons_append, pending_call,
        explore.eq_def realm target _ (_ :: _)]
      simp only [if_neg hfresh, if_neg htarget]
      rfl

/-! ## The end -/

/-- What the open calls still have to do: each a step for every entry and one to return.
An entry counts twice because it may lead to a call that has nothing to do. -/
def callsEffort : List Call → Nat
  | [] => 0
  | call :: calls => 1 + 2 * call.entries.length + callsEffort calls

/-- The turns that are left, the values that are not marked, and the work that is
left for the open calls. -/
def Progress.effort (realm : Realm) : Progress → Nat ×ₗ Nat ×ₗ Nat
  | ended _ _ => toLex (0, toLex (0, 0))
  | searching _ calls scopes record =>
      toLex (scopes.length + 1,
        toLex (realm.unlisted (visitedIds record.visits), callsEffort calls))

theorem effort_turn_lt (scope : String) (scopes : List (String × ValueId)) (record : Record) :
    (Progress.turn realm record scopes).effort realm <
      (Progress.searching scope [] scopes record).effort realm := by
  cases scopes with
  | nil => exact Prod.Lex.left _ _ (Nat.succ_pos _)
  | cons scope scopes => exact Prod.Lex.left _ _ (Nat.lt_succ_self _)

theorem Advance.effort_lt {stage later : Progress} (h : Advance realm target stage later) :
    later.effort realm < stage.effort realm := by
  cases h with
  | turn => exact effort_turn_lt _ _ _
  | leave =>
      refine Prod.Lex.right _ (Prod.Lex.right _ ?_)
      simp only [callsEffort]
      omega
  | pass _ =>
      refine Prod.Lex.right _ (Prod.Lex.right _ ?_)
      simp only [callsEffort, List.length_cons]
      omega
  | find _ _ _ => exact Prod.Lex.left _ _ (Nat.succ_pos _)
  | @enter scope key visit id entries calls scopes record _ hfresh _ =>
      refine Prod.Lex.right _ ?_
      by_cases hrange : id.index < realm.size
      · exact Prod.Lex.left _ _ (Realm.unlisted_cons_lt hrange hfresh)
      · have hnothing : realm.entriesOf id = [] := realm.entriesOf_eq_nil hrange
        rcases Nat.lt_or_eq_of_le (realm.unlisted_cons_le id (visitedIds record.visits)) with
          hless | hsame
        · exact Prod.Lex.left _ _ hless
        · show Prod.Lex _ _ (realm.unlisted (id :: visitedIds record.visits), _) _
          rw [hsame]
          refine Prod.Lex.right _ ?_
          simp only [Visit.call, hnothing, callsEffort, List.length_cons, List.length_nil]
          omega

/-- No search makes steps without end, from whatever stage. -/
theorem wellFounded_advance (realm : Realm) (target : ValueId) :
    WellFounded fun later stage => Advance realm target stage later :=
  (InvImage.wf (Progress.effort realm) wellFounded_lt).mono fun _ _ h => h.effort_lt

/-! ## Comparisons and walks -/

/-- The roots of the scopes whose turn is still to come. -/
def Progress.rootsAhead : Progress → List ValueId
  | searching _ _ scopes _ => scopes.map Prod.snd
  | ended _ _ => []

/-- A value is compared only once, and what is walked without having been compared is
the root of a scope whose turn has come. -/
structure Tallied (roots : List ValueId) (ahead : List ValueId) (record : Record) : Prop where
  compared_nodup : record.compared.Nodup
  marked : ∀ id ∈ record.compared, id ∈ visitedIds record.visits
  walked : ∀ id, record.walked.count id + ahead.count id ≤
    record.compared.count id + roots.count id

namespace Tallied

variable {roots ahead : List ValueId} {record : Record}

theorem init (roots : List ValueId) : Tallied roots roots {} where
  compared_nodup := List.nodup_nil
  marked := fun _ hid => (List.not_mem_nil hid).elim
  walked := fun _ => Nat.le_refl _

theorem start {root : ValueId} (h : Tallied roots (root :: ahead) record) :
    Tallied roots ahead (record.start root) where
  compared_nodup := h.compared_nodup
  marked := fun id hid => List.mem_cons_of_mem _ (h.marked id hid)
  walked := by
    intro id
    have hwalked := h.walked id
    simp only [List.count_cons, Record.start] at hwalked ⊢
    omega

theorem compare {visit : Visit} (h : Tallied roots ahead record)
    (hfresh : visit.id ∉ visitedIds record.visits) :
    Tallied roots ahead (record.compare visit) where
  compared_nodup := List.nodup_cons.2 ⟨fun hid => hfresh (h.marked _ hid), h.compared_nodup⟩
  marked := by
    intro id hid
    rcases List.mem_cons.1 hid with rfl | hid
    · exact List.mem_cons_self
    · exact List.mem_cons_of_mem _ (h.marked id hid)
  walked := fun id => Nat.le_trans (h.walked id)
    (Nat.add_le_add_right (List.count_le_count_cons ..) _)

/-- What has just been compared may be walked. -/
theorem compare_walk {visit : Visit} (h : Tallied roots ahead record)
    (hfresh : visit.id ∉ visitedIds record.visits) :
    Tallied roots ahead ((record.compare visit).walk visit.id) where
  compared_nodup := (h.compare hfresh).compared_nodup
  marked := (h.compare hfresh).marked
  walked := by
    intro id
    have hwalked := h.walked id
    simp only [List.count_cons, Record.compare, Record.walk] at hwalked ⊢
    omega

theorem stop (h : Tallied roots ahead record) : Tallied roots [] record where
  compared_nodup := h.compared_nodup
  marked := h.marked
  walked := fun id => Nat.le_trans (Nat.add_le_add_left (Nat.zero_le _) _) (h.walked id)

/-- What is no root is walked at most once. -/
theorem count_walked_le (h : Tallied roots ahead record) {id : ValueId} (hid : id ∉ roots) :
    record.walked.count id ≤ 1 := by
  have hwalked := h.walked id
  have hcompared := List.nodup_iff_count_le_one.1 h.compared_nodup id
  rw [List.count_eq_zero_of_not_mem hid] at hwalked
  omega

end Tallied

/-! ## Nesting -/

/-- The calls stand at different values, which are marked. All but the innermost have
come to an entry, so their values are in the realm. -/
structure Stacked (realm : Realm) (visits : List Visit) (calls : List Call) : Prop where
  nodup : (calls.map (·.visit.id)).Nodup
  marked : ∀ call ∈ calls, call.visit.id ∈ visitedIds visits
  entries : ∀ call ∈ calls, call.entries <:+ realm.entriesOf call.visit.id
  outer : ∀ call ∈ calls.tail, call.visit.id.index < realm.size

namespace Stacked

variable {visits : List Visit} {visit : Visit} {entry : String × ValueId}
  {entries : List (String × ValueId)} {calls : List Call}

theorem nil (realm : Realm) (visits : List Visit) : Stacked realm visits [] where
  nodup := List.nodup_nil
  marked := fun _ hcall => (List.not_mem_nil hcall).elim
  entries := fun _ hcall => (List.not_mem_nil hcall).elim
  outer := fun _ hcall => (List.not_mem_nil hcall).elim

theorem singleton (realm : Realm) (visits : List Visit) (visit : Visit) :
    Stacked realm (visit :: visits) [visit.call realm] where
  nodup := List.nodup_singleton _
  marked := List.forall_mem_singleton.2 List.mem_cons_self
  entries := List.forall_mem_singleton.2 (List.suffix_refl _)
  outer := fun _ hcall => (List.not_mem_nil hcall).elim

theorem leave (h : Stacked realm visits (⟨visit, entries⟩ :: calls)) :
    Stacked realm visits calls where
  nodup := (List.nodup_cons.1 h.nodup).2
  marked := fun call hcall => h.marked call (List.mem_cons_of_mem _ hcall)
  entries := fun call hcall => h.entries call (List.mem_cons_of_mem _ hcall)
  outer := fun call hcall => h.outer call (List.mem_of_mem_tail hcall)

theorem pass (h : Stacked realm visits (⟨visit, entry :: entries⟩ :: calls)) :
    Stacked realm visits (⟨visit, entries⟩ :: calls) where
  nodup := h.nodup
  marked := List.forall_mem_cons.2 (List.forall_mem_cons.1 h.marked)
  entries := List.forall_mem_cons.2
    ⟨(List.suffix_cons entry entries).trans (h.entries _ List.mem_cons_self),
      (List.forall_mem_cons.1 h.entries).2⟩
  outer := h.outer

/-- A value with entries is in the realm. -/
theorem index_lt (h : Stacked realm visits (⟨visit, entry :: entries⟩ :: calls)) :
    visit.id.index < realm.size := by
  refine Classical.byContradiction fun hrange => ?_
  have hentries := h.entries _ List.mem_cons_self
  rw [realm.entriesOf_eq_nil hrange, List.suffix_nil] at hentries
  cases hentries

theorem mark (h : Stacked realm visits calls) (next : Visit) :
    Stacked realm (next :: visits) calls where
  nodup := h.nodup
  marked := fun call hcall => List.mem_cons_of_mem _ (h.marked call hcall)
  entries := h.entries
  outer := h.outer

/-- A further call, below one that has come to an entry. -/
theorem enter {next : Visit} (h : Stacked realm visits (⟨visit, entry :: entries⟩ :: calls))
    (hfresh : next.id ∉ visitedIds visits) :
    Stacked realm (next :: visits) (next.call realm :: ⟨visit, entries⟩ :: calls) where
  nodup := by
    refine List.nodup_cons.2 ⟨fun hmem => ?_, h.pass.nodup⟩
    obtain ⟨call, hcall, hid⟩ := List.mem_map.1 hmem
    have hmarked := h.pass.marked call hcall
    rw [hid] at hmarked
    exact hfresh hmarked
  marked := List.forall_mem_cons.2 ⟨List.mem_cons_self, (h.pass.mark next).marked⟩
  entries := List.forall_mem_cons.2 ⟨List.suffix_refl _, h.pass.entries⟩
  outer := List.forall_mem_cons.2 ⟨h.index_lt, h.outer⟩

/-- The outer calls stand at different values of the realm. -/
theorem length_le (h : Stacked realm visits calls) : calls.length ≤ realm.size + 1 := by
  have hnodup : (calls.tail.map (·.visit.id.index)).Nodup := by
    rw [List.map_tail]
    have hindex : Function.Injective ValueId.index := by
      rintro ⟨index⟩ ⟨index'⟩ hindex
      exact congrArg ValueId.mk hindex
    have hindices := h.nodup.map hindex
    rw [List.map_map] at hindices
    exact hindices.tail
  have hrange : calls.tail.map (·.visit.id.index) ⊆ List.range realm.size := by
    intro index hmem
    obtain ⟨call, hcall, rfl⟩ := List.mem_map.1 hmem
    exact List.mem_range.2 (h.outer call hcall)
  have hlength := (hnodup.subperm hrange).length_le
  rw [List.length_map, List.length_tail, List.length_range] at hlength
  omega

end Stacked

/-! ## Whole runs -/

/-- What holds at every stage of a search of scopes with the given roots. -/
structure Bounded (realm : Realm) (roots : List ValueId) (stage : Progress) : Prop where
  tallied : Tallied roots stage.rootsAhead stage.record
  stacked : Stacked realm stage.record.visits stage.calls

theorem bounded_turn {roots : List ValueId} {scopes : List (String × ValueId)} {record : Record}
    (h : Tallied roots (scopes.map Prod.snd) record) :
    Bounded realm roots (.turn realm record scopes) := by
  cases scopes with
  | nil => exact ⟨h, .nil _ _⟩
  | cons scope scopes => exact ⟨h.start, .singleton _ _ _⟩

theorem Advance.bounded {roots : List ValueId} {stage later : Progress}
    (hadvance : Advance realm target stage later) (h : Bounded realm roots stage) :
    Bounded realm roots later := by
  obtain ⟨htallied, hstacked⟩ := h
  cases hadvance with
  | turn => exact bounded_turn htallied
  | leave => exact ⟨htallied, hstacked.leave⟩
  | pass _ => exact ⟨htallied, hstacked.pass⟩
  | find _ hfresh _ => exact ⟨(htallied.compare hfresh).stop, .nil _ _⟩
  | enter _ hfresh _ => exact ⟨htallied.compare_walk hfresh, hstacked.enter hfresh⟩

section Run

variable {start stage : Progress}

theorem Run.bounded {roots : List ValueId} (hrun : Run realm target start stage)
    (h : Bounded realm roots start) : Bounded realm roots stage := by
  induction hrun with
  | refl => exact h
  | tail _ hadvance ih => exact hadvance.bounded ih

theorem Run.outcome_eq (h : Run realm target start stage) :
    stage.outcome realm target = start.outcome realm target := by
  induction h with
  | refl => rfl
  | tail _ hadvance ih => rw [hadvance.outcome_eq, ih]

end Run

/-- Asking for a name takes a search that ends, whatever the realm and the scopes. It
ends with the answer and the visits of `search`, and from the answer comes the name.
At every stage no value has been compared with the target twice, what is not the root
of a scope has been walked at most once, and there are at most as many open calls as
there are values in the realm, and one more. -/
theorem Resolver.resolve_bounded (resolver : Resolver) (realm : Realm) (target : ValueId) :
    Acc (fun later stage => Advance realm target stage later) (.start realm resolver.scopes) ∧
    ∀ stage, Run realm target (.start realm resolver.scopes) stage →
      ((∃ later, Advance realm target stage later) ∨
        ∃ answer record, stage = .ended answer record ∧
          (answer, record.visits) = search realm resolver.scopes target ∧
          (resolver.resolve realm target).1 =
            answer.getD (.anonymous (resolver.unscoped.idxOf target + 1))) ∧
      stage.record.compared.Nodup ∧
      (∀ id ∉ resolver.scopes.values, stage.record.walked.count id ≤ 1) ∧
      stage.calls.length ≤ realm.size + 1 := by
  refine ⟨(wellFounded_advance realm target).apply _, fun stage hrun => ?_⟩
  have hbounded : Bounded realm resolver.scopes.values stage :=
    hrun.bounded (bounded_turn (.init _))
  refine ⟨?_, hbounded.tallied.compared_nodup, fun id => hbounded.tallied.count_walked_le,
    hbounded.stacked.length_le⟩
  cases stage with
  | searching scope calls scopes record =>
      exact .inl (exists_advance realm target scope calls scopes record)
  | ended answer record =>
      have hsearch : (answer, record.visits) = search realm resolver.scopes target :=
        hrun.outcome_eq.trans (outcome_turn _ _)
      refine .inr ⟨answer, record, rfl, hsearch, ?_⟩
      have hname := resolver.nameOf_eq realm target
      rw [← hsearch] at hname
      exact hname

-- The bound is reached: the entry of the only value leads out of the realm.
example :
    let realm : Realm := ⟨#[.object ⟨[("Out", ⟨1⟩)], by decide⟩]⟩
    let scopes : Table String ValueId := ⟨[("App", ⟨0⟩)], by decide⟩
    ∃ stage, Run realm ⟨2⟩ (.start realm scopes) stage ∧ stage.calls.length = realm.size + 1 :=
  ⟨_, .single (.enter (by decide) (by decide) (by decide)), rfl⟩

end ClassDiagram.Scope
