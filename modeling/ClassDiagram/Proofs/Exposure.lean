import ClassDiagram.Proofs.Binding
import ClassDiagram.Proofs.Nearest
import ClassDiagram.Proofs.ReturnedLiteral

/-!
# What the entries of a surface expose

An expression exposes a callable if it refers to a member and the nearest class
that has a property of that name has a callable there. `Exposes` says so without
looking anything up. It agrees with the look-up for every class, whether it is one
of the realm or not, and for every chain of parents that it may have
(`surface_exposes`).

What an expression exposes depends on the prototypes and the parents and on no
surface. That is why a surface can be stated in two ways (`surface?_declared`): if
the pairs that a constructor returns are declared instead, the table of expressions
forgets all but the last expression of a key, while otherwise all of them are
looked up and the table of entries forgets all but the last entry. Both keep the
place of the first.
-/

namespace ClassDiagram

/-- The keys of the public surface with their expressions, as they are stated: in a
declaration, else in the literal that the constructor returns. -/
def ClassDef.offers {ρ : Type} (definition : ClassDef ρ) : List (String × String) :=
  match definition.surface, definition.prototype.get? "__construct" with
  | some declared, _ => declared.entries
  | none, some (.callable ⟨some source, _⟩) => (Source.returnedLiteral? source).getD []
  | none, _ => []

theorem ClassDef.getD_surfacePairs? {ρ : Type} (definition : ClassDef ρ) :
    definition.surfacePairs?.getD [] = definition.offers := by
  have hkey : constructorKey = "__construct" := rfl
  rw [surfacePairs?, constructor?, offers, hkey]
  cases definition.surface with
  | some declared => rfl
  | none =>
      cases definition.prototype.get? "__construct" with
      | none => rfl
      | some property =>
          cases property with
          | field => rfl
          | callable callable =>
              obtain ⟨source, params⟩ := callable
              cases source <;> rfl

namespace Realm

variable {realm : Realm} {definition owner : ClassDef ValueId} {name expression : String}
  {property : Property} {pairs : List (String × String)}

/-! ## The surface -/

theorem getD_surface? (realm : Realm) (definition : ClassDef ValueId) :
    (realm.surface? definition).getD ∅ = .ofList (definition.offers.map fun pair =>
      (pair.1, ⟨pair.1, realm.exposure definition pair.2⟩)) := by
  rw [surface?, ← definition.getD_surfacePairs?]
  cases definition.surfacePairs? with
  | none => rfl
  | some pairs => cases pairs <;> rfl

theorem lookup_map_pair {κ α β : Type} [DecidableEq κ] (f : κ → α → β) (key : κ)
    (pairs : List (κ × α)) :
    (pairs.map fun pair => (pair.1, f pair.1 pair.2)).lookup key =
      (pairs.lookup key).map (f key) := by
  induction pairs with
  | nil => rfl
  | cons pair pairs ih =>
      rw [List.map_cons, Table.lookup_cons_ite, Table.lookup_cons_ite]
      split
      · next h => rw [h]; rfl
      · exact ih

theorem keys_surface (realm : Realm) (definition : ClassDef ValueId) :
    ((realm.surface? definition).getD ∅).keys = (definition.offers.map Prod.fst).eraseDups := by
  rw [getD_surface?, Table.keys_ofList, List.map_map]
  rfl

/-- A key of the surface finds what is stated last for it. -/
theorem get?_surface (realm : Realm) (definition : ClassDef ValueId) (key : String) :
    ((realm.surface? definition).getD ∅).get? key =
      (definition.offers.reverse.lookup key).map fun expression =>
        ⟨key, realm.exposure definition expression⟩ := by
  rw [getD_surface?, Table.get?_ofList, ← List.map_reverse]
  exact lookup_map_pair (fun key expression =>
    (⟨key, realm.exposure definition expression⟩ : SurfaceEntry)) key definition.offers.reverse

/-! ## What is exposed -/

/-- A member of the nearest class that has one of the name is exposed if it is
callable, and with the parameters that it has there. -/
inductive Exposes (realm : Realm) (definition : ClassDef ValueId) (expression : String) :
    Exposure → Prop
  | forwarding {target : String} {owner : ClassDef ValueId} {params : List String}
      (hreference : Source.memberReference? expression = some target)
      (howner : realm.Nearest target definition owner)
      (hmember : owner.members.get? target = some ⟨target, .callable params⟩) :
      Exposes realm definition expression (.forwarding target params)
  | field (h : ∀ target owner, Source.memberReference? expression = some target →
        realm.Nearest target definition owner →
        owner.members.get? target = some ⟨target, .field⟩) :
      Exposes realm definition expression .field

theorem get?_members (definition : ClassDef ValueId) (name : String) :
    definition.members.get? name =
      (definition.prototype.get? name).map fun property => ⟨name, property.shape⟩ :=
  lookup_map_pair (fun name property => (⟨name, Property.shape property⟩ : Member)) name
    definition.prototype.entries

theorem Nearest.isSome (h : realm.Nearest name definition owner) :
    (owner.prototype.get? name).isSome := by
  induction h with
  | own h => exact h
  | inherited _ _ _ _ ih => exact ih

/-- The nearest class has the property that is looked up, and has it as a member. -/
theorem Nearest.get?_members (h : realm.Nearest name definition owner)
    (hproperty : realm.nearestProperty? definition name = some property) :
    owner.members.get? name = some ⟨name, property.shape⟩ := by
  obtain ⟨other, hother⟩ := Option.isSome_iff_exists.1 h.isSome
  have hsame := nearestProperty?_eq_some_iff.2 ⟨owner, h, hother⟩
  cases hsame.symm.trans hproperty
  rw [Realm.get?_members, hother]
  rfl

theorem exposes_exposure (realm : Realm) (definition : ClassDef ValueId) (expression : String) :
    realm.Exposes definition expression (realm.exposure definition expression) := by
  rw [exposure]
  split
  · next hnone =>
      refine .field fun target owner hreference _ => ?_
      rw [hnone] at hreference
      cases hreference
  · next target href =>
      split
      · next callable hcallable =>
          obtain ⟨owner, howner, _⟩ := nearestProperty?_eq_some_iff.1 hcallable
          exact .forwarding href howner (howner.get?_members hcallable)
      · next hother =>
          refine .field fun target' owner hreference howner => ?_
          cases href.symm.trans hreference
          -- The nearest class has a property, and it is not a callable.
          obtain ⟨property, hproperty⟩ := Option.isSome_iff_exists.1 howner.isSome
          have hnearest := nearestProperty?_eq_some_iff.2 ⟨owner, howner, hproperty⟩
          cases property with
          | field => exact howner.get?_members hnearest
          | callable callable => exact absurd hnearest (hother callable)

theorem Exposes.exposure_eq {exposure : Exposure}
    (h : realm.Exposes definition expression exposure) :
    realm.exposure definition expression = exposure := by
  cases h with
  | @forwarding target owner params hreference howner hmember =>
      obtain ⟨property, hproperty⟩ := Option.isSome_iff_exists.1 howner.isSome
      have hnearest := nearestProperty?_eq_some_iff.2 ⟨owner, howner, hproperty⟩
      rw [howner.get?_members hnearest] at hmember
      cases property with
      | field => cases hmember
      | callable callable =>
          cases hmember
          rw [Realm.exposure, hreference]
          dsimp only
          rw [hnearest]
  | field h =>
      rw [Realm.exposure]
      split
      · rfl
      · next target hreference =>
          split
          · next callable hcallable =>
              obtain ⟨owner, howner, _⟩ := nearestProperty?_eq_some_iff.1 hcallable
              have hmember := h target owner hreference howner
              rw [howner.get?_members hcallable] at hmember
              cases hmember
          · rfl

theorem exposure_eq_iff {exposure : Exposure} : realm.exposure definition expression = exposure ↔
    realm.Exposes definition expression exposure :=
  ⟨fun h => h ▸ exposes_exposure realm definition expression, Exposes.exposure_eq⟩

/-- The surface has an entry for each key that is offered, and it is the one that the
last expression of the key exposes. All classes of the chain of parents are looked
at for that, and not more than there are values besides the class itself. -/
theorem surface_exposes (realm : Realm) (definition : ClassDef ValueId) :
    (∀ key entry, ((realm.surface? definition).getD ∅).get? key = some entry ↔
      ∃ expression, definition.offers.reverse.lookup key = some expression ∧ entry.name = key ∧
        realm.Exposes definition expression entry.exposure) ∧
    (∀ expression exposure, realm.exposure definition expression = exposure ↔
      realm.Exposes definition expression exposure) ∧
    (∀ owner, owner ∈ realm.lineage definition ↔
      Relation.ReflTransGen realm.Inherits definition owner) ∧
    (realm.lineage definition).length ≤ realm.size + 1 := by
  refine ⟨fun key entry => ?_, fun _ _ => exposure_eq_iff, fun _ => mem_lineage_iff,
    length_lineageWithin_le realm realm.size definition⟩
  rw [get?_surface, Option.map_eq_some_iff]
  refine exists_congr fun expression => and_congr_right fun _ => ?_
  constructor
  · rintro rfl
    exact ⟨rfl, exposes_exposure realm definition expression⟩
  · intro h
    obtain ⟨hname, hexposes⟩ := h
    rw [hexposes.exposure_eq, ← hname]

/-! ## The two ways of stating a surface -/

theorem exposure_withSurface (surface : Option (Table String String)) :
    realm.exposure { definition with surface := surface } expression =
      realm.exposure definition expression := by
  -- Only the first class of the chain is another one, and not in its prototype.
  have hwithin : ∀ name steps,
      realm.nearestWithin name steps { definition with surface := surface } =
        realm.nearestWithin name steps definition := by
    intro name steps
    cases steps <;> rfl
  have hnearest : ∀ name, realm.nearestProperty? { definition with surface := surface } name =
      realm.nearestProperty? definition name := fun name => hwithin name realm.size
  rw [exposure, exposure]
  simp only [hnearest]

theorem surface?_of_pairs (hpairs : definition.surfacePairs? = some pairs) (hne : pairs ≠ []) :
    realm.surface? definition = some ((Table.ofList pairs).map fun key expression =>
      ⟨key, realm.exposure definition expression⟩) := by
  rw [surface?, hpairs, ← Table.ofList_map]
  cases pairs with
  | nil => exact absurd rfl hne
  | cons pair pairs => rfl

theorem returnedLiteral?_ne_nil {source : String}
    (h : Source.returnedLiteral? source = some pairs) : pairs ≠ [] := by
  obtain ⟨entries, hentries, rfl⟩ := Option.map_eq_some_iff.1 h
  obtain ⟨cs, _, hread⟩ := List.exists_of_findSome?_eq_some hentries
  obtain ⟨_, _, entry, _, _, _, _, _, _, rfl⟩ := Source.literalAt?_eq_some_iff.1 hread
  exact List.cons_ne_nil _ _

/-- A surface that a constructor returns is the same if it is declared instead: its
keys stand where they first appear and expose what is stated for them last. -/
theorem surface?_declared {constructor : Callable} {source : String}
    (hsurface : definition.surface = none)
    (hconstructor : definition.constructor? = some constructor)
    (hsource : constructor.source = some source)
    (hpairs : Source.returnedLiteral? source = some pairs) :
    realm.surface? { definition with surface := some (.ofList pairs) } =
      realm.surface? definition ∧
    ∃ surface, realm.surface? definition = some surface ∧
      surface.keys = (pairs.map Prod.fst).eraseDups ∧
      ∀ key, surface.get? key = (pairs.reverse.lookup key).map fun expression =>
        ⟨key, realm.exposure definition expression⟩ := by
  have hne := returnedLiteral?_ne_nil hpairs
  have hreturned : definition.surfacePairs? = some pairs := by
    rw [ClassDef.surfacePairs?, hsurface, hconstructor, Option.bind_some, hsource,
      Option.bind_some, hpairs]
  have hstated : realm.surface? definition = some ((Table.ofList pairs).map fun key expression =>
      ⟨key, realm.exposure definition expression⟩) := surface?_of_pairs hreturned hne
  have hdeclared : realm.surface? { definition with surface := some (.ofList pairs) } =
      some ((Table.ofList pairs).map fun key expression =>
        ⟨key, realm.exposure definition expression⟩) := by
    rw [surface?_of_pairs rfl (Table.entries_ofList_ne_nil hne), Table.ofList_entries]
    simp only [exposure_withSurface]
  refine ⟨hdeclared.trans hstated.symm, _, hstated, ?_, fun key => ?_⟩
  · rw [Table.keys_map, Table.keys_ofList]
  · rw [← Table.get?_ofList]
    exact lookup_map_pair (fun key expression =>
      (⟨key, realm.exposure definition expression⟩ : SurfaceEntry)) key _

/-- A constructor that returns one key twice. -/
def revolvingConstructor : Callable where
  source := some
    "function() \x7b return \x7b enter: this.turns, leave: this.push, enter: this.push \x7d; \x7d"
  params := none

/-- A class whose surface that constructor states. -/
def revolvingDoor : ClassDef ValueId where
  prototype := ⟨[("__construct", .callable revolvingConstructor),
    ("push", .callable ⟨none, some ["force"]⟩), ("turns", .field)], by decide⟩

theorem surface?_revolvingDoor_declared :
    let pairs := [("enter", "this.turns"), ("leave", "this.push"), ("enter", "this.push")]
    revolvingDoor.surface = none ∧ revolvingDoor.constructor? = some revolvingConstructor ∧
      revolvingConstructor.source.bind Source.returnedLiteral? = some pairs ∧
      (∅ : Realm).surface? { revolvingDoor with surface := some (.ofList pairs) } =
        (∅ : Realm).surface? revolvingDoor ∧
      ∃ surface, (∅ : Realm).surface? revolvingDoor = some surface ∧
        surface.keys = ["enter", "leave"] ∧
        surface.get? "enter" = some ⟨"enter", (∅ : Realm).exposure revolvingDoor "this.push"⟩ := by
  intro pairs
  have hpairs : revolvingConstructor.source.bind Source.returnedLiteral? = some pairs := by
    decide +kernel
  have hdeclared :=
    @surface?_declared ∅ revolvingDoor pairs revolvingConstructor _ rfl rfl rfl hpairs
  obtain ⟨hsame, surface, hsurface, hkeys, hentries⟩ := hdeclared
  exact ⟨rfl, rfl, hpairs, hsame, surface, hsurface, hkeys.trans (by decide), hentries "enter"⟩

end Realm

end ClassDiagram
