import ClassDiagram.Member
import ClassDiagram.Realm
import ClassDiagram.Source.Literal
import ClassDiagram.Source.Reference
import ClassDiagram.Source.Signature

/-!
# What a class shows

A class has the members of its own prototype. It may also have a public
surface, declared with the class or read from the object literal that its
constructor returns: a list of keys, each with an expression.

If the expression is a reference to a member, and the nearest class of the
lineage that has a property of that name has a callable there, the entry
forwards to that callable. Every other entry is a field. A field that is nearer
hides a callable that is farther away.
-/

namespace ClassDiagram

/-- The parameters of a callable: those that are declared, else those in the
header of its source text, else none. -/
def Callable.parameters (callable : Callable) : List String :=
  match callable.params with
  | some params => params
  | none => (callable.source.bind Source.parameters?).getD []

/-- What a property shows as. -/
def Property.shape : Property → Shape
  | field => .field
  | callable definition => .callable definition.parameters

namespace ClassDef

variable {ρ : Type}

/-- The members of the class itself, in declaration order. -/
def members (definition : ClassDef ρ) : Table String Member :=
  definition.prototype.map fun name property => ⟨name, property.shape⟩

@[simp] theorem keys_members (definition : ClassDef ρ) :
    definition.members.keys = definition.prototype.keys := by
  simp [members]

/-- The keys and expressions of the public surface, if the class states one:
by declaration, else by what its constructor returns. -/
def surfacePairs? (definition : ClassDef ρ) : Option (List (String × String)) :=
  match definition.surface with
  | some declared => some declared.entries
  | none => (definition.constructor?.bind Callable.source).bind Source.returnedLiteral?

end ClassDef

namespace Realm

/-- The property of the name in the nearest class of the lineage that has one. -/
def nearestProperty? (realm : Realm) (definition : ClassDef ValueId) (name : String) :
    Option Property :=
  (realm.lineage definition).findSome? (·.prototype.get? name)

/-- What an expression in the surface of the class exposes. -/
def exposure (realm : Realm) (definition : ClassDef ValueId) (expression : String) : Exposure :=
  match Source.memberReference? expression with
  | none => .field
  | some target =>
      match realm.nearestProperty? definition target with
      | some (.callable callable) => .forwarding target callable.parameters
      | _ => .field

/-- The public surface of the class, if it has one with at least one entry. -/
def surface? (realm : Realm) (definition : ClassDef ValueId) :
    Option (Table String SurfaceEntry) :=
  match definition.surfacePairs? with
  | none | some [] => none
  | some pairs =>
      some (.ofList (pairs.map fun (key, expression) =>
        (key, ⟨key, realm.exposure definition expression⟩)))

end Realm

end ClassDiagram
