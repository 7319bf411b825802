import ClassDiagram.Table

/-!
# Values

The values of a host program are objects, functions, classes, interfaces and
scalars. Objects, functions and classes hold entries and so can serve as
namespaces. A value refers to others, and how it refers to them is left open:
`Value ρ` is a value whose references have type `ρ`. In a written model a
reference is the name of another value; in a realm it is a `ValueId`.

A written model also says more of a property and of a scalar than a realm keeps.
So `Value ρ π τ` leaves open, in the same way, what stands behind a key of a
prototype and what a scalar is; in a realm these are a `Property` and a text.
-/

namespace ClassDiagram

/-- The identity of a value within a realm: its position there. An id may lie
beyond the realm, and then it is the id of a value that does not exist. -/
structure ValueId where
  /-- The position. -/
  index : Nat
deriving DecidableEq, Repr

/-- How an id is written in a message. -/
def ValueId.text (id : ValueId) : String := "#" ++ toString id.index

/-- A callable property: its source text, its declared parameters, or both. -/
structure Callable where
  /-- The source text, if there is one. -/
  source : Option String
  /-- The declared parameters; they take precedence over the source text. -/
  params : Option (List String)
deriving DecidableEq, Repr

/-- What stands behind a key of a prototype in a realm. -/
inductive Property where
  | field
  | callable (definition : Callable)
deriving DecidableEq, Repr

/-- A class: where it stands in the hierarchy, what its instances have, and
what it offers. -/
structure ClassDef (ρ : Type) (π : Type := Property) where
  /-- The class that this one extends. -/
  parent : Option ρ := none
  /-- The interfaces that are implemented, in declaration order. -/
  implements : List ρ := []
  /-- The properties of the instances. -/
  prototype : Table String π := ∅
  /-- The declared public surface: an expression behind each key. -/
  surface : Option (Table String String) := none
  /-- The static members, by which the class is a namespace. -/
  statics : Table String ρ := ∅
deriving DecidableEq

namespace ClassDef

variable {ρ π : Type}

/-- The key of the constructor in a prototype. -/
def constructorKey : String := "__construct"

/-- The constructor, if the prototype has a callable under its key. -/
def constructor? (definition : ClassDef ρ) : Option Callable :=
  match definition.prototype.get? constructorKey with
  | some (.callable callable) => some callable
  | _ => none

/-- The class with other references. -/
def map {σ : Type} (f : ρ → σ) (definition : ClassDef ρ π) : ClassDef σ π where
  parent := definition.parent.map f
  implements := definition.implements.map f
  prototype := definition.prototype
  surface := definition.surface
  statics := definition.statics.map fun _ => f

@[simp] theorem parent_map {σ : Type} (f : ρ → σ) (definition : ClassDef ρ π) :
    (definition.map f).parent = definition.parent.map f := rfl

end ClassDef

/-- The five kinds of value. -/
inductive ValueKind where
  | object
  | function
  | classDef
  | interfaceDef
  | scalar
deriving DecidableEq, Repr

namespace ValueKind

/-- The word for the kind. -/
def name : ValueKind → String
  | object => "object"
  | function => "function"
  | classDef => "class"
  | interfaceDef => "interface"
  | scalar => "scalar"

/-- All kinds. -/
def all : List ValueKind := [object, function, classDef, interfaceDef, scalar]

/-- The kind for which the word stands. -/
def ofName? (word : String) : Option ValueKind := all.find? (·.name = word)

/-- The word for the kind with its indefinite article. -/
def nameWithArticle : ValueKind → String
  | object => "an object"
  | function => "a function"
  | classDef => "a class"
  | interfaceDef => "an interface"
  | scalar => "a scalar"

end ValueKind

/-- A value of the host program, with references of type `ρ`, properties of type `π`
and scalars of type `τ`. -/
inductive Value (ρ : Type) (π : Type := Property) (τ : Type := String) where
  | object (entries : Table String ρ)
  | function (source : String) (entries : Table String ρ)
  | classDef (definition : ClassDef ρ π)
  | interfaceDef (requirements : Table String String)
  | scalar (literal : τ)
deriving DecidableEq

namespace Value

variable {ρ π τ : Type}

/-- The kind of the value. -/
def kind : Value ρ π τ → ValueKind
  | object _ => .object
  | function _ _ => .function
  | classDef _ => .classDef
  | interfaceDef _ => .interfaceDef
  | scalar _ => .scalar

/-- The entries of a container: an object, a function or a class. -/
def entries? : Value ρ π τ → Option (Table String ρ)
  | object entries => some entries
  | function _ entries => some entries
  | classDef definition => some definition.statics
  | interfaceDef _ => none
  | scalar _ => none

/-- Whether the value can hold entries. -/
def isContainer (value : Value ρ π τ) : Bool := value.entries?.isSome

/-- The value with other references. -/
def map {σ : Type} (f : ρ → σ) : Value ρ π τ → Value σ π τ
  | object entries => object (entries.map fun _ => f)
  | function source entries => function source (entries.map fun _ => f)
  | classDef definition => classDef (definition.map f)
  | interfaceDef requirements => interfaceDef requirements
  | scalar literal => scalar literal

@[simp] theorem kind_map {σ : Type} (f : ρ → σ) (value : Value ρ π τ) :
    (value.map f).kind = value.kind := by
  cases value <;> rfl

theorem entries?_map {σ : Type} (f : ρ → σ) (value : Value ρ π τ) :
    (value.map f).entries? = value.entries?.map fun entries => entries.map fun _ => f := by
  cases value <;> rfl

theorem isContainer_map {σ : Type} (f : ρ → σ) (value : Value ρ π τ) :
    (value.map f).isContainer = value.isContainer := by
  rw [isContainer, isContainer, entries?_map, Option.isSome_map]

/-- Replaces the entries of a container and leaves everything else as it is. -/
def withEntries (entries : Table String ρ) : Value ρ π τ → Value ρ π τ
  | object _ => object entries
  | function source _ => function source entries
  | classDef definition => classDef { definition with statics := entries }
  | interfaceDef requirements => interfaceDef requirements
  | scalar literal => scalar literal

theorem entries?_withEntries {value : Value ρ π τ} (h : value.isContainer = true)
    (entries : Table String ρ) : (value.withEntries entries).entries? = some entries := by
  cases value with
  | interfaceDef _ => cases h
  | scalar _ => cases h
  | object _ | function _ _ | classDef _ => rfl

end Value

end ClassDiagram
