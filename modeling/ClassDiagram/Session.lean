import ClassDiagram.Diagram
import ClassDiagram.Scope.Resolver
import ClassDiagram.Surface

/-!
# Sessions

A session compiles classes of one realm into a graph. It holds the root
classes, the scopes by which names are resolved, the graph, further relations
and the settings of the diagram.

A class is compiled after the class that it extends and after the interfaces
that it implements, unless there is a node of its name already. Parents may
lead in a circle, so a class that is being compiled is put on a list; on
meeting it again the session goes on as if it were done. The list is also the
reason why compiling ends: each class on the way up the chain of parents is a
further value of the realm on it.

An operation that fails leaves what was done before the failure, so every
operation that can fail returns the session besides its outcome.
-/

namespace ClassDiagram

/-- The state of compiling classes of a realm. -/
structure Session (realm : Realm) where
  /-- The root classes, in the order of their registration. -/
  roots : List ValueId := []
  /-- Gives the classes and interfaces their names. -/
  resolver : Scope.Resolver := ∅
  /-- What has been compiled. -/
  graph : Graph := ∅
  /-- The relations to be written besides the graph, in order. -/
  relations : List Relation := []
  /-- How the diagram is written. -/
  settings : Diagram.Settings := {}
  /-- The classes that are being compiled, the latest first. -/
  inProgress : List ValueId := []

namespace Session

variable {realm : Realm}

/-- A session in which nothing is registered. -/
def empty : Session realm := {}

instance : EmptyCollection (Session realm) := ⟨empty⟩

instance : Inhabited (Session realm) := ⟨empty⟩

/-- Registers a root, which must be a class. -/
def addClass (session : Session realm) (id : ValueId) : Except Error (Session realm) :=
  match realm.expectClass id with
  | .error error => .error error
  | .ok _ => .ok { session with roots := session.roots ++ [id] }

/-- Registers roots in order, up to the first that is not a class; those before
it stay registered. -/
def addClasses (session : Session realm) : List ValueId → Except Error Unit × Session realm
  | [] => (.ok (), session)
  | id :: ids =>
      match session.addClass id with
      | .error error => (.error error, session)
      | .ok next => next.addClasses ids

/-- Registers a scope. -/
def addScope (session : Session realm) (name : String) (value : ValueId) :
    Except Error (Session realm) :=
  match session.resolver.addScope realm name value with
  | .error error => .error error
  | .ok resolver => .ok { session with resolver := resolver }

/-- Registers scopes in order, if each can be registered. -/
def addScopes (session : Session realm) :
    List (String × ValueId) → Except Error (Session realm)
  | [] => .ok session
  | (name, value) :: scopes =>
      match session.addScope name value with
      | .error error => .error error
      | .ok next => next.addScopes scopes

/-- A session with the given roots and then the given scopes. -/
def withRoots (roots : List ValueId) (scopes : List (String × ValueId)) :
    Except Error (Session realm) :=
  match (∅ : Session realm).addClasses roots with
  | (.error error, _) => .error error
  | (.ok (), session) => session.addScopes scopes

/-- Adds a relation behind the others. -/
def addRelation (session : Session realm) (relation : Relation) : Session realm :=
  { session with relations := session.relations ++ [relation] }

/-- Turns the notes on or off. -/
def setNotes (session : Session realm) (notes : Bool) : Session realm :=
  { session with settings := { session.settings with notes := notes } }

/-- Turns the marks at the start and the end of the diagram on or off. -/
def setEnclose (session : Session realm) (enclose : Bool) : Session realm :=
  { session with settings := { session.settings with enclose := enclose } }

/-- The name of a value in this session. -/
def resolve (session : Session realm) (id : ValueId) : QualifiedName × Session realm :=
  let (name, resolver) := session.resolver.resolve realm id
  (name, { session with resolver := resolver })

/-- The node of an interface with the given requirements. -/
def interfaceNode (name : QualifiedName) (requirements : Table String String) : InterfaceNode where
  name := name
  required := requirements.entries.map fun (member, declared) =>
    (member, MemberKind.ofDeclaredType declared)

/-- Compiles an interface, unless there is a node of its name already. -/
def compileInterface (session : Session realm) (id : ValueId) :
    Except Error QualifiedName × Session realm :=
  match realm.expectInterface id with
  | .error error => (.error error, session)
  | .ok requirements =>
      let (name, resolver) := session.resolver.resolve realm id
      let named := { session with resolver := resolver }
      if named.graph.contains name then (.ok name, named)
      else
        (.ok name,
          { named with
            graph := named.graph.insert (.interfaceNode (interfaceNode name requirements)) })

/-- Compiles interfaces in order, up to the first value that is none. -/
def compileInterfaces (session : Session realm) :
    List ValueId → Except Error (List QualifiedName) × Session realm
  | [] => (.ok [], session)
  | id :: ids =>
      match session.compileInterface id with
      | (.error error, next) => (.error error, next)
      | (.ok name, next) =>
          match next.compileInterfaces ids with
          | (.error error, final) => (.error error, final)
          | (.ok names, final) => (.ok (name :: names), final)

/-- The node of a class. A member whose name is a key of the surface shows
there and only there. -/
def classNode (realm : Realm) (definition : ClassDef ValueId) (name : QualifiedName)
    (parent : Option QualifiedName) (interfaces : List QualifiedName) : ClassNode :=
  let surface := (realm.surface? definition).getD ∅
  { name := name
    parent := parent
    members := definition.members.filterKeys fun key => !surface.contains key
    surface := surface
    interfaces := interfaces }

/-- Takes a class off the list of those that are being compiled. -/
def close (session : Session realm) (id : ValueId) : Session realm :=
  { session with inProgress := session.inProgress.erase id }

/-- Compiles the class itself, after its parent. -/
def compileOwn (session : Session realm) (id : ValueId) (definition : ClassDef ValueId)
    (name : QualifiedName) (parent : Option QualifiedName) :
    Except Error QualifiedName × Session realm :=
  match session.compileInterfaces definition.implements with
  | (.error error, next) => (.error error, next.close id)
  | (.ok interfaces, next) =>
      let node := classNode realm definition name parent interfaces
      (.ok name, { next with graph := next.graph.insert (.classNode node) }.close id)

/-- Compiles a class and its ancestors, unless there is a node of its name or
it is being compiled already. The name of the class is returned. -/
def compile (session : Session realm) (id : ValueId) :
    Except Error QualifiedName × Session realm :=
  match _hclass : realm.expectClass id with
  | .error error => (.error error, session)
  | .ok definition =>
      let named := session.resolver.resolve realm id
      if _hopen : session.graph.contains named.1 = true ∨ id ∈ session.inProgress then
        (.ok named.1, { session with resolver := named.2 })
      else
        let opened : Session realm :=
          { session with resolver := named.2, inProgress := id :: session.inProgress }
        match definition.parent with
        | none => opened.compileOwn id definition named.1 none
        | some parent =>
            match opened.compile parent with
            | (.error error, next) => (.error error, next.close id)
            | (.ok parentName, next) => next.compileOwn id definition named.1 (some parentName)
termination_by realm.unlisted session.inProgress
decreasing_by
  exact Realm.unlisted_cons_lt
    (Realm.index_lt_size_of_class? (Realm.expectClass_eq_ok_iff.1 _hclass))
    fun hmem => _hopen (.inr hmem)

/-- Compiles classes in order, up to the first that cannot be compiled. -/
def compileEach (session : Session realm) : List ValueId → Except Error Unit × Session realm
  | [] => (.ok (), session)
  | id :: ids =>
      match session.compile id with
      | (.error error, next) => (.error error, next)
      | (.ok _, next) => next.compileEach ids

/-- Compiles the roots in the order of their registration. -/
def compileAll (session : Session realm) : Except Error Unit × Session realm :=
  session.compileEach session.roots

/-- The text of the diagram for what has been compiled so far. -/
def diagram (session : Session realm) : String :=
  Diagram.text session.settings session.graph session.relations

/-- Compiles the roots afresh and writes the diagram. -/
def render (session : Session realm) : Except Error String × Session realm :=
  match { session with graph := ∅ }.compileAll with
  | (.error error, next) => (.error error, next)
  | (.ok (), next) => (.ok next.diagram, next)

end Session

end ClassDiagram
