import DomainModels.Error
import DomainModels.Metamodel.Ast
/-! Decorators as a model file keeps them. A decorator is attached to a target: the
namespace of the file, a declaration of it, or a property or enumeration value of a
declaration. On one target each decorator name appears at most once. Factories may
build a decorator in their own way; the first factory that answers wins, and a
decorator no factory builds is kept as written. -/
namespace DomainModels

/-- The element a decorator is attached to. -/
structure DecoratorTarget where
  ns : String
  declaration : Option String := none
  property : Option String := none
  deriving Repr, DecidableEq, Inhabited

/-- `ns`, `ns.Declaration` or `ns.Declaration.property`. -/
def DecoratorTarget.render (t : DecoratorTarget) : String :=
  let part (p : Option String) : String := (p.map fun s => "." ++ s).getD ""
  t.ns ++ part t.declaration ++ part t.property

/-- A builder of decorators: for a target and a decorator as written it builds one,
refuses with an error, or passes (`none`) to the next builder. -/
structure DecoratorFactory where
  build : DecoratorTarget → Metamodel.Decorator → Outcome (Option Metamodel.Decorator)

/-- The type references among a decorator's arguments. -/
def Metamodel.Decorator.typeReferences (d : Metamodel.Decorator) : List Metamodel.TypeIdentifier :=
  d.arguments.filterMap fun
    | .typeReference t _ => some t
    | _ => none

/-- What the parts of one model file are built with: its namespace, the name of the file
it was read from, and the decorator factories in the order they were registered. -/
structure FileScope where
  ns : String
  file : Option String := none
  factories : List DecoratorFactory := []

namespace FileScope

/-- An illegal model found in this file. -/
def illegal (s : FileScope) (m : String) (location : Option Location) : ModelError :=
  ModelError.illegalAt m s.file location

/-- Give a failure that names neither file nor place this file and the place. -/
def locate (s : FileScope) (location : Option Location) (e : ModelError) : ModelError :=
  e.locate s.file location

/-- The target of a declaration of this file. -/
def target (s : FileScope) (declaration : String) : DecoratorTarget :=
  { ns := s.ns, declaration := some declaration }

end FileScope

/-- The decorator of the first factory that builds one. -/
def firstBuilt (target : DecoratorTarget) (node : Metamodel.Decorator) :
    List DecoratorFactory → Outcome (Option Metamodel.Decorator)
  | [] => pure none
  | f :: rest => do
    match ← f.build target node with
    | some d => pure (some d)
    | none => firstBuilt target node rest

/-- Build the decorators of one target, refusing a name used twice on it. -/
def buildDecorators (nodes : List Metamodel.Decorator) (target : DecoratorTarget)
    (factories : List DecoratorFactory) (file : Option String) : Outcome (List Metamodel.Decorator) :=
  go [] nodes
where
  /-- The decorators after the names already seen. -/
  go (seen : List String) : List Metamodel.Decorator → Outcome (List Metamodel.Decorator)
    | [] => pure []
    | node :: rest => do
      if seen.contains node.name then
        throw (ModelError.illegalAt ("Duplicate decorator " ++ node.name ++ " on " ++ target.render) file
          node.location)
      let built ← firstBuilt target node factories
      let rest ← go (node.name :: seen) rest
      pure (built.getD node :: rest)

/-- Build decorators for a target within a file. -/
def FileScope.decorators (s : FileScope) (nodes : List Metamodel.Decorator) (target : DecoratorTarget) :
    Outcome (List Metamodel.Decorator) :=
  buildDecorators nodes target s.factories s.file

end DomainModels
