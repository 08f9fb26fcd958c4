import DomainModels.Generate.Source
import DomainModels.Instance.Factory
/-! Generated instances of a registry's classes. An instance is made by the factory, so it
holds its defaults; every other property that is not a system property, and not optional
unless optional ones are asked for, gets a value from the source. An abstract type stands
for its first concrete type: the class itself, then its descendants depth first in
declaration order. Relationships point to a new identifier of the target's concrete type;
enumerations take a value by the source's index; maps get entries as lists get items.

The classes being generated form a stack, so recursive models stay finite: a property
whose class is on the stack gets an empty list when it is a list, is left out when it is
optional, and is an error otherwise; a map whose values would re-enter gets no entries. -/
namespace DomainModels.Generate

open DomainModels.Random

/-- Generation: drawing from the random stream, and failing with a model error. -/
abbrev Generating := StateT ChaCha (Except ModelError)

/-- Run a drawing in a generation. -/
def Generating.draw {α : Type} (d : Draw α) : Generating α := fun g => .ok (d.run g)

/-- Lift a plain outcome into a generation. -/
def Generating.lift {α : Type} : Outcome α → Generating α
  | .ok a => pure a
  | .error e => throw e

/-- A failure of generation. -/
def refused (m : String) : ModelError := .instanceGeneration m

/-- What generation needs: a factory for new instances, a source of values, and whether
optional properties get values. -/
structure Generator where
  factory : Factory
  source : Source
  includeOptional : Bool

namespace Generator

/-- The registry instances are generated from. -/
def registry (gen : Generator) : Registry := gen.factory.registry

/-- The class that stands for a type: the type itself unless abstract, else its first
concrete descendant. -/
def concrete (gen : Generator) (fqn : String) : Outcome ResolvedClass := do
  let c ← gen.registry.resolvedClass fqn
  if !c.isAbstract then return c
  match (gen.registry.index.assignableClasses fqn).find? (!·.isAbstract) with
  | some d => pure d
  | none => throw (refused ("No concrete extending type for \"" ++ fqn ++ "\""))

/-- The string validator of a class's identifying field. -/
def identifierValidator (c : ResolvedClass) (idField : String) : Option StringValidator :=
  ((c.property? idField).bind ResolvedProperty.effectiveField?).bind fun f =>
    match f.validator with
    | some (.string v) => some v
    | _ => none

/-- Whether a property holds instances of a class that is being generated. -/
def reenters (gen : Generator) (stack : List String) (p : ResolvedProperty) : Bool :=
  if p.isRelationship then false
  else
    match p.targetFqn? with
    | none => false
    | some target =>
      match gen.registry.getType target with
      | .ok (.cls _) =>
        match gen.concrete target with
        | .ok c => stack.contains c.fqn
        | .error _ => false
      | _ => false

/-- A value of a primitive field; a double range too wide for the sampler is refused. -/
def primitiveValue (gen : Generator) (field : Field) (primitive : PrimitiveType) : Generating Value :=
  let number := match field.validator with
    | some (.number v) => some v
    | _ => none
  let string := match field.validator with
    | some (.string v) => some v
    | _ => none
  let s := gen.source
  match primitive with
  | .string => Value.string <$> Generating.draw (s.string string)
  | .boolean => Value.boolean <$> Generating.draw s.boolean
  | .integer => Value.integer <$> Generating.draw (s.integer number)
  | .long => Value.long <$> Generating.draw (s.integer number)
  | .double => do
    match ← Generating.draw (s.double number) with
    | some d => pure (.double d)
    | none => throw (refused "Uniform::new_inclusive: range overflow")
  | .dateTime => Value.dateTime <$> Generating.draw s.dateTime

/-- A relationship to a new identifier of the concrete type of a property's target. -/
def relationshipValue (gen : Generator) (p : ResolvedProperty) : Generating Value := do
  let c ← Generating.lift (gen.concrete (p.targetFqn?.getD ""))
  let idField := c.identifier.getD ""
  let id ← Generating.draw (gen.source.identifier (identifierValidator c idField))
  let rel ← Generating.lift (gen.factory.newRelationship c.ns c.name id)
  pure (.relationship rel)

/-- A value of an enumeration. -/
def enumValue (gen : Generator) (target : String) (e : EnumDeclaration) : Generating Value := do
  if e.values.isEmpty then throw (refused ("Enum \"" ++ target ++ "\" has no values"))
  let i ← Generating.draw (gen.source.enumIndex e.values.length)
  pure (.enum ((e.values.getD (i % e.values.length) default).name))

/-- `n` results of a generation in turn. -/
def repeatGen {α : Type} (g : Generating α) : Nat → Generating (List α)
  | 0 => pure []
  | n + 1 => do
    let a ← g
    let rest ← repeatGen g n
    pure (a :: rest)

mutual

/-- A new instance of the concrete class of a declared type. The fuel bounds the nesting: a
class on the stack is never entered again, and between two classes each map nests once at
most unless a map holds itself, so the numbers of classes and maps are enough. -/
def classInstance (gen : Generator) : Nat → List String → String → Generating Resource
  | 0, _, _ => throw (refused "Model is recursive.")
  | fuel + 1, stack, declared => do
    let c ← Generating.lift (gen.concrete declared)
    populate gen fuel (c.fqn :: stack) c

/-- A new instance of a concrete class with its properties filled in. -/
def populate (gen : Generator) : Nat → List String → ResolvedClass → Generating Resource
  | 0, _, _ => throw (refused "Model is recursive.")
  | fuel + 1, stack, c => do
    let mut r ← match c.identifier with
      | some idField => do
        let id ← Generating.draw (gen.source.identifier (identifierValidator c idField))
        Generating.lift (gen.factory.newResource c.ns c.name id)
      | none => Generating.lift (gen.factory.newConcept c.ns c.name)
    for p in c.properties do
      let name := p.name
      if Names.isSystemProperty name || c.identifier == some name then continue
      if p.isOptional && !gen.includeOptional then continue
      if r.contains name then continue
      if let some v ← propertyValue gen fuel stack p then r := r.set name v
    pure r

/-- The value of a property, none for an optional one that would re-enter. -/
def propertyValue (gen : Generator) : Nat → List String → ResolvedProperty → Generating (Option Value)
  | 0, _, _ => throw (refused "Model is recursive.")
  | fuel + 1, stack, p => do
    let again := gen.reenters stack p
    if p.isArray then
      if again then return some (.array [])
      let items ← repeatGen (itemValue gen fuel stack p) gen.source.arrayLength
      return some (.array items)
    if again then
      if p.isOptional then return none
      throw (refused "Model is recursive.")
    some <$> itemValue gen fuel stack p

/-- One item of a property. -/
def itemValue (gen : Generator) : Nat → List String → ResolvedProperty → Generating Value
  | 0, _, _ => throw (refused "Model is recursive.")
  | fuel + 1, stack, p => do
    if p.isRelationship then return ← relationshipValue gen p
    if let some field := p.effectiveField? then
      if let some prim := field.primitive? then
        return ← gen.primitiveValue field prim
    let some target := p.targetFqn?
      | throw (refused ("Cannot generate a value for field \"" ++ p.name ++ "\""))
    match ← Generating.lift (gen.registry.getType target) with
    | .cls _ => Value.concept <$> classInstance gen fuel stack target
    | .enum e => enumValue gen target e
    | .map _ => mapValue gen fuel stack target
    | .scalar _ =>
      throw (refused ("Scalar \"" ++ target ++ "\" was not unboxed for field \"" ++ p.name ++ "\""))

/-- The entries of a map, none when its values would re-enter. -/
def mapValue (gen : Generator) : Nat → List String → String → Generating Value
  | 0, _, _ => throw (refused "Model is recursive.")
  | fuel + 1, stack, target => do
    let m ← Generating.lift (gen.registry.resolvedMap target)
    let (some keyField, some keyPrim) := (m.key.effectiveField?, m.key.primitive?)
      | throw (refused ("Map \"" ++ target ++ "\" has no usable key type"))
    let count := if gen.reenters stack m.value then 0 else gen.source.arrayLength
    let entries ← repeatGen (do
      let key ← gen.primitiveValue keyField keyPrim
      let value ← itemValue gen fuel stack m.value
      pure (key, value)) count
    pure (.map entries)

end

/-- A new instance of a type, drawn from a stream. -/
def generate (gen : Generator) (ns typeName : String) (stream : ChaCha) : Outcome Resource :=
  let fuel := 8 * (gen.registry.index.classes.length + 2) * (gen.registry.index.maps.length + 2)
  (classInstance gen fuel [] (Names.qualify ns typeName)).run' stream

end Generator

end DomainModels.Generate
