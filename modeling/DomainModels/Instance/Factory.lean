import DomainModels.Registry
import DomainModels.Instance.Value
import DomainModels.Wire.DateTime
import DomainModels.Decimal.Notation
/-! Making instances of the classes of a registry. Abstract classes are refused, an
identified class needs an identifier and a class without identifier takes none. A new
instance holds the declared default of every property that has one, and a transaction
or event is stamped with the current time, which the factory is given. -/
namespace DomainModels

/-- The debugging text of a declared default, as it appears in messages. -/
def DefaultValue.describe : DefaultValue → String
  | .string s => "String(" ++ Text.quoteStr s ++ ")"
  | .integer i => "Integer(" ++ toString i ++ ")"
  | .double f =>
    let text := Decimal.displayFloat f
    "Double(" ++ (if f.isFinite && !text.contains '.' && !text.contains 'e' then text ++ ".0" else text) ++ ")"
  | .boolean b => "Boolean(" ++ toString b ++ ")"

/-- The declared default of a property as a value; a list property holds it as its one
item. -/
def defaultValue (prop : ResolvedProperty) : Outcome (Option Value) := do
  let some field := prop.effectiveField? | return none
  let some d := field.defaultValue | return none
  let v ← match field.primitive?, d with
    | some .string, .string s => pure (Value.string s)
    | some .boolean, .boolean b => pure (.boolean b)
    | some .integer, .integer i => pure (.integer i)
    | some .long, .integer i => pure (.long i)
    | some .double, .double f => pure (.double f)
    | some .double, .integer i => pure (.double (Float.ofInt i))
    | some .dateTime, .string s =>
      match Wire.parseDateTime s false 0 with
      | some t => pure (.dateTime t)
      | none => throw (ModelError.illegal ("Invalid DateTime default \"" ++ s ++ "\" for field " ++ field.name))
    | none, .string s => pure (.enum s)
    | _, other =>
      throw (ModelError.illegal ("Default value " ++ other.describe ++ " does not match the type of field " ++
        field.name))
  pure (some (if prop.isArray then .array [v] else v))

/-- The maker of instances of a registry's classes, stamping with the time `now`. -/
structure Factory where
  registry : Registry
  now : Time.DateTime

namespace Factory

/-- The class of a type that can have instances. -/
def instantiable (f : Factory) (ns typeName : String) : Outcome ResolvedClass := do
  let fqn := Names.qualify ns typeName
  let c ← f.registry.resolvedClass fqn
  if c.isAbstract then throw (.validation ("Cannot instantiate the abstract type \"" ++ fqn ++ "\"") none)
  pure c

/-- Give a new instance its defaults, and its timestamp when the class has one. -/
def withDefaults (f : Factory) (c : ResolvedClass) (r : Resource) : Outcome Resource := do
  let r ← c.properties.foldlM (fun (r : Resource) p => do
    match ← defaultValue p with
    | some v => pure (r.set p.name v)
    | none => pure r) r
  pure (if c.isTimestamped then r.set Names.timestampField (.dateTime f.now) else r)

/-- A new instance of an identified class. -/
def newResource (f : Factory) (ns typeName id : String) : Outcome Resource := do
  let c ← f.instantiable ns typeName
  if !c.isIdentified then
    throw (.validation ("Type \"" ++ c.fqn ++ "\" is not identified; use new_concept") none)
  let r ← f.withDefaults c (Resource.new ns typeName c.identifier)
  r.setIdentifier id

/-- A new instance of a class without identifier. -/
def newConcept (f : Factory) (ns typeName : String) : Outcome Resource := do
  let c ← f.instantiable ns typeName
  if c.isIdentified then
    throw (.validation ("Type \"" ++ c.fqn ++ "\" is identified; use new_resource") none)
  f.withDefaults c (Resource.new ns typeName none)

/-- A relationship to an instance of an identified class. -/
def newRelationship (f : Factory) (ns typeName id : String) : Outcome Relationship := do
  let fqn := Names.qualify ns typeName
  let c ← f.registry.resolvedClass fqn
  if !c.isIdentified then
    throw (.validation ("Cannot create a relationship to \"" ++ fqn ++ "\": the type is not identified") none)
  pure { ns, typeName, identifier := id }

end Factory

end DomainModels
