import DomainModels.Names
import DomainModels.Graph.Decorator
import DomainModels.Graph.Validator
/-! Properties of declarations as a model file keeps them: fields, relationships and the
values of enumerations. A field has a primitive type or names a declared type; a
primitive field may carry a validator and a default, and a declared default must pass
the validator. -/
namespace DomainModels

/-- The primitive types. -/
inductive PrimitiveType where
  | string
  | boolean
  | dateTime
  | double
  | integer
  | long
  deriving Repr, DecidableEq, Inhabited

namespace PrimitiveType

/-- The name of a primitive type in models. -/
def name : PrimitiveType → String
  | .string => "String"
  | .boolean => "Boolean"
  | .dateTime => "DateTime"
  | .double => "Double"
  | .integer => "Integer"
  | .long => "Long"

/-- Double, Integer and Long are numeric. -/
def isNumeric : PrimitiveType → Bool
  | .double | .integer | .long => true
  | _ => false

end PrimitiveType

/-- The type of a field as written: a primitive, or a declared type still to be resolved
against the imports of the file. -/
inductive TypeRef where
  | primitive (p : PrimitiveType)
  | named (type : Metamodel.TypeIdentifier)
  deriving Repr, BEq, Inhabited

/-- The primitive's name, or the reference as written. -/
def TypeRef.render : TypeRef → String
  | .primitive p => p.name
  | .named t => t.reference

/-- A declared default: text (also for DateTime and enumeration values), a whole number,
a double or a boolean. -/
inductive DefaultValue where
  | string (value : String)
  | integer (value : Int)
  | double (value : Float)
  | boolean (value : Bool)
  deriving Repr, Inhabited

/-- A field of a class, or the key or value field of a map. -/
structure Field where
  name : String
  typeRef : TypeRef
  isArray : Bool := false
  isOptional : Bool := false
  validator : Option Validator := none
  defaultValue : Option DefaultValue := none
  decorators : List Metamodel.Decorator := []
  location : Option Location := none
  deriving Inhabited

/-- A required single field with no validator, default or decorators. -/
def Field.synthetic (name : String) (typeRef : TypeRef) : Field := { name, typeRef }

/-- The primitive type of a field, when it has one. -/
def Field.primitive? (f : Field) : Option PrimitiveType :=
  match f.typeRef with
  | .primitive p => some p
  | .named _ => none

/-- A typed pointer to an identified class. -/
structure RelationshipDeclaration where
  name : String
  target : Metamodel.TypeIdentifier
  isArray : Bool := false
  isOptional : Bool := false
  decorators : List Metamodel.Decorator := []
  location : Option Location := none
  deriving Inhabited

/-- A value of an enumeration. -/
structure EnumValue where
  name : String
  decorators : List Metamodel.Decorator := []
  location : Option Location := none
  deriving Inhabited

/-- A property of a declaration. -/
inductive Property where
  | field (f : Field)
  | relationship (r : RelationshipDeclaration)
  | enumValue (v : EnumValue)
  deriving Inhabited

namespace Property

/-- The property's name. -/
def name : Property → String
  | .field f => f.name
  | .relationship r => r.name
  | .enumValue v => v.name

/-- Whether the property holds a list. -/
def isArray : Property → Bool
  | .field f => f.isArray
  | .relationship r => r.isArray
  | .enumValue _ => false

/-- Whether the property may be left out. -/
def isOptional : Property → Bool
  | .field f => f.isOptional
  | .relationship r => r.isOptional
  | .enumValue _ => false

/-- Whether the name is reserved for the system. -/
def isSystem (p : Property) : Bool := Names.isSystemProperty p.name

/-- The decorators of the property. -/
def decorators : Property → List Metamodel.Decorator
  | .field f => f.decorators
  | .relationship r => r.decorators
  | .enumValue v => v.decorators

/-- Where the property was declared. -/
def location : Property → Option Location
  | .field f => f.location
  | .relationship r => r.location
  | .enumValue v => v.location

/-- The field, when the property is one. -/
def field? : Property → Option Field
  | .field f => some f
  | _ => none

/-- `Field`, `Relationship` or `EnumValue`. -/
def kindName : Property → String
  | .field _ => "Field"
  | .relationship _ => "Relationship"
  | .enumValue _ => "EnumValue"

end Property

/-- A string validator from a metamodel pattern and length bounds, or none when neither
is given. -/
def StringValidator.ofMetamodel (regex : Option Metamodel.RegexValidator)
    (length : Option Metamodel.LengthValidator) : Outcome (Option StringValidator) :=
  if regex.isNone && length.isNone then pure none
  else some <$> StringValidator.make (regex.map fun r => (r.pattern, r.flags))
    (length.bind (·.minLength)) (length.bind (·.maxLength))

/-- A number validator from metamodel bounds. -/
def NumberValidator.ofBounds {α : Type} (toFloat : α → Float) (b : Metamodel.Bounds α) :
    Outcome NumberValidator :=
  NumberValidator.make (b.lower.map toFloat) (b.upper.map toFloat)

/-- Check a declared default against a validator; a failure names what kind of element
(`field`, `scalar`) declared it. -/
def checkDefault {α : Type} (s : FileScope) (what name : String) (check : α → Outcome Unit)
    (default : Option α) (location : Option Location) : Outcome Unit :=
  match default with
  | none => pure ()
  | some d =>
    match check d with
    | .ok () => pure ()
    | .error e =>
      throw (s.illegal ("Default value for " ++ what ++ " " ++ name ++ " is invalid: " ++ e.message) location)

/-- The string validator of a property or scalar, with its default checked. -/
def stringValidation (s : FileScope) (what name : String) (regex : Option Metamodel.RegexValidator)
    (length : Option Metamodel.LengthValidator) (default : Option String) (location : Option Location) :
    Outcome (Option Validator) := do
  let v ← (StringValidator.ofMetamodel regex length).mapError (s.locate location)
  if let some v := v then
    checkDefault s what name (v.validate name) default location
  pure (v.map .string)

/-- The number validator of a property or scalar, with its default checked. -/
def numberValidation {α : Type} (toFloat : α → Float) (s : FileScope) (what name : String)
    (bounds : Option (Metamodel.Bounds α)) (default : Option α) (location : Option Location) :
    Outcome (Option Validator) := do
  match bounds with
  | none => pure none
  | some b =>
    let v ← (NumberValidator.ofBounds toFloat b).mapError (s.locate location)
    checkDefault s what name (fun d => v.validate name (toFloat d)) default location
    pure (some (.number v))

/-- Build a property of a declaration from its metamodel node. -/
def Property.ofMetamodel (s : FileScope) (declaration : String) (node : Metamodel.Property) :
    Outcome Property := do
  let target : DecoratorTarget := { ns := s.ns, declaration := some declaration, property := some node.name }
  let field (typeRef : TypeRef) (validator : Option Validator) (defaultValue : Option DefaultValue) :
      Outcome Property := do
    let decorators ← s.decorators node.decorators target
    pure (.field
      { name := node.name, typeRef, isArray := node.isArray, isOptional := node.isOptional,
        validator, defaultValue, decorators, location := node.location })
  match node.kind with
  | .string default regex length =>
    let v ← stringValidation s "field" node.name regex length default node.location
    field (.primitive .string) v (default.map .string)
  | .integer default bounds =>
    let v ← numberValidation Float.ofInt s "field" node.name bounds default node.location
    field (.primitive .integer) v (default.map .integer)
  | .long default bounds =>
    let v ← numberValidation Float.ofInt s "field" node.name bounds default node.location
    field (.primitive .long) v (default.map .integer)
  | .double default bounds =>
    let v ← numberValidation id s "field" node.name bounds default node.location
    field (.primitive .double) v (default.map .double)
  | .boolean default => field (.primitive .boolean) none (default.map .boolean)
  | .dateTime => field (.primitive .dateTime) none none
  | .object type default => field (.named type) none (default.map .string)
  | .relationship type => do
    let decorators ← s.decorators node.decorators target
    pure (.relationship
      { name := node.name, target := type, isArray := node.isArray, isOptional := node.isOptional,
        decorators, location := node.location })
  | .enumValue => do
    let decorators ← s.decorators node.decorators target
    pure (.enumValue { name := node.name, decorators, location := node.location })

end DomainModels
