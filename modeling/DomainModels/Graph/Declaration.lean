import DomainModels.Graph.Property
/-! Declarations as a model file keeps them: classes, scalars, maps and enumerations,
each with its namespace. Building one from its metamodel node checks what the node
alone decides: a class holds no enumeration values, an enumeration holds nothing else
and no value twice, and validators and defaults agree. -/
namespace DomainModels

open Metamodel (ClassKind Identified TypeIdentifier)

namespace Metamodel.ClassKind

/-- The name of the root class of a kind. -/
def rootName : ClassKind → String
  | .concept => "Concept"
  | .asset => "Asset"
  | .participant => "Participant"
  | .transaction => "Transaction"
  | .event => "Event"

/-- The qualified name of the root class of a kind. -/
def rootFqn (k : ClassKind) : String := Names.qualify Names.rootNamespace k.rootName

/-- Transactions and events carry a timestamp. -/
def isTimestamped : ClassKind → Bool
  | .transaction | .event => true
  | _ => false

end Metamodel.ClassKind

/-- The kinds of declaration. -/
inductive DeclarationKind where
  | cls (kind : ClassKind)
  | scalar
  | map
  | enum
  deriving Repr, DecidableEq, Inhabited

/-- The kind's name: the class kind's root name, `Scalar`, `Map` or `Enum`. -/
def DeclarationKind.render : DeclarationKind → String
  | .cls k => k.rootName
  | .scalar => "Scalar"
  | .map => "Map"
  | .enum => "Enum"

/-- A class: its declared properties only, since system fields and inherited properties
are the type index's to add. A missing supertype means the root of its kind. -/
structure ClassDeclaration where
  name : String
  ns : String
  kind : ClassKind
  isAbstract : Bool := false
  superType : Option TypeIdentifier := none
  identified : Option Identified := none
  properties : List Property := []
  decorators : List Metamodel.Decorator := []
  location : Option Location := none
  deriving Inhabited

/-- The qualified name of a class. -/
def ClassDeclaration.fqn (c : ClassDeclaration) : String := Names.qualify c.ns c.name

/-- A declared property of a class, by name. -/
def ClassDeclaration.ownProperty? (c : ClassDeclaration) (name : String) : Option Property :=
  c.properties.find? (·.name == name)

/-- A named primitive with its own validator and default. -/
structure ScalarDeclaration where
  name : String
  ns : String
  primitive : PrimitiveType
  validator : Option Validator := none
  defaultValue : Option DefaultValue := none
  decorators : List Metamodel.Decorator := []
  location : Option Location := none
  deriving Inhabited

/-- The qualified name of a scalar. -/
def ScalarDeclaration.fqn (s : ScalarDeclaration) : String := Names.qualify s.ns s.name

/-- The field a field of this scalar type stands for: the scalar's primitive, validator
and default, with the field's name, shape and decorators. -/
def ScalarDeclaration.unbox (s : ScalarDeclaration) (f : Field) : Field :=
  { f with typeRef := .primitive s.primitive, validator := s.validator, defaultValue := s.defaultValue }

/-- A dictionary type. Its keys and values are the fields `$key` and `$value`. -/
structure MapDeclaration where
  name : String
  ns : String
  keyType : TypeRef
  valueType : TypeRef
  valueIsRelationship : Bool := false
  decorators : List Metamodel.Decorator := []
  location : Option Location := none
  deriving Inhabited

namespace MapDeclaration

/-- The qualified name of a map. -/
def fqn (m : MapDeclaration) : String := Names.qualify m.ns m.name

/-- The key field. -/
def keyField (m : MapDeclaration) : Field :=
  { Field.synthetic Names.mapKeyField m.keyType with location := m.location }

/-- The value property: a relationship when the values are relationships. -/
def valueProperty (m : MapDeclaration) : Property :=
  match m.valueType, m.valueIsRelationship with
  | .named t, true => .relationship { name := Names.mapValueField, target := t, location := m.location }
  | _, _ => .field { Field.synthetic Names.mapValueField m.valueType with location := m.location }

end MapDeclaration

/-- An enumeration and its values. -/
structure EnumDeclaration where
  name : String
  ns : String
  values : List EnumValue := []
  decorators : List Metamodel.Decorator := []
  location : Option Location := none
  deriving Inhabited

/-- The qualified name of an enumeration. -/
def EnumDeclaration.fqn (e : EnumDeclaration) : String := Names.qualify e.ns e.name

/-- Whether a name is one of the enumeration's values. -/
def EnumDeclaration.hasValue (e : EnumDeclaration) (name : String) : Bool :=
  e.values.any (·.name == name)

/-- A declaration of a model file. -/
inductive Declaration where
  | cls (c : ClassDeclaration)
  | scalar (s : ScalarDeclaration)
  | map (m : MapDeclaration)
  | enum (e : EnumDeclaration)
  deriving Inhabited

namespace Declaration

/-- The declared name. -/
def name : Declaration → String
  | .cls c => c.name
  | .scalar s => s.name
  | .map m => m.name
  | .enum e => e.name

/-- The namespace of the declaration. -/
def ns : Declaration → String
  | .cls c => c.ns
  | .scalar s => s.ns
  | .map m => m.ns
  | .enum e => e.ns

/-- The qualified name. -/
def fqn (d : Declaration) : String := Names.qualify d.ns d.name

/-- The kind of the declaration. -/
def kind : Declaration → DeclarationKind
  | .cls c => .cls c.kind
  | .scalar _ => .scalar
  | .map _ => .map
  | .enum _ => .enum

/-- The decorators of the declaration itself. -/
def decorators : Declaration → List Metamodel.Decorator
  | .cls c => c.decorators
  | .scalar s => s.decorators
  | .map m => m.decorators
  | .enum e => e.decorators

/-- Where the declaration was written. -/
def location : Declaration → Option Location
  | .cls c => c.location
  | .scalar s => s.location
  | .map m => m.location
  | .enum e => e.location

/-- The class, when the declaration is one. -/
def cls? : Declaration → Option ClassDeclaration
  | .cls c => some c
  | _ => none

end Declaration

/-- Build the properties of a class, refusing enumeration values. -/
def classProperties (s : FileScope) (node : Metamodel.ClassDeclaration) :
    List Metamodel.Property → Outcome (List Property)
  | [] => pure []
  | p :: rest => do
    if let .enumValue := p.kind then
      throw (s.illegal ("Class " ++ node.name ++ " cannot declare enum value " ++ p.name) node.location)
    let built ← Property.ofMetamodel s node.name p
    pure (built :: (← classProperties s node rest))

/-- Build a class declaration. -/
def ClassDeclaration.ofMetamodel (s : FileScope) (kind : ClassKind) (node : Metamodel.ClassDeclaration) :
    Outcome ClassDeclaration := do
  let properties ← classProperties s node node.properties
  let decorators ← s.decorators node.decorators (s.target node.name)
  pure
    { name := node.name, ns := s.ns, kind, isAbstract := node.isAbstract, superType := node.superType,
      identified := node.identified, properties, decorators, location := node.location }

/-- Build a scalar declaration, checking its validator against its default. -/
def ScalarDeclaration.ofMetamodel (s : FileScope) (name : String) (kind : Metamodel.ScalarKind)
    (decorators : List Metamodel.Decorator) (location : Option Location) : Outcome ScalarDeclaration := do
  let (primitive, validator, defaultValue) ← match kind with
    | .string default regex length => do
      let v ← stringValidation s "scalar" name regex length default location
      pure (PrimitiveType.string, v, default.map DefaultValue.string)
    | .integer default bounds => do
      let v ← numberValidation Float.ofInt s "scalar" name bounds default location
      pure (.integer, v, default.map .integer)
    | .long default bounds => do
      let v ← numberValidation Float.ofInt s "scalar" name bounds default location
      pure (.long, v, default.map .integer)
    | .double default bounds => do
      let v ← numberValidation id s "scalar" name bounds default location
      pure (.double, v, default.map .double)
    | .boolean default => pure (.boolean, none, default.map .boolean)
    | .dateTime default => pure (.dateTime, none, default.map .string)
  let decorators ← s.decorators decorators (s.target name)
  pure { name, ns := s.ns, primitive, validator, defaultValue, decorators, location }

/-- The type of a map's keys. -/
def Metamodel.MapKey.typeRef : Metamodel.MapKey → TypeRef
  | .string => .primitive .string
  | .dateTime => .primitive .dateTime
  | .integer => .primitive .integer
  | .long => .primitive .long
  | .double => .primitive .double
  | .boolean => .primitive .boolean
  | .object t => .named t

/-- The type of a map's values, and whether they are relationships. -/
def Metamodel.MapValue.typeRef : Metamodel.MapValue → TypeRef × Bool
  | .string => (.primitive .string, false)
  | .integer => (.primitive .integer, false)
  | .long => (.primitive .long, false)
  | .double => (.primitive .double, false)
  | .boolean => (.primitive .boolean, false)
  | .dateTime => (.primitive .dateTime, false)
  | .object t => (.named t, false)
  | .relationship t => (.named t, true)

/-- Build the values of an enumeration: nothing but values, none twice. -/
def enumValues (s : FileScope) (name : String) (location : Option Location) :
    List String → List Metamodel.Property → Outcome (List EnumValue)
  | _, [] => pure []
  | seen, p :: rest => do
    let .enumValue := p.kind
      | throw (s.illegal ("Enum " ++ name ++ " can only contain enum values, found field " ++ p.name) location)
    if seen.contains p.name then
      throw (s.illegal ("Duplicate enum value " ++ p.name ++ " in enum " ++ name) (p.location.or location))
    let decorators ← s.decorators p.decorators { ns := s.ns, declaration := some name, property := some p.name }
    let value : EnumValue := { name := p.name, decorators, location := p.location }
    pure (value :: (← enumValues s name location (p.name :: seen) rest))

/-- Build a declaration from its metamodel node. -/
def Declaration.ofMetamodel (s : FileScope) : Metamodel.Declaration → Outcome Declaration
  | .cls kind node => .cls <$> ClassDeclaration.ofMetamodel s kind node
  | .scalar name kind decorators location => .scalar <$> ScalarDeclaration.ofMetamodel s name kind decorators location
  | .map name key value decorators location => do
    let (valueType, valueIsRelationship) := value.typeRef
    let decorators ← s.decorators decorators (s.target name)
    pure (.map { name, ns := s.ns, keyType := key.typeRef, valueType, valueIsRelationship, decorators, location })
  | .enum name properties decorators location => do
    let values ← enumValues s name location [] properties
    let decorators ← s.decorators decorators (s.target name)
    pure (.enum { name, ns := s.ns, values, decorators, location })

end DomainModels
