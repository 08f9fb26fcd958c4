import DomainModels.Error
/-! The metamodel: the tree a model file is parsed into. A model is a namespace with its
imports and declarations; declarations are classes (concepts, assets, participants,
transactions and events), enumerations, maps and scalars; classes and enumerations have
properties. Every node may carry decorators and the location of its text. -/
namespace DomainModels.Metamodel

/-- The namespace of the metamodel nodes. -/
def metamodelNamespace : String := "concerto.metamodel@1.0.0"

/-- The name of the metamodel without its version. -/
def metamodelName : String := "concerto.metamodel"

/-- The `$class` of a metamodel node. -/
def nodeClass (name : String) : String := metamodelNamespace ++ "." ++ name

/-- A reference to a declared type, qualified by a namespace or not. -/
structure TypeIdentifier where
  name : String
  ns : Option String := none
  deriving Repr, BEq, Inhabited

/-- The name as it is resolved: `ns.Name` when qualified. -/
def TypeIdentifier.reference (t : TypeIdentifier) : String :=
  match t.ns with
  | some ns => ns ++ "." ++ t.name
  | none => t.name

/-- An import of a whole namespace, of one type, or of several types. -/
inductive Import where
  | all (ns : String) (uri : Option String)
  | single (ns : String) (name : String) (uri : Option String)
  | several (ns : String) (types : List String) (uri : Option String)
  deriving Repr, BEq, Inhabited

/-- The imported namespace. -/
def Import.ns : Import → String
  | .all ns _ | .single ns _ _ | .several ns _ _ => ns

/-- Where the imported namespace may be fetched from. -/
def Import.uri : Import → Option String
  | .all _ u | .single _ _ u | .several _ _ u => u

/-- An argument of a decorator. -/
inductive DecoratorArgument where
  | string (value : String)
  | number (value : Float)
  | boolean (value : Bool)
  | typeReference (type : TypeIdentifier) (isArray : Bool)
  deriving Repr, BEq, Inhabited

/-- A decorator `@name(arguments)`. -/
structure Decorator where
  name : String
  arguments : List DecoratorArgument := []
  location : Option Location := none
  deriving Repr, BEq, Inhabited

/-- A pattern a string must match, with the flags of its literal form. -/
structure RegexValidator where
  pattern : String
  flags : String := ""
  deriving Repr, BEq, Inhabited

/-- Bounds on the length of a string. -/
structure LengthValidator where
  minLength : Option Int := none
  maxLength : Option Int := none
  deriving Repr, BEq, Inhabited

/-- Inclusive bounds on a number. -/
structure Bounds (α : Type) where
  lower : Option α := none
  upper : Option α := none
  deriving Repr, BEq, Inhabited

/-- What kind of value a property holds, with what only that kind has. -/
inductive PropertyKind where
  | string (default : Option String) (validator : Option RegexValidator) (length : Option LengthValidator)
  | integer (default : Option Int) (validator : Option (Bounds Int))
  | long (default : Option Int) (validator : Option (Bounds Int))
  | double (default : Option Float) (validator : Option (Bounds Float))
  | boolean (default : Option Bool)
  | dateTime
  | object (type : TypeIdentifier) (default : Option String)
  | relationship (type : TypeIdentifier)
  | enumValue
  deriving Repr, BEq, Inhabited

/-- A property of a class, or a value of an enumeration. -/
structure Property where
  name : String
  kind : PropertyKind
  isArray : Bool := false
  isOptional : Bool := false
  decorators : List Decorator := []
  location : Option Location := none
  deriving Repr, BEq, Inhabited

/-- How instances of a class are identified: by the system or by a named field. -/
inductive Identified where
  | system
  | byField (name : String)
  deriving Repr, BEq, Inhabited

/-- The kinds of class. -/
inductive ClassKind where
  | concept
  | asset
  | participant
  | transaction
  | event
  deriving Repr, BEq, DecidableEq, Inhabited

/-- A class declaration. -/
structure ClassDeclaration where
  name : String
  isAbstract : Bool := false
  superType : Option TypeIdentifier := none
  identified : Option Identified := none
  properties : List Property := []
  decorators : List Decorator := []
  location : Option Location := none
  deriving Repr, BEq, Inhabited

/-- The type of the keys of a map. -/
inductive MapKey where
  | string
  | dateTime
  | integer
  | long
  | double
  | boolean
  | object (type : TypeIdentifier)
  deriving Repr, BEq, Inhabited

/-- The type of the values of a map. -/
inductive MapValue where
  | string
  | integer
  | long
  | double
  | boolean
  | dateTime
  | object (type : TypeIdentifier)
  | relationship (type : TypeIdentifier)
  deriving Repr, BEq, Inhabited

/-- What a scalar declaration wraps, with its default and validator. -/
inductive ScalarKind where
  | string (default : Option String) (validator : Option RegexValidator) (length : Option LengthValidator)
  | integer (default : Option Int) (validator : Option (Bounds Int))
  | long (default : Option Int) (validator : Option (Bounds Int))
  | double (default : Option Float) (validator : Option (Bounds Float))
  | boolean (default : Option Bool)
  | dateTime (default : Option String)
  deriving Repr, BEq, Inhabited

/-- A declaration of a model. -/
inductive Declaration where
  | cls (kind : ClassKind) (decl : ClassDeclaration)
  | enum (name : String) (properties : List Property) (decorators : List Decorator) (location : Option Location)
  | map (name : String) (key : MapKey) (value : MapValue) (decorators : List Decorator) (location : Option Location)
  | scalar (name : String) (kind : ScalarKind) (decorators : List Decorator) (location : Option Location)
  deriving Repr, BEq, Inhabited

/-- The declared name. -/
def Declaration.name : Declaration → String
  | .cls _ d => d.name
  | .enum n _ _ _ | .map n _ _ _ _ | .scalar n _ _ _ => n

/-- The decorators of a declaration. -/
def Declaration.decorators : Declaration → List Decorator
  | .cls _ d => d.decorators
  | .enum _ _ ds _ | .map _ _ _ ds _ | .scalar _ _ ds _ => ds

/-- The location of a declaration. -/
def Declaration.location : Declaration → Option Location
  | .cls _ d => d.location
  | .enum _ _ _ l | .map _ _ _ _ l | .scalar _ _ _ l => l

/-- One namespace worth of declarations. -/
structure Model where
  cls : String := nodeClass "Model"
  ns : String
  sourceUri : Option String := none
  imports : List Import := []
  declarations : List Declaration := []
  decorators : List Decorator := []
  deriving Repr, BEq, Inhabited

end DomainModels.Metamodel
