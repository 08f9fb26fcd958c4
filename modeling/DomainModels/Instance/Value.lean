import DomainModels.Instance.Relationship
import DomainModels.Time.DateTime
/-! Instances of classes and the values of their properties. A resource is an instance of
a declared class: its namespace and type, the name of its identifying field when the
class is identified, and its property values by name, kept sorted by name. A value is a
primitive, an enumeration value, a list, the entries of a map in order, an embedded
resource, or a relationship to an identified resource. -/
namespace DomainModels

mutual

/-- The value of a property. -/
inductive Value where
  | string (s : String)
  | boolean (b : Bool)
  | integer (i : Int)
  | long (i : Int)
  | double (f : Float)
  | dateTime (t : Time.DateTime)
  | enum (name : String)
  | array (items : List Value)
  | map (entries : List (Value × Value))
  | concept (r : Resource)
  | relationship (r : Relationship)

/-- An instance of a declared class. -/
inductive Resource where
  | mk (ns : String) (typeName : String) (identifierField : Option String) (values : List (String × Value))

end

instance : Inhabited Value := ⟨.boolean false⟩

namespace Value

/-- The name of the value's shape, used in messages. -/
def typeName : Value → String
  | .string _ => "String"
  | .boolean _ => "Boolean"
  | .integer _ => "Integer"
  | .long _ => "Long"
  | .double _ => "Double"
  | .dateTime _ => "DateTime"
  | .enum _ => "Enum"
  | .array _ => "Array"
  | .map _ => "Map"
  | .concept _ => "Concept"
  | .relationship _ => "Relationship"

/-- The text of a string or enumeration value. -/
def str? : Value → Option String
  | .string s | .enum s => some s
  | _ => none

/-- The resource of an embedded instance. -/
def resource? : Value → Option Resource
  | .concept r => some r
  | _ => none

/-- The items of a list. -/
def array? : Value → Option (List Value)
  | .array items => some items
  | _ => none

end Value

namespace Resource

/-- An instance with no values. -/
def new (ns typeName : String) (identifierField : Option String) : Resource := .mk ns typeName identifierField []

/-- The namespace of the instance's class. -/
def ns : Resource → String
  | .mk ns .. => ns

/-- The short name of the instance's class. -/
def typeName : Resource → String
  | .mk _ t .. => t

/-- The identifying field, when the class is identified. -/
def identifierField : Resource → Option String
  | .mk _ _ f _ => f

/-- The property values, sorted by name. -/
def values : Resource → List (String × Value)
  | .mk _ _ _ vs => vs

instance : Inhabited Resource := ⟨new "" "" none⟩

/-- `namespace.Type`. -/
def fullyQualifiedType (r : Resource) : String := Names.qualify r.ns r.typeName

/-- Whether the class is identified. -/
def isIdentified (r : Resource) : Bool := r.identifierField.isSome

/-- A value by property name. -/
def get? (r : Resource) (name : String) : Option Value := r.values.lookup name

/-- Whether a property has a value. -/
def contains (r : Resource) (name : String) : Bool := r.values.any (·.1 == name)

/-- Insert into a list sorted by name, replacing a value of the same name. -/
def insertSorted (name : String) (v : Value) : List (String × Value) → List (String × Value)
  | [] => [(name, v)]
  | (n, w) :: rest =>
    if name == n then (name, v) :: rest
    else if name < n then (name, v) :: (n, w) :: rest
    else (n, w) :: insertSorted name v rest

/-- Set a property's value. -/
def set (r : Resource) (name : String) (v : Value) : Resource :=
  .mk r.ns r.typeName r.identifierField (insertSorted name v r.values)

/-- Remove a property's value, answering the value removed. -/
def remove (r : Resource) (name : String) : Resource × Option Value :=
  (.mk r.ns r.typeName r.identifierField (r.values.filter (·.1 != name)), r.get? name)

/-- The identifier: the value of the identifying field when it is a string. -/
def identifier? (r : Resource) : Option String := do
  let field ← r.identifierField
  match r.get? field with
  | some (.string id) => some id
  | _ => none

/-- Set the identifier; refused when the class is not identified. -/
def setIdentifier (r : Resource) (id : String) : Outcome Resource :=
  match r.identifierField with
  | some field => .ok (r.set field (.string id))
  | none => .error (.validation ("Type " ++ r.fullyQualifiedType ++ " is not identified") none)

/-- `namespace.Type#id`. -/
def fullyQualifiedIdentifier? (r : Resource) : Option String :=
  r.identifier?.map fun id => r.fullyQualifiedType ++ "#" ++ id

/-- A relationship to this instance, when it has an identifier. -/
def toRelationship? (r : Resource) : Option Relationship :=
  r.identifier?.map fun id => { ns := r.ns, typeName := r.typeName, identifier := id }

/-- `resource:namespace.Type#id`, when the instance has an identifier. -/
def toUri? (r : Resource) : Option String := r.toRelationship?.map Relationship.toUri

end Resource

mutual

/-- The number of values in a value, itself included. -/
def Value.size : Value → Nat
  | .array items => 1 + sizeOfItems items
  | .map entries => 1 + sizeOfEntries entries
  | .concept r => 1 + r.size
  | _ => 1

/-- The number of values in an instance, itself included. -/
def Resource.size : Resource → Nat
  | .mk _ _ _ vs => 1 + sizeOfFields vs

/-- The sizes of a list of values. -/
def sizeOfItems : List Value → Nat
  | [] => 0
  | v :: rest => v.size + sizeOfItems rest

/-- The sizes of the keys and values of map entries. -/
def sizeOfEntries : List (Value × Value) → Nat
  | [] => 0
  | (k, v) :: rest => k.size + v.size + sizeOfEntries rest

/-- The sizes of the values of named fields. -/
def sizeOfFields : List (String × Value) → Nat
  | [] => 0
  | (_, v) :: rest => v.size + sizeOfFields rest

end

end DomainModels
