import DomainModels.Text.Split
/-! Names of types and properties. A fully qualified name is a namespace, a dot and a short
name (`org.acme@1.0.0.Person`); it is cut at its last dot, so the namespace keeps its
version. Names starting with `$` are reserved for system properties. The root namespace
`concerto@1.0.0` declares the five root types every model may use by short name. -/
namespace DomainModels.Names

/-- The namespace of the built-in root model. -/
def rootNamespace : String := "concerto@1.0.0"

/-- The root types, in declaration order. -/
def rootTypes : List String := ["Concept", "Asset", "Participant", "Transaction", "Event"]

/-- The wire key of the type of an instance. -/
def classKey : String := "$class"
/-- The wire key of the URI of a written-once resource. -/
def idKey : String := "$id"
/-- The system identifier field. -/
def identifierField : String := "$identifier"
/-- The system timestamp field of transactions and events. -/
def timestampField : String := "$timestamp"
/-- The synthetic property of a map's keys. -/
def mapKeyField : String := "$key"
/-- The synthetic property of a map's values. -/
def mapValueField : String := "$value"

/-- A fully qualified name cut at its last dot; `none` when either side would be empty. -/
def split? (fqn : String) : Option (String × String) :=
  match Text.splitLast? fqn '.' with
  | some (ns, name) => if ns.isEmpty || name.isEmpty then none else some (ns, name)
  | none => none

/-- `namespace.name`. -/
def qualify (ns name : String) : String := ns ++ "." ++ name

/-- Whether a name is reserved for system properties. -/
def isSystemProperty (name : String) : Bool := name.startsWith "$"

/-- Whether a fully qualified name is one of the root types. -/
def isRootType (fqn : String) : Bool :=
  match split? fqn with
  | some (ns, name) => ns == rootNamespace && rootTypes.contains name
  | none => false

end DomainModels.Names
