import DomainModels.Metamodel.Ast
import DomainModels.Json.Basic
/-! Writing the metamodel tree back as JSON, the form checksums are taken of. Fields come in
declaration order, variants of tagged unions start with their `$class`, and absent optional
fields, as well as empty imports and decorators, are left out. -/
namespace DomainModels.Metamodel

/-- A field when the value is present. -/
def optField {α : Type} (key : String) (enc : α → Json) : Option α → List (String × Json)
  | some v => [(key, enc v)]
  | none => []

/-- A list field, left out when empty. -/
def listField {α : Type} (key : String) (enc : α → Json) : List α → List (String × Json)
  | [] => []
  | items => [(key, .array (items.map enc))]

/-- A position. -/
def Position.toJson (p : Position) : Json :=
  .object [("line", Json.ofInt p.line), ("column", Json.ofInt p.column), ("offset", Json.ofInt p.offset)]

/-- A location. -/
def Location.toJson (l : Location) : Json :=
  .object ([("start", Position.toJson l.start), ("end", Position.toJson l.finish)] ++
    optField "source" Json.string l.source)

/-- A type reference. -/
def TypeIdentifier.toJson (t : TypeIdentifier) : Json :=
  .object ([("name", .string t.name)] ++ optField "namespace" Json.string t.ns)

/-- An import. -/
def Import.toJson : Import → Json
  | .all ns uri =>
    .object ([("$class", .string (nodeClass "ImportAll")), ("namespace", .string ns)] ++
      optField "uri" Json.string uri)
  | .single ns name uri =>
    .object ([("$class", .string (nodeClass "ImportType")), ("namespace", .string ns), ("name", .string name)] ++
      optField "uri" Json.string uri)
  | .several ns types uri =>
    .object ([("$class", .string (nodeClass "ImportTypes")), ("namespace", .string ns),
      ("types", .array (types.map Json.string))] ++ optField "uri" Json.string uri)

/-- A decorator argument. -/
def DecoratorArgument.toJson : DecoratorArgument → Json
  | .string v => .object [("$class", .string (nodeClass "DecoratorString")), ("value", .string v)]
  | .number v => .object [("$class", .string (nodeClass "DecoratorNumber")), ("value", Json.ofFloat v)]
  | .boolean v => .object [("$class", .string (nodeClass "DecoratorBoolean")), ("value", .bool v)]
  | .typeReference t isArray =>
    .object [("$class", .string (nodeClass "DecoratorTypeReference")), ("type", t.toJson),
      ("isArray", .bool isArray)]

/-- A decorator. -/
def Decorator.toJson (d : Decorator) : Json :=
  .object ([("name", .string d.name), ("arguments", .array (d.arguments.map DecoratorArgument.toJson))] ++
    optField "location" Location.toJson d.location)

/-- A pattern validator. -/
def RegexValidator.toJson (v : RegexValidator) : Json :=
  .object [("pattern", .string v.pattern), ("flags", .string v.flags)]

/-- A length validator. -/
def LengthValidator.toJson (v : LengthValidator) : Json :=
  .object (optField "minLength" Json.ofInt v.minLength ++ optField "maxLength" Json.ofInt v.maxLength)

/-- Numeric bounds. -/
def Bounds.toJson {α : Type} (enc : α → Json) (b : Bounds α) : Json :=
  .object (optField "lower" enc b.lower ++ optField "upper" enc b.upper)

/-- Decorators and location, the common tail of nodes. -/
def tail (decorators : List Decorator) (location : Option Location) : List (String × Json) :=
  listField "decorators" Decorator.toJson decorators ++ optField "location" Location.toJson location

/-- A property. -/
def Property.toJson (p : Property) : Json :=
  let flags : List (String × Json) := [("isArray", .bool p.isArray), ("isOptional", .bool p.isOptional)]
  let name : List (String × Json) := [("name", .string p.name)]
  let cls (n : String) : List (String × Json) := [("$class", .string (nodeClass n))]
  let fields := match p.kind with
    | .string d v l =>
      cls "StringProperty" ++ name ++ flags ++ optField "defaultValue" Json.string d ++
        optField "validator" RegexValidator.toJson v ++ optField "lengthValidator" LengthValidator.toJson l
    | .integer d v =>
      cls "IntegerProperty" ++ name ++ flags ++ optField "defaultValue" Json.ofInt d ++
        optField "validator" (Bounds.toJson Json.ofInt) v
    | .long d v =>
      cls "LongProperty" ++ name ++ flags ++ optField "defaultValue" Json.ofInt d ++
        optField "validator" (Bounds.toJson Json.ofInt) v
    | .double d v =>
      cls "DoubleProperty" ++ name ++ flags ++ optField "defaultValue" Json.ofFloat d ++
        optField "validator" (Bounds.toJson Json.ofFloat) v
    | .boolean d => cls "BooleanProperty" ++ name ++ flags ++ optField "defaultValue" Json.bool d
    | .dateTime => cls "DateTimeProperty" ++ name ++ flags
    | .object t d =>
      cls "ObjectProperty" ++ name ++ [("type", t.toJson)] ++ flags ++ optField "defaultValue" Json.string d
    | .relationship t => cls "RelationshipProperty" ++ name ++ [("type", t.toJson)] ++ flags
    | .enumValue => cls "EnumProperty" ++ name
  .object (fields ++ tail p.decorators p.location)

/-- How a class is identified. -/
def Identified.toJson : Identified → Json
  | .system => .object [("$class", .string (nodeClass "Identified"))]
  | .byField n => .object [("$class", .string (nodeClass "IdentifiedBy")), ("name", .string n)]

/-- The `$class` name of a class kind. -/
def ClassKind.variant : ClassKind → String
  | .concept => "ConceptDeclaration"
  | .asset => "AssetDeclaration"
  | .participant => "ParticipantDeclaration"
  | .transaction => "TransactionDeclaration"
  | .event => "EventDeclaration"

/-- A map key type. -/
def MapKey.toJson : MapKey → Json
  | .string => .object [("$class", .string (nodeClass "StringMapKeyType"))]
  | .dateTime => .object [("$class", .string (nodeClass "DateTimeMapKeyType"))]
  | .integer => .object [("$class", .string (nodeClass "IntegerMapKeyType"))]
  | .long => .object [("$class", .string (nodeClass "LongMapKeyType"))]
  | .double => .object [("$class", .string (nodeClass "DoubleMapKeyType"))]
  | .boolean => .object [("$class", .string (nodeClass "BooleanMapKeyType"))]
  | .object t => .object [("$class", .string (nodeClass "ObjectMapKeyType")), ("type", t.toJson)]

/-- A map value type. -/
def MapValue.toJson : MapValue → Json
  | .string => .object [("$class", .string (nodeClass "StringMapValueType"))]
  | .integer => .object [("$class", .string (nodeClass "IntegerMapValueType"))]
  | .long => .object [("$class", .string (nodeClass "LongMapValueType"))]
  | .double => .object [("$class", .string (nodeClass "DoubleMapValueType"))]
  | .boolean => .object [("$class", .string (nodeClass "BooleanMapValueType"))]
  | .dateTime => .object [("$class", .string (nodeClass "DateTimeMapValueType"))]
  | .object t => .object [("$class", .string (nodeClass "ObjectMapValueType")), ("type", t.toJson)]
  | .relationship t => .object [("$class", .string (nodeClass "RelationshipMapValueType")), ("type", t.toJson)]

/-- A declaration. -/
def Declaration.toJson : Declaration → Json
  | .cls kind d =>
    .object ([("$class", .string (nodeClass kind.variant)), ("name", .string d.name),
      ("isAbstract", .bool d.isAbstract)] ++ optField "superType" TypeIdentifier.toJson d.superType ++
      optField "identified" Identified.toJson d.identified ++
      [("properties", .array (d.properties.map Property.toJson))] ++ tail d.decorators d.location)
  | .enum name properties decorators location =>
    .object ([("$class", .string (nodeClass "EnumDeclaration")), ("name", .string name),
      ("properties", .array (properties.map Property.toJson))] ++ tail decorators location)
  | .map name key value decorators location =>
    .object ([("$class", .string (nodeClass "MapDeclaration")), ("name", .string name), ("key", key.toJson),
      ("value", value.toJson)] ++ tail decorators location)
  | .scalar name kind decorators location =>
    let head (n : String) : List (String × Json) := [("$class", .string (nodeClass n)), ("name", .string name)]
    let fields := match kind with
      | .string d v l =>
        head "StringScalar" ++ optField "defaultValue" Json.string d ++
          optField "validator" RegexValidator.toJson v ++ optField "lengthValidator" LengthValidator.toJson l
      | .integer d v =>
        head "IntegerScalar" ++ optField "defaultValue" Json.ofInt d ++ optField "validator" (Bounds.toJson Json.ofInt) v
      | .long d v =>
        head "LongScalar" ++ optField "defaultValue" Json.ofInt d ++ optField "validator" (Bounds.toJson Json.ofInt) v
      | .double d v =>
        head "DoubleScalar" ++ optField "defaultValue" Json.ofFloat d ++
          optField "validator" (Bounds.toJson Json.ofFloat) v
      | .boolean d => head "BooleanScalar" ++ optField "defaultValue" Json.bool d
      | .dateTime d => head "DateTimeScalar" ++ optField "defaultValue" Json.string d
    .object (fields ++ tail decorators location)

/-- A model. -/
def Model.toJson (m : Model) : Json :=
  .object ([("$class", .string m.cls), ("namespace", .string m.ns)] ++ optField "sourceUri" Json.string m.sourceUri ++
    listField "imports" Import.toJson m.imports ++
    [("declarations", .array (m.declarations.map Declaration.toJson))] ++
    listField "decorators" Decorator.toJson m.decorators)

end DomainModels.Metamodel
