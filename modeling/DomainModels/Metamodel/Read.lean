import DomainModels.Metamodel.Ast
import DomainModels.Json.Decode
import DomainModels.Text.Split
/-! Reading metamodel JSON. A model is first checked to be a node of this metamodel by its
`$class` (of the right version and kind); its tree is then read as typed records, whose
errors name the first field that is missing or wrong. A bundle `Models` holds several
models. -/
namespace DomainModels.Metamodel

open Json

/-- A position in a model text. -/
def readPosition (j : Json) : Decoded Position := do
  let r ← Record.open "struct Position" ["line", "column", "offset"] j
  let line := r.field "line" decodeU32
  let column := r.field "column" decodeU32
  let offset := r.field "offset" decodeU32
  r.check [("line", failure line), ("column", failure column), ("offset", failure offset)]
  let line ← r.required "line" line
  let column ← r.required "column" column
  let offset ← Record.withDefault offset 0
  r.finish
  pure { line, column, offset }

/-- The location of a node in a model text. -/
def readLocation (j : Json) : Decoded Location := do
  let r ← Record.open "struct Location" ["start", "end", "source"] j
  let start := r.field "start" readPosition
  let finish := r.field "end" readPosition
  let source := r.field "source" (decodeOption decodeString)
  r.check [("start", failure start), ("end", failure finish), ("source", failure source)]
  let start ← r.required "start" start
  let finish ← r.required "end" finish
  let source ← Record.withDefault source none
  r.finish
  pure { start, finish, source }

/-- A reference to a type. -/
def readTypeIdentifier (j : Json) : Decoded TypeIdentifier := do
  let r ← Record.open "struct TypeIdentifier" ["name", "namespace"] j
  let name := r.field "name" decodeString
  let ns := r.field "namespace" (decodeOption decodeString)
  r.check [("name", failure name), ("namespace", failure ns)]
  let name ← r.required "name" name
  let ns ← Record.withDefault ns none
  r.finish
  pure { name, ns }

/-- The `$class` names of the import variants. -/
def importVariants : List String := ["ImportAll", "ImportType", "ImportTypes"].map nodeClass

/-- An import. -/
def readImport (j : Json) : Decoded Import := do
  let (tag, body) ← openVariant "Import" importVariants j
  if tag == nodeClass "ImportAll" then
    let r ← Record.open "struct ImportAll" ["namespace", "uri"] body
    let ns := r.field "namespace" decodeString
    let uri := r.field "uri" (decodeOption decodeString)
    r.check [("namespace", failure ns), ("uri", failure uri)]
    let ns ← r.required "namespace" ns
    let uri ← Record.withDefault uri none
    r.finish
    pure (.all ns uri)
  else if tag == nodeClass "ImportType" then
    let r ← Record.open "struct ImportType" ["namespace", "name", "uri"] body
    let ns := r.field "namespace" decodeString
    let name := r.field "name" decodeString
    let uri := r.field "uri" (decodeOption decodeString)
    r.check [("namespace", failure ns), ("name", failure name), ("uri", failure uri)]
    let ns ← r.required "namespace" ns
    let name ← r.required "name" name
    let uri ← Record.withDefault uri none
    r.finish
    pure (.single ns name uri)
  else
    let r ← Record.open "struct ImportTypes" ["namespace", "types", "uri"] body
    let ns := r.field "namespace" decodeString
    let types := r.field "types" (decodeList decodeString)
    let uri := r.field "uri" (decodeOption decodeString)
    r.check [("namespace", failure ns), ("types", failure types), ("uri", failure uri)]
    let ns ← r.required "namespace" ns
    let types ← r.required "types" types
    let uri ← Record.withDefault uri none
    r.finish
    pure (.several ns types uri)

/-- The `$class` names of the decorator argument variants. -/
def argumentVariants : List String :=
  ["DecoratorString", "DecoratorNumber", "DecoratorBoolean", "DecoratorTypeReference"].map nodeClass

/-- A decorator argument. -/
def readArgument (j : Json) : Decoded DecoratorArgument := do
  let (tag, body) ← openVariant "DecoratorArgument" argumentVariants j
  if tag == nodeClass "DecoratorTypeReference" then
    let r ← Record.open "struct variant DecoratorArgument::TypeReference" ["type", "isArray"] body
    let type := r.field "type" readTypeIdentifier
    let isArray := r.field "isArray" decodeBool
    r.check [("type", failure type), ("isArray", failure isArray)]
    let type ← r.required "type" type
    let isArray ← Record.withDefault isArray false
    r.finish
    pure (.typeReference type isArray)
  else if tag == nodeClass "DecoratorString" then
    let r ← Record.open "struct variant DecoratorArgument::String" ["value"] body
    let value := r.field "value" decodeString
    r.check [("value", failure value)]
    let value ← r.required "value" value
    r.finish
    pure (.string value)
  else if tag == nodeClass "DecoratorNumber" then
    let r ← Record.open "struct variant DecoratorArgument::Number" ["value"] body
    let value := r.field "value" decodeF64
    r.check [("value", failure value)]
    let value ← r.required "value" value
    r.finish
    pure (.number value)
  else
    let r ← Record.open "struct variant DecoratorArgument::Boolean" ["value"] body
    let value := r.field "value" decodeBool
    r.check [("value", failure value)]
    let value ← r.required "value" value
    r.finish
    pure (.boolean value)

/-- A decorator. -/
def readDecorator (j : Json) : Decoded Decorator := do
  let r ← Record.open "struct Decorator" ["name", "arguments", "location"] j
  let name := r.field "name" decodeString
  let arguments := r.field "arguments" (decodeList readArgument)
  let location := r.field "location" (decodeOption readLocation)
  r.check [("name", failure name), ("arguments", failure arguments), ("location", failure location)]
  let name ← r.required "name" name
  let arguments ← Record.withDefault arguments []
  let location ← Record.withDefault location none
  r.finish
  pure { name, arguments, location }

/-- A list of decorators. -/
def readDecorators : Json → Decoded (List Decorator) := decodeList readDecorator

/-- A pattern validator. -/
def readRegexValidator (j : Json) : Decoded RegexValidator := do
  let r ← Record.open "struct StringRegexValidator" ["pattern", "flags"] j
  let pattern := r.field "pattern" decodeString
  let flags := r.field "flags" decodeString
  r.check [("pattern", failure pattern), ("flags", failure flags)]
  let pattern ← r.required "pattern" pattern
  let flags ← Record.withDefault flags ""
  r.finish
  pure { pattern, flags }

/-- A length validator. -/
def readLengthValidator (j : Json) : Decoded LengthValidator := do
  let r ← Record.open "struct StringLengthValidator" ["minLength", "maxLength"] j
  let minLength := r.field "minLength" (decodeOption decodeI64)
  let maxLength := r.field "maxLength" (decodeOption decodeI64)
  r.check [("minLength", failure minLength), ("maxLength", failure maxLength)]
  let minLength ← Record.withDefault minLength none
  let maxLength ← Record.withDefault maxLength none
  r.finish
  pure { minLength, maxLength }

/-- Numeric bounds. -/
def readBounds {α : Type} (dec : Json → Decoded α) (j : Json) : Decoded (Bounds α) := do
  let r ← Record.open "struct DomainValidator" ["lower", "upper"] j
  let lower := r.field "lower" (decodeOption dec)
  let upper := r.field "upper" (decodeOption dec)
  r.check [("lower", failure lower), ("upper", failure upper)]
  let lower ← Record.withDefault lower none
  let upper ← Record.withDefault upper none
  r.finish
  pure { lower, upper }

/-- The `$class` names of the property variants. -/
def propertyVariants : List String :=
  ["StringProperty", "IntegerProperty", "LongProperty", "DoubleProperty", "BooleanProperty",
   "DateTimeProperty", "ObjectProperty", "RelationshipProperty", "EnumProperty"].map nodeClass

/-- The fields of each kind of property, in order. -/
def propertyFields (variant : String) : List String :=
  if variant == "StringProperty" then
    ["name", "isArray", "isOptional", "defaultValue", "validator", "lengthValidator", "decorators", "location"]
  else if variant == "IntegerProperty" || variant == "LongProperty" || variant == "DoubleProperty" then
    ["name", "isArray", "isOptional", "defaultValue", "validator", "decorators", "location"]
  else if variant == "BooleanProperty" then
    ["name", "isArray", "isOptional", "defaultValue", "decorators", "location"]
  else if variant == "DateTimeProperty" then ["name", "isArray", "isOptional", "decorators", "location"]
  else if variant == "ObjectProperty" then
    ["name", "type", "isArray", "isOptional", "defaultValue", "decorators", "location"]
  else if variant == "RelationshipProperty" then
    ["name", "type", "isArray", "isOptional", "decorators", "location"]
  else ["name", "decorators", "location"]

/-- The record name of each kind of property. -/
def propertyRecord (variant : String) : String :=
  if variant == "IntegerProperty" || variant == "LongProperty" || variant == "DoubleProperty" then
    "struct NumericProperty"
  else "struct " ++ variant

/-- The type a property refers to, read where its kind declares one. -/
def readPropertyType (r : Record) : Decoded (Option TypeIdentifier) :=
  if r.declared.contains "type" then some <$> r.required "type" (r.field "type" readTypeIdentifier)
  else pure none

/-- What only some kinds of property have: defaults, validators and the type referred to, by the
property's variant. -/
def readPropertyKind (variant : String) (r : Record) (type : Option TypeIdentifier) : Decoded PropertyKind :=
  match variant with
  | "StringProperty" => do
    pure (.string (← Record.withDefault (r.field "defaultValue" (decodeOption decodeString)) none)
      (← Record.withDefault (r.field "validator" (decodeOption readRegexValidator)) none)
      (← Record.withDefault (r.field "lengthValidator" (decodeOption readLengthValidator)) none))
  | "IntegerProperty" => do
    pure (.integer (← Record.withDefault (r.field "defaultValue" (decodeOption decodeI64)) none)
      (← Record.withDefault (r.field "validator" (decodeOption (readBounds decodeI64))) none))
  | "LongProperty" => do
    pure (.long (← Record.withDefault (r.field "defaultValue" (decodeOption decodeI64)) none)
      (← Record.withDefault (r.field "validator" (decodeOption (readBounds decodeI64))) none))
  | "DoubleProperty" => do
    pure (.double (← Record.withDefault (r.field "defaultValue" (decodeOption decodeF64)) none)
      (← Record.withDefault (r.field "validator" (decodeOption (readBounds decodeF64))) none))
  | "BooleanProperty" => do pure (.boolean (← Record.withDefault (r.field "defaultValue" (decodeOption decodeBool)) none))
  | "DateTimeProperty" => pure .dateTime
  | "ObjectProperty" => do
    pure (.object (type.getD default) (← Record.withDefault (r.field "defaultValue" (decodeOption decodeString)) none))
  | "RelationshipProperty" => pure (.relationship (type.getD default))
  | _ => pure .enumValue

/-- A property of a class or a value of an enumeration. -/
def readProperty (j : Json) : Decoded Property := do
  let (tag, body) ← openVariant "Property" propertyVariants j
  let variant := (tag.drop (metamodelNamespace.length + 1)).toString
  let r ← Record.open (propertyRecord variant) (propertyFields variant) body
  let name := r.field "name" decodeString
  let type := r.field "type" readTypeIdentifier
  let isArray := r.field "isArray" decodeBool
  let isOptional := r.field "isOptional" decodeBool
  let stringDefault := r.field "defaultValue" (decodeOption decodeString)
  let intDefault := r.field "defaultValue" (decodeOption decodeI64)
  let floatDefault := r.field "defaultValue" (decodeOption decodeF64)
  let boolDefault := r.field "defaultValue" (decodeOption decodeBool)
  let regex := r.field "validator" (decodeOption readRegexValidator)
  let intBounds := r.field "validator" (decodeOption (readBounds decodeI64))
  let floatBounds := r.field "validator" (decodeOption (readBounds decodeF64))
  let length := r.field "lengthValidator" (decodeOption readLengthValidator)
  let decorators := r.field "decorators" readDecorators
  let location := r.field "location" (decodeOption readLocation)
  let isInt := variant == "IntegerProperty" || variant == "LongProperty"
  let defaultFailure :=
    if variant == "StringProperty" || variant == "ObjectProperty" then failure stringDefault
    else if isInt then failure intDefault
    else if variant == "DoubleProperty" then failure floatDefault
    else failure boolDefault
  let validatorFailure :=
    if variant == "StringProperty" then failure regex
    else if isInt then failure intBounds
    else failure floatBounds
  r.check [("name", failure name), ("type", failure type), ("isArray", failure isArray),
    ("isOptional", failure isOptional), ("defaultValue", defaultFailure), ("validator", validatorFailure),
    ("lengthValidator", failure length), ("decorators", failure decorators), ("location", failure location)]
  let name ← r.required "name" name
  let type ← readPropertyType r
  let isArray ← Record.withDefault isArray false
  let isOptional ← Record.withDefault isOptional false
  let decorators ← Record.withDefault decorators []
  let location ← Record.withDefault location none
  r.finish
  let kind ← readPropertyKind variant r type
  pure { name, kind, isArray, isOptional, decorators, location }

/-- The `$class` names of the identification variants. -/
def identifiedVariants : List String := ["Identified", "IdentifiedBy"].map nodeClass

/-- How a class is identified. -/
def readIdentified (j : Json) : Decoded Identified := do
  let (tag, body) ← openVariant "Identified" identifiedVariants j
  if tag == nodeClass "Identified" then pure .system
  else
    let r ← Record.open "struct variant Identified::By" ["name"] body
    let name := r.field "name" decodeString
    r.check [("name", failure name)]
    let name ← r.required "name" name
    r.finish
    pure (.byField name)

/-- A class declaration. -/
def readClass (j : Json) : Decoded ClassDeclaration := do
  let r ← Record.open "struct ClassDeclaration"
    ["name", "isAbstract", "superType", "identified", "properties", "decorators", "location"] j
  let name := r.field "name" decodeString
  let isAbstract := r.field "isAbstract" decodeBool
  let superType := r.field "superType" (decodeOption readTypeIdentifier)
  let identified := r.field "identified" (decodeOption readIdentified)
  let properties := r.field "properties" (decodeList readProperty)
  let decorators := r.field "decorators" readDecorators
  let location := r.field "location" (decodeOption readLocation)
  r.check [("name", failure name), ("isAbstract", failure isAbstract), ("superType", failure superType),
    ("identified", failure identified), ("properties", failure properties),
    ("decorators", failure decorators), ("location", failure location)]
  let name ← r.required "name" name
  let isAbstract ← Record.withDefault isAbstract false
  let superType ← Record.withDefault superType none
  let identified ← Record.withDefault identified none
  let properties ← Record.withDefault properties []
  let decorators ← Record.withDefault decorators []
  let location ← Record.withDefault location none
  r.finish
  pure { name, isAbstract, superType, identified, properties, decorators, location }

/-- The `$class` names of the map key variants. -/
def mapKeyVariants : List String :=
  ["StringMapKeyType", "DateTimeMapKeyType", "IntegerMapKeyType", "LongMapKeyType", "DoubleMapKeyType",
   "BooleanMapKeyType", "ObjectMapKeyType"].map nodeClass

/-- The `$class` names of the map value variants. -/
def mapValueVariants : List String :=
  ["StringMapValueType", "IntegerMapValueType", "LongMapValueType", "DoubleMapValueType",
   "BooleanMapValueType", "DateTimeMapValueType", "ObjectMapValueType",
   "RelationshipMapValueType"].map nodeClass

/-- The type reference of a map key or value variant that has one. -/
def readTypeField (record : String) (body : Json) : Decoded TypeIdentifier := do
  let r ← Record.open record ["type"] body
  let type := r.field "type" readTypeIdentifier
  r.check [("type", failure type)]
  let type ← r.required "type" type
  r.finish
  pure type

/-- The key type of a map. -/
def readMapKey (j : Json) : Decoded MapKey := do
  let (tag, body) ← openVariant "MapKeyType" mapKeyVariants j
  if tag == nodeClass "StringMapKeyType" then pure .string
  else if tag == nodeClass "DateTimeMapKeyType" then pure .dateTime
  else if tag == nodeClass "IntegerMapKeyType" then pure .integer
  else if tag == nodeClass "LongMapKeyType" then pure .long
  else if tag == nodeClass "DoubleMapKeyType" then pure .double
  else if tag == nodeClass "BooleanMapKeyType" then pure .boolean
  else .object <$> readTypeField "struct variant MapKeyType::Object" body

/-- The value type of a map. -/
def readMapValue (j : Json) : Decoded MapValue := do
  let (tag, body) ← openVariant "MapValueType" mapValueVariants j
  if tag == nodeClass "StringMapValueType" then pure .string
  else if tag == nodeClass "IntegerMapValueType" then pure .integer
  else if tag == nodeClass "LongMapValueType" then pure .long
  else if tag == nodeClass "DoubleMapValueType" then pure .double
  else if tag == nodeClass "BooleanMapValueType" then pure .boolean
  else if tag == nodeClass "DateTimeMapValueType" then pure .dateTime
  else if tag == nodeClass "ObjectMapValueType" then
    .object <$> readTypeField "struct variant MapValueType::Object" body
  else .relationship <$> readTypeField "struct variant MapValueType::Relationship" body

/-- The `$class` names of the declaration variants. -/
def declarationVariants : List String :=
  ["ConceptDeclaration", "AssetDeclaration", "ParticipantDeclaration", "TransactionDeclaration",
   "EventDeclaration", "EnumDeclaration", "MapDeclaration", "StringScalar", "IntegerScalar", "LongScalar",
   "DoubleScalar", "BooleanScalar", "DateTimeScalar"].map nodeClass

/-- The class kind of a declaration variant. -/
def classKindOf (variant : String) : Option ClassKind :=
  match variant with
  | "ConceptDeclaration" => some .concept
  | "AssetDeclaration" => some .asset
  | "ParticipantDeclaration" => some .participant
  | "TransactionDeclaration" => some .transaction
  | "EventDeclaration" => some .event
  | _ => none

/-- An enumeration declaration. -/
def readEnum (j : Json) : Decoded Declaration := do
  let r ← Record.open "struct EnumDeclaration" ["name", "properties", "decorators", "location"] j
  let name := r.field "name" decodeString
  let properties := r.field "properties" (decodeList readProperty)
  let decorators := r.field "decorators" readDecorators
  let location := r.field "location" (decodeOption readLocation)
  r.check [("name", failure name), ("properties", failure properties), ("decorators", failure decorators),
    ("location", failure location)]
  let name ← r.required "name" name
  let properties ← Record.withDefault properties []
  let decorators ← Record.withDefault decorators []
  let location ← Record.withDefault location none
  r.finish
  pure (.enum name properties decorators location)

/-- A map declaration. -/
def readMap (j : Json) : Decoded Declaration := do
  let r ← Record.open "struct MapDeclaration" ["name", "key", "value", "decorators", "location"] j
  let name := r.field "name" decodeString
  let key := r.field "key" readMapKey
  let value := r.field "value" readMapValue
  let decorators := r.field "decorators" readDecorators
  let location := r.field "location" (decodeOption readLocation)
  r.check [("name", failure name), ("key", failure key), ("value", failure value),
    ("decorators", failure decorators), ("location", failure location)]
  let name ← r.required "name" name
  let key ← r.required "key" key
  let value ← r.required "value" value
  let decorators ← Record.withDefault decorators []
  let location ← Record.withDefault location none
  r.finish
  pure (.map name key value decorators location)

/-- What a scalar declaration wraps, with its default and validator, by its variant. -/
def readScalarKind (variant : String) (r : Record) : Decoded ScalarKind :=
  match variant with
  | "StringScalar" => do
    pure (.string (← Record.withDefault (r.field "defaultValue" (decodeOption decodeString)) none)
      (← Record.withDefault (r.field "validator" (decodeOption readRegexValidator)) none)
      (← Record.withDefault (r.field "lengthValidator" (decodeOption readLengthValidator)) none))
  | "IntegerScalar" => do
    pure (.integer (← Record.withDefault (r.field "defaultValue" (decodeOption decodeI64)) none)
      (← Record.withDefault (r.field "validator" (decodeOption (readBounds decodeI64))) none))
  | "LongScalar" => do
    pure (.long (← Record.withDefault (r.field "defaultValue" (decodeOption decodeI64)) none)
      (← Record.withDefault (r.field "validator" (decodeOption (readBounds decodeI64))) none))
  | "DoubleScalar" => do
    pure (.double (← Record.withDefault (r.field "defaultValue" (decodeOption decodeF64)) none)
      (← Record.withDefault (r.field "validator" (decodeOption (readBounds decodeF64))) none))
  | "BooleanScalar" => do pure (.boolean (← Record.withDefault (r.field "defaultValue" (decodeOption decodeBool)) none))
  | _ => do pure (.dateTime (← Record.withDefault (r.field "defaultValue" (decodeOption decodeString)) none))

/-- A scalar declaration of one of the scalar variants. -/
def readScalar (variant : String) (j : Json) : Decoded Declaration := do
  let (record, fields) : String × List String :=
    if variant == "StringScalar" then
      ("struct StringScalar", ["name", "defaultValue", "validator", "lengthValidator", "decorators", "location"])
    else if variant == "BooleanScalar" || variant == "DateTimeScalar" then
      ("struct " ++ variant, ["name", "defaultValue", "decorators", "location"])
    else ("struct NumericScalar", ["name", "defaultValue", "validator", "decorators", "location"])
  let r ← Record.open record fields j
  let name := r.field "name" decodeString
  let stringDefault := r.field "defaultValue" (decodeOption decodeString)
  let intDefault := r.field "defaultValue" (decodeOption decodeI64)
  let floatDefault := r.field "defaultValue" (decodeOption decodeF64)
  let boolDefault := r.field "defaultValue" (decodeOption decodeBool)
  let regex := r.field "validator" (decodeOption readRegexValidator)
  let intBounds := r.field "validator" (decodeOption (readBounds decodeI64))
  let floatBounds := r.field "validator" (decodeOption (readBounds decodeF64))
  let length := r.field "lengthValidator" (decodeOption readLengthValidator)
  let decorators := r.field "decorators" readDecorators
  let location := r.field "location" (decodeOption readLocation)
  let isInt := variant == "IntegerScalar" || variant == "LongScalar"
  let defaultFailure :=
    if variant == "StringScalar" || variant == "DateTimeScalar" then failure stringDefault
    else if isInt then failure intDefault
    else if variant == "DoubleScalar" then failure floatDefault
    else failure boolDefault
  let validatorFailure :=
    if variant == "StringScalar" then failure regex
    else if isInt then failure intBounds
    else failure floatBounds
  r.check [("name", failure name), ("defaultValue", defaultFailure), ("validator", validatorFailure),
    ("lengthValidator", failure length), ("decorators", failure decorators), ("location", failure location)]
  let name ← r.required "name" name
  let decorators ← Record.withDefault decorators []
  let location ← Record.withDefault location none
  r.finish
  let kind ← readScalarKind variant r
  pure (.scalar name kind decorators location)

/-- A declaration. -/
def readDeclaration (j : Json) : Decoded Declaration := do
  let (tag, body) ← openVariant "Declaration" declarationVariants j
  let variant := (tag.drop (metamodelNamespace.length + 1)).toString
  match classKindOf variant with
  | some kind => .cls kind <$> readClass body
  | none =>
    if variant == "EnumDeclaration" then readEnum body
    else if variant == "MapDeclaration" then readMap body
    else readScalar variant body

/-- A model's tree, its `$class` not checked. -/
def readModel (j : Json) : Decoded Model := do
  let r ← Record.open "struct Model"
    ["$class", "namespace", "sourceUri", "imports", "declarations", "decorators"] j
  let cls := r.field "$class" decodeString
  let ns := r.field "namespace" decodeString
  let sourceUri := r.field "sourceUri" (decodeOption decodeString)
  let imports := r.field "imports" (decodeList readImport)
  let declarations := r.field "declarations" (decodeList readDeclaration)
  let decorators := r.field "decorators" readDecorators
  r.check [("$class", failure cls), ("namespace", failure ns), ("sourceUri", failure sourceUri),
    ("imports", failure imports), ("declarations", failure declarations), ("decorators", failure decorators)]
  let cls ← r.required "$class" cls
  let ns ← r.required "namespace" ns
  let sourceUri ← Record.withDefault sourceUri none
  let imports ← Record.withDefault imports []
  let declarations ← Record.withDefault declarations []
  let decorators ← Record.withDefault decorators []
  r.finish
  pure { cls, ns, sourceUri, imports, declarations, decorators }

/-- A bundle's models. -/
def readModels (j : Json) : Decoded (List Model) := do
  let r ← Record.open "struct Models" ["$class", "models"] j
  let cls := r.field "$class" decodeString
  let models := r.field "models" (decodeList readModel)
  r.check [("$class", failure cls), ("models", failure models)]
  let _ ← r.required "$class" cls
  let models ← Record.withDefault models []
  r.finish
  pure models

/-- A metamodel failure. -/
def metamodelError {α : Type} (m : String) : Outcome α := .error (.metamodel m)

/-- The `$class` of a node. -/
def classOf (j : Json) : Outcome String :=
  match j.get? "$class" with
  | some (.string s) => .ok s
  | _ => metamodelError "AST node does not contain a $class discriminator"

/-- Check that a node is of this metamodel and of the expected kind. -/
def checkNodeClass (j : Json) (expected : String) : Outcome Unit := do
  let cls ← classOf j
  match Text.splitLast? cls '.' with
  | none => metamodelError ("Invalid $class \"" ++ cls ++ "\"")
  | some (ns, name) =>
    if ns != metamodelNamespace then
      let base := (ns.splitOn "@").head?.getD ns
      if base == metamodelName then
        metamodelError ("Metamodel version mismatch: expected \"" ++ metamodelNamespace ++ "\", found \"" ++
          ns ++ "\"")
      else
        metamodelError ("Invalid $class \"" ++ cls ++ "\"; expected a " ++ metamodelNamespace ++ " node")
    else if name != expected then
      metamodelError ("Expected a " ++ expected ++ " node, found \"" ++ cls ++ "\"")
    else pure ()

/-- A decoding failure as a metamodel failure. -/
def liftDecoded {α : Type} : Decoded α → Outcome α
  | .ok v => .ok v
  | .error e => metamodelError e.text

/-- Read one model, checking its `$class`. -/
def Model.fromJson (j : Json) : Outcome Model := do
  checkNodeClass j "Model"
  liftDecoded (readModel j)

/-- Read one model or a bundle of models. -/
def parseModels (j : Json) : Outcome (List Model) := do
  let cls ← classOf j
  if cls.endsWith ".Models" then
    checkNodeClass j "Models"
    liftDecoded (readModels j)
  else
    pure [← Model.fromJson j]

end DomainModels.Metamodel
