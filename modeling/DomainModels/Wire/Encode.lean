import DomainModels.Instance.Factory
import DomainModels.Wire.Path
import DomainModels.Wire.Options
/-! Writing instances as wire JSON. An instance becomes an object with its class under
`$class` and its properties in the order of the resolved class; relationships become
`resource:` URIs, maps become objects keyed by the text of their keys, and DateTimes
take the wire format in a chosen offset. With validation on, required fields must be
present, values must have their declared shapes and pass their validators, enumeration
values must be declared and embedded instances must be of an assignable class. -/
namespace DomainModels.Wire

/-- A failure of an instance at a place on the wire. -/
def invalidAt (path : Path) (m : String) : ModelError := .validation m (some path.render)

/-- A value that is not of the expected type. -/
def typeError (path : Path) (expected : String) : ModelError :=
  invalidAt path ("Expected value at path `" ++ path.render ++ "` to be of type `" ++ expected ++ "`")

/-- Check a primitive value's shape and its field's validator. -/
def checkPrimitive (field : Field) (primitive : PrimitiveType) (value : Value) (path : Path) : Outcome Unit :=
  let text := path.render
  match primitive, value with
  | .string, .string s =>
    match field.validator with
    | some (.string v) => v.validate text s
    | _ => .ok ()
  | .integer, .integer i | .integer, .long i | .long, .integer i | .long, .long i
  | .double, .integer i | .double, .long i =>
    match field.validator with
    | some (.number v) => v.validate text (Float.ofInt i)
    | _ => .ok ()
  | .double, .double d =>
    match field.validator with
    | some (.number v) => v.validate text d
    | _ => .ok ()
  | .boolean, .boolean _ | .dateTime, .dateTime _ => .ok ()
  | _, _ => .error (typeError path primitive.name)

/-- The writer: the registry, the options, and the identities of the instances written so
far, which deduplication consults. -/
abbrev Writing := StateT (List String) (Except ModelError)

/-- Lift a plain outcome into the writer. -/
def Writing.lift {α : Type} : Outcome α → Writing α
  | .ok a => pure a
  | .error e => throw e

section

variable (registry : Registry) (options : EncodeOptions)

/-- A relationship's wire text: its URI, or its bare identifier. -/
def pointer (rel : Relationship) : String :=
  if options.convertResourcesToId then rel.identifier else rel.toUri

/-- The URI of an instance already written. -/
def alreadySeen (r : Resource) : Writing (Option String) := do
  let seen ← get
  match r.fullyQualifiedIdentifier? with
  | some id => pure (if seen.contains id then r.toUri? else none)
  | none => pure none

/-- Write a primitive value. -/
def encodePrimitive (field : Field) (primitive : PrimitiveType) (value : Value) (path : Path) : Outcome Json := do
  if options.validate then checkPrimitive field primitive value path
  match value with
  | .string s | .enum s => pure (.string s)
  | .boolean b => pure (.bool b)
  | .integer i | .long i => pure (Json.ofInt i)
  | .double d =>
    if d.isFinite then pure (Json.ofFloat d)
    else throw (invalidAt path ("Value at path `" ++ path.render ++ "` is not a finite number"))
  | .dateTime t => pure (.string (formatDateTime t options.utcOffset))
  | _ => throw (typeError path primitive.name)

/-- The check of an instance's class before it is written. -/
def checkInstance (c : ResolvedClass) (r : Resource) (declared : Option String) (path : Path) : Outcome Unit := do
  let fqn := r.fullyQualifiedType
  let label := r.fullyQualifiedIdentifier?.getD fqn
  if c.isAbstract then
    throw (invalidAt path ("Cannot serialize an instance of the abstract type `" ++ fqn ++ "`"))
  if let some d := declared then
    if !registry.index.isAssignable fqn d then
      throw (invalidAt path ("Instance of type `" ++ fqn ++ "` at path `" ++ path.render ++
        "` is not assignable to the declared type `" ++ d ++ "`"))
  if let some (name, _) := r.values.find? (fun (n, _) => (c.property? n).isNone) then
    throw (invalidAt (path.field name) ("Instance `" ++ label ++ "` has a property named `" ++ name ++
      "`, which is not declared in `" ++ fqn ++ "`"))

mutual

/-- Write an instance, whose class must be assignable to `declared` when one is given. The
fuel bounds the depth of nesting; the caller gives more than the size of the instance. -/
def encodeResource : Nat → Resource → Option String → Path → Writing Json
  | 0, _, _, path => throw (invalidAt path "Instance is nested too deeply")
  | fuel + 1, r, declared, path => do
    let fqn := r.fullyQualifiedType
    let c ← Writing.lift (registry.resolvedClass fqn)
    let label := r.fullyQualifiedIdentifier?.getD fqn
    if options.validate then Writing.lift (checkInstance registry c r declared path)
    let mut out : List (String × Json) := [(Names.classKey, .string fqn)]
    if let some id := r.fullyQualifiedIdentifier? then
      modify (· ++ [id])
      if options.deduplicateResources then
        if let some uri := r.toUri? then out := Json.fieldsInsert out Names.idKey (.string uri)
    for p in c.properties do
      let name := p.name
      if name == Names.identifierField && c.hasExplicitIdentifier then
        if let some id := r.identifier? then out := Json.fieldsInsert out name (.string id)
        continue
      let child := path.field name
      match r.get? name with
      | none =>
        if options.validate && !p.isOptional then
          throw (invalidAt child ("The instance `" ++ label ++ "` is missing the required field `" ++ name ++ "`"))
      | some v =>
        let encoded ← encodeProperty fuel p v child
        out := Json.fieldsInsert out name encoded
    pure (.object out)

/-- Write the value of a property: a list item by item, or a single item. -/
def encodeProperty : Nat → ResolvedProperty → Value → Path → Writing Json
  | 0, _, _, path => throw (invalidAt path "Instance is nested too deeply")
  | fuel + 1, p, v, path =>
    if !p.isArray then encodeItem fuel p v path
    else match v with
      | .array items => do
        let encoded ← items.zipIdx.mapM fun (item, i) => encodeItem fuel p item (path.index i)
        pure (.array encoded)
      | _ => throw (typeError path p.typeLabel)

/-- Write one item of a property. -/
def encodeItem : Nat → ResolvedProperty → Value → Path → Writing Json
  | 0, _, _, path => throw (invalidAt path "Instance is nested too deeply")
  | fuel + 1, p, v, path => do
    if p.isRelationship then return ← encodeRelationship fuel p v path
    if let some field := p.effectiveField? then
      if let some prim := field.primitive? then
        return ← Writing.lift (encodePrimitive options field prim v path)
    let some target := p.targetFqn? | throw (typeError path p.itemTypeLabel)
    match ← Writing.lift (registry.getType target) with
    | .cls _ =>
      let .concept r := v | throw (typeError path target)
      if options.deduplicateResources then
        if let some uri ← alreadySeen r then return .string uri
      encodeResource fuel r (some target) path
    | .enum e =>
      let name ← match v with
        | .enum n | .string n => pure n
        | _ => throw (typeError path target)
      if options.validate && !e.hasValue name then
        throw (invalidAt path ("Value `" ++ name ++ "` at path `" ++ path.render ++
          "` is not a valid value of the enum `" ++ target ++ "`"))
      pure (.string name)
    | .map _ =>
      let .map entries := v | throw (typeError path target)
      encodeMap fuel target entries path
    | .scalar _ => throw (typeError path target)

/-- Write a relationship property's item: a relationship, or an instance when allowed. -/
def encodeRelationship : Nat → ResolvedProperty → Value → Path → Writing Json
  | 0, _, _, path => throw (invalidAt path "Instance is nested too deeply")
  | fuel + 1, p, v, path => do
    let target := p.targetFqn?.getD ""
    match v with
    | .relationship rel =>
      if options.validate && !registry.index.isAssignable rel.fullyQualifiedType target then
        throw (invalidAt path ("Relationship at path `" ++ path.render ++ "` points to `" ++
          rel.fullyQualifiedType ++ "`, which is not assignable to `" ++ target ++ "`"))
      pure (.string (pointer options rel))
    | .concept r =>
      if options.convertResourcesToRelationships then
        let some rel := r.toRelationship?
          | throw (invalidAt path ("Resource at path `" ++ path.render ++
              "` has no identifier and cannot be a relationship"))
        return .string (pointer options rel)
      if !options.permitResourcesForRelationships then
        throw (invalidAt path ("Did not find a relationship for `" ++ target ++ "` at path `" ++ path.render ++
          "`; found an embedded resource"))
      if (← alreadySeen r).isSome then
        if let some rel := r.toRelationship? then return .string (pointer options rel)
      encodeResource fuel r (some target) path
    | _ => throw (typeError path p.itemTypeLabel)

/-- Write the entries of a map as an object keyed by the text of the keys. -/
def encodeMap : Nat → String → List (Value × Value) → Path → Writing Json
  | 0, _, _, path => throw (invalidAt path "Instance is nested too deeply")
  | fuel + 1, target, entries, path => do
    let m ← Writing.lift (registry.resolvedMap target)
    let some keyField := m.key.effectiveField? | throw (typeError path target)
    let some keyPrim := keyField.primitive? | throw (typeError path target)
    let mut out : List (String × Json) := []
    for (k, v) in entries do
      let .string keyText ← Writing.lift (encodePrimitive options keyField keyPrim k path)
        | throw (typeError path keyPrim.name)
      let encoded ← encodeItem fuel m.value v (path.field keyText)
      out := Json.fieldsInsert out keyText encoded
    pure (.object out)

end

end

/-- Write an instance as wire JSON. -/
def encode (registry : Registry) (options : EncodeOptions) (r : Resource) : Outcome Json :=
  ((encodeResource registry options (4 * r.size + 4) r none Path.root).run' [])

end DomainModels.Wire
