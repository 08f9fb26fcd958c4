import DomainModels.Wire.Encode
/-! Reading instances from wire JSON. The root object names its class under `$class`; a
nested object may name a subclass of the declared type the same way. Keys other than the
declared properties, `$class`, `$id`, `$identifier` and, on transactions and events,
`$timestamp` are refused before anything is read. Instances are made by a factory, so
they start with their defaults; properties written as `null` are left out. With
validation on, required fields must be present, identifiers must not be empty, values
must pass their validators and enumeration values must be declared. -/
namespace DomainModels.Wire

/-- Whether a double has no fraction: it is zero, or finite with no bits below the point.
The infinities and NaN are not whole. -/
def isWhole (f : Float) : Bool :=
  match f.toModel.unpack with
  | .zero _ => true
  | .finite _ m e _ => decide (0 ≤ e) || m % Nat.pow 2 e.natAbs == 0
  | _ => false

/-- The whole number a JSON number stands for: a 64-bit integer, or a double with no
fraction within the 64-bit range. -/
def integral? (j : Json) : Option Int :=
  match j.i64? with
  | some i => some i
  | none =>
    match j.f64? with
    | some f =>
      if isWhole f && f ≥ -9223372036854775808.0 && f < 9223372036854775808.0 then
        some (if f < 0 then -((-f).toUInt64.toNat : Int) else (f.toUInt64.toNat : Int))
      else none
    | none => none

/-- Refuse reserved and undeclared keys, each kind listed in the order written. -/
def checkKeys (c : ResolvedClass) (fields : List (String × Json)) (path : Path) : Outcome Unit := do
  let present := fields.filter fun (_, v) => !v.isNull
  let allowed (k : String) : Bool :=
    k == Names.classKey || k == Names.idKey || k == Names.identifierField ||
      (k == Names.timestampField && c.isTimestamped)
  let reserved := present.filterMap fun (k, _) =>
    if !allowed k && Names.isSystemProperty k then some k else none
  let unknown := present.filterMap fun (k, _) =>
    if !allowed k && !Names.isSystemProperty k && (c.property? k).isNone then some k else none
  if !reserved.isEmpty then
    throw (invalidAt path ("Unexpected reserved properties for type " ++ c.fqn ++ ": " ++ ", ".intercalate reserved))
  if !unknown.isEmpty then
    throw (invalidAt path ("Unexpected properties for type " ++ c.fqn ++ ": " ++ ", ".intercalate unknown))

section

variable (factory : Factory) (options : DecodeOptions)

/-- Read a primitive value of a field. -/
def decodePrimitive (field : Field) (primitive : PrimitiveType) (j : Json) (path : Path) : Outcome Value := do
  let read : Option Value := match primitive with
    | .string => j.str?.map Value.string
    | .boolean => j.bool?.map Value.boolean
    | .integer => (integral? j).map Value.integer
    | .long => (integral? j).map Value.long
    | .double => j.f64?.map Value.double
    | .dateTime => (j.str?.bind fun s => parseDateTime s options.strictQualifiedDateTimes options.utcOffset).map
        Value.dateTime
  let some v := read | throw (typeError path primitive.name)
  if options.validate then checkPrimitive field primitive v path
  pure v

/-- The check that an object's class is assignable to the declared one. -/
def checkAssignable (runtime declared : String) (path : Path) : Outcome Unit :=
  if factory.registry.index.isAssignable runtime declared then .ok ()
  else .error (invalidAt path ("Instance of type `" ++ runtime ++ "` at path `" ++ path.render ++
    "` is not assignable to the declared type `" ++ declared ++ "`"))

/-- The required fields and the identifier of an instance that has been read. -/
def checkComplete (c : ResolvedClass) (fqn : String) (r : Resource) (path : Path) : Outcome Unit := do
  for p in c.properties do
    let name := p.name
    if p.isOptional || r.contains name then continue
    if name == Names.identifierField && c.hasExplicitIdentifier then continue
    throw (invalidAt (path.field name) ("The instance `" ++ fqn ++ "` is missing the required field `" ++ name ++ "`"))
  if c.isIdentified && (r.identifier?.getD "").isEmpty then
    throw (invalidAt path ("The instance of `" ++ fqn ++ "` has an empty identifier"))

mutual

/-- Read an instance of a class from an object. The fuel bounds the depth of nesting; the
caller gives more than the size of the JSON. -/
def decodeResource : Nat → String → List (String × Json) → Path → Outcome Resource
  | 0, _, _, path => .error (invalidAt path "Instance is nested too deeply")
  | fuel + 1, fqn, fields, path => do
    let c ← factory.registry.resolvedClass fqn
    if c.isAbstract then throw (invalidAt path ("Cannot instantiate abstract type `" ++ fqn ++ "`"))
    checkKeys c fields path
    let mut r ← match c.identifier with
      | some idField =>
        let id := ((Json.fieldsGet? fields idField).bind Json.str?).getD ""
        factory.newResource c.ns c.name id
      | none => factory.newConcept c.ns c.name
    for p in c.properties do
      let name := p.name
      if name == Names.identifierField && c.hasExplicitIdentifier then continue
      match Json.fieldsGet? fields name with
      | none | some .null => pure ()
      | some j =>
        let v ← decodeProperty fuel p j (path.field name)
        r := r.set name v
    if options.validate then checkComplete c fqn r path
    pure r

/-- Read the value of a property: a list item by item, or a single item. -/
def decodeProperty : Nat → ResolvedProperty → Json → Path → Outcome Value
  | 0, _, _, path => .error (invalidAt path "Instance is nested too deeply")
  | fuel + 1, p, j, path =>
    if !p.isArray then decodeItem fuel p j path
    else match j with
      | .array items => do
        let values ← items.zipIdx.mapM fun (item, i) => decodeItem fuel p item (path.index i)
        pure (.array values)
      | _ => .error (typeError path p.typeLabel)

/-- Read one item of a property. -/
def decodeItem : Nat → ResolvedProperty → Json → Path → Outcome Value
  | 0, _, _, path => .error (invalidAt path "Instance is nested too deeply")
  | fuel + 1, p, j, path => do
    if p.isRelationship then return ← decodeRelationship fuel p j path
    if let some field := p.effectiveField? then
      if let some prim := field.primitive? then
        return ← decodePrimitive options field prim j path
    let some target := p.targetFqn? | throw (typeError path p.itemTypeLabel)
    match ← factory.registry.getType target with
    | .cls _ =>
      let .object fields := j | throw (typeError path target)
      .concept <$> decodeNested fuel target fields path
    | .enum e =>
      let some name := j.str? | throw (typeError path target)
      if options.validate && !e.hasValue name then
        throw (invalidAt path ("Value `" ++ name ++ "` at path `" ++ path.render ++
          "` is not a valid value of the enum `" ++ target ++ "`"))
      pure (.enum name)
    | .map _ =>
      let .object fields := j | throw (typeError path target)
      decodeMap fuel target fields path
    | .scalar _ => throw (typeError path target)

/-- Read an embedded object: of the class its `$class` names, else of the declared one. -/
def decodeNested : Nat → String → List (String × Json) → Path → Outcome Resource
  | 0, _, _, path => .error (invalidAt path "Instance is nested too deeply")
  | fuel + 1, declared, fields, path => do
    let runtime := ((Json.fieldsGet? fields Names.classKey).bind Json.str?).getD declared
    checkAssignable factory runtime declared path
    decodeResource fuel runtime fields path

/-- Read a relationship property's item: a URI, or an object when allowed. -/
def decodeRelationship : Nat → ResolvedProperty → Json → Path → Outcome Value
  | 0, _, _, path => .error (invalidAt path "Instance is nested too deeply")
  | fuel + 1, p, j, path => do
    let target := p.targetFqn?.getD ""
    let (ns, typeName) := (Names.split? target).getD ("", target)
    match j with
    | .string uri =>
      let rel ← (Relationship.fromUri uri ns typeName).mapError fun e => invalidAt path e.message
      if options.validate && !factory.registry.index.isAssignable rel.fullyQualifiedType target then
        throw (invalidAt path ("Relationship at path `" ++ path.render ++ "` points to `" ++
          rel.fullyQualifiedType ++ "`, which is not assignable to `" ++ target ++ "`"))
      pure (.relationship rel)
    | .object fields =>
      if options.acceptResourcesForRelationships then .concept <$> decodeNested fuel target fields path
      else throw (invalidAt path ("Expected value at path `" ++ path.render ++ "` to be a relationship to `" ++
        target ++ "`"))
    | _ => throw (invalidAt path ("Expected value at path `" ++ path.render ++ "` to be a relationship to `" ++
        target ++ "`"))

/-- Read the entries of a map from an object; keys starting with `$` are skipped. -/
def decodeMap : Nat → String → List (String × Json) → Path → Outcome Value
  | 0, _, _, path => .error (invalidAt path "Instance is nested too deeply")
  | fuel + 1, target, fields, path => do
    let m ← factory.registry.resolvedMap target
    let some keyField := m.key.effectiveField? | throw (typeError path target)
    let some keyPrim := keyField.primitive? | throw (typeError path target)
    let entries ← (fields.filter fun (k, _) => !Names.isSystemProperty k).mapM fun (k, j) => do
      let child := path.field k
      let key ← decodePrimitive options keyField keyPrim (.string k) child
      let value ← decodeItem fuel m.value j child
      pure (key, value)
    pure (.map entries)

end

end

/-- The number of values in a JSON value, itself included. -/
def jsonSize : Json → Nat
  | .array items => 1 + sizes items
  | .object fields => 1 + fieldSizes fields
  | _ => 1
where
  /-- The sizes of array items. -/
  sizes : List Json → Nat
    | [] => 0
    | j :: rest => jsonSize j + sizes rest
  /-- The sizes of field values. -/
  fieldSizes : List (String × Json) → Nat
    | [] => 0
    | (_, j) :: rest => jsonSize j + fieldSizes rest

/-- Read an instance from wire JSON. -/
def decode (factory : Factory) (options : DecodeOptions) (j : Json) : Outcome Resource :=
  let missing : ModelError := .validation "Invalid JSON data. Does not contain a $class type identifier." none
  match j with
  | .object fields =>
    match (Json.fieldsGet? fields Names.classKey).bind Json.str? with
    | some fqn => decodeResource factory options (4 * jsonSize j + 4) fqn fields Path.root
    | none => .error missing
  | _ => .error missing

end DomainModels.Wire
