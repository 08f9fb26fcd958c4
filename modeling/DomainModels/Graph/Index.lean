import DomainModels.Graph.ModelFile
/-! The type index: what the model files mean together. For every class it records the
resolved supertype, the full ordered property list (own properties first, then the
system fields `$identifier` and `$timestamp` the class introduces, then the inherited
ones), the identifying field and, for fields of a scalar type, the scalar's primitive
field. Maps get their `$key` and `$value` resolved the same way.

The index is built in passes: every file's imports and decorator type references are
checked; every class is resolved, its supertype first, with a stack of the classes
being resolved to reject cyclic inheritance; every map is resolved; last, relationships
must point at identified classes. A strict build fails on the first fault; a lenient
build leaves the faulty declaration out and goes on. -/
namespace DomainModels

open Metamodel (TypeIdentifier Identified ClassKind)

/-- Model files by namespace, sorted by namespace. -/
structure ModelFiles where
  entries : List (String × ModelFile) := []
  deriving Inhabited

namespace ModelFiles

/-- The file of a namespace. -/
def get? (fs : ModelFiles) (ns : String) : Option ModelFile := fs.entries.lookup ns

/-- Whether a namespace has a file. -/
def contains (fs : ModelFiles) (ns : String) : Bool := fs.entries.any (·.1 == ns)

/-- Insert a file, keeping the namespaces sorted and replacing a file of the same namespace. -/
def insert (fs : ModelFiles) (f : ModelFile) : ModelFiles :=
  { entries := go fs.entries }
where
  /-- Insertion into a sorted list. -/
  go : List (String × ModelFile) → List (String × ModelFile)
    | [] => [(f.ns, f)]
    | (ns, g) :: rest =>
      if f.ns == ns then (ns, f) :: rest
      else if f.ns < ns then (f.ns, f) :: (ns, g) :: rest
      else (ns, g) :: go rest

/-- Remove the file of a namespace. -/
def erase (fs : ModelFiles) (ns : String) : ModelFiles := { entries := fs.entries.filter (·.1 != ns) }

/-- The files in namespace order. -/
def files (fs : ModelFiles) : List ModelFile := fs.entries.map Prod.snd

/-- The declaration a qualified name names, when its namespace has a file declaring it. -/
def lookup (fs : ModelFiles) (fqn : String) : Option Declaration := do
  let (ns, name) ← Names.split? fqn
  (← fs.get? ns).declaration? name

end ModelFiles

/-- Strict builds fail on the first faulty declaration; lenient builds leave it out. -/
inductive BuildMode where
  | strict
  | lenient
  deriving DecidableEq, Repr, Inhabited

/-- What a property's type resolves to. -/
inductive TypeTarget where
  | primitive (p : PrimitiveType)
  | declared (fqn : String)
  deriving DecidableEq, Repr, Inhabited

/-- A property with its type resolved. -/
structure ResolvedProperty where
  property : Property
  /-- The qualified name of the declaring class or map. -/
  owner : String
  /-- None for enumeration values. -/
  target : Option TypeTarget
  /-- The scalar's primitive field, when the type is a scalar. -/
  unboxed : Option Field := none
  deriving Inhabited

namespace ResolvedProperty

/-- The property's name. -/
def name (p : ResolvedProperty) : String := p.property.name

/-- Whether the property holds a list. -/
def isArray (p : ResolvedProperty) : Bool := p.property.isArray

/-- Whether the property may be left out. -/
def isOptional (p : ResolvedProperty) : Bool := p.property.isOptional

/-- Whether the property is a relationship. -/
def isRelationship (p : ResolvedProperty) : Bool :=
  match p.property with
  | .relationship _ => true
  | _ => false

/-- The field values are checked against: the scalar's field for scalars. -/
def effectiveField? (p : ResolvedProperty) : Option Field := p.unboxed.or p.property.field?

/-- The primitive type of the values. -/
def primitive? (p : ResolvedProperty) : Option PrimitiveType := p.effectiveField?.bind Field.primitive?

/-- The declaration the values are instances of; none for scalars, which are unboxed. -/
def targetFqn? (p : ResolvedProperty) : Option String :=
  match p.target, p.unboxed with
  | some (.declared fqn), none => some fqn
  | _, _ => none

/-- The label of one value's type. -/
def itemTypeLabel (p : ResolvedProperty) : String :=
  match p.primitive?, p.target with
  | some prim, _ => prim.name
  | none, some (.declared fqn) => fqn
  | none, _ => "Unknown"

/-- The label of the property's type, `[]` marking lists. -/
def typeLabel (p : ResolvedProperty) : String :=
  if p.isArray then p.itemTypeLabel ++ "[]" else p.itemTypeLabel

end ResolvedProperty

/-- A class with everything it inherits. -/
structure ResolvedClass where
  fqn : String
  name : String
  ns : String
  kind : ClassKind
  isAbstract : Bool
  superType : Option String
  /-- Own declared properties, then the system fields it introduces, then inherited ones. -/
  properties : List ResolvedProperty
  /-- The name of the identifying field. -/
  identifier : Option String
  /-- The class that chose the identifying field. -/
  identifierOwner : Option String
  decorators : List Metamodel.Decorator
  deriving Inhabited

namespace ResolvedClass

/-- A property by name. -/
def property? (c : ResolvedClass) (name : String) : Option ResolvedProperty :=
  c.properties.find? (·.name == name)

/-- The properties the class itself declares or introduces. -/
def ownProperties (c : ResolvedClass) : List ResolvedProperty := c.properties.filter (·.owner == c.fqn)

/-- Whether instances carry an identifier. -/
def isIdentified (c : ResolvedClass) : Bool := c.identifier.isSome

/-- Identified by a declared field rather than `$identifier`. -/
def hasExplicitIdentifier (c : ResolvedClass) : Bool :=
  match c.identifier with
  | some id => id != Names.identifierField
  | none => false

/-- Whether instances carry a timestamp. -/
def isTimestamped (c : ResolvedClass) : Bool := c.kind.isTimestamped

end ResolvedClass

/-- A map with its key and value resolved. -/
structure ResolvedMap where
  fqn : String
  key : ResolvedProperty
  value : ResolvedProperty
  deriving Inhabited

/-- The resolved classes and maps of a set of model files. -/
structure TypeIndex where
  classes : List ResolvedClass := []
  maps : List ResolvedMap := []
  /-- The classes in the order of their files and, within a file, of their declarations; a name
  declared twice stands at its last declaration. -/
  order : List String := []
  deriving Inhabited

/-- Resolve a type reference written in a file to a qualified name: a qualified reference
must name a declaration of its namespace; otherwise the name is looked up among the
file's declarations, its types imported by name, its namespaces imported whole, and
last the root types. -/
def resolveType (files : ModelFiles) (file : ModelFile) (t : TypeIdentifier) : Outcome String :=
  match t.ns with
  | some ns =>
    match files.get? ns with
    | some target =>
      if (target.declaration? t.name).isSome then .ok (Names.qualify ns t.name)
      else .error (.typeNotFound ("Type " ++ t.name ++ " is not declared in namespace " ++ ns) t.reference)
    | none => .error (.typeNotFound ("Namespace " ++ ns ++ " is not declared") t.reference)
  | none =>
    let name := t.name
    if (file.declaration? name).isSome then .ok (Names.qualify file.ns name)
    else match file.explicitImport? name with
      | some fqn =>
        if (files.lookup fqn).isSome then .ok fqn
        else .error (.typeNotFound ("Type " ++ fqn ++ " imported by " ++ file.ns ++ " is not declared") fqn)
      | none =>
        match file.wildcardImports.find? (fun ns => ((files.get? ns).bind (·.declaration? name)).isSome) with
        | some ns => .ok (Names.qualify ns name)
        | none =>
          if Names.rootTypes.contains name then .ok (Names.qualify Names.rootNamespace name)
          else .error (.typeNotFound ("Undeclared type \"" ++ name ++ "\" in namespace \"" ++ file.ns ++ "\"") name)

/-- Every decorator of a file: of the file, of each declaration, and of each property
and enumeration value. -/
def ModelFile.allDecorators (file : ModelFile) : List Metamodel.Decorator :=
  file.decorators ++ file.declarations.flatMap fun d =>
    d.decorators ++ match d with
      | .cls c => c.properties.flatMap Property.decorators
      | .enum e => e.values.flatMap (·.decorators)
      | _ => []

/-- A file's imports name declared namespaces and types, and its decorators name
resolvable types. -/
def checkFile (files : ModelFiles) (file : ModelFile) : Outcome Unit := do
  for i in file.imports do
    match files.get? i.ns with
    | none =>
      throw (.typeNotFound ("Namespace " ++ i.ns ++ " imported by " ++ file.ns ++ " is not declared") i.ns)
    | some target =>
      for name in i.names do
        if (target.declaration? name).isNone then
          let fqn := Names.qualify i.ns name
          throw (.typeNotFound ("Type " ++ fqn ++ " imported by " ++ file.ns ++ " is not declared") fqn)
  for d in file.allDecorators do
    for t in d.typeReferences do
      match resolveType files file t with
      | .ok _ => pure ()
      | .error e =>
        throw (ModelError.illegalAt ("Decorator " ++ d.name ++ " references an unknown type: " ++ e.message)
          file.fileName d.location)

/-- The file and declaration of a class named by a qualified name. -/
def classDeclaration (files : ModelFiles) (fqn : String) : Outcome (ModelFile × ClassDeclaration) :=
  let notFound : ModelError := .typeNotFound ("Type " ++ fqn ++ " is not declared") fqn
  match Names.split? fqn with
  | none => .error notFound
  | some (ns, name) =>
    match files.get? ns with
    | none => .error notFound
    | some file =>
      match file.declaration? name with
      | some (.cls c) => .ok (file, c)
      | some other => .error (ModelError.illegal ("Type " ++ fqn ++ " is a " ++ other.kind.render ++ ", not a class"))
      | none => .error notFound

/-- A system field introduced by a class. -/
def systemProperty (name : String) (p : PrimitiveType) (owner : String) : ResolvedProperty :=
  { property := .field (Field.synthetic name (.primitive p)), owner, target := some (.primitive p) }

/-- Resolve a property's type. A field of an enumeration type must default to one of its
values; a relationship must point at a class. -/
def resolveProperty (files : ModelFiles) (file : ModelFile) (owner : String) (prop : Property) :
    Outcome ResolvedProperty := do
  let illegal (m : String) : ModelError := ModelError.illegalAt m file.fileName prop.location
  match prop with
  | .field f =>
    match f.typeRef with
    | .primitive p => pure { property := prop, owner, target := some (.primitive p) }
    | .named t =>
      let target ← resolveType files file t
      let unboxed ← match files.lookup target with
        | some (.scalar s) => pure (some (s.unbox f))
        | some (.enum e) =>
          if let some (.string d) := f.defaultValue then
            if !e.hasValue d then
              throw (illegal ("Default value " ++ d ++ " of field " ++ f.name ++ " is not a value of enum " ++ target))
          pure none
        | _ => pure none
      pure { property := prop, owner, target := some (.declared target), unboxed }
  | .relationship r =>
    let target ← resolveType files file r.target
    match files.lookup target with
    | some (.cls _) => pure { property := prop, owner, target := some (.declared target) }
    | _ => throw (illegal ("Relationship " ++ r.name ++ " must target a class, but " ++ target ++ " is not a class"))
  | .enumValue _ => pure { property := prop, owner, target := none }

/-- The state of an index build: the classes resolved so far, those that failed with the
text of their failure, and the classes being resolved, outermost first. -/
structure IndexBuild where
  classes : List ResolvedClass := []
  failed : List (String × String) := []
  visiting : List String := []

/-- A step of an index build; a failure keeps the state reached. -/
abbrev Building := ExceptT ModelError (StateM IndexBuild)

/-- Lift a plain outcome into a build step. -/
def Building.lift {α : Type} : Outcome α → Building α
  | .ok a => pure a
  | .error e => throw e

/-- The declared properties of a class, resolved, with their names checked. -/
def resolveOwnProperties (files : ModelFiles) (file : ModelFile) (c : ClassDeclaration)
    (illegal : String → ModelError) : List String → List Property → Outcome (List ResolvedProperty)
  | _, [] => pure []
  | seen, p :: rest => do
    if Names.isSystemProperty p.name && c.ns != Names.rootNamespace then
      throw (illegal ("Invalid field name '" ++ p.name ++ "' in class " ++ c.name ++
        ": names starting with $ are reserved"))
    if seen.contains p.name then
      throw (illegal ("Class " ++ c.name ++ " has more than one field named " ++ p.name))
    let resolved ← resolveProperty files (file) c.fqn p
    pure (resolved :: (← resolveOwnProperties files file c illegal (p.name :: seen) rest))

/-- The supertype a class names, or the root of its kind; none for a root class. -/
def superTypeOf (files : ModelFiles) (file : ModelFile) (c : ClassDeclaration)
    (illegal : String → ModelError) : Outcome (Option String) := do
  match c.superType with
  | some t =>
    let target ← resolveType files file t
    if target == c.fqn then
      if c.ns != Names.rootNamespace then throw (illegal ("Class " ++ c.name ++ " cannot extend itself"))
      pure none
    else pure (some target)
  | none => pure (if c.ns == Names.rootNamespace then none else some c.kind.rootFqn)

/-- A class may extend a class of its own kind, or the root concept. -/
def checkSuperType (files : ModelFiles) (c : ClassDeclaration) (illegal : String → ModelError)
    (superFqn : String) : Outcome Unit :=
  match files.lookup superFqn with
  | some (.cls parent) =>
    if parent.kind != c.kind && superFqn != ClassKind.concept.rootFqn then
      .error (illegal (c.kind.rootName ++ " " ++ c.name ++ " cannot extend " ++ parent.kind.rootName ++ " " ++ superFqn))
    else .ok ()
  | some other =>
    .error (illegal ("Class " ++ c.name ++ " cannot extend " ++ superFqn ++ ": it is a " ++ other.kind.render ++
      ", not a class"))
  | none =>
    .error (.typeNotFound ("Could not find super type " ++ superFqn ++ " of class " ++ c.fqn) superFqn)

/-- A class that chooses its identifier may not override one chosen above it, unless a root
class chose it. -/
def checkIdentifierOverride (c : ClassDeclaration) (inheritedIdOwner : Option String)
    (illegal : String → ModelError) : Outcome Unit :=
  match c.identified, inheritedIdOwner with
  | some _, some owner =>
    if Names.isRootType owner then .ok ()
    else .error (illegal "Identifier defined in super class, identifiers cannot be overridden")
  | _, _ => .ok ()

/-- No property a class adds has the name of one it inherits. -/
def checkNotInherited (c : ClassDeclaration) (inherited : List ResolvedProperty) (illegal : String → ModelError)
    (added : List ResolvedProperty) : Outcome Unit := do
  for p in added do
    if let some existing := inherited.find? (·.name == p.name) then
      throw (illegal ("Field " ++ p.name ++ " in class " ++ c.name ++ " is already declared in super class " ++
        existing.owner))

/-- A class identified by a field has that field, and it holds one required String. -/
def checkIdentifyingField (c : ClassDeclaration) (properties : List ResolvedProperty)
    (illegal : String → ModelError) : Outcome Unit := do
  if let some (.byField name) := c.identified then
    let some prop := properties.find? (·.name == name)
      | throw (illegal ("Class " ++ c.name ++ " is identified by field " ++ name ++ ", but the field is not declared"))
    let some field := prop.effectiveField?.filter (·.primitive? == some .string)
      | throw (illegal ("Class " ++ c.name ++ " is identified by field " ++ name ++
          ", but the type of the field is not String"))
    if field.isOptional then
      throw (illegal ("Identifying field " ++ name ++ " of class " ++ c.name ++ " cannot be optional"))
    if field.isArray then
      throw (illegal ("Identifying field " ++ name ++ " of class " ++ c.name ++ " cannot be an array"))

/-- The class's properties and identifier, given what it inherits. -/
def completeClass (files : ModelFiles) (file : ModelFile) (c : ClassDeclaration) (superFqn : Option String)
    (parent : Option ResolvedClass) : Outcome ResolvedClass := do
  let fqn := c.fqn
  let illegal (m : String) : ModelError := ModelError.illegalAt m file.fileName c.location
  let inherited := (parent.map (·.properties)).getD []
  checkIdentifierOverride c (parent.bind (·.identifierOwner)) illegal
  let own ← resolveOwnProperties files file c illegal [] c.properties
  let inherits (name : String) : Bool := inherited.any (·.name == name)
  let withId := if c.identified == some .system && !inherits Names.identifierField then
      own ++ [systemProperty Names.identifierField .string fqn] else own
  let withStamp := if c.kind.isTimestamped && !inherits Names.timestampField then
      withId ++ [systemProperty Names.timestampField .dateTime fqn] else withId
  checkNotInherited c inherited illegal withStamp
  let properties := withStamp ++ inherited
  checkIdentifyingField c properties illegal
  let (identifier, identifierOwner) := match c.identified with
    | some .system => (some Names.identifierField, some fqn)
    | some (.byField n) => (some n, some fqn)
    | none => (parent.bind (·.identifier), parent.bind (·.identifierOwner))
  pure { fqn, name := c.name, ns := c.ns, kind := c.kind, isAbstract := c.isAbstract, superType := superFqn,
         properties, identifier, identifierOwner, decorators := c.decorators }

/-- Build a class from its declaration, resolving its supertype first with `resolveSuper`. -/
def buildClass (files : ModelFiles) (resolveSuper : String → Building Unit) (file : ModelFile)
    (c : ClassDeclaration) : Building ResolvedClass := do
  let illegal (m : String) : ModelError := ModelError.illegalAt m file.fileName c.location
  let superFqn ← Building.lift (superTypeOf files file c illegal)
  if let some s := superFqn then
    Building.lift (checkSuperType files c illegal s)
    resolveSuper s
  let st ← get
  let parent := superFqn.bind fun s => st.classes.find? (·.fqn == s)
  Building.lift (completeClass files file c superFqn parent)

/-- Resolve a class and, first, its supertypes. The fuel bounds the depth of inheritance;
it is never exhausted when it exceeds the number of classes, because a class met again
on the way up is a cycle and is refused. -/
def resolveClass (files : ModelFiles) : Nat → String → Building Unit
  | 0, fqn => throw (ModelError.illegal ("Inheritance of " ++ fqn ++ " is too deep"))
  | fuel + 1, fqn => do
    let st ← get
    if st.classes.any (·.fqn == fqn) then return
    if let some m := st.failed.lookup fqn then throw (ModelError.illegal m)
    if let some pos := st.visiting.idxOf? fqn then
      throw (ModelError.illegal ("Cyclic inheritance detected: " ++ " -> ".intercalate (st.visiting.drop pos ++ [fqn])))
    let (file, c) ← Building.lift (classDeclaration files fqn)
    modify fun s => { s with visiting := s.visiting ++ [fqn] }
    let result ← tryCatch (Except.ok <$> buildClass files (resolveClass files fuel) file c)
      (fun e => pure (Except.error e))
    modify fun s => { s with visiting := s.visiting.dropLast }
    match result with
    | .ok resolved => modify fun s => { s with classes := s.classes ++ [resolved] }
    | .error e =>
      modify fun s => { s with failed := (fqn, e.message) :: s.failed }
      throw e

/-- Resolve a map's key and value; keys must be String, DateTime or a scalar of those. -/
def resolveMap (files : ModelFiles) (file : ModelFile) (m : MapDeclaration) : Outcome ResolvedMap := do
  let key ← resolveProperty files file m.fqn (.field m.keyField)
  match key.primitive? with
  | some .string | some .dateTime => pure ()
  | _ =>
    let keyType := match key.target with
      | some (.declared t) => t
      | _ => m.keyType.render
    throw (ModelError.illegalAt ("Invalid map key type " ++ keyType ++ " in map " ++ m.name ++
      ": keys must be String, DateTime or a scalar of those") file.fileName m.location)
  let value ← resolveProperty files file m.fqn m.valueProperty
  pure { fqn := m.fqn, key, value }

/-- The fault of a relationship to a class without identifier. -/
def unidentifiedTarget (classes : List ResolvedClass) (p : Property) (target : String) : Option ModelError :=
  match classes.find? (·.fqn == target) with
  | some c =>
    if c.isIdentified then none
    else some (ModelError.illegalAt ("Relationship " ++ p.name ++
      " must be to a class that has an identifier, but this is not the case for class " ++ target) none p.location)
  | none => none

/-- The relationships, of classes and of map values, whose target has no identifier,
with the class or map that declares them, sorted by that name. -/
def relationshipFaults (classes : List ResolvedClass) (maps : List ResolvedMap) : List (String × ModelError) :=
  let ofClasses := classes.flatMap fun c =>
    c.ownProperties.filterMap fun p =>
      match p.isRelationship, p.target with
      | true, some (.declared t) => (unidentifiedTarget classes p.property t).map (c.fqn, ·)
      | _, _ => none
  let ofMaps := maps.filterMap fun m =>
    match m.value.isRelationship, m.value.target with
    | true, some (.declared t) => (unidentifiedTarget classes m.value.property t).map (m.fqn, ·)
    | _, _ => none
  (ofClasses ++ ofMaps).mergeSort fun a b => !(b.1 < a.1)

/-- In a strict build a fault fails the build; in a lenient one it is passed over. -/
def tolerate (mode : BuildMode) : Outcome Unit → Outcome Unit
  | .error e => if mode == .lenient then .ok () else .error e
  | .ok () => .ok ()

/-- The number of class declarations of the files. -/
def ModelFiles.classCount (files : ModelFiles) : Nat :=
  (files.files.flatMap (·.declarations)).countP fun d => d.cls?.isSome

/-- Resolve every class of the files in file and declaration order. -/
def resolveClasses (files : ModelFiles) (mode : BuildMode) : Outcome (List ResolvedClass) := do
  let fqns := files.files.flatMap fun f => f.declarations.filterMap fun d => d.cls?.map (·.fqn)
  let fuel := files.classCount + 1
  let step (fqn : String) : Building Unit := do
    let result ← tryCatch (Except.ok <$> resolveClass files fuel fqn) (fun e => pure (Except.error e))
    Building.lift (tolerate mode result)
  match (fqns.forM step).run.run {} with
  | (.ok (), st) => .ok st.classes
  | (.error e, _) => .error e

/-- The names of a list, each at the place of its last occurrence. -/
def lastPlaces : List String → List String
  | [] => []
  | x :: rest => if rest.contains x then lastPlaces rest else x :: lastPlaces rest

/-- Build the type index of a set of model files. -/
def TypeIndex.build (files : ModelFiles) (mode : BuildMode) : Outcome TypeIndex := do
  for f in files.files do
    tolerate mode (checkFile files f)
  let classes ← resolveClasses files mode
  let mut resolvedMaps : List ResolvedMap := []
  for f in files.files do
    for d in f.declarations do
      if let .map m := d then
        match resolveMap files f m with
        | .ok r => resolvedMaps := resolvedMaps ++ [r]
        | .error e => tolerate mode (.error e)
  let faults := relationshipFaults classes resolvedMaps
  for (_, e) in faults do
    tolerate mode (.error e)
  let faulty := faults.map Prod.fst
  let classes := classes.filter fun c => !faulty.contains c.fqn
  let maps := resolvedMaps.filter fun m => !faulty.contains m.fqn
  -- a dotted short name can repeat the qualified name of another file's declaration
  let order := lastPlaces <| files.files.flatMap fun f =>
    f.declarations.filterMap fun d => if classes.any (·.fqn == d.fqn) then some d.fqn else none
  pure { classes, maps, order }

namespace TypeIndex

/-- A resolved class by qualified name. -/
def class? (ix : TypeIndex) (fqn : String) : Option ResolvedClass := ix.classes.find? (·.fqn == fqn)

/-- A resolved map by qualified name. -/
def map? (ix : TypeIndex) (fqn : String) : Option ResolvedMap := ix.maps.find? (·.fqn == fqn)

/-- Whether `sub` is `sup` or one of its descendants. -/
def isAssignable (ix : TypeIndex) (sub sup : String) : Bool :=
  go (ix.classes.length + 1) sub
where
  /-- Walk up the supertypes. -/
  go : Nat → String → Bool
    | 0, _ => false
    | fuel + 1, fqn =>
      fqn == sup || match (ix.class? fqn).bind (·.superType) with
        | some s => go fuel s
        | none => false

/-- The direct subclasses, in declaration order. -/
def subclasses (ix : TypeIndex) (fqn : String) : List ResolvedClass :=
  if ix.order.contains fqn then
    ix.order.filterMap fun c => (ix.class? c).filter (·.superType == some fqn)
  else []

/-- The class itself, then its descendants depth-first in declaration order. -/
def assignableClasses (ix : TypeIndex) (fqn : String) : List ResolvedClass :=
  if ix.order.contains fqn then go (ix.classes.length + 1) fqn else []
where
  /-- The class and its descendants. -/
  go : Nat → String → List ResolvedClass
    | 0, _ => []
    | fuel + 1, c =>
      ((ix.class? c).toList) ++ (ix.subclasses c).flatMap fun s => go fuel s.fqn

end TypeIndex

end DomainModels
