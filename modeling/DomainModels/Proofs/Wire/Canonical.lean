import Mathlib
import DomainModels.Wire.Decode
import DomainModels.Proofs.Instance.Values
import DomainModels.Proofs.Wire.DateTimeText
/-! Canonical instances, the ones the wire format is faithful to, and the UTC form `atUtc` they are
compared in after reading. -/

namespace DomainModels

open Time

mutual

/-- The value with every DateTime in it shown in UTC. -/
def Value.atUtc : Value → Value
  | .dateTime t => .dateTime (t.withOffset 0)
  | .array items => .array (Value.itemsAtUtc items)
  | .map entries => .map (Value.entriesAtUtc entries)
  | .concept r => .concept r.atUtc
  | v => v

/-- The instance with every DateTime in it shown in UTC. -/
def Resource.atUtc : Resource → Resource
  | .mk ns typeName field values => .mk ns typeName field (Value.fieldsAtUtc values)

/-- `atUtc` on the items of a list. -/
def Value.itemsAtUtc : List Value → List Value
  | [] => []
  | v :: rest => v.atUtc :: Value.itemsAtUtc rest

/-- `atUtc` on the keys and values of map entries. -/
def Value.entriesAtUtc : List (Value × Value) → List (Value × Value)
  | [] => []
  | (k, v) :: rest => (k.atUtc, v.atUtc) :: Value.entriesAtUtc rest

/-- `atUtc` on the values of named fields. -/
def Value.fieldsAtUtc : List (String × Value) → List (String × Value)
  | [] => []
  | (n, v) :: rest => (n, v.atUtc) :: Value.fieldsAtUtc rest

end

namespace Value

theorem itemsAtUtc_eq_map (items : List Value) : itemsAtUtc items = items.map atUtc := by
  induction items with
  | nil => rfl
  | cons v rest ih => rw [itemsAtUtc, ih, List.map_cons]

theorem entriesAtUtc_eq_map (entries : List (Value × Value)) :
    entriesAtUtc entries = entries.map fun e => (e.1.atUtc, e.2.atUtc) := by
  induction entries with
  | nil => rfl
  | cons e rest ih => rw [entriesAtUtc, ih, List.map_cons]

theorem fieldsAtUtc_eq_map (fields : List (String × Value)) :
    fieldsAtUtc fields = fields.map fun e => (e.1, e.2.atUtc) := by
  induction fields with
  | nil => rfl
  | cons e rest ih => rw [fieldsAtUtc, ih, List.map_cons]

@[simp] theorem atUtc_string (s : String) : (Value.string s).atUtc = .string s := rfl
@[simp] theorem atUtc_boolean (b : Bool) : (Value.boolean b).atUtc = .boolean b := rfl
@[simp] theorem atUtc_integer (i : Int) : (Value.integer i).atUtc = .integer i := rfl
@[simp] theorem atUtc_long (i : Int) : (Value.long i).atUtc = .long i := rfl
@[simp] theorem atUtc_double (f : Float) : (Value.double f).atUtc = .double f := rfl
@[simp] theorem atUtc_enum (s : String) : (Value.enum s).atUtc = .enum s := rfl
@[simp] theorem atUtc_relationship (rel : Relationship) : (Value.relationship rel).atUtc = .relationship rel := rfl
@[simp] theorem atUtc_dateTime (t : DateTime) : (Value.dateTime t).atUtc = .dateTime (t.withOffset 0) := rfl
@[simp] theorem atUtc_concept (r : Resource) : (Value.concept r).atUtc = .concept r.atUtc := rfl

@[simp] theorem atUtc_array (items : List Value) : (Value.array items).atUtc = .array (items.map atUtc) := by
  rw [atUtc, itemsAtUtc_eq_map]

@[simp] theorem atUtc_map (entries : List (Value × Value)) :
    (Value.map entries).atUtc = .map (entries.map fun e => (e.1.atUtc, e.2.atUtc)) := by
  rw [atUtc, entriesAtUtc_eq_map]

end Value

namespace Resource

@[simp] theorem ns_atUtc (r : Resource) : r.atUtc.ns = r.ns := by cases r; rfl
@[simp] theorem typeName_atUtc (r : Resource) : r.atUtc.typeName = r.typeName := by cases r; rfl
@[simp] theorem identifierField_atUtc (r : Resource) : r.atUtc.identifierField = r.identifierField := by
  cases r; rfl

theorem values_atUtc (r : Resource) : r.atUtc.values = r.values.map fun e => (e.1, e.2.atUtc) := by
  cases r
  rw [atUtc, values, values, Value.fieldsAtUtc_eq_map]

@[simp] theorem fullyQualifiedType_atUtc (r : Resource) : r.atUtc.fullyQualifiedType = r.fullyQualifiedType := by
  simp [fullyQualifiedType]

theorem lookup_map_atUtc (vs : List (String × Value)) (k : String) :
    (vs.map fun e => (e.1, e.2.atUtc)).lookup k = (vs.lookup k).map Value.atUtc := by
  induction vs with
  | nil => rfl
  | cons e rest ih =>
    obtain ⟨n, v⟩ := e
    rw [List.map_cons, lookup_cons, lookup_cons, ih]
    split <;> rfl

@[simp] theorem get?_atUtc (r : Resource) (k : String) : r.atUtc.get? k = (r.get? k).map Value.atUtc := by
  rw [get?, get?, values_atUtc, lookup_map_atUtc]

@[simp] theorem contains_atUtc (r : Resource) (k : String) : r.atUtc.contains k = r.contains k := by
  simp [contains, values_atUtc, Function.comp_def]

@[simp] theorem identifier?_atUtc (r : Resource) : r.atUtc.identifier? = r.identifier? := by
  simp only [identifier?, identifierField_atUtc, get?_atUtc]
  cases r.identifierField with
  | none => rfl
  | some field =>
    dsimp only [bind, Option.bind]
    cases r.get? field with
    | none => rfl
    | some v => cases v <;> rfl

@[simp] theorem fullyQualifiedIdentifier?_atUtc (r : Resource) :
    r.atUtc.fullyQualifiedIdentifier? = r.fullyQualifiedIdentifier? := by
  simp [fullyQualifiedIdentifier?]

@[simp] theorem toRelationship?_atUtc (r : Resource) : r.atUtc.toRelationship? = r.toRelationship? := by
  simp [toRelationship?]

@[simp] theorem toUri?_atUtc (r : Resource) : r.atUtc.toUri? = r.toUri? := by
  simp [toUri?]

theorem sortedByName_atUtc {r : Resource} (h : SortedByName r.values) : SortedByName r.atUtc.values := by
  rw [values_atUtc, SortedByName, List.pairwise_map]
  exact h

end Resource

/-! Showing DateTimes in UTC changes no value's size. -/

mutual

theorem Value.size_atUtc : (v : Value) → v.atUtc.size = v.size
  | .string _ | .boolean _ | .integer _ | .long _ | .double _ | .dateTime _ | .enum _ | .relationship _ => rfl
  | .array items => by rw [Value.atUtc, Value.size, Value.size, Value.sizeOfItems_itemsAtUtc]
  | .map entries => by rw [Value.atUtc, Value.size, Value.size, Value.sizeOfEntries_entriesAtUtc]
  | .concept r => by rw [Value.atUtc, Value.size, Value.size, Resource.size_atUtc]

theorem Resource.size_atUtc : (r : Resource) → r.atUtc.size = r.size
  | .mk _ _ _ vs => by rw [Resource.atUtc, Resource.size, Resource.size, Value.sizeOfFields_fieldsAtUtc]

theorem Value.sizeOfItems_itemsAtUtc : (items : List Value) → sizeOfItems (Value.itemsAtUtc items) = sizeOfItems items
  | [] => rfl
  | v :: rest => by rw [Value.itemsAtUtc, sizeOfItems, sizeOfItems, Value.size_atUtc, Value.sizeOfItems_itemsAtUtc]

theorem Value.sizeOfEntries_entriesAtUtc : (entries : List (Value × Value)) →
    sizeOfEntries (Value.entriesAtUtc entries) = sizeOfEntries entries
  | [] => rfl
  | (k, v) :: rest => by
    rw [Value.entriesAtUtc, sizeOfEntries, sizeOfEntries, Value.size_atUtc, Value.size_atUtc,
      Value.sizeOfEntries_entriesAtUtc]

theorem Value.sizeOfFields_fieldsAtUtc : (fields : List (String × Value)) →
    sizeOfFields (Value.fieldsAtUtc fields) = sizeOfFields fields
  | [] => rfl
  | (_, v) :: rest => by
    rw [Value.fieldsAtUtc, sizeOfFields, sizeOfFields, Value.size_atUtc, Value.sizeOfFields_fieldsAtUtc]

end

/-- A relationship whose URI reads back as itself: its identifier is not empty, its
qualified type name cuts back into its namespace and type, and that name holds none of the
characters a URI gives a meaning to (`#`, `?`, `%`) or drops (tab, line feed, carriage
return), and does not start with `/`. -/
structure Relationship.Canonical (rel : Relationship) : Prop where
  identifier_ne : rel.identifier ≠ ""
  split_eq : Names.split? rel.fullyQualifiedType = some (rel.ns, rel.typeName)
  uri_safe : ∀ c ∈ rel.fullyQualifiedType.toList, c ∉ ['#', '?', '%', '\t', '\n', '\r']
  not_slash : rel.fullyQualifiedType.toList.head? ≠ some '/'

namespace Wire

/-- A value with exactly the tag of a primitive type: 64-bit integers for `Integer` and
`Long`, and DateTimes the wire format writes exactly. -/
inductive PrimitiveValue : PrimitiveType → Value → Prop
  | string (s : String) : PrimitiveValue .string (.string s)
  | boolean (b : Bool) : PrimitiveValue .boolean (.boolean b)
  | integer {i : Int} (hLow : Number.i64Min ≤ i) (hHigh : i ≤ Number.i64Max) :
      PrimitiveValue .integer (.integer i)
  | long {i : Int} (hLow : Number.i64Min ≤ i) (hHigh : i ≤ Number.i64Max) : PrimitiveValue .long (.long i)
  | double (f : Float) : PrimitiveValue .double (.double f)
  | dateTime {t : DateTime} (hExact : t.WireExact) : PrimitiveValue .dateTime (.dateTime t)

variable (registry : Registry)

mutual

/-- An instance the registry's factory made for its class, named by the class's own namespace
and name: it holds every declared default, the timestamp of a transaction or event, a
non-empty text identifier when its class is identified, no `$identifier` value when a declared
field identifies it, and canonical values. -/
inductive CanonicalResource : Resource → Prop
  | intro {r : Resource} {c : ResolvedClass}
      (hClass : registry.resolvedClass r.fullyQualifiedType = .ok c)
      (hNs : r.ns = c.ns) (hTypeName : r.typeName = c.name)
      (hField : r.identifierField = c.identifier)
      (hSorted : SortedByName r.values)
      (hDefaults : ∀ p ∈ c.properties, ∃ d, defaultValue p = .ok d ∧ ∀ v, d = some v → r.contains p.name = true)
      (hTimestamp : c.isTimestamped = true → r.contains Names.timestampField = true)
      (hIdentifier : ∀ field, r.identifierField = some field → ∃ id, r.get? field = some (.string id) ∧ id ≠ "")
      (hSystemId : c.hasExplicitIdentifier = true → r.get? Names.identifierField = none)
      (hValues : ∀ p ∈ c.properties, ∀ v, r.get? p.name = some v → CanonicalProperty p v) :
      CanonicalResource r

/-- The value of a property: one canonical item for a single property, a list of them for a
list property. -/
inductive CanonicalProperty : ResolvedProperty → Value → Prop
  | single {p : ResolvedProperty} {v : Value} (hSingle : p.isArray = false) (hv : CanonicalItem p v) :
      CanonicalProperty p v
  | array {p : ResolvedProperty} {items : List Value} (hArray : p.isArray = true)
      (hItems : ∀ v ∈ items, CanonicalItem p v) : CanonicalProperty p (.array items)

/-- One item with the tag its property's type gives it. The keys of a map are distinct,
DateTimes compared as instants, and no text key starts with `$`. -/
inductive CanonicalItem : ResolvedProperty → Value → Prop
  | relationship {p : ResolvedProperty} {rel : Relationship} (hRel : rel.Canonical) :
      CanonicalItem p (.relationship rel)
  | primitive {p : ResolvedProperty} {field : Field} {prim : PrimitiveType} {v : Value}
      (hField : p.effectiveField? = some field) (hPrim : field.primitive? = some prim)
      (hv : PrimitiveValue prim v) : CanonicalItem p v
  | resource {p : ResolvedProperty} {r : Resource} (hr : CanonicalResource r) : CanonicalItem p (.concept r)
  | enum {p : ResolvedProperty} {name : String} : CanonicalItem p (.enum name)
  | map {p : ResolvedProperty} {entries : List (Value × Value)}
      (hExact : ∀ e ∈ entries, ∀ t, e.1 = .dateTime t → t.WireExact)
      (hDistinct : (entries.map fun e => e.1.atUtc).Nodup)
      (hKeys : ∀ e ∈ entries, ∀ s, e.1 = .string s → Names.isSystemProperty s = false)
      (hValues : ∀ target m, p.targetFqn? = some target → registry.resolvedMap target = .ok m →
        ∀ e ∈ entries, CanonicalItem m.value e.2) :
      CanonicalItem p (.map entries)

end

end Wire

end DomainModels
