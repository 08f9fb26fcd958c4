import Mathlib
import DomainModels.Proofs.Wire.ReadResult
import DomainModels.Proofs.Wire.Writable
/-! An instance read and written again reads back as itself in UTC, when its values are carried
exactly and the registry's defaults are writable; neither condition can be dropped. -/

namespace DomainModels

open Time

/-! ### The values inside a value -/

mutual

/-- The values inside a value at any depth, itself first: the items of a list, the keys and
values of a map and the values of an embedded instance, with what each of them holds. -/
def Value.parts : Value → List Value
  | .array items => .array items :: Value.itemsParts items
  | .map entries => .map entries :: Value.entriesParts entries
  | .concept r => .concept r :: r.parts
  | v => [v]

/-- The values inside an instance at any depth. -/
def Resource.parts : Resource → List Value
  | .mk _ _ _ vs => Value.fieldsParts vs

/-- `parts` of the items of a list. -/
def Value.itemsParts : List Value → List Value
  | [] => []
  | v :: rest => v.parts ++ Value.itemsParts rest

/-- `parts` of the keys and values of map entries. -/
def Value.entriesParts : List (Value × Value) → List Value
  | [] => []
  | (k, v) :: rest => k.parts ++ v.parts ++ Value.entriesParts rest

/-- `parts` of the values of named fields. -/
def Value.fieldsParts : List (String × Value) → List Value
  | [] => []
  | (_, v) :: rest => v.parts ++ Value.fieldsParts rest

end

namespace Value

theorem mem_parts_self (v : Value) : v ∈ v.parts := by
  cases v <;> simp [parts]

theorem parts_subset_itemsParts {items : List Value} {v : Value} (h : v ∈ items) :
    v.parts ⊆ itemsParts items := by
  induction items with
  | nil => cases h
  | cons u rest ih =>
    rw [itemsParts]
    rcases List.mem_cons.1 h with rfl | h
    · exact List.subset_append_left _ _
    · exact List.Subset.trans (ih h) (List.subset_append_right _ _)

theorem parts_subset_entriesParts {entries : List (Value × Value)} {e : Value × Value} (h : e ∈ entries) :
    e.1.parts ⊆ entriesParts entries ∧ e.2.parts ⊆ entriesParts entries := by
  induction entries with
  | nil => cases h
  | cons u rest ih =>
    obtain ⟨k, v⟩ := u
    rw [entriesParts]
    rcases List.mem_cons.1 h with rfl | h
    · exact ⟨fun x hx => by simp [hx], fun x hx => by simp [hx]⟩
    · exact ⟨List.Subset.trans (ih h).1 (List.subset_append_right _ _),
        List.Subset.trans (ih h).2 (List.subset_append_right _ _)⟩

theorem parts_subset_fieldsParts {fields : List (String × Value)} {e : String × Value} (h : e ∈ fields) :
    e.2.parts ⊆ fieldsParts fields := by
  induction fields with
  | nil => cases h
  | cons u rest ih =>
    obtain ⟨n, v⟩ := u
    rw [fieldsParts]
    rcases List.mem_cons.1 h with rfl | h
    · exact List.subset_append_left _ _
    · exact List.Subset.trans (ih h) (List.subset_append_right _ _)

/-- An item of a list is inside the list. -/
theorem parts_subset_array {items : List Value} {v : Value} (h : v ∈ items) :
    v.parts ⊆ (Value.array items).parts :=
  List.Subset.trans (parts_subset_itemsParts h) (List.subset_cons_self _ _)

/-- The keys and values of a map are inside the map. -/
theorem parts_subset_map {entries : List (Value × Value)} {e : Value × Value} (h : e ∈ entries) :
    e.1.parts ⊆ (Value.map entries).parts ∧ e.2.parts ⊆ (Value.map entries).parts :=
  ⟨List.Subset.trans (parts_subset_entriesParts h).1 (List.subset_cons_self _ _),
    List.Subset.trans (parts_subset_entriesParts h).2 (List.subset_cons_self _ _)⟩

/-- The values of an embedded instance are inside it. -/
theorem parts_subset_concept {r : Resource} {k : String} {v : Value} (h : r.get? k = some v) :
    v.parts ⊆ (Value.concept r).parts := by
  have hMem := Resource.mem_values_of_get? h
  cases r with
  | mk ns typeName field vs =>
    exact List.Subset.trans (parts_subset_fieldsParts hMem) (List.subset_cons_self _ _)

end Value

/-- The values a value holds at any depth are the wire's to carry exactly: Integers and Longs
of 64 bits, finite Doubles, DateTimes of whole milliseconds in the years the wire format
writes, maps whose keys stay distinct as instants, and relationships whose URIs read back. -/
structure Value.Transmissible (v : Value) : Prop where
  integer : ∀ i, Value.integer i ∈ v.parts → Number.i64Min ≤ i ∧ i ≤ Number.i64Max
  long : ∀ i, Value.long i ∈ v.parts → Number.i64Min ≤ i ∧ i ≤ Number.i64Max
  double : ∀ d, Value.double d ∈ v.parts → d.isFinite = true
  dateTime : ∀ t, Value.dateTime t ∈ v.parts → t.WireExact
  keys : ∀ entries, Value.map entries ∈ v.parts → (entries.map fun e => e.1.atUtc).Nodup
  relationship : ∀ rel, Value.relationship rel ∈ v.parts → rel.Canonical

namespace Value.Transmissible

variable {v u : Value}

/-- What a value holds, it holds with all that is inside it. -/
theorem mono (h : v.Transmissible) (hSub : u.parts ⊆ v.parts) : u.Transmissible where
  integer i hi := h.integer i (hSub hi)
  long i hi := h.long i (hSub hi)
  double d hd := h.double d (hSub hd)
  dateTime t ht := h.dateTime t (hSub ht)
  keys entries he := h.keys entries (hSub he)
  relationship rel hr := h.relationship rel (hSub hr)

/-- The integers of a value are of 64 bits. -/
theorem range (h : v.Transmissible) : ∀ i, v = .integer i ∨ v = .long i → Number.i64Min ≤ i ∧ i ≤ Number.i64Max := by
  rintro i (rfl | rfl)
  · exact h.integer i (mem_parts_self _)
  · exact h.long i (mem_parts_self _)

theorem exact (h : v.Transmissible) : ∀ t, v = .dateTime t → t.WireExact := by
  rintro t rfl
  exact h.dateTime t (mem_parts_self _)

theorem finite (h : v.Transmissible) : ∀ d, v = .double d → d.isFinite = true := by
  rintro d rfl
  exact h.double d (mem_parts_self _)

end Value.Transmissible

/-- Whether a value is a text, a Boolean, an enumeration value, a list or an embedded instance:
none of the values the wire may not carry exactly. -/
def Value.isPlain : Value → Bool
  | .string _ | .boolean _ | .enum _ | .array _ | .concept _ => true
  | _ => false

/-- A value that holds only texts, Booleans, enumeration values, lists and instances is carried
exactly. -/
theorem Value.Transmissible.of_isPlain {v : Value} (h : ∀ u ∈ v.parts, u.isPlain = true) : v.Transmissible where
  integer i hi := absurd (h _ hi) (by simp [Value.isPlain])
  long i hi := absurd (h _ hi) (by simp [Value.isPlain])
  double d hd := absurd (h _ hd) (by simp [Value.isPlain])
  dateTime t ht := absurd (h _ ht) (by simp [Value.isPlain])
  keys entries he := absurd (h _ he) (by simp [Value.isPlain])
  relationship rel hr := absurd (h _ hr) (by simp [Value.isPlain])

end DomainModels

namespace DomainModels.Wire

open Time

/-! ### Defaults and the timestamp -/

/-- A default the writer takes back as the item of its property: the property is a field, and
the default either passes the checks of the field's primitive type or is a declared value of
the enumeration the field is typed by. -/
def DefaultWritable (S : Registry) (p : ResolvedProperty) (u : Value) : Prop :=
  p.isRelationship = false ∧
    ((∃ field prim, p.effectiveField? = some field ∧ field.primitive? = some prim ∧
        ∀ path, checkPrimitive field prim u path = .ok ()) ∨
      ∃ target e n, p.primitive? = none ∧ p.targetFqn? = some target ∧ S.getType target = .ok (.enum e) ∧
        u = .enum n ∧ e.hasValue n = true)

/-- Every default the factory fills in for a class of the registry is an item the writer takes
back: the one item of a list property's default, or the default itself. -/
def DefaultsWritable (S : Registry) : Prop :=
  ∀ fqn c, S.resolvedClass fqn = .ok c → ∀ p ∈ c.properties, ∀ u,
    defaultValue p = .ok (some (if p.isArray then .array [u] else u)) → DefaultWritable S p u

/-- A declared default is one item, held alone in a list by a list property: a value with the
tag of the field's primitive type, or an enumeration value. -/
theorem defaultValue_eq_some {p : ResolvedProperty} {v : Value} (h : defaultValue p = .ok (some v)) :
    ∃ u, v = (if p.isArray then .array [u] else u) ∧
      ((∃ field prim, p.effectiveField? = some field ∧ field.primitive? = some prim ∧
          ((∀ i, u = .integer i ∨ u = .long i → Number.i64Min ≤ i ∧ i ≤ Number.i64Max) →
            (∀ t, u = .dateTime t → t.WireExact) → PrimitiveValue prim u)) ∨
        (p.primitive? = none ∧ ∃ n, u = .enum n)) := by
  unfold defaultValue at h
  cases hf : p.effectiveField? with
  | none => rw [hf] at h; cases h
  | some field =>
  cases hd : field.defaultValue with
  | none => simp only [hf, hd] at h; cases h
  | some d =>
  simp only [hf, hd] at h
  have hPrim : p.primitive? = field.primitive? := by simp [ResolvedProperty.primitive?, hf]
  split at h
  · cases h; exact ⟨_, rfl, .inl ⟨field, _, rfl, ‹_›, fun _ _ => .string _⟩⟩
  · cases h; exact ⟨_, rfl, .inl ⟨field, _, rfl, ‹_›, fun _ _ => .boolean _⟩⟩
  · cases h; exact ⟨_, rfl, .inl ⟨field, _, rfl, ‹_›, fun hR _ => .integer (hR _ (.inl rfl)).1 (hR _ (.inl rfl)).2⟩⟩
  · cases h; exact ⟨_, rfl, .inl ⟨field, _, rfl, ‹_›, fun hR _ => .long (hR _ (.inr rfl)).1 (hR _ (.inr rfl)).2⟩⟩
  · cases h; exact ⟨_, rfl, .inl ⟨field, _, rfl, ‹_›, fun _ _ => .double _⟩⟩
  · cases h; exact ⟨_, rfl, .inl ⟨field, _, rfl, ‹_›, fun _ _ => .double _⟩⟩
  · split at h
    · cases h; exact ⟨_, rfl, .inl ⟨field, _, rfl, ‹_›, fun _ hE => .dateTime (hE _ rfl)⟩⟩
    · cases h
  · cases h; exact ⟨_, rfl, .inr ⟨hPrim.trans ‹_›, _, rfl⟩⟩
  · cases h

variable {S : Registry}

/-- A default the writer takes back, whose values the wire carries exactly, is a canonical value
of its property, and the writer writes it. -/
theorem default_rewrites {p : ResolvedProperty} {v : Value} (hv : defaultValue p = .ok (some v))
    (hAcc : ∀ u, defaultValue p = .ok (some (if p.isArray then .array [u] else u)) → DefaultWritable S p u)
    (hT : v.Transmissible) : CanonicalProperty S p v ∧ PropertyWritable S p v := by
  obtain ⟨u, rfl, hTag⟩ := defaultValue_eq_some hv
  obtain ⟨hRel, hKind⟩ := hAcc u hv
  have hTu : u.Transmissible := hT.mono (by
    split
    · exact Value.parts_subset_array (List.mem_singleton_self u)
    · exact fun _ h => h)
  have hItem : CanonicalItem S p u ∧ ItemWritable S p u := by
    rcases hKind with ⟨field, prim, hField, hPrim, hCheck⟩ | ⟨target, e, n, hNone, hTarget, hType, rfl, hHas⟩
    · refine ⟨?_, itemWritable_primitive hRel hField hPrim hCheck hTu.finite⟩
      rcases hTag with ⟨field', prim', hField', hPrim', hValue⟩ | ⟨hNone, -⟩
      · rw [hField] at hField'
        cases hField'
        rw [hPrim] at hPrim'
        cases hPrim'
        exact .primitive hField hPrim (hValue hTu.range hTu.exact)
      · simp [ResolvedProperty.primitive?, hField, hPrim] at hNone
    · exact ⟨.enum, itemWritable_declared hRel hNone hTarget (.inr (.inl ⟨e, n, hType, rfl, hHas⟩))⟩
  cases hArr : p.isArray
  · rw [if_neg Bool.false_ne_true]
    exact ⟨.single hArr hItem.1, propertyWritable_single hArr hItem.2⟩
  · rw [if_pos rfl]
    refine ⟨.array hArr fun w hw => ?_, propertyWritable_array hArr fun w hw => ?_⟩
    · rw [List.mem_singleton.1 hw]
      exact hItem.1
    · rw [List.mem_singleton.1 hw]
      exact hItem.2

/-- The time a transaction or an event is stamped with, under its synthetic `$timestamp`
field, is canonical and written. -/
theorem timestamp_rewrites {owner : String} {t : DateTime} (hExact : t.WireExact) :
    CanonicalProperty S (systemProperty Names.timestampField .dateTime owner) (.dateTime t) ∧
      PropertyWritable S (systemProperty Names.timestampField .dateTime owner) (.dateTime t) :=
  ⟨.single rfl (.primitive rfl rfl (.dateTime hExact)),
    propertyWritable_single rfl (itemWritable_primitive rfl rfl rfl (fun _ => rfl) fun _ h => by cases h)⟩

/-- A property whose field is synthetic has no default. -/
theorem defaultValue_synthetic {p : ResolvedProperty} {n : String} {t : TypeRef}
    (h : p.effectiveField? = some (Field.synthetic n t)) : defaultValue p = .ok none := by
  unfold defaultValue
  rw [h]
  rfl

/-- A text or a DateTime that passes the checks of a map's key is written as a text. -/
theorem encodePrimitive_key {field : Field} {prim : PrimitiveType} {v : Value} {path : Path}
    (hCheck : checkPrimitive field prim v path = .ok ()) (hv : (∃ s, v = .string s) ∨ ∃ t, v = .dateTime t)
    (path' : Path) : ∃ t, encodePrimitive {} field prim v path' = .ok (.string t) := by
  unfold encodePrimitive
  rw [if_pos rfl, checkPrimitive_path hCheck path', outcome_ok_bind]
  rcases hv with ⟨s, rfl⟩ | ⟨t, rfl⟩
  · exact ⟨s, rfl⟩
  · exact ⟨_, rfl⟩

/-- Each right-hand element of a pairwise relation is related to some left-hand element. -/
theorem exists_mem_of_forall₂ {α β : Type} {R : α → β → Prop} :
    ∀ {l : List α} {u : List β}, List.Forall₂ R l u → ∀ b ∈ u, ∃ a ∈ l, R a b
  | _, _, .nil => by simp
  | _, _, .cons hab hRest => by
    intro b hb
    rcases List.mem_cons.mp hb with rfl | hb
    · exact ⟨_, List.mem_cons_self, hab⟩
    · obtain ⟨a, ha, h⟩ := exists_mem_of_forall₂ hRest b hb
      exact ⟨a, List.mem_cons_of_mem _ ha, h⟩

/-! ### What an instance read holds -/

/-- An instance that passes the completeness check holds every required property the reader
does not pass over, and a non-empty identifier when its class is identified. -/
theorem checkComplete_eq_ok {c : ResolvedClass} {fqn : String} {r : Resource} {path : Path}
    (h : checkComplete c fqn r path = .ok ()) :
    (∀ p ∈ c.properties, p.isOptional = false → c.passesOver p.name = false → r.contains p.name = true) ∧
      (c.isIdentified = true → ∃ id, r.identifier? = some id ∧ id ≠ "") := by
  unfold checkComplete at h
  obtain ⟨⟨⟩, hLoop, h⟩ := Outcome.bind_eq_ok.1 h
  refine ⟨?_, fun hId => ?_⟩
  · refine outcome_forIn_inv c.properties _ (fun done _ => ∀ p ∈ done, p.isOptional = false →
      c.passesOver p.name = false → r.contains p.name = true) ?_ (fun _ h => by cases h) hLoop
    intro done p rest u res _ hInv hStep
    by_cases hHas : (p.isOptional || r.contains p.name) = true
    · rw [if_pos hHas] at hStep
      cases hStep
      refine ⟨u, rfl, List.forall_mem_append.2 ⟨hInv, List.forall_mem_singleton.2 fun hOpt _ => ?_⟩⟩
      simpa [hOpt] using hHas
    · rw [if_neg hHas] at hStep
      by_cases hSkip : c.passesOver p.name = true
      · rw [if_pos (show (p.name == Names.identifierField && c.hasExplicitIdentifier) = true from hSkip)] at hStep
        cases hStep
        refine ⟨u, rfl, List.forall_mem_append.2 ⟨hInv, List.forall_mem_singleton.2 fun _ hSkip' => ?_⟩⟩
        rw [hSkip] at hSkip'
        cases hSkip'
      · rw [if_neg (show ¬ (p.name == Names.identifierField && c.hasExplicitIdentifier) = true from hSkip)] at hStep
        cases hStep
  · by_cases hEmpty : (r.identifier?.getD "").isEmpty = true
    · rw [if_pos (by simp [hId, hEmpty])] at h
      cases h
    · cases hI : r.identifier? with
      | none =>
        rw [hI] at hEmpty
        exact absurd rfl hEmpty
      | some id =>
        refine ⟨id, rfl, fun hEq => hEmpty ?_⟩
        rw [hI, hEq]
        rfl

/-- The field that identifies a class is read, never passed over. -/
theorem passesOver_of_identifier {c : ResolvedClass} {k : String} (h : c.identifier = some k) :
    c.passesOver k = false := by
  unfold ResolvedClass.passesOver ResolvedClass.hasExplicitIdentifier
  rw [h]
  by_cases hk : k = Names.identifierField <;> simp [hk]

/-- The identifier of an instance is the text under its identifying field. -/
theorem identifier?_eq_some_iff {r : Resource} {k id : String} (hField : r.identifierField = some k) :
    r.identifier? = some id ↔ r.get? k = some (.string id) := by
  cases hv : r.get? k with
  | none => simp [Resource.identifier?, hField, hv]
  | some v => cases v <;> simp [Resource.identifier?, hField, hv]

/-- What an instance read at some fuel holds, for the class found under the name asked for: the
class is complete and concrete, the instance is named by it and holds its declared defaults, its
timestamp, its required properties and a non-empty identifier, and under each key it holds a
value read from the object for the property of that name, that property's default, or the time
of making under `$timestamp`. -/
structure ReadInstance (S : Registry) (now : DateTime) (fuel : Nat) (c : ResolvedClass) (r : Resource) : Prop where
  complete : c.Complete
  concrete : c.isAbstract = false
  ns : r.ns = c.ns
  typeName : r.typeName = c.name
  identifierField : r.identifierField = c.identifier
  sorted : SortedByName r.values
  defaults : ∀ p ∈ c.properties, ∃ d, defaultValue p = .ok d ∧ ∀ v, d = some v → r.contains p.name = true
  timestamp : c.isTimestamped = true → r.contains Names.timestampField = true
  required : ∀ p ∈ c.properties, p.isOptional = false → c.passesOver p.name = false → r.contains p.name = true
  identifier : c.isIdentified = true → ∃ id, r.identifier? = some id ∧ id ≠ ""
  value : ∀ k v, r.get? k = some v →
    (∃ p ∈ c.properties, p.name = k ∧ c.passesOver k = false ∧
      ∃ j path, decodeProperty ⟨S, now⟩ {} fuel p j path = .ok v) ∨
    (∃ p ∈ c.properties, p.name = k ∧ defaultValue p = .ok (some v)) ∨
    (c.isTimestamped = true ∧ k = Names.timestampField ∧ v = .dateTime now)

/-- An instance read in a reachable registry is a `ReadInstance` of the class found under the
name asked for. The identifier the factory was given survives only when the object has no text
under the identifying field, and then it is empty, which the completeness check refuses; so the
identifier is always read from the object. -/
theorem decodeResource_read {mode : BuildMode} (hS : Registry.Reachable S mode) {now : DateTime} {fuel : Nat}
    {fqn : String} {fields : List (String × Json)} {path : Path} {r : Resource}
    (h : decodeResource ⟨S, now⟩ {} (fuel + 1) fqn fields path = .ok r) :
    ∃ c, S.resolvedClass fqn = .ok c ∧ c.fqn = fqn ∧ ReadInstance S now fuel c r := by
  obtain ⟨c, r₀, hClass, hAbs, -, hNewR, hNewC, hRead, hComplete⟩ := decodeResource_eq_ok h
  obtain ⟨hc, hFqn⟩ := hS.resolvedClass_complete hClass
  have hQual : S.resolvedClass (Names.qualify c.ns c.name) = .ok c := by
    rw [hc.qualify, hFqn]
    exact hClass
  obtain ⟨hRequired, hIdentified⟩ := checkComplete_eq_ok hComplete
  obtain ⟨id, hMade, hId⟩ : ∃ id, Factory.Made ⟨S, now⟩ c id r₀ ∧
      ∀ k, c.identifier = some k → id = ((Json.fieldsGet? fields k).bind Json.str?).getD "" := by
    cases hI : c.identifier with
    | none => exact ⟨"", Factory.newConcept_made (hNewC hI) hQual, fun k hk => by cases hk⟩
    | some k => exact ⟨_, Factory.newResource_made (hNewR k hI) hQual, fun k' hk' => by cases hk'; rfl⟩
  have hKeeps : ∀ k, r₀.contains k = true → r.contains k = true := fun k hk =>
    (Resource.contains_eq_true_iff _ _).2 (hRead.keeps k ((Resource.contains_eq_true_iff _ _).1 hk))
  refine ⟨c, hClass, hFqn, ⟨hc, hAbs, hRead.grows.ns.trans hMade.ns, hRead.grows.typeName.trans hMade.typeName,
    hRead.grows.identifierField.trans hMade.identifierField, hRead.grows.sorted hMade.sorted, ?_,
    fun hStamp => hKeeps _ (hMade.timestamp hStamp), hRequired, hIdentified, ?_⟩⟩
  · intro p hp
    obtain ⟨d, hd, hSome⟩ := hMade.defaults p hp
    exact ⟨d, hd, fun v hv => hKeeps _ (hSome v hv)⟩
  intro k v hv
  rcases hRead.value k v hv with ⟨p, hp, hpk, hSkip, j, -, -, hDecode⟩ | ⟨h₀, hUntouched⟩
  · exact .inl ⟨p, hp, hpk, hSkip, j, _, hDecode⟩
  rcases hMade.value k v h₀ with hDefault | ⟨hIdK, rfl⟩ | hStamp
  · exact .inr (.inl hDefault)
  · exfalso
    obtain ⟨p, hp, hpk, -⟩ := hc.identifier k hIdK
    have hEmpty : id = "" := by
      rw [hId k hIdK]
      rcases hUntouched p hp hpk with hPass | hAbsent | hAbsent
      · rw [passesOver_of_identifier hIdK] at hPass
        cases hPass
      all_goals rw [hAbsent]; rfl
    obtain ⟨id', hId', hNe⟩ := hIdentified (by simp [ResolvedClass.isIdentified, hIdK])
    have hField : r.identifierField = some k := by
      rw [hRead.grows.identifierField, hMade.identifierField, hIdK]
    rw [(identifier?_eq_some_iff hField).2 hv, Option.some.injEq] at hId'
    exact hNe (hId' ▸ hEmpty)
  · exact .inr (.inr hStamp)

/-! ### Reading, then writing, one reader function at a time -/

section Rewrites

variable (S : Registry) (now : DateTime)

/-- An instance read at this fuel, holding only values the wire carries exactly, is of the class
asked for, canonical, and written. -/
def ResourceRewrites (fuel : Nat) : Prop :=
  ∀ fqn fields path r, decodeResource ⟨S, now⟩ {} fuel fqn fields path = .ok r → (Value.concept r).Transmissible →
    r.fullyQualifiedType = fqn ∧ CanonicalResource S r ∧ ResourceWritable S r

/-- An embedded instance read at this fuel is of a class assignable to the declared one,
canonical, and written. -/
def NestedRewrites (fuel : Nat) : Prop :=
  ∀ declared fields path r, decodeNested ⟨S, now⟩ {} fuel declared fields path = .ok r →
    (Value.concept r).Transmissible →
    S.index.isAssignable r.fullyQualifiedType declared = true ∧ CanonicalResource S r ∧ ResourceWritable S r

/-- The value of a property read at this fuel is canonical and written. -/
def PropertyRewrites (fuel : Nat) : Prop :=
  ∀ p j path v, decodeProperty ⟨S, now⟩ {} fuel p j path = .ok v → v.Transmissible →
    CanonicalProperty S p v ∧ PropertyWritable S p v

/-- An item read at this fuel is canonical and written. -/
def ItemRewrites (fuel : Nat) : Prop :=
  ∀ p j path v, decodeItem ⟨S, now⟩ {} fuel p j path = .ok v → v.Transmissible →
    CanonicalItem S p v ∧ ItemWritable S p v

/-- A map read at this fuel, for a property typed by it, is a canonical item whose entries are
written. -/
def MapRewrites (fuel : Nat) : Prop :=
  ∀ p target fields path v, p.targetFqn? = some target → decodeMap ⟨S, now⟩ {} fuel target fields path = .ok v →
    v.Transmissible → ∃ entries, v = .map entries ∧ CanonicalItem S p v ∧ MapWritable S target entries

variable {S now} {fuel : Nat}

theorem nestedRewrites_succ (ih : ResourceRewrites S now fuel) : NestedRewrites S now (fuel + 1) := by
  intro declared fields path r h hT
  obtain ⟨runtime, hAssign, hRead⟩ := decodeNested_eq_ok h
  obtain ⟨hFqt, hr, hW⟩ := ih runtime fields path r hRead hT
  rw [hFqt]
  exact ⟨hAssign, hr, hW⟩

theorem propertyRewrites_succ (ih : ItemRewrites S now fuel) : PropertyRewrites S now (fuel + 1) := by
  intro p j path v h hT
  rcases decodeProperty_eq_ok h with ⟨hArr, hItem⟩ | ⟨hArr, js, items, rfl, rfl, hItems⟩
  · obtain ⟨hv, hW⟩ := ih p j path v hItem hT
    exact ⟨.single hArr hv, propertyWritable_single hArr hW⟩
  · have hEach : ∀ u ∈ items, CanonicalItem S p u ∧ ItemWritable S p u := by
      intro u hu
      obtain ⟨i, -, path', hRead⟩ := exists_mem_of_forall₂ hItems u hu
      exact ih p i path' u hRead (hT.mono (Value.parts_subset_array hu))
    exact ⟨.array hArr fun u hu => (hEach u hu).1, propertyWritable_array hArr fun u hu => (hEach u hu).2⟩

theorem itemRewrites_succ (hNested : NestedRewrites S now fuel) (hMap : MapRewrites S now fuel) :
    ItemRewrites S now (fuel + 1) := by
  intro p j path v h hT
  rcases decodeItem_eq_ok h with ⟨hRel, hRead⟩ | ⟨hRel, field, prim, hField, hPrim, hRead⟩ |
      ⟨hRel, hNone, target, hTarget, hKind⟩
  · cases fuel with
    | zero => cases hRead
    | succ fuel =>
      obtain ⟨rel, rfl, -, hAssign⟩ := decodeRelationship_eq_ok hRead
      exact ⟨.relationship (hT.relationship rel (Value.mem_parts_self _)), itemWritable_relationship hRel hAssign⟩
  · obtain ⟨hValue, hCheck⟩ := decodePrimitive_eq_ok hRead
    exact ⟨.primitive hField hPrim (primitiveValue?_tag hValue hT.range hT.exact),
      itemWritable_primitive hRel hField hPrim (checkPrimitive_path hCheck) hT.finite⟩
  · rcases hKind with ⟨cd, fields, r, hType, rfl, rfl, hRead⟩ | ⟨e, n, hType, rfl, hHas⟩ |
        ⟨md, fields, hType, rfl, hRead⟩
    · obtain ⟨hAssign, hr, hW⟩ := hNested target fields path r hRead hT
      exact ⟨.resource hr, itemWritable_declared hRel hNone hTarget (.inl ⟨cd, r, hType, rfl, hAssign, hW⟩)⟩
    · exact ⟨.enum, itemWritable_declared hRel hNone hTarget (.inr (.inl ⟨e, n, hType, rfl, hHas⟩))⟩
    · obtain ⟨entries, rfl, hv, hW⟩ := hMap p target fields path v hTarget hRead hT
      exact ⟨hv, itemWritable_declared hRel hNone hTarget (.inr (.inr ⟨md, entries, hType, rfl, hW⟩))⟩

theorem mapRewrites_succ (ih : ItemRewrites S now fuel) : MapRewrites S now (fuel + 1) := by
  intro p target fields path v hTarget h hT
  obtain ⟨m, keyField, keyPrim, pairs, entries, hm, hKeyField, hKeyPrim, rfl, hPlain, hEntries⟩ :=
    decodeMap_eq_ok h
  have hm' : S.resolvedMap target = .ok m := hm
  have hEach := exists_mem_of_forall₂ hEntries
  have hKey : ∀ e ∈ entries, (∀ s, e.1 = .string s → Names.isSystemProperty s = false) ∧
      ∀ path', ∃ t, encodePrimitive {} keyField keyPrim e.1 path' = .ok (.string t) := by
    intro e he
    obtain ⟨o, ho, hKeyRead, -⟩ := hEach e he
    obtain ⟨hValue, hCheck⟩ := decodePrimitive_eq_ok hKeyRead
    rcases primitiveValue?_string hValue with ⟨-, hs⟩ | ⟨-, t, ht⟩
    · refine ⟨fun s hs' => ?_, encodePrimitive_key hCheck (.inl ⟨_, hs⟩)⟩
      rw [hs, Value.string.injEq] at hs'
      rw [← hs']
      exact hPlain o ho
    · refine ⟨fun s hs' => ?_, encodePrimitive_key hCheck (.inr ⟨t, ht⟩)⟩
      rw [ht] at hs'
      cases hs'
  have hValue : ∀ e ∈ entries, CanonicalItem S m.value e.2 ∧ ItemWritable S m.value e.2 := by
    intro e he
    obtain ⟨o, -, -, hRead⟩ := hEach e he
    exact ih m.value o.2 _ e.2 hRead (hT.mono (Value.parts_subset_map he).2)
  refine ⟨entries, rfl, .map (fun e he t ht => hT.dateTime t ?_) (hT.keys entries (Value.mem_parts_self _))
      (fun e he => (hKey e he).1) (fun target' m' hTarget' hm'' e he => ?_),
    mapWritable hm' hKeyField hKeyPrim (fun e he => (hKey e he).2) fun e he => (hValue e he).2⟩
  · rw [← ht]
    exact (Value.parts_subset_map he).1 (Value.mem_parts_self _)
  · rw [hTarget, Option.some.injEq] at hTarget'
    subst hTarget'
    rw [hm', Except.ok.injEq] at hm''
    subst hm''
    exact (hValue e he).1

/-- An instance read at one more fuel is canonical and written: each of its values came from
the object, as a declared default or as the time of making, and each way gives a canonical
value the writer writes. -/
theorem resourceRewrites_succ {mode : BuildMode} (hS : Registry.Reachable S mode) (hDefaults : DefaultsWritable S)
    (ih : PropertyRewrites S now fuel) : ResourceRewrites S now (fuel + 1) := by
  intro fqn fields path r h hT
  obtain ⟨c, hClass, hFqn, hr⟩ := decodeResource_read hS h
  have hFqt : r.fullyQualifiedType = fqn := by
    rw [Resource.fullyQualifiedType, hr.ns, hr.typeName, hr.complete.qualify, hFqn]
  have hClass' : S.resolvedClass r.fullyQualifiedType = .ok c := hFqt ▸ hClass
  have hValues : ∀ p ∈ c.properties, ∀ v, r.get? p.name = some v →
      CanonicalProperty S p v ∧ PropertyWritable S p v := by
    intro p hp v hv
    have hTv : v.Transmissible := hT.mono (Value.parts_subset_concept hv)
    rcases hr.value p.name v hv with ⟨q, hq, hqp, -, j, path', hRead⟩ | ⟨q, hq, hqp, hd⟩ | ⟨-, hStamp, rfl⟩
    · rw [hr.complete.wellFormed.eq_of_name hq hp hqp] at hRead
      exact ih p j path' v hRead hTv
    · rw [hr.complete.wellFormed.eq_of_name hq hp hqp] at hd
      exact default_rewrites hd (hDefaults fqn c hClass p hp) hTv
    · obtain ⟨owner, rfl⟩ := hr.complete.timestampField p hp hStamp
      exact timestamp_rewrites (hTv.exact _ rfl)
  have hDeclared : ∀ k v, r.get? k = some v → ∃ p ∈ c.properties, p.name = k := by
    intro k v hv
    rcases hr.value k v hv with ⟨q, hq, hqk, -⟩ | ⟨q, hq, hqk, -⟩ | ⟨hStamped, rfl, -⟩
    · exact ⟨q, hq, hqk⟩
    · exact ⟨q, hq, hqk⟩
    · exact hr.complete.timestamp hStamped
  refine ⟨hFqt, .intro hClass' hr.ns hr.typeName hr.identifierField hr.sorted hr.defaults hr.timestamp ?_ ?_
    (fun p hp v hv => (hValues p hp v hv).1), resourceWritable hClass' hr.concrete ?_ ?_
    (fun p hp _ v hv => (hValues p hp v hv).2)⟩
  · intro field hField
    obtain ⟨id, hId, hNe⟩ := hr.identifier (by simp [ResolvedClass.isIdentified, ← hr.identifierField, hField])
    exact ⟨id, (identifier?_eq_some_iff hField).1 hId, hNe⟩
  · intro hExplicit
    cases hv : r.get? Names.identifierField with
    | none => rfl
    | some v =>
      exfalso
      rcases hr.value _ v hv with ⟨q, -, -, hSkip, -⟩ | ⟨q, hq, hqk, hd⟩ | ⟨-, hk, -⟩
      · simp [ResolvedClass.passesOver, hExplicit] at hSkip
      · rw [defaultValue_synthetic (hr.complete.identifierField q hq hqk)] at hd
        cases hd
      · exact absurd hk (by decide)
  · intro e he
    obtain ⟨v, hv⟩ := Option.isSome_iff_exists.1
      ((Resource.contains_eq_true_iff _ _).1 (List.any_eq_true.2 ⟨e, he, beq_self_eq_true _⟩))
    obtain ⟨p, hp, hpk⟩ := hDeclared e.1 v hv
    rw [← hpk, hr.complete.wellFormed.property?_name hp]
    rfl
  · intro p hp hSkip hOpt
    exact (Resource.contains_eq_true_iff _ _).1 (hr.required p hp hOpt hSkip)

/-- At every fuel, every reader function reads what is canonical and written. -/
theorem rewrites_fuel {mode : BuildMode} (hS : Registry.Reachable S mode) (hDefaults : DefaultsWritable S)
    (fuel : Nat) : ResourceRewrites S now fuel ∧ NestedRewrites S now fuel ∧ PropertyRewrites S now fuel ∧
      ItemRewrites S now fuel ∧ MapRewrites S now fuel := by
  induction fuel with
  | zero =>
    refine ⟨?_, ?_, ?_, ?_, ?_⟩
    · intro _ _ _ _ h; cases h
    · intro _ _ _ _ h; cases h
    · intro _ _ _ _ h; cases h
    · intro _ _ _ _ h; cases h
    · intro _ _ _ _ _ _ h; cases h
  | succ fuel ih =>
    obtain ⟨hRes, hNested, hProp, hItem, hMap⟩ := ih
    exact ⟨resourceRewrites_succ hS hDefaults hProp, nestedRewrites_succ hRes, propertyRewrites_succ hItem,
      itemRewrites_succ hNested hMap, mapRewrites_succ hItem⟩

end Rewrites

/-- In a registry reached through its operations whose defaults the writer takes back, an
instance the validating reader reads from JSON, holding only values the wire carries exactly, is
written by the validating writer, and the JSON written reads back as the instance with every
DateTime shown in UTC, which is written as the same JSON. -/
theorem read_instances_write_and_read_back {S : Registry} {mode : BuildMode} (hS : Registry.Reachable S mode)
    (hDefaults : DefaultsWritable S) (now : DateTime) {j : Json} {r : Resource}
    (hRead : decode ⟨S, now⟩ {} j = .ok r) (hT : (Value.concept r).Transmissible) :
    ∃ j', encode S {} r = .ok j' ∧ decode ⟨S, now⟩ {} j' = .ok r.atUtc ∧ encode S {} r.atUtc = .ok j' := by
  obtain ⟨fqn, fields, hResource⟩ : ∃ fqn fields,
      decodeResource ⟨S, now⟩ {} (4 * jsonSize j + 4) fqn fields Path.root = .ok r := by
    unfold decode at hRead
    split at hRead
    · split at hRead
      · exact ⟨_, _, hRead⟩
      · cases hRead
    · cases hRead
  obtain ⟨-, hr, hW⟩ := (rewrites_fuel hS hDefaults _).1 fqn fields Path.root r hResource hT
  obtain ⟨j', s', hRun⟩ := hW (4 * r.size + 4) none Path.root (by omega) (fun _ h => by cases h) []
  have hj : encode S {} r = .ok j' := by
    show Prod.fst <$> (encodeResource S {} (4 * r.size + 4) r none Path.root).run [] = .ok j'
    rw [hRun]
    rfl
  exact ⟨j', hj, canonical_instances_read_back hS now hr hj⟩

/-- The car `1`, read from its JSON in the registry of `carModel`, is written, and what is
written reads back. -/
theorem car_json_is_written_and_read_back :
    ∃ S file r, (Registry.create >>= fun S₀ => S₀.addModelFile carModel) = .ok (S, file) ∧
      Registry.Reachable S .strict ∧ DefaultsWritable S ∧
      decode ⟨S, ⟨0, 0, 0⟩⟩ {} (.object [(Names.classKey, .string "org.x@1.0.0.Car"), ("vin", .string "1")]) = .ok r ∧
      (Value.concept r).Transmissible ∧
      ∃ j', encode S {} r = .ok j' ∧ decode ⟨S, ⟨0, 0, 0⟩⟩ {} j' = .ok r.atUtc ∧ encode S {} r.atUtc = .ok j' := by
  have hFacts : ((Registry.create >>= fun S₀ => S₀.addModelFile carModel).toOption.map fun added =>
      (added.1.index.classes.all fun c => c.properties.all fun p =>
        (defaultValue p).toOption.map Option.isNone == some true) &&
      ((decode ⟨added.1, ⟨0, 0, 0⟩⟩ {}
        (.object [(Names.classKey, .string "org.x@1.0.0.Car"), ("vin", .string "1")])).toOption.map fun r =>
          (Value.concept r).parts.all Value.isPlain) == some true) = some true := by
    decide +kernel
  obtain ⟨⟨S, file⟩, hAdded⟩ : ∃ added, (Registry.create >>= fun S₀ => S₀.addModelFile carModel) = .ok added := by
    cases h : (Registry.create >>= fun S₀ => S₀.addModelFile carModel) with
    | error e => rw [h] at hFacts; cases hFacts
    | ok added => exact ⟨added, rfl⟩
  obtain ⟨S₀, hCreate, hAdd⟩ := Outcome.bind_eq_ok.mp hAdded
  have hS : Registry.Reachable S .strict := .addModelFile carModel (.create hCreate) (Registry.change_eq_ok.1 hAdd)
  rw [hAdded] at hFacts
  simp only [Except.toOption, Option.map_some, Option.some.injEq, Bool.and_eq_true, List.all_eq_true] at hFacts
  obtain ⟨hNoDefaults, hPlain⟩ := hFacts
  obtain ⟨r, hr⟩ : ∃ r, decode ⟨S, ⟨0, 0, 0⟩⟩ {}
      (.object [(Names.classKey, .string "org.x@1.0.0.Car"), ("vin", .string "1")]) = .ok r := by
    cases h : decode ⟨S, ⟨0, 0, 0⟩⟩ {} (.object [(Names.classKey, .string "org.x@1.0.0.Car"), ("vin", .string "1")]) with
    | error e => rw [h] at hPlain; simp at hPlain
    | ok r => exact ⟨r, rfl⟩
  rw [hr] at hPlain
  simp only [Option.map_some, beq_iff_eq, Option.some.injEq, List.all_eq_true] at hPlain
  have hDefaults : DefaultsWritable S := by
    intro fqn c hc p hp u hu
    have hNone := hNoDefaults c (Registry.resolvedClass_mem hc).1 p hp
    rw [hu] at hNone
    simp at hNone
  have hT : (Value.concept r).Transmissible := .of_isPlain hPlain
  exact ⟨S, file, r, hAdded, hS, hDefaults, hr, hT, read_instances_write_and_read_back hS hDefaults ⟨0, 0, 0⟩ hr hT⟩

/-- A model whose concept `Holder` has a field `m` of the map `Stamps` from DateTimes to texts. -/
def stampsModel : ModelInput :=
  { ast := { ns := "org.x@1.0.0", declarations := [
      .map "Stamps" .dateTime .string [] none,
      .cls .concept { name := "Holder", properties := [{ name := "m", kind := .object ⟨"Stamps", none⟩ none }] }] } }

/-- Two keys of a DateTime map that name one instant in different offsets are read as two entries
and written in UTC under one key, so what is written reads back as an instance with one entry
less, which is not the instance read with its DateTimes shown in UTC. -/
theorem same_instant_keys_do_not_read_back :
    ∃ S file r j' r', (Registry.create >>= fun S₀ => S₀.addModelFile stampsModel) = .ok (S, file) ∧
      decode ⟨S, ⟨0, 0, 0⟩⟩ {} (.object [(Names.classKey, .string "org.x@1.0.0.Holder"), ("m", .object
        [("2024-01-01T00:00:00.000Z", .string "a"), ("2024-01-01T01:00:00.000+01:00", .string "b")])]) = .ok r ∧
      encode S {} r = .ok j' ∧ decode ⟨S, ⟨0, 0, 0⟩⟩ {} j' = .ok r' ∧ r'.size < r.size ∧ r' ≠ r.atUtc := by
  have hFacts : ((Registry.create >>= fun S₀ => S₀.addModelFile stampsModel).toOption.map fun added =>
      (decode ⟨added.1, ⟨0, 0, 0⟩⟩ {} (.object [(Names.classKey, .string "org.x@1.0.0.Holder"), ("m", .object
        [("2024-01-01T00:00:00.000Z", .string "a"), ("2024-01-01T01:00:00.000+01:00", .string "b")])])).toOption.map
        fun r => (encode added.1 {} r).toOption.map fun j' =>
          (decode ⟨added.1, ⟨0, 0, 0⟩⟩ {} j').toOption.map fun r' => decide (r'.size < r.size)) =
      some (some (some (some true))) := by
    decide +kernel
  obtain ⟨⟨S, file⟩, hAdded⟩ : ∃ added, (Registry.create >>= fun S₀ => S₀.addModelFile stampsModel) = .ok added := by
    cases h : (Registry.create >>= fun S₀ => S₀.addModelFile stampsModel) with
    | error e => rw [h] at hFacts; cases hFacts
    | ok added => exact ⟨added, rfl⟩
  rw [hAdded] at hFacts
  simp only [Except.toOption, Option.map_some, Option.some.injEq] at hFacts
  obtain ⟨r, hr⟩ : ∃ r, decode ⟨S, ⟨0, 0, 0⟩⟩ {} (.object [(Names.classKey, .string "org.x@1.0.0.Holder"), ("m", .object
      [("2024-01-01T00:00:00.000Z", .string "a"), ("2024-01-01T01:00:00.000+01:00", .string "b")])]) = .ok r := by
    cases h : decode ⟨S, ⟨0, 0, 0⟩⟩ {} (.object [(Names.classKey, .string "org.x@1.0.0.Holder"), ("m", .object
      [("2024-01-01T00:00:00.000Z", .string "a"), ("2024-01-01T01:00:00.000+01:00", .string "b")])]) with
    | error e => rw [h] at hFacts; simp at hFacts
    | ok r => exact ⟨r, rfl⟩
  rw [hr] at hFacts
  simp only [Option.map_some, Option.some.injEq] at hFacts
  obtain ⟨j', hj'⟩ : ∃ j', encode S {} r = .ok j' := by
    cases h : encode S {} r with
    | error e => rw [h] at hFacts; simp at hFacts
    | ok j' => exact ⟨j', rfl⟩
  rw [hj'] at hFacts
  simp only [Option.map_some, Option.some.injEq] at hFacts
  obtain ⟨r', hr'⟩ : ∃ r', decode ⟨S, ⟨0, 0, 0⟩⟩ {} j' = .ok r' := by
    cases h : decode ⟨S, ⟨0, 0, 0⟩⟩ {} j' with
    | error e => rw [h] at hFacts; simp at hFacts
    | ok r' => exact ⟨r', rfl⟩
  rw [hr'] at hFacts
  simp only [Option.map_some, Option.some.injEq, decide_eq_true_eq] at hFacts
  refine ⟨S, file, r, j', r', hAdded, hr, hj', hr', hFacts, fun hEq => ?_⟩
  have hSize := congrArg Resource.size hEq
  rw [Resource.size_atUtc] at hSize
  omega

end DomainModels.Wire
