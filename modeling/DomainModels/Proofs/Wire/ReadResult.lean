import Mathlib
import DomainModels.Proofs.Wire.RoundTrip
import DomainModels.Proofs.Graph.Identifiers
/-! What a successful read says about the instance read: one inverting lemma for each function of
the reader (`ReadInto`), and the classes a reachable registry resolves. -/

namespace DomainModels

open Metamodel (ClassKind)
open Outcome

/-! ### The timestamp field of a class -/

/-- The system field named `$timestamp` is the synthetic DateTime field of the class. -/
theorem mem_systemFields_timestampField {c : ClassDeclaration} {inherited : List ResolvedProperty}
    {p : ResolvedProperty} (hp : p ∈ systemFields c inherited) (hName : p.name = Names.timestampField) :
    p = systemProperty Names.timestampField .dateTime c.fqn := by
  unfold systemFields at hp
  rcases List.mem_append.1 hp with hp | hp
  · split at hp
    · rw [List.mem_singleton.1 hp] at hName
      simp [systemProperty, ResolvedProperty.name, Property.name, Field.synthetic, Names.timestampField,
        Names.identifierField] at hName
    · cases hp
  · split at hp
    · exact List.mem_singleton.1 hp
    · cases hp

section Completion

variable {files : ModelFiles} {file : ModelFile} {c : ClassDeclaration} {parent : Option ResolvedClass}
  {rc : ResolvedClass} {own : List ResolvedProperty}

/-- A transaction or an event holds a property named `$timestamp`: its own system field, or one
it inherits. -/
theorem Completion.mem_timestampField (hc : Completion files file c parent rc own)
    (h : c.kind.isTimestamped = true) : ∃ p ∈ rc.properties, p.name = Names.timestampField := by
  rw [hc.properties]
  by_cases hInherits : (inheritedFrom parent).any (·.name == Names.timestampField) = true
  · obtain ⟨p, hp, hName⟩ := List.any_eq_true.1 hInherits
    exact ⟨p, List.mem_append_right _ hp, beq_iff_eq.1 hName⟩
  · refine ⟨systemProperty Names.timestampField .dateTime c.fqn,
      List.mem_append_left _ (List.mem_append_right _ ?_), rfl⟩
    unfold systemFields
    rw [if_pos (Bool.and_eq_true_iff.2 ⟨h, by simpa using hInherits⟩)]
    exact List.mem_append_right _ (List.mem_singleton_self _)

end Completion

/-- A completed class keeps the name of its declaration. -/
theorem completeClass_name {files : ModelFiles} {file : ModelFile} {c : ClassDeclaration} {s : Option String}
    {parent : Option ResolvedClass} {rc : ResolvedClass} (h : completeClass files file c s parent = .ok rc) :
    rc.name = c.name := by
  unfold completeClass at h
  obtain ⟨_, -, h⟩ := bind_eq_ok.1 h
  obtain ⟨own, -, h⟩ := bind_eq_ok.1 h
  obtain ⟨_, -, h⟩ := bind_eq_ok.1 h
  obtain ⟨_, -, h⟩ := bind_eq_ok.1 h
  split at h
  cases h
  rfl

namespace Recorded

variable {files : ModelFiles} {L : List ResolvedClass}

/-- A property named `$timestamp` of a recorded class is the synthetic DateTime field some class
introduced. -/
theorem timestampField (hwf : files.WellFormed) (h : Recorded files L) :
    ∀ rc ∈ L, ∀ p ∈ rc.properties, p.name = Names.timestampField →
      ∃ owner, p = systemProperty Names.timestampField .dateTime owner := by
  refine h.forall_mem fun _ ih hDecl _ hc => ?_
  intro p hp hName
  obtain ⟨illegal, hOwn⟩ := hc.resolved
  rw [hc.properties, List.append_assoc, List.mem_append, List.mem_append] at hp
  rcases hp with hp | hp | hp
  · have hPlain := own_plain hwf hDecl hOwn p hp
    rw [hName, Names.isSystemProperty_timestampField] at hPlain
    cases hPlain
  · exact ⟨_, mem_systemFields_timestampField hp hName⟩
  · obtain ⟨q, hq, hpq⟩ := mem_inheritedFrom hp
    exact ih q (mem_of_parent hq).1 p hpq hName

/-- A recorded transaction or event holds a property named `$timestamp`. -/
theorem mem_timestampField (h : Recorded files L) :
    ∀ rc ∈ L, rc.isTimestamped = true → ∃ p ∈ rc.properties, p.name = Names.timestampField := by
  refine h.forall_mem fun _ _ _ hBuilt hc => ?_
  intro hStamp
  obtain ⟨-, hKind, -⟩ := completeClass_header hBuilt.complete
  rw [ResolvedClass.isTimestamped, hKind] at hStamp
  exact hc.mem_timestampField hStamp

/-- A recorded class is named by its namespace and its name. -/
theorem qualify_ns_name (h : Recorded files L) {rc : ResolvedClass} (hrc : rc ∈ L) :
    Names.qualify rc.ns rc.name = rc.fqn := by
  obtain ⟨file, c, -, hBuilt⟩ := h.classBuilt hrc
  obtain ⟨hNs, -, -⟩ := completeClass_header hBuilt.complete
  rw [hNs, completeClass_name hBuilt.complete, completeClass_fqn hBuilt.complete]
  rfl

end Recorded

/-- What every class a reachable registry resolves owes to its completion: distinct names, it is
named by its namespace and name, its identifier names a required single String property, the
properties named `$identifier` and `$timestamp` are the synthetic fields of the system, and a
transaction or an event has the latter. -/
structure ResolvedClass.Complete (c : ResolvedClass) : Prop where
  wellFormed : c.WellFormed
  qualify : Names.qualify c.ns c.name = c.fqn
  identifier : ∀ n, c.identifier = some n → ∃ p ∈ c.properties, p.name = n ∧
    ∃ field, p.effectiveField? = some field ∧ field.primitive? = some .string ∧ field.isOptional = false ∧
      field.isArray = false
  identifierField : ∀ p ∈ c.properties, p.name = Names.identifierField →
    p.effectiveField? = some (Field.synthetic Names.identifierField (.primitive .string))
  timestampField : ∀ p ∈ c.properties, p.name = Names.timestampField →
    ∃ owner, p = systemProperty Names.timestampField .dateTime owner
  timestamp : c.isTimestamped = true → ∃ p ∈ c.properties, p.name = Names.timestampField

namespace Registry

/-- Every class a reachable registry resolves is complete, under the name asked for. -/
theorem Reachable.resolvedClass_complete {S : Registry} {mode : BuildMode} (hS : Reachable S mode) {fqn : String}
    {c : ResolvedClass} (h : S.resolvedClass fqn = .ok c) : c.Complete ∧ c.fqn = fqn := by
  obtain ⟨hwf, hBuilt⟩ := hS.invariant
  obtain ⟨L, hL, hSub⟩ := build_recorded hwf hBuilt
  obtain ⟨hMem, hFqn⟩ := Registry.resolvedClass_mem h
  have hc : c ∈ L := hSub.subset hMem
  have hIdentifier := @TypeIndex.identifier_property S.files ⟨L, [], []⟩ hwf hL c hc
  exact ⟨⟨hL.wellFormed hwf hc, hL.qualify_ns_name hc, hIdentifier, hL.identifierField hwf c hc,
    hL.timestampField hwf c hc, hL.mem_timestampField c hc⟩, hFqn⟩

end Registry

theorem Resource.contains_set (r : Resource) (n k : String) (v : Value) :
    (r.set n v).contains k = (k == n || r.contains k) := by
  rw [Bool.eq_iff_iff, Resource.contains_eq_true_iff, Resource.get?_set, Bool.or_eq_true, beq_iff_eq,
    Resource.contains_eq_true_iff]
  by_cases hk : k = n <;> simp [hk]

end DomainModels

namespace DomainModels.Wire

open Time

/-! ### Computations of the reader that succeed -/

/-- A loop of the reader that succeeds went through every element of `l` keeping the
invariant, which may depend on the elements done so far. -/
theorem outcome_forIn_inv {α β : Type} (l : List α) (f : α → β → Outcome (ForInStep β))
    (inv : List α → β → Prop)
    (hStep : ∀ done a rest b res, done ++ a :: rest = l → inv done b → f a b = .ok res →
      ∃ b', res = .yield b' ∧ inv (done ++ [a]) b')
    {b out : β} (hInit : inv [] b) (h : forIn l b f = .ok out) : inv l out := by
  suffices ∀ rest done b, done ++ rest = l → inv done b → forIn rest b f = .ok out → inv l out from
    this l [] b rfl hInit h
  intro rest
  induction rest with
  | nil =>
    intro done b hl hInv h
    cases h
    simpa [← hl] using hInv
  | cons a rest ih =>
    intro done b hl hInv h
    rw [List.forIn_cons] at h
    obtain ⟨res, hRes, hRest⟩ := Outcome.bind_eq_ok.1 h
    obtain ⟨b', rfl, hInv'⟩ := hStep done a rest b res hl hInv hRes
    exact ih (done ++ [a]) b' (by simpa using hl) hInv' hRest

/-- A reader's map over a list that succeeds relates each element to its image. -/
theorem outcome_mapM_inv {α β : Type} {g : α → Outcome β} :
    ∀ {l : List α} {out : List β}, l.mapM g = .ok out → List.Forall₂ (fun a b => g a = .ok b) l out
  | [], out, h => by
    cases h
    exact .nil
  | a :: l, out, h => by
    rw [List.mapM_cons] at h
    obtain ⟨b, hb, h⟩ := Outcome.bind_eq_ok.1 h
    obtain ⟨bs, hbs, h⟩ := Outcome.bind_eq_ok.1 h
    cases h
    exact .cons hb (outcome_mapM_inv hbs)

/-- A fold of the reader that succeeds went through every element of `l` keeping the
invariant. -/
theorem outcome_foldlM_inv {α β : Type} (l : List α) (step : β → α → Outcome β) (inv : List α → β → Prop)
    (hStep : ∀ done a rest b b', done ++ a :: rest = l → inv done b → step b a = .ok b' → inv (done ++ [a]) b')
    {b out : β} (hInit : inv [] b) (h : l.foldlM step b = .ok out) : inv l out := by
  suffices ∀ rest done b, done ++ rest = l → inv done b → rest.foldlM step b = .ok out → inv l out from
    this l [] b rfl hInit h
  intro rest
  induction rest with
  | nil =>
    intro done b hl hInv h
    cases h
    simpa [← hl] using hInv
  | cons a rest ih =>
    intro done b hl hInv h
    rw [List.foldlM_cons] at h
    obtain ⟨b', hb', hRest⟩ := Outcome.bind_eq_ok.1 h
    exact ih (done ++ [a]) b' (by simpa using hl) (hStep done a rest b b' hl hInv hb') hRest

/-! ### Primitives -/

/-- The value a JSON value holds for a primitive type, before the field's checks. -/
def primitiveValue? (options : DecodeOptions) : PrimitiveType → Json → Option Value
  | .string, j => j.str?.map Value.string
  | .boolean, j => j.bool?.map Value.boolean
  | .integer, j => (integral? j).map Value.integer
  | .long, j => (integral? j).map Value.long
  | .double, j => j.f64?.map Value.double
  | .dateTime, j => (j.str?.bind fun s => parseDateTime s options.strictQualifiedDateTimes options.utcOffset).map
      Value.dateTime

/-- A primitive is read as the value the JSON holds for its type, which passes the field's checks. -/
theorem decodePrimitive_eq_ok {field : Field} {prim : PrimitiveType} {j : Json} {path : Path} {v : Value}
    (h : decodePrimitive {} field prim j path = .ok v) :
    primitiveValue? {} prim j = some v ∧ checkPrimitive field prim v path = .ok () := by
  unfold decodePrimitive at h
  cases prim <;> simp only [bind, Except.bind, if_true] at h <;> split at h <;> try cases h
  all_goals
    rename_i u hu
    split at h
    · cases h
    · cases h
      exact ⟨hu, ‹_›⟩

/-- A value read for a primitive type has the tag of that type. -/
theorem primitiveValue?_tag {prim : PrimitiveType} {j : Json} {v : Value} (h : primitiveValue? {} prim j = some v)
    (hRange : ∀ i, v = .integer i ∨ v = .long i → Number.i64Min ≤ i ∧ i ≤ Number.i64Max)
    (hExact : ∀ t, v = .dateTime t → t.WireExact) : PrimitiveValue prim v := by
  cases prim <;> obtain ⟨x, -, rfl⟩ := Option.map_eq_some_iff.1 h
  · exact .string x
  · exact .boolean x
  · exact .dateTime (hExact x rfl)
  · exact .double x
  · exact .integer (hRange x (.inl rfl)).1 (hRange x (.inl rfl)).2
  · exact .long (hRange x (.inr rfl)).1 (hRange x (.inr rfl)).2

/-- A text is read as itself, or as a DateTime; no other primitive type reads a text. -/
theorem primitiveValue?_string {prim : PrimitiveType} {k : String} {v : Value}
    (h : primitiveValue? {} prim (.string k) = some v) :
    (prim = .string ∧ v = .string k) ∨ (prim = .dateTime ∧ ∃ t, v = .dateTime t) := by
  cases prim <;> simp [primitiveValue?, Json.str?, Json.bool?, Json.f64?, integral?, Json.i64?] at h
  · exact .inl ⟨rfl, h.symm⟩
  · obtain ⟨t, -, rfl⟩ := h
    exact .inr ⟨rfl, t, rfl⟩

/-- A relationship read from its text has an identifier. -/
theorem Relationship.identifier_ne_of_fromUri {uri ns typeName : String} {rel : Relationship}
    (h : Relationship.fromUri uri ns typeName = .ok rel) : rel.identifier ≠ "" := by
  unfold Relationship.fromUri at h
  split at h
  · split at h
    · cases h
    · next hEmpty =>
      cases h
      simpa [String.isEmpty_iff] using hEmpty
  · cases h
  · split at h
    · cases h
    · split at h
      · cases h
      · dsimp only at h
        split at h
        · split at h
          · cases h
          · next hEmpty =>
            cases h
            simpa [String.isEmpty_iff] using hEmpty
        · cases h

/-! ### One lemma per reader function -/

section Read

variable {f : Factory} {fuel : Nat} {path : Path}

/-- A list is read item by item; anything else as one item. -/
theorem decodeProperty_eq_ok {p : ResolvedProperty} {j : Json} {v : Value}
    (h : decodeProperty f {} (fuel + 1) p j path = .ok v) :
    (p.isArray = false ∧ decodeItem f {} fuel p j path = .ok v) ∨
    (p.isArray = true ∧ ∃ js items, j = .array js ∧ v = .array items ∧
      List.Forall₂ (fun i u => ∃ path', decodeItem f {} fuel p i path' = .ok u) js items) := by
  rw [decodeProperty.eq_def] at h
  dsimp only at h
  by_cases hArr : p.isArray = true
  · rw [if_neg (by simp [hArr])] at h
    split at h
    · next js =>
      obtain ⟨items, hItems, h⟩ := Outcome.bind_eq_ok.1 h
      cases h
      refine .inr ⟨hArr, js, items, rfl, rfl, ?_⟩
      refine (forall₂_of_zipIdx (outcome_mapM_inv hItems)).imp ?_
      rintro i u ⟨n, hRead⟩
      exact ⟨path.index n, hRead⟩
    · cases h
  · rw [if_pos (by simpa using hArr)] at h
    exact .inl ⟨by simpa using hArr, h⟩

/-- An item is read by the kind of its property: a relationship, a primitive, or by the kind
of the declared type, an embedded instance, a declared enumeration value or a map. -/
theorem decodeItem_eq_ok {p : ResolvedProperty} {j : Json} {v : Value}
    (h : decodeItem f {} (fuel + 1) p j path = .ok v) :
    (p.isRelationship = true ∧ decodeRelationship f {} fuel p j path = .ok v) ∨
    (p.isRelationship = false ∧ ∃ field prim, p.effectiveField? = some field ∧ field.primitive? = some prim ∧
      decodePrimitive {} field prim j path = .ok v) ∨
    (p.isRelationship = false ∧ p.primitive? = none ∧ ∃ target, p.targetFqn? = some target ∧
      ((∃ cd fields r, f.registry.getType target = .ok (.cls cd) ∧ j = .object fields ∧ v = .concept r ∧
          decodeNested f {} fuel target fields path = .ok r) ∨
       (∃ e n, f.registry.getType target = .ok (.enum e) ∧ v = .enum n ∧ e.hasValue n = true) ∨
       (∃ md fields, f.registry.getType target = .ok (.map md) ∧ j = .object fields ∧
          decodeMap f {} fuel target fields path = .ok v))) := by
  by_cases hRel : p.isRelationship = true
  · rw [decodeItem_relationship f hRel] at h
    exact .inl ⟨hRel, h⟩
  have hRel' : p.isRelationship = false := by simpa using hRel
  cases hPrim : p.primitive? with
  | some prim =>
    obtain ⟨field, hField, hFieldPrim⟩ := ResolvedProperty.primitive?_eq_some hPrim
    rw [decodeItem_primitive f hRel' hField hFieldPrim] at h
    exact .inr (.inl ⟨hRel', field, prim, hField, hFieldPrim, h⟩)
  | none =>
    refine .inr (.inr ⟨hRel', rfl, ?_⟩)
    rw [decodeItem.eq_def] at h
    dsimp only at h
    rw [if_neg (by simp [hRel'])] at h
    rcases ResolvedProperty.primitive?_eq_none hPrim with hf | ⟨field, hf, hfp⟩
    on_goal 1 => simp only [hf] at h
    on_goal 2 => simp only [hf, hfp] at h
    all_goals
      cases hT : p.targetFqn? with
      | none => simp only [hT] at h; cases h
      | some target =>
        simp only [hT] at h
        refine ⟨target, rfl, ?_⟩
        rw [Outcome.bind_eq_ok] at h
        obtain ⟨d, hType, h⟩ := h
        cases d with
        | cls cd =>
          dsimp only at h
          split at h
          · next fields =>
            obtain ⟨r, hr, rfl⟩ := Outcome.map_eq_ok.1 h
            exact .inl ⟨cd, fields, r, hType, rfl, rfl, hr⟩
          · cases h
        | enum e =>
          dsimp only at h
          split at h
          · next name _ =>
            by_cases hHas : e.hasValue name = true
            · rw [if_neg (by simp [hHas])] at h
              cases h
              exact .inr (.inl ⟨e, name, hType, rfl, hHas⟩)
            · rw [if_pos (by simpa using hHas)] at h
              cases h
          · cases h
        | map md =>
          dsimp only at h
          split at h
          · next fields => exact .inr (.inr ⟨md, fields, hType, rfl, h⟩)
          · cases h
        | scalar sc => cases h

/-- An embedded object is read as an instance of a class assignable to the declared one. -/
theorem decodeNested_eq_ok {declared : String} {fields : List (String × Json)} {r : Resource}
    (h : decodeNested f {} (fuel + 1) declared fields path = .ok r) :
    ∃ runtime, f.registry.index.isAssignable runtime declared = true ∧
      decodeResource f {} fuel runtime fields path = .ok r := by
  rw [decodeNested.eq_def] at h
  dsimp only at h
  obtain ⟨⟨⟩, hAssign, h⟩ := Outcome.bind_eq_ok.1 h
  refine ⟨_, ?_, h⟩
  unfold checkAssignable at hAssign
  split at hAssign
  · assumption
  · cases hAssign

/-- A relationship is read from a text, as a relationship with an identifier to a class
assignable to the declared one. -/
theorem decodeRelationship_eq_ok {p : ResolvedProperty} {j : Json} {v : Value}
    (h : decodeRelationship f {} (fuel + 1) p j path = .ok v) :
    ∃ rel, v = .relationship rel ∧ rel.identifier ≠ "" ∧
      f.registry.index.isAssignable rel.fullyQualifiedType (p.targetFqn?.getD "") = true := by
  rw [decodeRelationship.eq_def] at h
  dsimp only at h
  split at h
  · obtain ⟨rel, hRel, h⟩ := Outcome.bind_eq_ok.1 h
    have hFrom := Outcome.mapError_eq_ok.1 hRel
    by_cases hAssign : f.registry.index.isAssignable rel.fullyQualifiedType (p.targetFqn?.getD "") = true
    · rw [if_neg (by simp [hAssign])] at h
      cases h
      exact ⟨rel, rfl, Relationship.identifier_ne_of_fromUri hFrom, hAssign⟩
    · rw [if_pos (by simpa using hAssign)] at h
      cases h
  · rw [if_neg Bool.false_ne_true] at h
    cases h
  · cases h

/-- A map is read from the fields of an object that are no reserved keys, each key from its
text and each value as an item of the map's value type. -/
theorem decodeMap_eq_ok {target : String} {fields : List (String × Json)} {v : Value}
    (h : decodeMap f {} (fuel + 1) target fields path = .ok v) :
    ∃ m keyField keyPrim pairs entries, f.registry.resolvedMap target = .ok m ∧
      m.key.effectiveField? = some keyField ∧ keyField.primitive? = some keyPrim ∧ v = .map entries ∧
      (∀ o ∈ pairs, Names.isSystemProperty o.1 = false) ∧
      List.Forall₂ (fun (o : String × Json) (e : Value × Value) =>
        decodePrimitive {} keyField keyPrim (.string o.1) (path.field o.1) = .ok e.1 ∧
        decodeItem f {} fuel m.value o.2 (path.field o.1) = .ok e.2) pairs entries := by
  rw [decodeMap.eq_def] at h
  dsimp only at h
  rw [Outcome.bind_eq_ok] at h
  obtain ⟨m, hMap, h⟩ := h
  cases hKey : m.key.effectiveField? with
  | none => simp only [hKey] at h; cases h
  | some keyField =>
  cases hPrim : keyField.primitive? with
  | none => simp only [hKey, hPrim] at h; cases h
  | some keyPrim =>
  simp only [hKey, hPrim] at h
  rw [Outcome.bind_eq_ok] at h
  obtain ⟨entries, hEntries, h⟩ := h
  cases h
  refine ⟨m, keyField, keyPrim, _, entries, hMap, hKey, hPrim, rfl, ?_, (outcome_mapM_inv hEntries).imp ?_⟩
  · rintro ⟨k, j⟩ ho
    simpa using (List.mem_filter.1 ho).2
  rintro ⟨k, j⟩ e hRead
  rw [Outcome.bind_eq_ok] at hRead
  obtain ⟨key, hKeyRead, hRead⟩ := hRead
  rw [Outcome.bind_eq_ok] at hRead
  obtain ⟨value, hValue, hRead⟩ := hRead
  cases hRead
  exact ⟨hKeyRead, hValue⟩

/-- What the reader's loop has made of the factory's instance `r₀` once it has been through
some of the properties of the class: under each key, the value read from the object for a
property of that name, or the factory's value when no property of that name was read. -/
structure ReadInto (f : Factory) (c : ResolvedClass) (fields : List (String × Json)) (fuel : Nat) (path : Path)
    (r₀ : Resource) (done : List ResolvedProperty) (r : Resource) : Prop where
  grows : r₀.Grows r fun _ => True
  keeps : ∀ k, (r₀.get? k).isSome → (r.get? k).isSome
  value : ∀ k v, r.get? k = some v →
    (∃ p ∈ done, p.name = k ∧ c.passesOver k = false ∧ ∃ j, Json.fieldsGet? fields k = some j ∧ j ≠ .null ∧
      decodeProperty f {} fuel p j (path.field k) = .ok v) ∨
    (r₀.get? k = some v ∧ ∀ p ∈ done, p.name = k →
      c.passesOver k = true ∨ Json.fieldsGet? fields k = none ∨ Json.fieldsGet? fields k = some .null)

namespace ReadInto

variable {c : ResolvedClass} {fields : List (String × Json)} {r₀ r : Resource} {done : List ResolvedProperty}

theorem nil (r₀ : Resource) : ReadInto f c fields fuel path r₀ [] r₀ :=
  ⟨Resource.Grows.refl r₀ _, fun _ h => h, fun _ _ h => .inr ⟨h, by simp⟩⟩

/-- A property passed over, or absent or `null` in the object, changes nothing. -/
theorem skip (hr : ReadInto f c fields fuel path r₀ done r) {p : ResolvedProperty}
    (hSkip : c.passesOver p.name = true ∨ Json.fieldsGet? fields p.name = none ∨
      Json.fieldsGet? fields p.name = some .null) :
    ReadInto f c fields fuel path r₀ (done ++ [p]) r where
  grows := hr.grows
  keeps := hr.keeps
  value k v hv := by
    rcases hr.value k v hv with ⟨q, hq, hqk, hRest⟩ | ⟨h₀, hUntouched⟩
    · exact .inl ⟨q, List.mem_append_left _ hq, hqk, hRest⟩
    · exact .inr ⟨h₀, List.forall_mem_append.2 ⟨hUntouched, List.forall_mem_singleton.2 fun hqk => hqk ▸ hSkip⟩⟩

/-- A property read from its field takes the value read. -/
theorem read (hr : ReadInto f c fields fuel path r₀ done r) {p : ResolvedProperty}
    (hSkip : c.passesOver p.name = false) {j : Json} (hj : Json.fieldsGet? fields p.name = some j)
    (hNull : j ≠ .null) {v : Value} (hv : decodeProperty f {} fuel p j (path.field p.name) = .ok v) :
    ReadInto f c fields fuel path r₀ (done ++ [p]) (r.set p.name v) where
  grows := hr.grows.set trivial v
  keeps k hk := by
    rw [Resource.get?_set]
    split
    · rfl
    · exact hr.keeps k hk
  value k w hw := by
    rw [Resource.get?_set] at hw
    by_cases hk : k = p.name
    · rw [if_pos hk] at hw
      cases hw
      subst hk
      exact .inl ⟨p, by simp, rfl, hSkip, j, hj, hNull, hv⟩
    · rw [if_neg hk] at hw
      rcases hr.value k w hw with ⟨q, hq, hqk, hRest⟩ | ⟨h₀, hUntouched⟩
      · exact .inl ⟨q, List.mem_append_left _ hq, hqk, hRest⟩
      · exact .inr ⟨h₀, List.forall_mem_append.2 ⟨hUntouched,
          List.forall_mem_singleton.2 fun hqk => absurd hqk.symm hk⟩⟩

end ReadInto

/-- An instance is read by the class found under the name asked for, which is not abstract and
whose key check the object passes: the factory makes it, with the identifier the object gives
under the identifying field, the properties are read into it from the fields that are neither
absent nor `null`, and the instance read passes the completeness check. -/
theorem decodeResource_eq_ok {fqn : String} {fields : List (String × Json)} {r : Resource}
    (h : decodeResource f {} (fuel + 1) fqn fields path = .ok r) :
    ∃ c r₀, f.registry.resolvedClass fqn = .ok c ∧ c.isAbstract = false ∧ checkKeys c fields path = .ok () ∧
      (∀ k, c.identifier = some k →
        f.newResource c.ns c.name (((Json.fieldsGet? fields k).bind Json.str?).getD "") = .ok r₀) ∧
      (c.identifier = none → f.newConcept c.ns c.name = .ok r₀) ∧
      ReadInto f c fields fuel path r₀ c.properties r ∧ checkComplete c fqn r path = .ok () := by
  rw [decodeResource.eq_def] at h
  dsimp only at h
  rw [Outcome.bind_eq_ok] at h
  obtain ⟨c, hClass, h⟩ := h
  by_cases hAbs : c.isAbstract = true
  · rw [if_pos hAbs] at h
    cases h
  rw [if_neg hAbs, Outcome.bind_eq_ok] at h
  obtain ⟨⟨⟩, hKeys, h⟩ := h
  split at h
  all_goals
    rw [Outcome.bind_eq_ok] at h
    obtain ⟨r₀, hNew, h⟩ := h
    rw [Outcome.bind_eq_ok] at h
    obtain ⟨r', hLoop, h⟩ := h
    rw [if_pos rfl, Outcome.bind_eq_ok] at h
    obtain ⟨⟨⟩, hComplete, h⟩ := h
    cases h
    refine ⟨c, r₀, hClass, Bool.eq_false_iff.2 hAbs, hKeys, ?_, ?_,
      outcome_forIn_inv c.properties _ (ReadInto f c fields fuel path r₀) ?_ (ReadInto.nil r₀) hLoop, hComplete⟩
    rotate_left 2
    intro done p rest s res _ hs hRes
    split at hRes
    · next hSkip =>
      cases hRes
      exact ⟨s, rfl, hs.skip (.inl hSkip)⟩
    · next hKeep =>
      split at hRes
      · next hNone =>
        cases hRes
        exact ⟨s, rfl, hs.skip (.inr (.inl hNone))⟩
      · next hNull =>
        cases hRes
        exact ⟨s, rfl, hs.skip (.inr (.inr hNull))⟩
      · next _ j hNotNull hj =>
        obtain ⟨v, hv, hRes⟩ := Outcome.bind_eq_ok.1 hRes
        cases hRes
        exact ⟨_, rfl, hs.read (Bool.eq_false_iff.2 hKeep) hj hNotNull hv⟩
  · rename_i k hId
    intro k' hk'
    rw [hId] at hk'
    cases hk'
    exact hNew
  · rename_i k hId
    intro hn
    rw [hId] at hn
    cases hn
  · rename_i hId
    intro k' hk'
    rw [hId] at hk'
    cases hk'
  · intro _
    exact hNew

end Read

end DomainModels.Wire

namespace DomainModels.Factory

open Wire

variable {f : Factory} {c : ResolvedClass}

/-- The instance made from an empty one with the defaults of a class and its timestamp: it keeps
the namespace, type and identifying field; every declared default reads and stands under its
property's name, the timestamp under `$timestamp` on a transaction or event; and under each key
stands a default of a property of that name or the time of making. -/
theorem withDefaults_eq_ok {r r₁ : Resource} (h : f.withDefaults c r = .ok r₁) (hEmpty : ∀ k, r.get? k = none) :
    r.Grows r₁ (fun _ => True) ∧
      (∀ p ∈ c.properties, ∃ d, defaultValue p = .ok d ∧ ∀ v, d = some v → r₁.contains p.name = true) ∧
      (c.isTimestamped = true → r₁.contains Names.timestampField = true) ∧
      ∀ k v, r₁.get? k = some v → (∃ p ∈ c.properties, p.name = k ∧ defaultValue p = .ok (some v)) ∨
        (c.isTimestamped = true ∧ k = Names.timestampField ∧ v = .dateTime f.now) := by
  unfold withDefaults at h
  rw [Outcome.bind_eq_ok] at h
  obtain ⟨r₂, hFold, h⟩ := h
  cases h
  obtain ⟨hGrows, hDefaults, hValues⟩ := outcome_foldlM_inv c.properties _
    (fun done r' => r.Grows r' (fun _ => True) ∧
      (∀ p ∈ done, ∃ d, defaultValue p = .ok d ∧ ∀ v, d = some v → r'.contains p.name = true) ∧
      ∀ k v, r'.get? k = some v → ∃ p ∈ done, p.name = k ∧ defaultValue p = .ok (some v))
    (by
      intro done p rest r' r'' _ ⟨hGrows, hDefaults, hValues⟩ hStep
      rw [Outcome.bind_eq_ok] at hStep
      obtain ⟨d, hd, hStep⟩ := hStep
      cases d with
      | none =>
        cases hStep
        refine ⟨hGrows, List.forall_mem_append.2 ⟨hDefaults, List.forall_mem_singleton.2
          ⟨none, hd, fun _ h => by cases h⟩⟩, fun k v hv => ?_⟩
        obtain ⟨q, hq, hqk, hqv⟩ := hValues k v hv
        exact ⟨q, List.mem_append_left _ hq, hqk, hqv⟩
      | some v =>
        cases hStep
        refine ⟨hGrows.set trivial v, List.forall_mem_append.2 ⟨fun q hq => ?_, List.forall_mem_singleton.2
          ⟨some v, hd, fun _ _ => by rw [Resource.contains_set, beq_self_eq_true, Bool.true_or]⟩⟩, fun k w hw => ?_⟩
        · obtain ⟨d', hd', hIn⟩ := hDefaults q hq
          exact ⟨d', hd', fun w hw => by rw [Resource.contains_set, hIn w hw, Bool.or_true]⟩
        · rw [Resource.get?_set] at hw
          split at hw
          · next hk =>
            cases hw
            exact ⟨p, by simp, hk.symm, hd⟩
          · obtain ⟨q, hq, hqk, hqv⟩ := hValues k w hw
            exact ⟨q, List.mem_append_left _ hq, hqk, hqv⟩)
    ⟨Resource.Grows.refl r _, by simp, fun k v hv => by rw [hEmpty k] at hv; cases hv⟩ hFold
  by_cases hStamp : c.isTimestamped = true
  · rw [if_pos hStamp]
    refine ⟨hGrows.set trivial _, fun p hp => ?_,
      fun _ => by rw [Resource.contains_set, beq_self_eq_true, Bool.true_or], fun k v hv => ?_⟩
    · obtain ⟨d, hd, hIn⟩ := hDefaults p hp
      exact ⟨d, hd, fun w hw => by rw [Resource.contains_set, hIn w hw, Bool.or_true]⟩
    · rw [Resource.get?_set] at hv
      split at hv
      · next hk =>
        cases hv
        exact .inr ⟨hStamp, hk, rfl⟩
      · exact .inl (hValues k v hv)
  · rw [if_neg hStamp]
    exact ⟨hGrows, hDefaults, fun h => absurd h hStamp, fun k v hv => .inl (hValues k v hv)⟩

/-- What the factory's new instance of a class holds, given the identifier it was made with: the
class's namespace, name and identifying field, values sorted by name, every declared default of
the class (each of which reads), the timestamp of a transaction or an event, and under each key a
default of a property of that name, the identifier, or the time of making. -/
structure Made (f : Factory) (c : ResolvedClass) (id : String) (r : Resource) : Prop where
  ns : r.ns = c.ns
  typeName : r.typeName = c.name
  identifierField : r.identifierField = c.identifier
  sorted : SortedByName r.values
  defaults : ∀ p ∈ c.properties, ∃ d, defaultValue p = .ok d ∧ ∀ v, d = some v → r.contains p.name = true
  timestamp : c.isTimestamped = true → r.contains Names.timestampField = true
  value : ∀ k v, r.get? k = some v → (∃ p ∈ c.properties, p.name = k ∧ defaultValue p = .ok (some v)) ∨
    (c.identifier = some k ∧ v = .string id) ∨
    (c.isTimestamped = true ∧ k = Names.timestampField ∧ v = .dateTime f.now)

/-- A new instance of an identified class, made under its own namespace and name. -/
theorem newResource_made {id : String} {r : Resource} (h : f.newResource c.ns c.name id = .ok r)
    (hc : f.registry.resolvedClass (Names.qualify c.ns c.name) = .ok c) : Made f c id r := by
  unfold newResource instantiable at h
  rw [Outcome.bind_eq_ok] at h
  obtain ⟨c', hc', h⟩ := h
  rw [Outcome.bind_eq_ok, hc] at hc'
  obtain ⟨c'', hc'', hc'⟩ := hc'
  cases hc''
  split at hc'
  · cases hc'
  cases hc'
  split at h
  · cases h
  rw [Outcome.bind_eq_ok] at h
  obtain ⟨r₁, hr₁, h⟩ := h
  obtain ⟨hGrows, hDefaults, hStamp, hValues⟩ := withDefaults_eq_ok hr₁ (fun k => rfl)
  have hField : r₁.identifierField = c.identifier := by rw [hGrows.identifierField]; rfl
  unfold Resource.setIdentifier at h
  split at h
  · next field hf =>
    cases h
    refine ⟨hGrows.ns, hGrows.typeName, hField, Resource.sortedByName_set (hGrows.sorted List.Pairwise.nil)
      _ _, fun p hp => ?_, fun hs => ?_, fun k v hv => ?_⟩
    · obtain ⟨d, hd, hIn⟩ := hDefaults p hp
      exact ⟨d, hd, fun w hw => by rw [Resource.contains_set, hIn w hw, Bool.or_true]⟩
    · rw [Resource.contains_set, hStamp hs, Bool.or_true]
    · rw [Resource.get?_set] at hv
      split at hv
      · next hk =>
        cases hv
        exact .inr (.inl ⟨by rw [← hField, hf, hk], rfl⟩)
      · rcases hValues k v hv with hDefault | hTime
        · exact .inl hDefault
        · exact .inr (.inr hTime)
  · cases h

/-- A new instance of a class without identifier, made under its own namespace and name. -/
theorem newConcept_made {id : String} {r : Resource} (h : f.newConcept c.ns c.name = .ok r)
    (hc : f.registry.resolvedClass (Names.qualify c.ns c.name) = .ok c) : Made f c id r := by
  unfold newConcept instantiable at h
  rw [Outcome.bind_eq_ok] at h
  obtain ⟨c', hc', h⟩ := h
  rw [Outcome.bind_eq_ok, hc] at hc'
  obtain ⟨c'', hc'', hc'⟩ := hc'
  cases hc''
  split at hc'
  · cases hc'
  cases hc'
  split at h
  · cases h
  next hNotId =>
  obtain ⟨hGrows, hDefaults, hStamp, hValues⟩ := withDefaults_eq_ok h (fun k => rfl)
  have hNone : c.identifier = none := by simpa [ResolvedClass.isIdentified] using hNotId
  refine ⟨hGrows.ns, hGrows.typeName, by rw [hGrows.identifierField, hNone]; rfl,
    hGrows.sorted List.Pairwise.nil, hDefaults, hStamp, fun k v hv => ?_⟩
  rcases hValues k v hv with hDefault | hTime
  · exact .inl hDefault
  · exact .inr (.inr hTime)

end DomainModels.Factory
