import Mathlib
import DomainModels.Proofs.Wire.Reader
import DomainModels.Proofs.Wire.KeyOrder
import DomainModels.Proofs.Graph.PropertyOrder
import DomainModels.Proofs.Registry.Undo
/-! In a reachable registry a canonical instance that the validating writer accepts reads back as
itself with every DateTime in UTC (`canonical_instances_read_back`). -/

namespace DomainModels.Registry

/-- Every class a reachable registry resolves is well formed. -/
theorem Reachable.resolvedClass_wellFormed {S : Registry} {mode : BuildMode} (hS : Reachable S mode) {fqn : String}
    {c : ResolvedClass} (h : S.resolvedClass fqn = .ok c) : c.WellFormed := by
  obtain ⟨hwf, hBuilt⟩ := hS.invariant
  obtain ⟨L, hL, hSub⟩ := build_recorded hwf hBuilt
  exact hL.wellFormed hwf (hSub.subset (Registry.resolvedClass_mem h).1)

end DomainModels.Registry

namespace DomainModels.Wire

open Time

/-! ### What the writer puts on the wire -/

section Primitive

variable {field : Field} {prim : PrimitiveType} {v : Value} {path : Path} {j : Json}

/-- A primitive is never written as `null`. -/
theorem encodePrimitive_ne_null (h : encodePrimitive {} field prim v path = .ok j) : j ≠ .null := by
  obtain ⟨u, hCheck, hj⟩ := Outcome.bind_eq_ok.mp h
  cases v with
  | string s | enum s | boolean b | dateTime d =>
    simp only at hj
    cases hj
    simp
  | integer i | long i =>
    simp only at hj
    cases hj
    simp [Json.ofInt]
  | double f =>
    simp only at hj
    split at hj <;> cases hj
    simp [Json.ofFloat]
  | array _ | map _ | concept _ | relationship _ => cases hj

/-- Enumeration values, embedded instances, maps and relationships fail every primitive
check, so none of them is written as a primitive. -/
theorem encodePrimitive_not_composite (h : encodePrimitive {} field prim v path = .ok j) :
    (∀ n, v ≠ .enum n) ∧ (∀ r, v ≠ .concept r) ∧ (∀ es, v ≠ .map es) ∧ (∀ rel, v ≠ .relationship rel) := by
  obtain ⟨u, hCheck, hj⟩ := Outcome.bind_eq_ok.mp h
  refine ⟨?_, ?_, ?_, ?_⟩ <;> rintro _ rfl <;> cases prim <;> simp [checkPrimitive] at hCheck

/-- A primitive written as a text is a text under a text field, or a DateTime written in UTC. -/
theorem encodePrimitive_eq_string {t : String} (h : encodePrimitive {} field prim v path = .ok (.string t)) :
    (prim = .string ∧ v = .string t) ∨ ∃ d, prim = .dateTime ∧ v = .dateTime d ∧ t = formatDateTime d 0 := by
  obtain ⟨u, hCheck, hj⟩ := Outcome.bind_eq_ok.mp h
  cases v with
  | string s =>
    obtain rfl : s = t := Json.string.inj (Except.ok.inj hj)
    cases prim <;> simp [checkPrimitive] at hCheck ⊢
  | dateTime d =>
    obtain rfl : formatDateTime d 0 = t := Json.string.inj (Except.ok.inj hj)
    cases prim <;> simp [checkPrimitive] at hCheck ⊢
  | enum s => cases prim <;> simp [checkPrimitive] at hCheck
  | boolean b | integer i | long i | array _ | map _ | concept _ | relationship _ => cases hj
  | double f =>
    simp only at hj
    split at hj <;> cases hj

end Primitive

/-- A DateTime written in UTC starts with its four-digit year, so its text is no reserved key. -/
theorem isSystemProperty_formatDateTime {t : DateTime} (hExact : t.WireExact) :
    Names.isSystemProperty (formatDateTime t 0) = false := by
  have hy : (Civil.ofSeconds t.seconds).year.toNat < 10 ^ 4 := by
    have := hExact.year_le
    omega
  rw [DateTime.formatDateTime_zero hExact.year_nonneg hExact.year_le, utcText_eq]
  generalize (Civil.ofSeconds t.seconds).year.toNat = y at hy ⊢
  obtain ⟨c, rest, hc⟩ : ∃ c rest, (padded 4 y).toList = c :: rest := by
    cases h : (padded 4 y).toList with
    | nil => have := length_padded (by decide) hy; rw [h] at this; cases this
    | cons c rest => exact ⟨c, rest, rfl⟩
  have hDigit : isAsciiDigit c = true := isAsciiDigit_of_mem_padded (by rw [hc]; exact List.mem_cons_self)
  cases hSys : Names.isSystemProperty _ with
  | false => rfl
  | true =>
    rw [Names.isSystemProperty_iff, String.toList_ofList, toList_fieldsText, hc] at hSys
    simp only [List.cons_append, List.head?_cons, Option.some.injEq] at hSys
    rw [hSys] at hDigit
    cases hDigit

/-- Fields with distinct keys, inserted one after another, stand in the order given. -/
theorem foldl_fieldsInsert_of_nodup : ∀ (pairs acc : List (String × Json)), ((acc ++ pairs).map (·.1)).Nodup →
    pairs.foldl (fun out (o : String × Json) => Json.fieldsInsert out o.1 o.2) acc = acc ++ pairs
  | [], acc, _ => by simp
  | o :: rest, acc, h => by
    have hFresh : o.1 ∉ acc.map (·.1) := by
      rw [List.map_append, List.map_cons, List.nodup_append] at h
      exact fun hm => h.2.2 _ hm _ List.mem_cons_self rfl
    rw [List.foldl_cons, fieldsInsert_of_not_mem hFresh,
      foldl_fieldsInsert_of_nodup rest (acc ++ [o]) (by simpa using h)]
    simp

/-- What a pairwise relation says of the right-hand elements holds of each of them. -/
theorem forall_mem_of_forall₂ {α β : Type} {R : α → β → Prop} {P : β → Prop} (h : ∀ a b, R a b → P b) :
    ∀ {l : List α} {u : List β}, List.Forall₂ R l u → ∀ b ∈ u, P b
  | _, _, .nil => by simp
  | _, _, .cons hab hRest => by
    intro b hb
    rcases List.mem_cons.mp hb with rfl | hb
    · exact h _ _ hab
    · exact forall_mem_of_forall₂ h hRest b hb

variable {registry : Registry}

/-- The value of each property of a canonical instance is canonical for that property. -/
theorem CanonicalResource.property {r : Resource} {c : ResolvedClass} (hr : CanonicalResource registry r)
    (hClass : registry.resolvedClass r.fullyQualifiedType = .ok c) {p : ResolvedProperty} (hp : p ∈ c.properties)
    {v : Value} (hv : r.get? p.name = some v) : CanonicalProperty registry p v := by
  obtain ⟨hClass', -, -, -, -, -, -, -, -, hValues⟩ := hr
  rw [hClass] at hClass'
  cases hClass'
  exact hValues p hp v hv

/-! ### Reading back, one writer function at a time

Each statement says what the reader makes of the JSON one writer function gives at a fuel,
for a canonical value: the value shown in UTC, at any reader fuel above four times the size
of the JSON, plus a constant that grows by one from map to item to property. -/

section ReadsBack

variable (registry) (now : Time.DateTime)

/-- An instance written at this fuel is an object naming its class, which is assignable to
the declared type, and the object reads back as the instance. -/
def ResourceReadsBack (fuel : Nat) : Prop :=
  ∀ r declared path s s' j, CanonicalResource registry r →
    (encodeResource registry {} fuel r declared path).run s = .ok (j, s') →
    ∃ out, j = .object out ∧ Json.fieldsGet? out Names.classKey = some (.string r.fullyQualifiedType) ∧
      (∀ d, declared = some d → registry.index.isAssignable r.fullyQualifiedType d = true) ∧
      ∀ m, 4 * jsonSize j + 1 ≤ m → ∀ path',
        decodeResource ⟨registry, now⟩ {} m r.fullyQualifiedType out path' = .ok r.atUtc

/-- The value of a property written at this fuel is not `null` and reads back. -/
def PropertyReadsBack (fuel : Nat) : Prop :=
  ∀ p v path s s' j, CanonicalProperty registry p v →
    (encodeProperty registry {} fuel p v path).run s = .ok (j, s') →
    j ≠ .null ∧ ∀ m, 4 * jsonSize j + 4 ≤ m → ∀ path', decodeProperty ⟨registry, now⟩ {} m p j path' = .ok v.atUtc

/-- An item written at this fuel is not `null` and reads back. -/
def ItemReadsBack (fuel : Nat) : Prop :=
  ∀ p v path s s' j, CanonicalItem registry p v →
    (encodeItem registry {} fuel p v path).run s = .ok (j, s') →
    j ≠ .null ∧ ∀ m, 4 * jsonSize j + 3 ≤ m → ∀ path', decodeItem ⟨registry, now⟩ {} m p j path' = .ok v.atUtc

/-- The entries of a map written at this fuel are an object that reads back as the map. -/
def MapReadsBack (fuel : Nat) : Prop :=
  ∀ p target entries path s s' j, CanonicalItem registry p (.map entries) → p.targetFqn? = some target →
    (encodeMap registry {} fuel target entries path).run s = .ok (j, s') →
    ∃ fields, j = .object fields ∧ ∀ m, 4 * jsonSize j + 2 ≤ m → ∀ path',
      decodeMap ⟨registry, now⟩ {} m target fields path' = .ok (Value.map entries).atUtc

variable {registry now} {fuel : Nat}

theorem resourceReadsBack_succ (hWF : ∀ fqn c, registry.resolvedClass fqn = .ok c → c.WellFormed)
    (ih : PropertyReadsBack registry now fuel) : ResourceReadsBack registry now (fuel + 1) := by
  intro r declared path s s' j hr h
  obtain ⟨c, out, hClass, hCheck, rfl, hWritten⟩ := encodeResource_ok registry h
  have hc := hWF _ _ hClass
  have hw := hWritten hc
  obtain ⟨-, hAssign, -⟩ := checkInstance_ok registry hCheck
  refine ⟨out, rfl, hw.classKey, hAssign, fun m hm path' => ?_⟩
  obtain ⟨k, rfl⟩ : ∃ k, m = k + 1 := ⟨m - 1, by omega⟩
  refine decodeResource_written now hr hClass hc hCheck hw fun p hp hSkip v jp hv hjp => ?_
  obtain ⟨jp', hjp', s₁, s₂, hEnc⟩ := hw.value p hp hSkip v hv
  rw [hjp] at hjp'
  cases hjp'
  obtain ⟨hNull, hDecode⟩ := ih p v _ s₁ s₂ jp (hr.property hClass hp hv) hEnc
  have hSize := jsonSize_le_fieldSizes (mem_of_fieldsGet? hjp)
  simp only [jsonSize] at hm
  exact ⟨hNull, hDecode k (by omega)⟩

theorem propertyReadsBack_succ (ih : ItemReadsBack registry now fuel) : PropertyReadsBack registry now (fuel + 1) := by
  intro p v path s s' j hv h
  rcases encodeProperty_ok h with ⟨hArr, hItem⟩ | ⟨hArr, items, encoded, rfl, rfl, hItems⟩
  · have hvi : CanonicalItem registry p v := by
      cases hv with
      | single _ hvi => exact hvi
      | array hA _ => rw [hArr] at hA; cases hA
    obtain ⟨hNull, hDecode⟩ := ih p v path s s' j hvi hItem
    refine ⟨hNull, fun m hm path' => ?_⟩
    obtain ⟨k, rfl⟩ : ∃ k, m = k + 1 := ⟨m - 1, by omega⟩
    rw [decodeProperty_single _ hArr]
    exact hDecode k (by omega) path'
  · have hvi : ∀ v ∈ items, CanonicalItem registry p v := by
      cases hv with
      | single hS _ => rw [hArr] at hS; cases hS
      | array _ hvi => exact hvi
    refine ⟨by simp, fun m hm path' => ?_⟩
    obtain ⟨k, rfl⟩ : ∃ k, m = k + 1 := ⟨m - 1, by omega⟩
    obtain ⟨hLen, hZip⟩ := List.forall₂_iff_zip.mp hItems
    rw [Value.atUtc_array]
    refine decodeProperty_array _ hArr (List.forall₂_map_left_iff.mpr (List.forall₂_iff_zip.mpr ⟨hLen, ?_⟩))
    intro item enc hMem
    obtain ⟨hItem, hEnc⟩ := List.of_mem_zip hMem
    obtain ⟨path₁, s₁, s₂, hRun⟩ := hZip hMem
    have hSize := jsonSize_le_sizes hEnc
    simp only [jsonSize] at hm
    exact (ih p item path₁ s₁ s₂ enc (hvi item hItem) hRun).2 k (by omega)

/-- A property of a primitive type has a field of that type. -/
theorem ResolvedProperty.primitive?_eq_some {p : ResolvedProperty} {prim : PrimitiveType} (h : p.primitive? = some prim) :
    ∃ field, p.effectiveField? = some field ∧ field.primitive? = some prim := by
  rw [ResolvedProperty.primitive?] at h
  cases hf : p.effectiveField? with
  | none => rw [hf] at h; cases h
  | some field => rw [hf, Option.bind_some] at h; exact ⟨field, rfl, h⟩

/-- A property with a field of a primitive type gives no canonical item of another kind. -/
theorem CanonicalItem.primitive_of_field {p : ResolvedProperty} {v : Value} {field : Field} {prim : PrimitiveType}
    (hv : CanonicalItem registry p v) (hField : p.effectiveField? = some field) (hPrim : field.primitive? = some prim)
    {path : Path} {j : Json} (hEnc : encodePrimitive {} field prim v path = .ok j) : PrimitiveValue prim v := by
  obtain ⟨hEnum, hConcept, hMap, hRel⟩ := encodePrimitive_not_composite hEnc
  cases hv with
  | primitive hField' hPrim' hpv =>
    rw [hField] at hField'
    cases hField'
    rw [hPrim] at hPrim'
    cases hPrim'
    exact hpv
  | relationship => exact absurd rfl (hRel _)
  | resource => exact absurd rfl (hConcept _)
  | enum => exact absurd rfl (hEnum _)
  | map => exact absurd rfl (hMap _)

/-- A property with no primitive type has no canonical primitive items. -/
theorem CanonicalItem.not_primitive {p : ResolvedProperty} {v : Value} (hv : CanonicalItem registry p v)
    (hPrim : p.primitive? = none) :
    (∀ rel, v = .relationship rel → rel.Canonical) ∧ (∀ r, v = .concept r → CanonicalResource registry r) ∧
      (∀ n, v ≠ .string n) := by
  cases hv with
  | primitive hField hFieldPrim hpv =>
    rw [ResolvedProperty.primitive?, hField, Option.bind_some, hFieldPrim] at hPrim
    cases hPrim
  | relationship hRel =>
    refine ⟨fun _ h => ?_, fun _ h => ?_, fun _ h => ?_⟩ <;> cases h
    exact hRel
  | resource hr =>
    refine ⟨fun _ h => ?_, fun _ h => ?_, fun _ h => ?_⟩ <;> cases h
    exact hr
  | enum | map => refine ⟨fun _ h => ?_, fun _ h => ?_, fun _ h => ?_⟩ <;> cases h

theorem itemReadsBack_succ (hRes : ResourceReadsBack registry now fuel) (hMap : MapReadsBack registry now fuel) :
    ItemReadsBack registry now (fuel + 1) := by
  intro p v path s s' j hv h
  by_cases hRel : p.isRelationship = true
  · rw [encodeItem_relationship hRel] at h
    cases fuel with
    | zero => cases h
    | succ fuel =>
      obtain ⟨rel, rfl, hAssign, rfl, -⟩ := encodeRelationship_ok h
      have hCanon : rel.Canonical := by
        cases hv with
        | relationship hCanon => exact hCanon
        | primitive _ _ hpv => cases hpv
      refine ⟨by simp, fun m hm path' => ?_⟩
      obtain ⟨k, rfl⟩ : ∃ k, m = k + 2 := ⟨m - 2, by simp only [jsonSize] at hm; omega⟩
      rw [decodeItem_relationship _ hRel, decodeRelationship_ok _ hCanon hAssign]
      rfl
  have hRel' : p.isRelationship = false := by simpa using hRel
  cases hPrim : p.primitive? with
  | some prim =>
    obtain ⟨field, hField, hFieldPrim⟩ := ResolvedProperty.primitive?_eq_some hPrim
    rw [encodeItem_primitive hRel' hField hFieldPrim, writing_lift_eq_ok] at h
    obtain ⟨hEnc, -⟩ := h
    refine ⟨encodePrimitive_ne_null hEnc, fun m hm path' => ?_⟩
    obtain ⟨k, rfl⟩ : ∃ k, m = k + 1 := ⟨m - 1, by omega⟩
    rw [decodeItem_primitive _ hRel' hField hFieldPrim]
    exact decodePrimitive_encodePrimitive (hv.primitive_of_field hField hFieldPrim hEnc) hEnc path'
  | none =>
    obtain ⟨hRelCanon, hResCanon, hNotText⟩ := hv.not_primitive hPrim
    obtain ⟨target, hTarget, hCases⟩ := encodeItem_declared_ok hRel' hPrim h
    rcases hCases with ⟨cd, r, hType, rfl, hEnc⟩ | ⟨e, n, hType, hn, hHas, rfl, rfl⟩ |
      ⟨md, entries, hType, rfl, hEnc⟩
    · obtain ⟨out, rfl, hClassKey, hAssign, hDecode⟩ := hRes r _ path s s' _ (hResCanon r rfl) hEnc
      refine ⟨by simp, fun m hm path' => ?_⟩
      obtain ⟨k, rfl⟩ : ∃ k, m = k + 2 := ⟨m - 2, by omega⟩
      rw [decodeItem_class _ hRel' hPrim hTarget hType, decodeNested_ok _ hClassKey (hAssign target rfl),
        hDecode k (by omega) path']
      rfl
    · obtain rfl : v = .enum n := hn.resolve_right (hNotText n)
      refine ⟨by simp, fun m hm path' => ?_⟩
      obtain ⟨k, rfl⟩ : ∃ k, m = k + 1 := ⟨m - 1, by omega⟩
      rw [decodeItem_enum _ hRel' hPrim hTarget hType hHas]
      rfl
    · obtain ⟨fields, rfl, hDecode⟩ := hMap p target entries path s s' _ hv hTarget hEnc
      refine ⟨by simp, fun m hm path' => ?_⟩
      obtain ⟨k, rfl⟩ : ∃ k, m = k + 1 := ⟨m - 1, by omega⟩
      rw [decodeItem_map _ hRel' hPrim hTarget hType]
      exact hDecode k (by omega) path'

theorem mapReadsBack_succ (ih : ItemReadsBack registry now fuel) : MapReadsBack registry now (fuel + 1) := by
  intro p target entries path s s' j hv hTarget h
  obtain ⟨m, keyField, keyPrim, pairs, hMap, hKey, hPrim, rfl, hPairs⟩ := encodeMap_ok h
  obtain ⟨hExact, hDistinct, hKeys, hValues⟩ : (∀ e ∈ entries, ∀ t, e.1 = .dateTime t → t.WireExact) ∧
      (entries.map fun e => e.1.atUtc).Nodup ∧
      (∀ e ∈ entries, ∀ s, e.1 = .string s → Names.isSystemProperty s = false) ∧
      ∀ e ∈ entries, CanonicalItem registry m.value e.2 := by
    cases hv with
    | map hExact hDistinct hKeys hValues => exact ⟨hExact, hDistinct, hKeys, hValues target m hTarget hMap⟩
    | primitive _ _ hpv => cases hpv
  have hKeyBack : List.Forall₂ (fun e (o : String × Json) =>
      (∀ path', decodePrimitive {} keyField keyPrim (.string o.1) path' = .ok e.1.atUtc) ∧
        Names.isSystemProperty o.1 = false) entries pairs := by
    refine ((List.forall₂_and_left _ _).mpr ⟨fun e he => he, hPairs⟩).imp fun e o hWritten => ?_
    obtain ⟨he, hText, -⟩ := hWritten
    rcases encodePrimitive_eq_string hText with ⟨rfl, hs⟩ | ⟨d, rfl, hd, ht⟩
    · exact ⟨decodePrimitive_encodePrimitive (hs ▸ .string o.1) hText, hKeys e he _ hs⟩
    · have hdx := hExact e he d hd
      exact ⟨decodePrimitive_encodePrimitive (hd ▸ .dateTime hdx) hText, ht ▸ isSystemProperty_formatDateTime hdx⟩
  have hNodup : (pairs.map (·.1)).Nodup := by
    have hSame : entries.map (fun e => (Except.ok e.1.atUtc : Outcome Value)) =
        (pairs.map (·.1)).map fun t => decodePrimitive {} keyField keyPrim (.string t) Path.root := by
      rw [List.map_map, ← List.forall₂_eq_eq_eq, List.forall₂_map_left_iff, List.forall₂_map_right_iff]
      exact hKeyBack.imp fun e o h => (h.1 Path.root).symm
    have hOk : (entries.map fun e => (Except.ok e.1.atUtc : Outcome Value)).Nodup := by
      have hComp : (entries.map fun e => (Except.ok e.1.atUtc : Outcome Value)) =
          (entries.map fun e => e.1.atUtc).map Except.ok := by
        rw [List.map_map]
        rfl
      rw [hComp]
      exact hDistinct.map fun _ _ h => Except.ok.inj h
    rw [hSame] at hOk
    exact hOk.of_map _
  have hFold := foldl_fieldsInsert_of_nodup pairs [] (by simpa using hNodup)
  rw [List.nil_append] at hFold
  refine ⟨pairs, by rw [hFold], fun k hk path' => ?_⟩
  rw [hFold] at hk
  obtain ⟨k, rfl⟩ : ∃ k', k = k' + 1 := ⟨k - 1, by omega⟩
  rw [Value.atUtc_map]
  refine decodeMap_ok _ hMap hKey hPrim (forall_mem_of_forall₂ (fun _ _ h => h.2) hKeyBack)
    (List.forall₂_map_left_iff.mpr ?_)
  obtain ⟨hLen, hZip⟩ := List.forall₂_iff_zip.mp hPairs
  refine List.forall₂_iff_zip.mpr ⟨hLen, fun {e o} hMem => ⟨(List.forall₂_zip hKeyBack hMem).1, ?_⟩⟩
  obtain ⟨he, ho⟩ := List.of_mem_zip hMem
  obtain ⟨-, s₁, s₂, hRun⟩ := hZip hMem
  have hSize : jsonSize o.2 ≤ jsonSize.fieldSizes pairs := jsonSize_le_fieldSizes ho
  simp only [jsonSize] at hk
  exact (ih m.value e.2 _ s₁ s₂ o.2 (hValues e he) hRun).2 k (by omega)

/-- What each writer function gives reads back, at every fuel. -/
theorem readsBack_fuel (hWF : ∀ fqn c, registry.resolvedClass fqn = .ok c → c.WellFormed) (fuel : Nat) :
    ResourceReadsBack registry now fuel ∧ PropertyReadsBack registry now fuel ∧ ItemReadsBack registry now fuel ∧
      MapReadsBack registry now fuel := by
  induction fuel with
  | zero =>
    refine ⟨?_, ?_, ?_, ?_⟩
    · intro _ _ _ _ _ _ _ h; cases h
    · intro _ _ _ _ _ _ _ h; cases h
    · intro _ _ _ _ _ _ _ h; cases h
    · intro _ _ _ _ _ _ _ _ _ h; cases h
  | succ fuel ih =>
    obtain ⟨hRes, hProp, hItem, hMap⟩ := ih
    exact ⟨resourceReadsBack_succ hWF hProp, propertyReadsBack_succ hItem, itemReadsBack_succ hRes hMap,
      mapReadsBack_succ hItem⟩

end ReadsBack

/-- In a registry reached through its operations, a canonical instance that the validating
writer accepts is written as JSON that the validating reader reads back as the instance with
every DateTime shown in UTC; and that instance is written as the same JSON. -/
theorem canonical_instances_read_back {S : Registry} {mode : BuildMode} (hS : Registry.Reachable S mode)
    (now : DateTime) {r : Resource} (hr : CanonicalResource S r) {j : Json} (hj : encode S {} r = .ok j) :
    decode ⟨S, now⟩ {} j = .ok r.atUtc ∧ encode S {} r.atUtc = .ok j := by
  obtain ⟨s', hRun⟩ : ∃ s', (encodeResource S {} (4 * r.size + 4) r none Path.root).run [] = .ok (j, s') := by
    have hFst : Prod.fst <$> (encodeResource S {} (4 * r.size + 4) r none Path.root).run [] = .ok j := hj
    cases hw : (encodeResource S {} (4 * r.size + 4) r none Path.root).run [] with
    | error e => rw [hw] at hFst; cases hFst
    | ok written =>
      rw [hw] at hFst
      cases hFst
      exact ⟨written.2, rfl⟩
  have hBack : ResourceReadsBack S now (4 * r.size + 4) :=
    (readsBack_fuel (fun _ _ h => hS.resolvedClass_wellFormed h) _).1
  obtain ⟨out, rfl, hClassKey, -, hDecode⟩ := hBack r none Path.root [] s' _ hr hRun
  refine ⟨?_, by rw [encode_atUtc, hj]⟩
  simp only [decode, hClassKey, Option.bind_some, Json.str?]
  exact hDecode _ (by omega) Path.root

end DomainModels.Wire

namespace DomainModels.Wire

/-- A model of one asset, `Car`, identified by its text field `vin`. -/
def carModel : ModelInput :=
  { ast := { ns := "org.x@1.0.0", declarations := [.cls .asset
      { name := "Car", identified := some (.byField "vin"), properties := [{ name := "vin", kind := .string none none none }] }] } }

/-- The car `1` of `carModel` is canonical, written by the validating writer, and read back. -/
theorem car_reads_back :
    ∃ S file j, (Registry.create >>= fun S₀ => S₀.addModelFile carModel) = .ok (S, file) ∧
      Registry.Reachable S .strict ∧ CanonicalResource S (.mk "org.x@1.0.0" "Car" (some "vin") [("vin", .string "1")]) ∧
      encode S {} (.mk "org.x@1.0.0" "Car" (some "vin") [("vin", .string "1")]) = .ok j ∧
      decode ⟨S, ⟨0, 0, 0⟩⟩ {} j = .ok (Resource.mk "org.x@1.0.0" "Car" (some "vin") [("vin", .string "1")]).atUtc ∧
      encode S {} (Resource.mk "org.x@1.0.0" "Car" (some "vin") [("vin", .string "1")]).atUtc = .ok j := by
  have hFacts : ((Registry.create >>= fun S₀ => S₀.addModelFile carModel).toOption.map fun added =>
      ((added.1.resolvedClass "org.x@1.0.0.Car").toOption.map fun c =>
        c.ns == "org.x@1.0.0" && c.name == "Car" && c.identifier == some "vin" && !c.isTimestamped &&
          c.properties.all fun p => (defaultValue p).toOption.map Option.isNone == some true &&
            (p.name != "vin" || (!p.isArray && p.primitive? == some .string))) == some true &&
        (encode added.1 {} (.mk "org.x@1.0.0" "Car" (some "vin") [("vin", .string "1")])).toBool) = some true := by
    decide +kernel
  obtain ⟨⟨S, file⟩, hAdded⟩ : ∃ added, (Registry.create >>= fun S₀ => S₀.addModelFile carModel) = .ok added := by
    cases h : (Registry.create >>= fun S₀ => S₀.addModelFile carModel) with
    | error e => rw [h] at hFacts; cases hFacts
    | ok added => exact ⟨added, rfl⟩
  obtain ⟨S₀, hCreate, hAdd⟩ := Outcome.bind_eq_ok.mp hAdded
  have hS : Registry.Reachable S .strict := .addModelFile carModel (.create hCreate) (Registry.change_eq_ok.1 hAdd)
  rw [hAdded] at hFacts
  simp only [Except.toOption, Option.map_some, Option.some.injEq] at hFacts
  obtain ⟨c, hc⟩ : ∃ c, S.resolvedClass "org.x@1.0.0.Car" = .ok c := by
    cases h : S.resolvedClass "org.x@1.0.0.Car" with
    | error e => rw [h] at hFacts; simp at hFacts
    | ok c => exact ⟨c, rfl⟩
  obtain ⟨j, hj⟩ : ∃ j, encode S {} (.mk "org.x@1.0.0" "Car" (some "vin") [("vin", .string "1")]) = .ok j := by
    cases h : encode S {} (.mk "org.x@1.0.0" "Car" (some "vin") [("vin", .string "1")]) with
    | error e => rw [h] at hFacts; simp [Except.toBool] at hFacts
    | ok j => exact ⟨j, rfl⟩
  rw [hc] at hFacts
  simp only [Option.map_some, beq_iff_eq, Option.some.injEq, Bool.and_eq_true,
    List.all_eq_true, Bool.not_eq_true', Bool.or_eq_true, bne_iff_ne, ne_eq] at hFacts
  obtain ⟨⟨⟨⟨⟨hNs, hName⟩, hId⟩, hStamp⟩, hProps⟩, -⟩ := hFacts
  have hFqn : Resource.fullyQualifiedType (.mk "org.x@1.0.0" "Car" (some "vin") [("vin", .string "1")]) =
      "org.x@1.0.0.Car" := by
    decide
  have hr : CanonicalResource S (.mk "org.x@1.0.0" "Car" (some "vin") [("vin", .string "1")]) := by
    refine .intro (hFqn ▸ hc) hNs.symm hName.symm hId.symm (List.pairwise_singleton _ _) ?_ ?_ ?_ ?_ ?_
    · intro p hp
      have hNone := (hProps p hp).1
      refine ⟨none, ?_, fun v hv => by cases hv⟩
      cases hd : defaultValue p with
      | error e => rw [hd] at hNone; cases hNone
      | ok d =>
        cases d with
        | none => rfl
        | some v => rw [hd] at hNone; simp at hNone
    · intro hStamped
      rw [hStamp] at hStamped
      cases hStamped
    · intro field hField
      cases hField
      exact ⟨"1", rfl, by decide⟩
    · intro _
      rfl
    · intro p hp v hv
      have hNameVin : p.name = "vin" := by
        by_contra hOther
        have hDiffer : (p.name == "vin") = false := by simpa using hOther
        simp only [Resource.get?, Resource.values, List.lookup, hDiffer] at hv
        cases hv
      simp only [Resource.get?, Resource.values, List.lookup, hNameVin, BEq.rfl, Option.some.injEq] at hv
      subst hv
      obtain ⟨hArr, hPrim⟩ := (hProps p hp).2.resolve_left (not_not.mpr hNameVin)
      obtain ⟨field, hField, hFieldPrim⟩ := ResolvedProperty.primitive?_eq_some hPrim
      exact .single hArr (.primitive hField hFieldPrim (.string "1"))
  exact ⟨S, file, j, hAdded, hS, hr, hj, canonical_instances_read_back hS ⟨0, 0, 0⟩ hr hj⟩

/-- The factory makes the car with the empty identifier, and the validating writer writes it,
but the validating reader refuses the JSON: reading checks that an identifier is not empty,
writing does not. -/
theorem empty_identifier_is_written_but_not_read :
    ∃ S file r j, (Registry.create >>= fun S₀ => S₀.addModelFile carModel) = .ok (S, file) ∧
      Factory.newResource ⟨S, ⟨0, 0, 0⟩⟩ "org.x@1.0.0" "Car" "" = .ok r ∧ encode S {} r = .ok j ∧
      ∃ e, decode ⟨S, ⟨0, 0, 0⟩⟩ {} j = .error e ∧
        e.message = "The instance of `org.x@1.0.0.Car` has an empty identifier" := by
  have hFacts : ((Registry.create >>= fun S₀ => S₀.addModelFile carModel).toOption.map fun added =>
      (Factory.newResource ⟨added.1, ⟨0, 0, 0⟩⟩ "org.x@1.0.0" "Car" "").toOption.map fun r =>
        (encode added.1 {} r).toOption.map fun j =>
          decide ((((decode ⟨added.1, ⟨0, 0, 0⟩⟩ {} j).map fun _ => ()).mapError ModelError.message) =
            .error "The instance of `org.x@1.0.0.Car` has an empty identifier")) = some (some (some true)) := by
    decide +kernel
  obtain ⟨⟨S, file⟩, hAdded⟩ : ∃ added, (Registry.create >>= fun S₀ => S₀.addModelFile carModel) = .ok added := by
    cases h : (Registry.create >>= fun S₀ => S₀.addModelFile carModel) with
    | error e => rw [h] at hFacts; cases hFacts
    | ok added => exact ⟨added, rfl⟩
  rw [hAdded] at hFacts
  simp only [Except.toOption, Option.map_some, Option.some.injEq] at hFacts
  obtain ⟨r, hr⟩ : ∃ r, Factory.newResource ⟨S, ⟨0, 0, 0⟩⟩ "org.x@1.0.0" "Car" "" = .ok r := by
    cases h : Factory.newResource ⟨S, ⟨0, 0, 0⟩⟩ "org.x@1.0.0" "Car" "" with
    | error e => rw [h] at hFacts; simp at hFacts
    | ok r => exact ⟨r, rfl⟩
  rw [hr] at hFacts
  simp only [Option.map_some, Option.some.injEq] at hFacts
  obtain ⟨j, hj⟩ : ∃ j, encode S {} r = .ok j := by
    cases h : encode S {} r with
    | error e => rw [h] at hFacts; simp at hFacts
    | ok j => exact ⟨j, rfl⟩
  rw [hj] at hFacts
  simp only [Option.map_some, Option.some.injEq, decide_eq_true_eq] at hFacts
  refine ⟨S, file, r, j, hAdded, hr, hj, ?_⟩
  cases hDecode : decode ⟨S, ⟨0, 0, 0⟩⟩ {} j with
  | ok r' => rw [hDecode] at hFacts; cases hFacts
  | error e =>
    rw [hDecode] at hFacts
    exact ⟨e, rfl, Except.error.inj hFacts⟩

end DomainModels.Wire
