import Mathlib
import DomainModels.Proofs.Wire.Writer
import DomainModels.Proofs.Instance.Factory
import DomainModels.Proofs.Uri.RoundTrip
/-! The JSON of a successful write reads back case by case as what was written, and a canonical
instance as itself shown in UTC (`decodeResource_written`). -/

namespace DomainModels.Wire

/-- An object whose keys are `$class`, `$identifier` and declared properties passes the key
check of a well-formed class. -/
theorem checkKeys_ok {c : ResolvedClass} (hWF : c.WellFormed) {fields : List (String × Json)}
    (hFields : ∀ e ∈ fields, e.1 = Names.classKey ∨ e.1 = Names.identifierField ∨ ∃ p ∈ c.properties, p.name = e.1)
    (path : Path) : checkKeys c fields path = .ok () := by
  have hAllowed : ∀ e ∈ fields, Names.isSystemProperty e.1 = true →
      (e.1 == Names.classKey || e.1 == Names.idKey || e.1 == Names.identifierField ||
        e.1 == Names.timestampField && c.isTimestamped) = true := by
    intro e he hSys
    rcases hFields e he with h | h | ⟨p, hp, hpe⟩
    · simp [h]
    · simp [h]
    · rw [← hpe] at hSys ⊢
      rcases hWF.system p hp hSys with h | ⟨h, hStamp⟩
      · simp [h]
      · simp [h, hStamp]
  have hDeclared : ∀ e ∈ fields, Names.isSystemProperty e.1 = false → (c.property? e.1).isSome := by
    intro e he hSys
    rcases hFields e he with h | h | ⟨p, hp, hpe⟩
    · rw [h, (Names.isSystemProperty_iff _).mpr rfl] at hSys; cases hSys
    · rw [h, (Names.isSystemProperty_iff _).mpr rfl] at hSys; cases hSys
    · rw [← hpe, hWF.property?_name hp]; rfl
  unfold checkKeys
  dsimp only
  split
  · next hReserved =>
    simp at hReserved
    obtain ⟨k, j, hk, -, hClassKey, hIdKey, hIdField, hStamp, hSys⟩ := hReserved
    have hKey := hAllowed (k, j) hk hSys
    simp only [Bool.or_eq_true, beq_iff_eq, Bool.and_eq_true] at hKey
    exfalso
    rcases hKey with ((h | h) | h) | ⟨h, hT⟩
    · exact hClassKey h
    · exact hIdKey h
    · exact hIdField h
    · rcases hStamp with h' | h'
      · exact h' h
      · rw [hT] at h'; cases h'
  · split
    · next hUnknown =>
      simp at hUnknown
      obtain ⟨k, j, hk, -, -, -, -, -, hSys, hNone⟩ := hUnknown
      have hSome := hDeclared (k, j) hk hSys
      rw [hNone] at hSome
      cases hSome
    · rfl

/-- An instance holding every required property and a non-empty identifier passes the
completeness check. -/
theorem checkComplete_ok {c : ResolvedClass} {fqn : String} {r : Resource}
    (hRequired : ∀ p ∈ c.properties, p.isOptional = false → c.passesOver p.name = false → r.contains p.name = true)
    (hId : c.isIdentified = true → ∃ id, r.identifier? = some id ∧ id ≠ "") (path : Path) :
    checkComplete c fqn r path = .ok () := by
  unfold checkComplete
  dsimp only
  refine outcome_forIn_bind c.properties _ _ (fun _ _ => True) ?_ trivial ?_
  · intro done p rest u hSplit _
    refine ⟨(), ?_, trivial⟩
    have hp : p ∈ c.properties := by rw [← hSplit]; simp
    by_cases hOpt : p.isOptional = true
    · rw [if_pos (by simp [hOpt])]
      rfl
    · by_cases hSkip : c.passesOver p.name = true
      · split
        · rfl
        · rw [if_pos (show (p.name == Names.identifierField && c.hasExplicitIdentifier) = true from hSkip)]
          rfl
      · rw [if_pos (by simp [hRequired p hp (by simpa using hOpt) (by simpa using hSkip)])]
        rfl
  · intro u _
    by_cases hIdentified : c.isIdentified = true
    · obtain ⟨id, hSome, hNe⟩ := hId hIdentified
      rw [if_neg (by simp [hSome, hNe])]
      rfl
    · rw [if_neg (by simp [hIdentified])]
      rfl

variable (factory : Factory) {options : DecodeOptions} {fuel : Nat} {p : ResolvedProperty} {j : Json} {path : Path}

theorem decodeItem_relationship (hRel : p.isRelationship = true) :
    decodeItem factory options (fuel + 1) p j path = decodeRelationship factory options fuel p j path := by
  rw [decodeItem.eq_def]
  exact if_pos hRel

theorem decodeItem_primitive {field : Field} {prim : PrimitiveType} (hRel : p.isRelationship = false)
    (hField : p.effectiveField? = some field) (hPrim : field.primitive? = some prim) :
    decodeItem factory options (fuel + 1) p j path = decodePrimitive options field prim j path := by
  rw [decodeItem.eq_def]
  dsimp only
  rw [if_neg (by simp [hRel])]
  simp only [hField, hPrim]

section Declared

variable {target : String} (hRel : p.isRelationship = false) (hPrim : p.primitive? = none)
  (hTarget : p.targetFqn? = some target)
include hRel hPrim hTarget

/-- Past the relationship and primitive cases, an item is read by the kind of its declared
type; the three lemmas below give the cases an instance's own items take. -/
theorem decodeItem_class {cd : ClassDeclaration} (hType : factory.registry.getType target = .ok (.cls cd))
    (fields : List (String × Json)) :
    decodeItem factory options (fuel + 1) p (.object fields) path =
      .concept <$> decodeNested factory options fuel target fields path := by
  rw [decodeItem.eq_def]
  dsimp only
  rw [if_neg (by simp [hRel])]
  rcases ResolvedProperty.primitive?_eq_none hPrim with hf | ⟨field, hf, hfp⟩
  on_goal 1 => simp only [hf]
  on_goal 2 => simp only [hf, hfp]
  all_goals simp only [hTarget, hType, outcome_ok_bind]

theorem decodeItem_enum {e : EnumDeclaration} (hType : factory.registry.getType target = .ok (.enum e))
    {name : String} (hValue : e.hasValue name = true) :
    decodeItem factory options (fuel + 1) p (.string name) path = .ok (.enum name) := by
  rw [decodeItem.eq_def]
  dsimp only
  rw [if_neg (by simp [hRel])]
  rcases ResolvedProperty.primitive?_eq_none hPrim with hf | ⟨field, hf, hfp⟩
  on_goal 1 => simp only [hf]
  on_goal 2 => simp only [hf, hfp]
  all_goals simp only [hTarget, hType, outcome_ok_bind, Json.str?, hValue, Bool.not_true, Bool.and_false,
    Bool.false_eq_true, if_false, pure, Except.pure]

theorem decodeItem_map {md : MapDeclaration} (hType : factory.registry.getType target = .ok (.map md))
    (fields : List (String × Json)) :
    decodeItem factory options (fuel + 1) p (.object fields) path =
      decodeMap factory options fuel target fields path := by
  rw [decodeItem.eq_def]
  dsimp only
  rw [if_neg (by simp [hRel])]
  rcases ResolvedProperty.primitive?_eq_none hPrim with hf | ⟨field, hf, hfp⟩
  on_goal 1 => simp only [hf]
  on_goal 2 => simp only [hf, hfp]
  all_goals simp only [hTarget, hType, outcome_ok_bind]

end Declared

theorem decodeProperty_single (hArr : p.isArray = false) :
    decodeProperty factory options (fuel + 1) p j path = decodeItem factory options fuel p j path := by
  rw [decodeProperty.eq_def]
  exact if_pos (by simp [hArr])

theorem decodeProperty_array (hArr : p.isArray = true) {vs : List Value} {js : List Json}
    (hItems : List.Forall₂ (fun v j => ∀ path', decodeItem factory options fuel p j path' = .ok v) vs js) :
    decodeProperty factory options (fuel + 1) p (.array js) path = .ok (.array vs) := by
  rw [decodeProperty.eq_def]
  dsimp only
  rw [if_neg (by simp [hArr]), outcome_mapM_zipIdx (hItems.imp fun v j h i => h (path.index i)), outcome_ok_bind]
  rfl

/-- An embedded object naming an assignable class is read as an instance of that class. -/
theorem decodeNested_ok {declared runtime : String} {fields : List (String × Json)}
    (hClass : Json.fieldsGet? fields Names.classKey = some (.string runtime))
    (hAssign : factory.registry.index.isAssignable runtime declared = true) :
    decodeNested factory options (fuel + 1) declared fields path =
      decodeResource factory options fuel runtime fields path := by
  rw [decodeNested.eq_def]
  dsimp only
  rw [hClass]
  simp only [Option.bind_some, Json.str?, Option.getD_some]
  unfold checkAssignable
  rw [if_pos hAssign]
  rfl

/-- The URI of a relationship that reads back as itself, to an assignable class, is read as
that relationship. -/
theorem decodeRelationship_ok {rel : Relationship} (hRel : rel.Canonical)
    (hAssign : factory.registry.index.isAssignable rel.fullyQualifiedType (p.targetFqn?.getD "") = true) :
    decodeRelationship factory options (fuel + 1) p (.string rel.toUri) path = .ok (.relationship rel) := by
  rw [decodeRelationship.eq_def]
  dsimp only
  rw [Relationship.fromUri_toUri rel _ _ hRel.identifier_ne hRel.split_eq hRel.uri_safe hRel.not_slash]
  simp only [Except.mapError, outcome_ok_bind, hAssign, Bool.not_true, Bool.and_false, Bool.false_eq_true, if_false,
    pure, Except.pure]

/-- An object with no reserved keys is read as a map entry by entry, each key from its text
and each value as an item of the map's value type. -/
theorem decodeMap_ok {target : String} {fields : List (String × Json)} {m : ResolvedMap} {keyField : Field}
    {keyPrim : PrimitiveType} (hMap : factory.registry.resolvedMap target = .ok m)
    (hKey : m.key.effectiveField? = some keyField) (hPrim : keyField.primitive? = some keyPrim)
    (hSystem : ∀ o ∈ fields, Names.isSystemProperty o.1 = false) {entries : List (Value × Value)}
    (hEntries : List.Forall₂ (fun (e : Value × Value) (o : String × Json) =>
        (∀ path', decodePrimitive options keyField keyPrim (.string o.1) path' = .ok e.1) ∧
        ∀ path', decodeItem factory options fuel m.value o.2 path' = .ok e.2) entries fields) :
    decodeMap factory options (fuel + 1) target fields path = .ok (.map entries) := by
  rw [decodeMap.eq_def]
  dsimp only
  rw [hMap, outcome_ok_bind]
  simp only [hKey, hPrim]
  rw [List.filter_eq_self.mpr (by simpa using hSystem)]
  rw [outcome_mapM_ok (hEntries.imp fun e o ⟨hk, hv⟩ => by
    rw [hk, outcome_ok_bind, hv, outcome_ok_bind]
    rfl), outcome_ok_bind]
  rfl

/-- What the reader's loop has made of the new instance `r₁` once it has been through some
of the properties of the class: the value of each property the writer wrote from `r`, shown
in UTC, and `r₁`'s value under every other key. -/
structure ReadSoFar (c : ResolvedClass) (r r₁ : Resource) (done : List ResolvedProperty) (r' : Resource) :
    Prop where
  ns : r'.ns = c.ns
  typeName : r'.typeName = c.name
  identifierField : r'.identifierField = c.identifier
  sorted : SortedByName r'.values
  read : ∀ p ∈ done, c.passesOver p.name = false → ∀ v, r.get? p.name = some v → r'.get? p.name = some v.atUtc
  rest : ∀ k, (∀ p ∈ done, p.name = k → c.passesOver k = true ∨ r.get? k = none) → r'.get? k = r₁.get? k

section ReadSoFar

variable {c : ResolvedClass} {r r₁ r' : Resource} {done : List ResolvedProperty} {p : ResolvedProperty}

theorem ReadSoFar.append_same (hs : ReadSoFar c r r₁ done r')
    (hVac : c.passesOver p.name = false → r.get? p.name = none) : ReadSoFar c r r₁ (done ++ [p]) r' where
  ns := hs.ns
  typeName := hs.typeName
  identifierField := hs.identifierField
  sorted := hs.sorted
  read := by
    intro q hq hSkip v hv
    rcases List.mem_append.mp hq with hq | hq
    · exact hs.read q hq hSkip v hv
    · rw [List.mem_singleton.mp hq] at hSkip hv
      rw [hVac hSkip] at hv
      cases hv
  rest := fun k hk => hs.rest k fun q hq => hk q (List.mem_append_left _ hq)

theorem ReadSoFar.set (hs : ReadSoFar c r r₁ done r') (hFresh : ∀ q ∈ done, q.name ≠ p.name)
    (hSkip : c.passesOver p.name = false) {v : Value} (hv : r.get? p.name = some v) : ReadSoFar c r r₁ (done ++ [p]) (r'.set p.name v.atUtc) where
  ns := hs.ns
  typeName := hs.typeName
  identifierField := hs.identifierField
  sorted := Resource.sortedByName_set hs.sorted _ _
  read := by
    intro q hq hSkip w hw
    rw [Resource.get?_set]
    rcases List.mem_append.mp hq with hq | hq
    · rw [if_neg (hFresh q hq)]
      exact hs.read q hq hSkip w hw
    · rw [List.mem_singleton.mp hq] at hw ⊢
      rw [hv] at hw
      cases hw
      rw [if_pos rfl]
  rest := by
    intro k hk
    rw [Resource.get?_set]
    have hkp : k ≠ p.name := by
      rintro rfl
      rcases hk p (by simp) rfl with h | h
      · rw [hSkip] at h; cases h
      · rw [hv] at h; cases h
    rw [if_neg hkp]
    exact hs.rest k fun q hq => hk q (List.mem_append_left _ hq)

end ReadSoFar

variable {registry : Registry} (now : Time.DateTime)

/-- The object written for a canonical instance reads back as the instance shown in UTC, when
each property written reads back as its value. -/
theorem decodeResource_written {r : Resource} {c : ResolvedClass} {fuel m : Nat} {path path' : Path}
    {declared : Option String} {out : List (String × Json)}
    (hr : CanonicalResource registry r) (hClass : registry.resolvedClass r.fullyQualifiedType = .ok c)
    (hWF : c.WellFormed) (hCheck : checkInstance registry c r declared path = .ok ())
    (hw : Written registry c r fuel path c.properties out)
    (hDecode : ∀ p ∈ c.properties, c.passesOver p.name = false → ∀ v j, r.get? p.name = some v →
      Json.fieldsGet? out p.name = some j →
        j ≠ .null ∧ ∀ path', decodeProperty ⟨registry, now⟩ {} m p j path' = .ok v.atUtc) :
    decodeResource ⟨registry, now⟩ {} (m + 1) r.fullyQualifiedType out path' = .ok r.atUtc := by
  obtain ⟨hClass', hNs, hTypeName, hField, hSorted, hDefaults, hTimestamp, hIdentifier, hSystemId, -⟩ := hr
  rw [hClass] at hClass'
  cases hClass'
  obtain ⟨hAbs, -, hDeclared⟩ := checkInstance_ok registry hCheck
  have hKeyOf : ∀ k, (r.get? k).isSome → ∃ p ∈ c.properties, p.name = k ∧ c.passesOver k = false := by
    intro k hk
    obtain ⟨v, hv⟩ := Option.isSome_iff_exists.mp hk
    obtain ⟨p, hp⟩ := Option.isSome_iff_exists.mp (hDeclared (k, v) (Resource.mem_values_of_get? hv))
    have hpName : p.name = k := by simpa using List.find?_some hp
    refine ⟨p, List.mem_of_find?_eq_some hp, hpName, ?_⟩
    cases hSkip : c.passesOver k
    · rfl
    · simp only [ResolvedClass.passesOver, Bool.and_eq_true, beq_iff_eq] at hSkip
      rw [hSkip.1, hSystemId hSkip.2] at hv
      cases hv
  have hUnset : ∀ r₁, (Resource.new c.ns c.name c.identifier).Grows r₁ (Factory.NewKey c) → ∀ k,
      (∀ p ∈ c.properties, p.name = k → c.passesOver k = true ∨ r.get? k = none) →
        r₁.get? k = none ∧ r.get? k = none := by
    intro r₁ hg k hk
    have hNone : ¬ (r.get? k).isSome := by
      intro hSome
      obtain ⟨p, hp, hpk, hSkip⟩ := hKeyOf k hSome
      rcases hk p hp hpk with h | h
      · rw [hSkip] at h; cases h
      · rw [h] at hSome; cases hSome
    refine ⟨?_, Option.not_isSome_iff_eq_none.mp hNone⟩
    apply Option.not_isSome_iff_eq_none.mp
    intro hSome
    rcases hg.keys k hSome with h | hNew
    · cases h
    apply hNone
    rcases hNew with hId | ⟨p, hp, hpk, v, hv⟩ | ⟨hStamp, rfl⟩
    · obtain ⟨id, hget, -⟩ := hIdentifier k (hField.trans hId)
      rw [hget]; rfl
    · obtain ⟨d, hd, hContains⟩ := hDefaults p hp
      rw [hv] at hd
      cases hd
      rw [← hpk, ← Resource.contains_eq_true_iff]
      exact hContains v rfl
    · rw [← Resource.contains_eq_true_iff]
      exact hTimestamp hStamp
  have hFqn : r.fullyQualifiedType = Names.qualify c.ns c.name := by
    rw [Resource.fullyQualifiedType, hNs, hTypeName]
  have hDefaults' : ∀ p ∈ c.properties, ∃ d, defaultValue p = .ok d := fun p hp =>
    (hDefaults p hp).imp fun _ h => h.1
  have hFields : ∀ e ∈ out, e.1 = Names.classKey ∨ e.1 = Names.identifierField ∨
      ∃ p ∈ c.properties, p.name = e.1 := by
    intro e he
    rcases hw.keys e he with h | h | ⟨p, hp, hpe, -⟩
    · exact .inl h
    · simp only [ResolvedClass.passesOver, Bool.and_eq_true, beq_iff_eq] at h
      exact .inr (.inl h.1)
    · exact .inr (.inr ⟨p, hp, hpe⟩)
  rw [decodeResource.eq_def]
  dsimp only
  rw [hClass, outcome_ok_bind, if_neg (by simp [hAbs]), checkKeys_ok hWF hFields, outcome_ok_bind]
  rcases hId : c.identifier with _ | idField
  on_goal 1 =>
    obtain ⟨r₁, hNew, hg⟩ := Factory.newConcept_ok ⟨registry, now⟩ (hFqn ▸ hClass) hAbs hId hDefaults'
    dsimp only
    rw [hNew, outcome_ok_bind]
  on_goal 2 =>
    obtain ⟨r₁, hNew, hg⟩ := Factory.newResource_ok ⟨registry, now⟩
      (((Json.fieldsGet? out idField).bind Json.str?).getD "") (hFqn ▸ hClass) hAbs hId hDefaults'
    dsimp only
    rw [hNew, outcome_ok_bind]
  all_goals
    refine outcome_forIn_bind c.properties _ _ (fun done r' => ReadSoFar c r r₁ done r') ?_ ?_ ?_
    · intro done p rest r' hSplit hs
      have hp : p ∈ c.properties := by rw [← hSplit]; simp
      have hFresh := hWF.name_ne_of_split hSplit
      by_cases hSkip : c.passesOver p.name = true
      · rw [if_pos (show (p.name == Names.identifierField && c.hasExplicitIdentifier) = true from hSkip)]
        exact ⟨r', rfl, hs.append_same fun h => by rw [hSkip] at h; cases h⟩
      have hSkip' : c.passesOver p.name = false := by simpa using hSkip
      rw [if_neg (show ¬ (p.name == Names.identifierField && c.hasExplicitIdentifier) = true from hSkip)]
      split
      · next hNone =>
        refine ⟨r', rfl, hs.append_same fun _ => ?_⟩
        cases hv : r.get? p.name with
        | none => rfl
        | some v =>
          obtain ⟨j, hj, -⟩ := hw.value p hp hSkip' v hv
          rw [hNone] at hj
          cases hj
      · next hNull =>
        refine ⟨r', rfl, hs.append_same fun _ => ?_⟩
        cases hv : r.get? p.name with
        | none => rfl
        | some v =>
          obtain ⟨j, hj, -⟩ := hw.value p hp hSkip' v hv
          rw [hNull] at hj
          cases hj
          exact absurd rfl (hDecode p hp hSkip' v .null hv hNull).1
      · next _ j _ hj =>
        obtain ⟨v, hv⟩ : ∃ v, r.get? p.name = some v := by
          rcases hw.keys (p.name, j) (mem_of_fieldsGet? hj) with h | h | ⟨q, -, -, hSome⟩
          · exact absurd h (hWF.name_ne_classKey hp)
          · rw [hSkip'] at h; cases h
          · exact Option.isSome_iff_exists.mp hSome
        rw [(hDecode p hp hSkip' v j hv hj).2, outcome_ok_bind]
        exact ⟨_, rfl, hs.set hFresh hSkip' hv⟩
    · exact ⟨hg.ns, hg.typeName, hg.identifierField, hg.sorted List.Pairwise.nil, by simp, fun _ _ => rfl⟩
    · intro r' hs
      have hEq : r' = r.atUtc := by
        apply Resource.ext
        · rw [hs.ns, Resource.ns_atUtc, hNs]
        · rw [hs.typeName, Resource.typeName_atUtc, hTypeName]
        · rw [hs.identifierField, Resource.identifierField_atUtc, hField]
        · apply Resource.eq_of_lookup hs.sorted (Resource.sortedByName_atUtc hSorted)
          intro k
          show r'.get? k = r.atUtc.get? k
          rw [Resource.get?_atUtc]
          by_cases hSet : ∃ p ∈ c.properties, p.name = k ∧ c.passesOver k = false ∧ (r.get? k).isSome
          · obtain ⟨p, hp, rfl, hSkip, hSome⟩ := hSet
            obtain ⟨v, hv⟩ := Option.isSome_iff_exists.mp hSome
            rw [hs.read p hp hSkip v hv, hv]
            rfl
          · have hk : ∀ p ∈ c.properties, p.name = k → c.passesOver k = true ∨ r.get? k = none := by
              intro p hp hpk
              by_cases hSkip : c.passesOver k = true
              · exact .inl hSkip
              · right
                cases hv : r.get? k with
                | none => rfl
                | some v => exact absurd ⟨p, hp, hpk, by simpa using hSkip, by simp [hv]⟩ hSet
            obtain ⟨h₁, h₂⟩ := hUnset r₁ hg k hk
            rw [hs.rest k hk, h₁, h₂]
            rfl
      subst hEq
      have hRequired : ∀ p ∈ c.properties, p.isOptional = false → c.passesOver p.name = false →
          r.atUtc.contains p.name = true := by
        intro p hp hOpt hSkip
        rw [Resource.contains_atUtc, Resource.contains_eq_true_iff]
        exact hw.required p hp hSkip hOpt
      have hIdentified : c.isIdentified = true → ∃ id, r.atUtc.identifier? = some id ∧ id ≠ "" := by
        intro hIdent
        obtain ⟨field, hF⟩ := Option.isSome_iff_exists.mp hIdent
        obtain ⟨id, hget, hne⟩ := hIdentifier field (hField.trans hF)
        refine ⟨id, ?_, hne⟩
        rw [Resource.identifier?_atUtc]
        simp [Resource.identifier?, hField, hF, hget]
      rw [if_pos rfl, checkComplete_ok hRequired hIdentified, outcome_ok_bind]
      rfl

end DomainModels.Wire
