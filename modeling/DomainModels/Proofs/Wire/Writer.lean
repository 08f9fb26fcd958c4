import Mathlib
import DomainModels.Proofs.Wire.ReadBack
import DomainModels.Proofs.Graph.ClassShape
/-! What a successful write says about the instance written: one inverting lemma for each writer
function (`Written`). -/

namespace DomainModels.Wire

variable (registry : Registry)

theorem checkInstance_ok {c : ResolvedClass} {r : Resource} {declared : Option String} {path : Path}
    (h : checkInstance registry c r declared path = .ok ()) :
    c.isAbstract = false ∧ (∀ d, declared = some d → registry.index.isAssignable r.fullyQualifiedType d = true) ∧
      ∀ e ∈ r.values, (c.property? e.1).isSome := by
  unfold checkInstance at h
  dsimp only at h
  by_cases hAbs : c.isAbstract = true
  · rw [if_pos hAbs] at h; cases h
  rw [if_neg hAbs] at h
  have hFind : ∀ e ∈ r.values, (c.property? e.1).isSome := by
    cases hf : r.values.find? (fun e => (c.property? e.1).isNone) with
    | none =>
      intro e he
      have hNone := List.find?_eq_none.mp hf e he
      simpa [Option.isSome_iff_ne_none] using hNone
    | some e =>
      obtain ⟨name, v⟩ := e
      rw [hf] at h
      cases declared with
      | none => cases h
      | some d =>
        dsimp only at h
        split at h <;> cases h
  refine ⟨by simpa using hAbs, ?_, hFind⟩
  rintro d rfl
  dsimp only at h
  cases hd : registry.index.isAssignable r.fullyQualifiedType d
  · rw [hd] at h; cases h
  · rfl

/-- What the writer has put in an object once it has been through some of the properties of
the instance's class. -/
structure Written (c : ResolvedClass) (r : Resource) (fuel : Nat) (path : Path)
    (done : List ResolvedProperty) (out : List (String × Json)) : Prop where
  classKey : Json.fieldsGet? out Names.classKey = some (.string r.fullyQualifiedType)
  value : ∀ p ∈ done, c.passesOver p.name = false → ∀ v, r.get? p.name = some v →
    ∃ j, Json.fieldsGet? out p.name = some j ∧
      ∃ s₁ s₂, (encodeProperty registry {} fuel p v (path.field p.name)).run s₁ = .ok (j, s₂)
  keys : ∀ e ∈ out, e.1 = Names.classKey ∨ c.passesOver e.1 = true ∨
    ∃ p ∈ done, p.name = e.1 ∧ (r.get? e.1).isSome
  required : ∀ p ∈ done, c.passesOver p.name = false → p.isOptional = false → (r.get? p.name).isSome

section Written

variable {registry} {c : ResolvedClass} {r : Resource} {fuel : Nat} {path : Path}
  {done : List ResolvedProperty} {out : List (String × Json)} {p : ResolvedProperty}

theorem written_nil : Written registry c r fuel path [] [(Names.classKey, .string r.fullyQualifiedType)] where
  classKey := by simp [fieldsGet?_eq]
  value := by simp
  keys := by simp
  required := by simp

/-- A property that adds nothing to the object: the `$identifier` slot, or an optional
property with no value. -/
theorem Written.append_same (hw : Written registry c r fuel path done out)
    (hVac : c.passesOver p.name = false → r.get? p.name = none ∧ p.isOptional = true) :
    Written registry c r fuel path (done ++ [p]) out where
  classKey := hw.classKey
  value := by
    intro q hq hSkip v hv
    rcases List.mem_append.mp hq with hq | hq
    · exact hw.value q hq hSkip v hv
    · rw [List.mem_singleton.mp hq] at hSkip hv
      rw [(hVac hSkip).1] at hv
      cases hv
  keys := by
    intro e he
    rcases hw.keys e he with h | h | ⟨q, hq, hqe, hSome⟩
    · exact .inl h
    · exact .inr (.inl h)
    · exact .inr (.inr ⟨q, List.mem_append_left _ hq, hqe, hSome⟩)
  required := by
    intro q hq hSkip hOpt
    rcases List.mem_append.mp hq with hq | hq
    · exact hw.required q hq hSkip hOpt
    · rw [List.mem_singleton.mp hq] at hSkip hOpt
      rw [(hVac hSkip).2] at hOpt
      cases hOpt

/-- Writing a key that no earlier property has keeps what was written under the others. -/
theorem Written.insert (hw : Written registry c r fuel path done out) (hName : p.name ≠ Names.classKey)
    (hFresh : ∀ q ∈ done, q.name ≠ p.name) (j : Json)
    (hKey : c.passesOver p.name = true ∨ (r.get? p.name).isSome)
    (hValue : c.passesOver p.name = false → ∀ v, r.get? p.name = some v →
      ∃ s₁ s₂, (encodeProperty registry {} fuel p v (path.field p.name)).run s₁ = .ok (j, s₂))
    (hReq : c.passesOver p.name = false → p.isOptional = false → (r.get? p.name).isSome) :
    Written registry c r fuel path (done ++ [p]) (Json.fieldsInsert out p.name j) where
  classKey := by
    rw [fieldsGet?_fieldsInsert, if_neg (Ne.symm hName)]
    exact hw.classKey
  value := by
    intro q hq hSkip v hv
    rcases List.mem_append.mp hq with hq | hq
    · rw [fieldsGet?_fieldsInsert, if_neg (hFresh q hq)]
      exact hw.value q hq hSkip v hv
    · rw [List.mem_singleton.mp hq] at hSkip hv ⊢
      rw [fieldsGet?_fieldsInsert, if_pos rfl]
      exact ⟨j, rfl, hValue hSkip v hv⟩
  keys := by
    intro e he
    rcases mem_fieldsInsert he with he | rfl
    · rcases hw.keys e he with h | h | ⟨q, hq, hqe, hSome⟩
      · exact .inl h
      · exact .inr (.inl h)
      · exact .inr (.inr ⟨q, List.mem_append_left _ hq, hqe, hSome⟩)
    · rcases hKey with h | h
      · exact .inr (.inl h)
      · exact .inr (.inr ⟨p, by simp, rfl, h⟩)
  required := by
    intro q hq hSkip hOpt
    rcases List.mem_append.mp hq with hq | hq
    · exact hw.required q hq hSkip hOpt
    · rw [List.mem_singleton.mp hq] at hSkip hOpt ⊢
      exact hReq hSkip hOpt

end Written

theorem encodeResource_ok {fuel : Nat} {r : Resource} {declared : Option String} {path : Path}
    {s s' : List String} {j : Json}
    (h : (encodeResource registry {} (fuel + 1) r declared path).run s = .ok (j, s')) :
    ∃ c out, registry.resolvedClass r.fullyQualifiedType = .ok c ∧
      checkInstance registry c r declared path = .ok () ∧ j = .object out ∧
      (c.WellFormed → Written registry c r fuel path c.properties out) := by
  rw [encodeResource] at h
  dsimp only at h
  rw [writing_bind_eq_ok] at h
  obtain ⟨c, s₁, hc, h⟩ := h
  rw [if_pos rfl, writing_bind_eq_ok] at h
  obtain ⟨u, s₂, hCheck, h⟩ := h
  generalize hL : (forIn c.properties [(Names.classKey, Json.string r.fullyQualifiedType)] _ :
    Writing (List (String × Json))) = loop at h
  obtain ⟨s₃, h⟩ : ∃ s₃, (loop >>= fun out => pure (Json.object out)).run s₃ = .ok (j, s') := by
    split at h
    · rw [writing_bind_eq_ok] at h
      obtain ⟨-, s₃, -, h⟩ := h
      rw [if_neg Bool.false_ne_true] at h
      exact ⟨s₃, h⟩
    · exact ⟨s₂, h⟩
  rw [writing_bind_eq_ok] at h
  obtain ⟨out, s₄, hLoop, hOut⟩ := h
  cases hOut
  subst hL
  refine ⟨c, out, (writing_lift_eq_ok.mp hc).1, (writing_lift_eq_ok.mp hCheck).1, rfl, fun hWF => ?_⟩
  refine writing_forIn_inv c.properties _ (fun done out => Written registry c r fuel path done out) ?_
    written_nil hLoop
  intro done p rest out s res s'' hSplit hw hStep
  have hp : p ∈ c.properties := by rw [← hSplit]; simp
  have hFresh := hWF.name_ne_of_split hSplit
  have hName := hWF.name_ne_classKey hp
  by_cases hSkip : c.passesOver p.name = true
  · have hNot : c.passesOver p.name = false → False := by rw [hSkip]; intro h; cases h
    rw [if_pos (show (p.name == Names.identifierField && c.hasExplicitIdentifier) = true from hSkip)] at hStep
    split at hStep
    · cases hStep
      exact ⟨_, rfl, hw.insert hName hFresh _ (.inl hSkip) (fun h => (hNot h).elim) (fun h => (hNot h).elim)⟩
    · cases hStep
      exact ⟨_, rfl, hw.append_same fun h => (hNot h).elim⟩
  · rw [if_neg (show ¬ (p.name == Names.identifierField && c.hasExplicitIdentifier) = true from hSkip)] at hStep
    split at hStep
    · next hNone =>
      by_cases hOpt : p.isOptional = true
      · rw [if_neg (by simp [hOpt])] at hStep
        cases hStep
        exact ⟨_, rfl, hw.append_same fun _ => ⟨hNone, hOpt⟩⟩
      · rw [if_pos (by simpa using hOpt), writing_bind_eq_ok] at hStep
        obtain ⟨_, _, hThrow, -⟩ := hStep
        cases hThrow
    · next v hv =>
      rw [writing_bind_eq_ok] at hStep
      obtain ⟨enc, s₁, hEnc, hPure⟩ := hStep
      cases hPure
      refine ⟨_, rfl, hw.insert hName hFresh enc (.inr (by simp [hv])) ?_ (fun _ _ => by simp [hv])⟩
      intro _ v' hv'
      rw [hv] at hv'
      cases hv'
      exact ⟨s, _, hEnc⟩

variable {registry} {fuel : Nat} {p : ResolvedProperty} {v : Value} {path : Path} {s s' : List String} {j : Json}

theorem encodeItem_declared_ok (hRel : p.isRelationship = false) (hPrim : p.primitive? = none)
    (h : (encodeItem registry {} (fuel + 1) p v path).run s = .ok (j, s')) :
    ∃ target, p.targetFqn? = some target ∧
      ((∃ cd r, registry.getType target = .ok (.cls cd) ∧ v = .concept r ∧
          (encodeResource registry {} fuel r (some target) path).run s = .ok (j, s')) ∨
       (∃ e n, registry.getType target = .ok (.enum e) ∧ (v = .enum n ∨ v = .string n) ∧
          e.hasValue n = true ∧ j = .string n ∧ s' = s) ∨
       (∃ md entries, registry.getType target = .ok (.map md) ∧ v = .map entries ∧
          (encodeMap registry {} fuel target entries path).run s = .ok (j, s'))) := by
  rw [encodeItem] at h
  dsimp only at h
  rw [if_neg (by simp [hRel])] at h
  rcases ResolvedProperty.primitive?_eq_none hPrim with hf | ⟨field, hf, hfp⟩
  on_goal 1 => simp only [hf] at h
  on_goal 2 => simp only [hf, hfp] at h
  all_goals
    cases hT : p.targetFqn? with
    | none => simp only [hT] at h; cases h
    | some target =>
      simp only [hT] at h
      refine ⟨target, rfl, ?_⟩
      rw [writing_bind_eq_ok] at h
      obtain ⟨d, s₁, hd, h⟩ := h
      obtain ⟨hType, rfl⟩ := writing_lift_eq_ok.mp hd
      cases d with
      | cls cd =>
        dsimp only at h
        split at h
        · next r => exact .inl ⟨cd, r, hType, rfl, h⟩
        · cases h
      | enum e =>
        dsimp only at h
        split at h
        case h_3 =>
          rw [writing_bind_eq_ok] at h
          obtain ⟨_, _, hThrow, -⟩ := h
          cases hThrow
        all_goals
          rw [writing_bind_eq_ok] at h
          obtain ⟨_, s₂, hPure, h⟩ := h
          cases hPure
          rename_i name
          by_cases hHas : e.hasValue name = true
          · rw [if_neg (by simp [hHas])] at h
            cases h
            exact .inr (.inl ⟨e, name, hType, by simp, hHas, rfl, rfl⟩)
          · rw [if_pos (by simpa using hHas), writing_bind_eq_ok] at h
            obtain ⟨_, _, hThrow, -⟩ := h
            cases hThrow
      | map md =>
        dsimp only at h
        split at h
        · next entries => exact .inr (.inr ⟨md, entries, hType, rfl, h⟩)
        · cases h
      | scalar sc => cases h

theorem encodeProperty_ok (h : (encodeProperty registry {} (fuel + 1) p v path).run s = .ok (j, s')) :
    (p.isArray = false ∧ (encodeItem registry {} fuel p v path).run s = .ok (j, s')) ∨
    (p.isArray = true ∧ ∃ items encoded, v = .array items ∧ j = .array encoded ∧
      List.Forall₂ (fun item enc => ∃ path' s₁ s₂, (encodeItem registry {} fuel p item path').run s₁ = .ok (enc, s₂))
        items encoded) := by
  rw [encodeProperty.eq_def] at h
  dsimp only at h
  by_cases hArr : p.isArray = true
  · rw [if_neg (by simp [hArr])] at h
    split at h
    · next items =>
      rw [writing_bind_eq_ok] at h
      obtain ⟨encoded, s₁, hItems, h⟩ := h
      cases h
      refine .inr ⟨hArr, items, encoded, rfl, rfl, ?_⟩
      refine (forall₂_of_zipIdx (writing_mapM_ok hItems)).imp ?_
      rintro item enc ⟨i, s₁, s₂, hRun⟩
      exact ⟨path.index i, s₁, s₂, hRun⟩
    · cases h
  · rw [if_pos (by simpa using hArr)] at h
    exact .inl ⟨by simpa using hArr, h⟩

theorem encodeRelationship_ok (h : (encodeRelationship registry {} (fuel + 1) p v path).run s = .ok (j, s')) :
    ∃ rel, v = .relationship rel ∧
      registry.index.isAssignable rel.fullyQualifiedType (p.targetFqn?.getD "") = true ∧
      j = .string rel.toUri ∧ s' = s := by
  rw [encodeRelationship.eq_def] at h
  dsimp only at h
  split at h
  · next rel =>
    by_cases hAssign : registry.index.isAssignable rel.fullyQualifiedType (p.targetFqn?.getD "") = true
    · rw [if_neg (by simp [hAssign])] at h
      cases h
      exact ⟨rel, rfl, hAssign, rfl, rfl⟩
    · rw [if_pos (by simpa using hAssign)] at h
      cases h
  · rw [if_neg Bool.false_ne_true, if_pos Bool.not_false, writing_bind_eq_ok] at h
    obtain ⟨_, _, hThrow, -⟩ := h
    cases hThrow
  · cases h

theorem encodeItem_relationship {options : EncodeOptions} (hRel : p.isRelationship = true) :
    encodeItem registry options (fuel + 1) p v path = encodeRelationship registry options fuel p v path := by
  rw [encodeItem]
  exact if_pos hRel

theorem encodeItem_primitive {options : EncodeOptions} {field : Field} {prim : PrimitiveType}
    (hRel : p.isRelationship = false) (hField : p.effectiveField? = some field) (hPrim : field.primitive? = some prim) :
    encodeItem registry options (fuel + 1) p v path = Writing.lift (encodePrimitive options field prim v path) := by
  rw [encodeItem]
  rw [if_neg (by simp [hRel])]
  simp only [hField, hPrim]

variable (registry) in
/-- A map entry written as a field: the text its key is written as, and the JSON of its
value. -/
def EntryWritten (keyField : Field) (keyPrim : PrimitiveType) (value : ResolvedProperty) (fuel : Nat)
    (path : Path) (e : Value × Value) (o : String × Json) : Prop :=
  encodePrimitive {} keyField keyPrim e.1 path = .ok (.string o.1) ∧
    ∃ s₁ s₂, (encodeItem registry {} fuel value e.2 (path.field o.1)).run s₁ = .ok (o.2, s₂)

/-- The fields a map is written to: each entry under the text of its key, in order, a later
entry replacing an earlier one with the same text. -/
theorem encodeMap_ok {target : String} {entries : List (Value × Value)}
    (h : (encodeMap registry {} (fuel + 1) target entries path).run s = .ok (j, s')) :
    ∃ m keyField keyPrim pairs, registry.resolvedMap target = .ok m ∧ m.key.effectiveField? = some keyField ∧
      keyField.primitive? = some keyPrim ∧
      j = .object (pairs.foldl (fun out (o : String × Json) => Json.fieldsInsert out o.1 o.2) []) ∧
      List.Forall₂ (EntryWritten registry keyField keyPrim m.value fuel path) entries pairs := by
  rw [encodeMap.eq_def] at h
  dsimp only at h
  rw [writing_bind_eq_ok] at h
  obtain ⟨m, s₁, hm, h⟩ := h
  obtain ⟨hMap, rfl⟩ := writing_lift_eq_ok.mp hm
  cases hKey : m.key.effectiveField? with
  | none => rw [hKey] at h; cases h
  | some keyField =>
  cases hPrim : keyField.primitive? with
  | none => simp only [hKey, hPrim] at h; cases h
  | some keyPrim =>
  simp only [hKey, hPrim] at h
  rw [writing_bind_eq_ok] at h
  obtain ⟨out, s₂, hLoop, h⟩ := h
  cases h
  obtain ⟨pairs, hPairs, hOut⟩ := writing_forIn_inv entries _
    (fun done out => ∃ pairs, List.Forall₂ (EntryWritten registry keyField keyPrim m.value fuel path) done pairs ∧
      out = pairs.foldl (fun out (o : String × Json) => Json.fieldsInsert out o.1 o.2) [])
    (by
      intro done e rest out s₃ res s₄ _ ⟨pairs, hPairs, hOut⟩ hStep
      rw [writing_bind_eq_ok] at hStep
      obtain ⟨keyJson, s₅, hKeyJson, hStep⟩ := hStep
      obtain ⟨hKeyText, rfl⟩ := writing_lift_eq_ok.mp hKeyJson
      split at hStep
      · next keyText =>
        rw [writing_bind_eq_ok] at hStep
        obtain ⟨enc, s₆, hEnc, hStep⟩ := hStep
        cases hStep
        refine ⟨_, rfl, pairs ++ [(keyText, enc)], List.rel_append hPairs (.cons ⟨hKeyText, _, _, hEnc⟩ .nil), ?_⟩
        rw [List.foldl_append, ← hOut]
        rfl
      · rw [writing_bind_eq_ok] at hStep
        obtain ⟨_, _, hThrow, -⟩ := hStep
        cases hThrow)
    ⟨[], .nil, rfl⟩ hLoop
  exact ⟨m, keyField, keyPrim, pairs, hMap, hKey, hPrim, by rw [hOut], hPairs⟩

/-! ### Writing does not see the offset of a DateTime

A DateTime is written as its instant in the offset the options choose, so an instance and
the same instance with every DateTime shown in UTC are written alike, by every writer
function and at every fuel. -/

section Offset

variable (registry) (options : EncodeOptions)

theorem formatDateTime_withOffset (t : Time.DateTime) (offset zone : Int) :
    formatDateTime (t.withOffset offset) zone = formatDateTime t zone := by
  simp [formatDateTime, Time.DateTime.withOffset]

theorem checkPrimitive_atUtc (field : Field) (prim : PrimitiveType) (v : Value) (path : Path) :
    checkPrimitive field prim v.atUtc path = checkPrimitive field prim v path := by
  cases v <;> cases prim <;> rfl

theorem encodePrimitive_atUtc (field : Field) (prim : PrimitiveType) (v : Value) (path : Path) :
    encodePrimitive options field prim v.atUtc path = encodePrimitive options field prim v path := by
  unfold encodePrimitive
  rw [checkPrimitive_atUtc]
  cases v with
  | dateTime t => simp only [Value.atUtc_dateTime, formatDateTime_withOffset]
  | _ => rfl

theorem alreadySeen_atUtc (r : Resource) : alreadySeen r.atUtc = alreadySeen r := by
  simp only [alreadySeen, Resource.fullyQualifiedIdentifier?_atUtc, Resource.toUri?_atUtc]

theorem checkInstance_atUtc (c : ResolvedClass) (r : Resource) (declared : Option String) (path : Path) :
    checkInstance registry c r.atUtc declared path = checkInstance registry c r declared path := by
  unfold checkInstance
  rw [Resource.values_atUtc, Resource.fullyQualifiedType_atUtc, Resource.fullyQualifiedIdentifier?_atUtc,
    List.find?_map]
  generalize hShown : List.find? _ r.values = shown
  generalize hFound : List.find? _ r.values = found
  obtain rfl : shown = found := by rw [← hShown, ← hFound]; rfl
  cases shown <;> rfl

theorem encodeResource_atUtc_step
    (ih : ∀ p v path, encodeProperty registry options fuel p v.atUtc path = encodeProperty registry options fuel p v path)
    (r : Resource) (declared : Option String) (path : Path) :
    encodeResource registry options (fuel + 1) r.atUtc declared path =
      encodeResource registry options (fuel + 1) r declared path := by
  rw [encodeResource.eq_def, encodeResource.eq_def]
  simp only [Resource.fullyQualifiedType_atUtc, Resource.fullyQualifiedIdentifier?_atUtc, Resource.toUri?_atUtc,
    Resource.identifier?_atUtc, checkInstance_atUtc]
  congr 1
  funext c
  generalize hF : (fun p __s => _ :
    ResolvedProperty → List (String × Json) → Writing (ForInStep (List (String × Json)))) = F
  generalize hG : (fun p __s => _ :
    ResolvedProperty → List (String × Json) → Writing (ForInStep (List (String × Json)))) = G
  suffices hFG : F = G by rw [hFG]
  rw [← hF, ← hG]
  funext p out
  split
  · rfl
  · rw [Resource.get?_atUtc]
    cases r.get? p.name with
    | none => rfl
    | some v =>
      dsimp only [Option.map_some]
      rw [ih]

theorem encodeProperty_atUtc_step
    (ih : ∀ p v path, encodeItem registry options fuel p v.atUtc path = encodeItem registry options fuel p v path)
    (p : ResolvedProperty) (v : Value) (path : Path) :
    encodeProperty registry options (fuel + 1) p v.atUtc path = encodeProperty registry options (fuel + 1) p v path := by
  simp only [encodeProperty, ih]
  split
  · rfl
  · cases v with
    | array items =>
      simp only [Value.atUtc_array, List.zipIdx_map, List.mapM_map, Function.comp_def, Prod.map, id_eq, ih]
    | _ => rfl

theorem encodeRelationship_atUtc_step
    (ih : ∀ r d path, encodeResource registry options fuel r.atUtc d path = encodeResource registry options fuel r d path)
    (p : ResolvedProperty) (v : Value) (path : Path) :
    encodeRelationship registry options (fuel + 1) p v.atUtc path =
      encodeRelationship registry options (fuel + 1) p v path := by
  cases v with
  | concept r =>
    simp only [encodeRelationship, Value.atUtc_concept, Resource.toRelationship?_atUtc, alreadySeen_atUtc, ih]
  | _ => rfl

theorem encodeItem_atUtc_step
    (hRel : ∀ p v path, encodeRelationship registry options fuel p v.atUtc path =
      encodeRelationship registry options fuel p v path)
    (hRes : ∀ r d path, encodeResource registry options fuel r.atUtc d path = encodeResource registry options fuel r d path)
    (hMap : ∀ target entries path, encodeMap registry options fuel target (entries.map fun e => (e.1.atUtc, e.2.atUtc))
      path = encodeMap registry options fuel target entries path)
    (p : ResolvedProperty) (v : Value) (path : Path) :
    encodeItem registry options (fuel + 1) p v.atUtc path = encodeItem registry options (fuel + 1) p v path := by
  simp only [encodeItem, hRel, encodePrimitive_atUtc]
  cases v with
  | concept r => simp only [Value.atUtc_concept, alreadySeen_atUtc, hRes]
  | map entries => simp only [Value.atUtc_map, hMap]
  | _ => rfl

theorem encodeMap_atUtc_step
    (ih : ∀ p v path, encodeItem registry options fuel p v.atUtc path = encodeItem registry options fuel p v path)
    (target : String) (entries : List (Value × Value)) (path : Path) :
    encodeMap registry options (fuel + 1) target (entries.map fun e => (e.1.atUtc, e.2.atUtc)) path =
      encodeMap registry options (fuel + 1) target entries path := by
  simp only [encodeMap, List.forIn_map, encodePrimitive_atUtc, ih]

theorem encode_atUtc_fuel (fuel : Nat) :
    (∀ r d path, encodeResource registry options fuel r.atUtc d path = encodeResource registry options fuel r d path) ∧
    (∀ p v path, encodeProperty registry options fuel p v.atUtc path = encodeProperty registry options fuel p v path) ∧
    (∀ p v path, encodeItem registry options fuel p v.atUtc path = encodeItem registry options fuel p v path) ∧
    (∀ p v path, encodeRelationship registry options fuel p v.atUtc path =
      encodeRelationship registry options fuel p v path) ∧
    (∀ target entries path, encodeMap registry options fuel target (entries.map fun e => (e.1.atUtc, e.2.atUtc)) path =
      encodeMap registry options fuel target entries path) := by
  induction fuel with
  | zero => exact ⟨fun _ _ _ => rfl, fun _ _ _ => rfl, fun _ _ _ => rfl, fun _ _ _ => rfl, fun _ _ _ => rfl⟩
  | succ fuel ih =>
    obtain ⟨hRes, hProp, hItem, hRel, hMap⟩ := ih
    exact ⟨encodeResource_atUtc_step registry options hProp, encodeProperty_atUtc_step registry options hItem,
      encodeItem_atUtc_step registry options hRel hRes hMap, encodeRelationship_atUtc_step registry options hRes,
      encodeMap_atUtc_step registry options hItem⟩

/-- An instance is written as the same JSON once its DateTimes are shown in UTC. -/
theorem encode_atUtc (r : Resource) : encode registry options r.atUtc = encode registry options r := by
  rw [encode, encode, Resource.size_atUtc, (encode_atUtc_fuel registry options _).1]

end Offset

end DomainModels.Wire
