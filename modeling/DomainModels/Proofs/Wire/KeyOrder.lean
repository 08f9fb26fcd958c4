import DomainModels.Proofs.Wire.Writer
/-! A written instance opens with `$class`, then `$id` when deduplicated, then its properties in the
class's order, with no key repeated. -/

namespace DomainModels

/-- No property of a well-formed class is named `$id`. -/
theorem ResolvedClass.WellFormed.name_ne_idKey {c : ResolvedClass} (hc : c.WellFormed) {p : ResolvedProperty}
    (hp : p ∈ c.properties) : p.name ≠ Names.idKey := by
  intro h
  have hSys : Names.isSystemProperty p.name = true := h ▸ (Names.isSystemProperty_iff _).2 rfl
  rcases hc.system p hp hSys with h' | ⟨h', -⟩ <;> rw [h] at h' <;> exact absurd h' (by decide)

namespace Wire

/-- Whether the writer puts a property of the instance's class in its object: the `$identifier`
slot of a class identified by a declared field when the instance has an identifier, any other
property when the instance has a value for it. -/
def writes (c : ResolvedClass) (r : Resource) (p : ResolvedProperty) : Bool :=
  if c.passesOver p.name then r.identifier?.isSome else (r.get? p.name).isSome

/-- The keys of the object an instance of `c` is written to, in order. -/
def writtenKeys (options : EncodeOptions) (c : ResolvedClass) (r : Resource) : List String :=
  Names.classKey ::
    ((if options.deduplicateResources && r.fullyQualifiedIdentifier?.isSome && r.toUri?.isSome then
      [Names.idKey] else []) ++ (c.properties.filter (writes c r)).map (·.name))

/-- A key an object does not have yet goes last. -/
theorem fieldsInsert_of_not_mem {fs : List (String × Json)} {k : String} (h : k ∉ fs.map (·.1)) (v : Json) :
    Json.fieldsInsert fs k v = fs ++ [(k, v)] := by
  unfold Json.fieldsInsert
  rw [if_neg]
  intro hAny
  obtain ⟨e, he, hk⟩ := List.any_eq_true.1 hAny
  exact h (List.mem_map.2 ⟨e, he, beq_iff_eq.1 hk⟩)

variable (registry : Registry)

/-- A written instance of a well-formed class is an object with the keys `writtenKeys` lists. -/
theorem encodeResource_keys {options : EncodeOptions} {fuel : Nat} {r : Resource} {declared : Option String}
    {path : Path} {s s' : List String} {j : Json}
    (h : (encodeResource registry options (fuel + 1) r declared path).run s = .ok (j, s')) :
    ∃ c, registry.resolvedClass r.fullyQualifiedType = .ok c ∧
      (c.WellFormed → ∃ out, j = .object out ∧ out.map (·.1) = writtenKeys options c r) := by
  rw [encodeResource, writing_bind_eq_ok] at h
  obtain ⟨c, s₁, hc, h⟩ := h
  refine ⟨c, (writing_lift_eq_ok.1 hc).1, fun hWF => ?_⟩
  lift_lets at h
  extract_lets label out₀ cont loop afterCheck at h
  have hLoop : ∀ init s₂, (∀ e ∈ init, e.1 = Names.classKey ∨ e.1 = Names.idKey) →
      (loop () init).run s₂ = .ok (j, s') →
      ∃ out, j = .object out ∧ out.map (·.1) = init.map (·.1) ++ (c.properties.filter (writes c r)).map (·.name) := by
    intro init s₂ hInit hRun
    simp only [loop] at hRun
    obtain ⟨out, s₃, hFor, hOut⟩ := writing_bind_eq_ok.1 hRun
    cases hOut
    refine ⟨out, rfl, writing_forIn_inv c.properties _
      (fun done acc => acc.map (·.1) = init.map (·.1) ++ (done.filter (writes c r)).map (·.name)) ?_ (by simp) hFor⟩
    intro done p rest acc s₄ res s₅ hSplit hAcc hStep
    have hp : p ∈ c.properties := by rw [← hSplit]; simp
    have hFresh : p.name ∉ acc.map (·.1) := by
      rw [hAcc, List.mem_append]
      rintro (hIn | hIn)
      · obtain ⟨e, he, hName⟩ := List.mem_map.1 hIn
        rcases hInit e he with hk | hk
        · exact hWF.name_ne_classKey hp (hName ▸ hk)
        · exact hWF.name_ne_idKey hp (hName ▸ hk)
      · obtain ⟨q, hq, hName⟩ := List.mem_map.1 hIn
        exact hWF.name_ne_of_split hSplit q (List.mem_filter.1 hq).1 hName
    have hWrite : ∀ v, writes c r p = true → (Json.fieldsInsert acc p.name v).map (·.1) =
        init.map (·.1) ++ ((done ++ [p]).filter (writes c r)).map (·.name) := by
      intro v hw
      rw [fieldsInsert_of_not_mem hFresh, List.map_append, hAcc, List.filter_append, List.filter_singleton, hw]
      simp
    have hKeep : writes c r p = false →
        acc.map (·.1) = init.map (·.1) ++ ((done ++ [p]).filter (writes c r)).map (·.name) := by
      intro hw
      rw [hAcc, List.filter_append, List.filter_singleton, hw]
      simp
    by_cases hSkip : c.passesOver p.name = true
    · rw [if_pos (show (p.name == Names.identifierField && c.hasExplicitIdentifier) = true from hSkip)] at hStep
      cases hId : r.identifier? with
      | some id =>
        rw [hId] at hStep
        cases hStep
        exact ⟨_, rfl, hWrite _ (by simp [writes, hSkip, hId])⟩
      | none =>
        rw [hId] at hStep
        cases hStep
        exact ⟨_, rfl, hKeep (by simp [writes, hSkip, hId])⟩
    · rw [if_neg (show ¬ (p.name == Names.identifierField && c.hasExplicitIdentifier) = true from hSkip)] at hStep
      cases hv : r.get? p.name with
      | none =>
        rw [hv] at hStep
        dsimp only at hStep
        split at hStep
        · obtain ⟨_, _, hThrow, -⟩ := writing_bind_eq_ok.1 hStep
          cases hThrow
        · cases hStep
          exact ⟨_, rfl, hKeep (by simp [writes, hSkip, hv])⟩
      | some v =>
        rw [hv] at hStep
        obtain ⟨enc, s₆, -, hPure⟩ := writing_bind_eq_ok.1 hStep
        cases hPure
        exact ⟨_, rfl, hWrite _ (by simp [writes, hSkip, hv])⟩
  obtain ⟨s₂, h⟩ : ∃ s₂, (afterCheck ()).run s₂ = .ok (j, s') := by
    split at h
    · obtain ⟨⟨⟩, s₂, -, h⟩ := writing_bind_eq_ok.1 h
      exact ⟨s₂, h⟩
    · exact ⟨s₁, h⟩
  have hStart : ∀ e ∈ out₀, e.1 = Names.classKey ∨ e.1 = Names.idKey := by
    intro e he
    rw [List.mem_singleton.1 he]
    exact .inl rfl
  simp only [afterCheck] at h
  split at h
  · next id hId =>
    obtain ⟨⟨⟩, s₃, -, h⟩ := writing_bind_eq_ok.1 h
    split at h
    · next hDedup =>
      split at h
      · next uri hUri =>
        have hIdStart : ∀ e ∈ Json.fieldsInsert out₀ Names.idKey (.string uri),
            e.1 = Names.classKey ∨ e.1 = Names.idKey := by
          intro e he
          rcases mem_fieldsInsert he with he | rfl
          · exact hStart e he
          · exact .inr rfl
        obtain ⟨out, hj, hKeys⟩ := hLoop _ s₃ hIdStart h
        refine ⟨out, hj, ?_⟩
        rw [hKeys, writtenKeys, if_pos (by simp [hDedup, hId, hUri])]
        rfl
      · next hUri =>
        have hNoUri : r.toUri? = none := by
          cases hq : r.toUri? with
          | none => rfl
          | some uri => exact absurd hq (hUri uri)
        obtain ⟨out, hj, hKeys⟩ := hLoop _ s₃ hStart h
        refine ⟨out, hj, ?_⟩
        rw [hKeys, writtenKeys, if_neg (by simp [hNoUri])]
        rfl
    · next hDedup =>
      obtain ⟨out, hj, hKeys⟩ := hLoop _ s₃ hStart h
      refine ⟨out, hj, ?_⟩
      rw [hKeys, writtenKeys, if_neg (by simp [hDedup])]
      rfl
  · next hId =>
    have hNone : r.fullyQualifiedIdentifier? = none := by
      cases hq : r.fullyQualifiedIdentifier? with
      | none => rfl
      | some id => exact absurd hq (hId id)
    obtain ⟨out, hj, hKeys⟩ := hLoop _ s₂ hStart h
    refine ⟨out, hj, ?_⟩
    rw [hKeys, writtenKeys, if_neg (by simp [hNone])]
    rfl

/-- An instance written whole, with any options, is an object with the keys `writtenKeys` lists
when its class is well formed. -/
theorem encode_keys {options : EncodeOptions} {r : Resource} {j : Json} (h : encode registry options r = .ok j) :
    ∃ c, registry.resolvedClass r.fullyQualifiedType = .ok c ∧
      (c.WellFormed → ∃ out, j = .object out ∧ out.map (·.1) = writtenKeys options c r) := by
  have hMap : Prod.fst <$> (encodeResource registry options (4 * r.size + 4) r none Path.root).run [] = .ok j := h
  cases hRun : (encodeResource registry options (4 * r.size + 4) r none Path.root).run [] with
  | error e =>
    rw [hRun] at hMap
    cases hMap
  | ok result =>
    rw [hRun] at hMap
    cases hMap
    exact encodeResource_keys registry hRun

end Wire

end DomainModels
