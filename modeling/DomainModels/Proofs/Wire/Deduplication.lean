import DomainModels.Proofs.Wire.ReadBack
/-! With deduplication on, the writer writes each identified instance out once, by a record of
identities closed under binding and loops (`KeepsDistinct`). -/
namespace DomainModels

/-- An instance with no identity, or whose identity the record does not hold. -/
def Resource.FreshIn (r : Resource) (s : List String) : Prop :=
  ∀ id, r.fullyQualifiedIdentifier? = some id → id ∉ s

theorem Resource.toUri?_eq_none_iff (r : Resource) :
    r.toUri? = none ↔ r.fullyQualifiedIdentifier? = none := by
  simp [Resource.toUri?, Resource.toRelationship?, Resource.fullyQualifiedIdentifier?]

namespace Wire

variable {α β : Type}

/-- A computation of the writer that, run from a record without repeats, ends with one when
it succeeds. -/
def KeepsDistinct (x : Writing α) : Prop :=
  ∀ s a s', s.Nodup → x.run s = .ok (a, s') → s'.Nodup

theorem keepsDistinct_pure (a : α) : KeepsDistinct (pure a : Writing α) := by
  intro s b s' hs h
  cases h
  exact hs

theorem keepsDistinct_throw (e : ModelError) : KeepsDistinct (throw e : Writing α) := by
  intro s b s' _ h
  cases h

theorem keepsDistinct_throw_bind (e : ModelError) (f : α → Writing β) : KeepsDistinct (throw e >>= f) := by
  intro s b s' _ h
  cases h

theorem keepsDistinct_lift (x : Outcome α) : KeepsDistinct (Writing.lift x) := by
  intro s a s' hs h
  rw [(writing_lift_eq_ok.mp h).2]
  exact hs

theorem KeepsDistinct.bind {x : Writing α} {f : α → Writing β} (hx : KeepsDistinct x)
    (hf : ∀ a, KeepsDistinct (f a)) : KeepsDistinct (x >>= f) := by
  intro s b s' hs h
  obtain ⟨a, s₁, ha, hb⟩ := writing_bind_eq_ok.mp h
  exact hf a s₁ b s' (hx s a s₁ hs ha) hb

theorem keepsDistinct_forIn {f : α → β → Writing (ForInStep β)} (hf : ∀ a b, KeepsDistinct (f a b)) :
    ∀ (l : List α) (b : β), KeepsDistinct (forIn l b f)
  | [], b => keepsDistinct_pure b
  | a :: l, b => by
    rw [List.forIn_cons]
    refine (hf a b).bind fun step => ?_
    cases step with
    | done b' => exact keepsDistinct_pure b'
    | yield b' => exact keepsDistinct_forIn hf l b'

theorem keepsDistinct_mapM {f : α → Writing β} (hf : ∀ a, KeepsDistinct (f a)) :
    ∀ l : List α, KeepsDistinct (l.mapM f)
  | [] => keepsDistinct_pure []
  | a :: l => by
    rw [List.mapM_cons]
    exact (hf a).bind fun b => (keepsDistinct_mapM hf l).bind fun bs => keepsDistinct_pure (b :: bs)

/-- A check, made or not, before `k` leaves the record to `k`. -/
theorem writing_check_then_run {c : Bool} {x : Outcome Unit} {k : Writing α} {s s' : List String} {a : α}
    (h : (if c = true then Writing.lift x >>= fun _ => k else k).run s = .ok (a, s')) :
    k.run s = .ok (a, s') := by
  split at h
  · obtain ⟨_, s₁, hx, h⟩ := writing_bind_eq_ok.mp h
    rwa [(writing_lift_eq_ok.mp hx).2] at h
  · exact h

/-- Looking an instance up leaves the record; it finds the instance exactly when its identity
is recorded, and answers the instance's own URI. -/
theorem alreadySeen_eq_ok {r : Resource} {s s' : List String} {o : Option String}
    (h : (alreadySeen r).run s = .ok (o, s')) :
    s' = s ∧ (o = none ↔ r.FreshIn s) ∧ ∀ uri, o = some uri → r.toUri? = some uri := by
  obtain ⟨seen, s₁, hGet, h⟩ := writing_bind_eq_ok.mp h
  cases hGet
  cases hId : r.fullyQualifiedIdentifier? with
  | none =>
    simp only [hId] at h
    cases h
    refine ⟨rfl, iff_of_true rfl fun id hId' => ?_, fun _ h => ?_⟩
    · cases hId.symm.trans hId'
    · cases h
  | some id =>
    simp only [hId] at h
    cases h
    have hUri : r.toUri? ≠ none := by simp [Resource.toUri?_eq_none_iff, hId]
    refine ⟨rfl, ?_, fun uri h => ?_⟩
    · by_cases hMem : id ∈ s
      · simp [hMem, hUri, Resource.FreshIn, hId]
      · simp [hMem, Resource.FreshIn, hId]
    · by_cases hMem : id ∈ s
      · simpa [hMem] using h
      · simp [hMem] at h

/-- Looking an instance up, then going on from what was found: from its URI when it is
recorded, and otherwise from a record it is fresh for. -/
theorem keepsDistinct_alreadySeen_bind {r : Resource} {f : Option String → Writing β}
    (hSeen : ∀ uri, r.toUri? = some uri → KeepsDistinct (f (some uri)))
    (hFresh : ∀ s b s', s.Nodup → r.FreshIn s → (f none).run s = .ok (b, s') → s'.Nodup) :
    KeepsDistinct (alreadySeen r >>= f) := by
  intro s b s' hs h
  rw [writing_bind_eq_ok] at h
  obtain ⟨o, s₁, hLook, h⟩ := h
  obtain ⟨hs₁, hNone, hUri⟩ := alreadySeen_eq_ok hLook
  rw [hs₁] at h
  cases o with
  | none => exact hFresh s b s' hs (hNone.mp rfl) h
  | some uri => exact hSeen uri (hUri uri rfl) s b s' hs h

section Steps

variable (registry : Registry) (options : EncodeOptions) {fuel : Nat}

/-- Writing out an instance the record does not hold: the class check reads nothing, the
identity joins the record, and the properties keep it free of repeats. -/
theorem encodeResource_keepsDistinct_step
    (hProp : ∀ p v path, KeepsDistinct (encodeProperty registry options fuel p v path))
    {r : Resource} {declared : Option String} {path : Path} {s s' : List String} {j : Json}
    (hs : s.Nodup) (hFresh : r.FreshIn s)
    (h : (encodeResource registry options (fuel + 1) r declared path).run s = .ok (j, s')) : s'.Nodup := by
  rw [encodeResource] at h
  dsimp only at h
  rw [writing_bind_eq_ok] at h
  obtain ⟨c, s₁, hc, h⟩ := h
  rw [(writing_lift_eq_ok.mp hc).2] at h
  replace h := writing_check_then_run h
  generalize hF : (fun p __s => _ :
    ResolvedProperty → List (String × Json) → Writing (ForInStep (List (String × Json)))) = F at h
  have hLoop : ∀ init, KeepsDistinct (forIn c.properties init F >>= fun out => pure (Json.object out)) := by
    subst hF
    intro init
    refine (keepsDistinct_forIn (fun p out => ?_) _ _).bind fun out => keepsDistinct_pure _
    split
    · split <;> exact keepsDistinct_pure _
    · split
      · split
        · exact keepsDistinct_throw_bind _ _
        · exact keepsDistinct_pure _
      · exact (hProp _ _ _).bind fun _ => keepsDistinct_pure _
  split at h
  · next id hId =>
    rw [writing_bind_eq_ok] at h
    obtain ⟨⟨⟩, s₂, hRecord, h⟩ := h
    rw [StateT.run_modify] at hRecord
    cases hRecord
    have hs₂ : (s ++ [id]).Nodup := by
      rw [← List.concat_eq_append]
      exact hs.concat (hFresh id hId)
    split at h
    · split at h <;> exact hLoop _ _ j s' hs₂ h
    · exact hLoop _ _ j s' hs₂ h
  · exact hLoop _ s j s' hs h

theorem encodeProperty_keepsDistinct_step
    (hItem : ∀ p v path, KeepsDistinct (encodeItem registry options fuel p v path))
    (p : ResolvedProperty) (v : Value) (path : Path) :
    KeepsDistinct (encodeProperty registry options (fuel + 1) p v path) := by
  rw [encodeProperty.eq_def]
  dsimp only
  split
  · exact hItem p v path
  · cases v with
    | array items => exact (keepsDistinct_mapM (fun _ => hItem _ _ _) _).bind fun _ => keepsDistinct_pure _
    | _ => exact keepsDistinct_throw _

theorem encodeRelationship_keepsDistinct_step
    (hRes : ∀ r d path s j s', s.Nodup → r.FreshIn s →
      (encodeResource registry options fuel r d path).run s = .ok (j, s') → s'.Nodup)
    (p : ResolvedProperty) (v : Value) (path : Path) :
    KeepsDistinct (encodeRelationship registry options (fuel + 1) p v path) := by
  rw [encodeRelationship.eq_def]
  dsimp only
  split
  · split
    · exact keepsDistinct_throw_bind _ _
    · exact keepsDistinct_pure _
  · next r =>
    split
    · split
      · exact keepsDistinct_pure _
      · exact keepsDistinct_throw_bind _ _
    · split
      · exact keepsDistinct_throw_bind _ _
      · refine keepsDistinct_alreadySeen_bind (fun uri hUri => ?_) fun s j s' hs hFresh h => ?_
        · simp only [Resource.toUri?, Option.map_eq_some_iff] at hUri
          obtain ⟨rel, hRel, -⟩ := hUri
          simp only [Option.isSome_some, if_true, hRel]
          exact keepsDistinct_pure _
        · simp only [Option.isSome_none, Bool.false_eq_true, if_false] at h
          exact hRes _ _ _ s j s' hs hFresh h
  · exact keepsDistinct_throw _

theorem encodeMap_keepsDistinct_step
    (hItem : ∀ p v path, KeepsDistinct (encodeItem registry options fuel p v path))
    (target : String) (entries : List (Value × Value)) (path : Path) :
    KeepsDistinct (encodeMap registry options (fuel + 1) target entries path) := by
  rw [encodeMap.eq_def]
  dsimp only
  refine (keepsDistinct_lift _).bind fun m => ?_
  split
  · split
    · refine (keepsDistinct_forIn (fun e out => ?_) _ _).bind fun _ => keepsDistinct_pure _
      refine (keepsDistinct_lift _).bind fun key => ?_
      split
      · exact (hItem _ _ _).bind fun _ => keepsDistinct_pure _
      · exact keepsDistinct_throw_bind _ _
    · exact keepsDistinct_throw _
  · exact keepsDistinct_throw _

theorem encodeItem_keepsDistinct_step (hDedup : options.deduplicateResources = true)
    (hRes : ∀ r d path s j s', s.Nodup → r.FreshIn s →
      (encodeResource registry options fuel r d path).run s = .ok (j, s') → s'.Nodup)
    (hRel : ∀ p v path, KeepsDistinct (encodeRelationship registry options fuel p v path))
    (hMap : ∀ target entries path, KeepsDistinct (encodeMap registry options fuel target entries path))
    (p : ResolvedProperty) (v : Value) (path : Path) :
    KeepsDistinct (encodeItem registry options (fuel + 1) p v path) := by
  rw [encodeItem.eq_def]
  dsimp only
  simp only [hDedup, if_true]
  split
  · exact hRel p v path
  split
  on_goal 1 =>
    split
    on_goal 1 => exact keepsDistinct_lift _
  all_goals
    split
    · refine (keepsDistinct_lift _).bind fun d => ?_
      split
      · split
        · exact keepsDistinct_alreadySeen_bind (fun _ _ => keepsDistinct_pure _)
            fun s j s' hs hFresh h => hRes _ _ _ s j s' hs hFresh h
        · exact keepsDistinct_throw _
      · split
        case h_3 => exact keepsDistinct_throw_bind _ _
        all_goals
          refine (keepsDistinct_pure _).bind fun name => ?_
          split
          · exact keepsDistinct_throw_bind _ _
          · exact keepsDistinct_pure _
      · split
        · exact hMap _ _ _
        · exact keepsDistinct_throw _
      · exact keepsDistinct_throw _
    · exact keepsDistinct_throw _

/-- With deduplication on, at every fuel: writing out an instance the record does not hold,
and writing a property, an item, a relationship or a map, keep the record free of repeats. -/
theorem keepsDistinct_fuel (hDedup : options.deduplicateResources = true) (fuel : Nat) :
    (∀ r d path s j s', s.Nodup → r.FreshIn s →
      (encodeResource registry options fuel r d path).run s = .ok (j, s') → s'.Nodup) ∧
    (∀ p v path, KeepsDistinct (encodeProperty registry options fuel p v path)) ∧
    (∀ p v path, KeepsDistinct (encodeItem registry options fuel p v path)) ∧
    (∀ p v path, KeepsDistinct (encodeRelationship registry options fuel p v path)) ∧
    (∀ target entries path, KeepsDistinct (encodeMap registry options fuel target entries path)) := by
  induction fuel with
  | zero =>
    exact ⟨fun _ _ _ _ _ _ _ _ h => (by cases h), fun _ _ _ => keepsDistinct_throw _,
      fun _ _ _ => keepsDistinct_throw _, fun _ _ _ => keepsDistinct_throw _, fun _ _ _ => keepsDistinct_throw _⟩
  | succ fuel ih =>
    obtain ⟨hRes, hProp, hItem, hRel, hMap⟩ := ih
    exact ⟨fun _ _ _ _ _ _ hs hFresh h => encodeResource_keepsDistinct_step registry options hProp hs hFresh h,
      encodeProperty_keepsDistinct_step registry options hItem,
      encodeItem_keepsDistinct_step registry options hDedup hRes hRel hMap,
      encodeRelationship_keepsDistinct_step registry options hRes,
      encodeMap_keepsDistinct_step registry options hItem⟩

end Steps

/-- With deduplication on, a write that succeeds writes out each identified instance once:
the identities it recorded, one as it started to write out each instance, are all
different. -/
theorem deduplication_writes_each_instance_once {registry : Registry} {options : EncodeOptions}
    (hDedup : options.deduplicateResources = true) {r : Resource} {j : Json}
    (h : encode registry options r = .ok j) :
    ∃ seen, (encodeResource registry options (4 * r.size + 4) r none Path.root).run [] = .ok (j, seen) ∧
      seen.Nodup := by
  rw [encode, StateT.run'_eq] at h
  cases hRun : (encodeResource registry options (4 * r.size + 4) r none Path.root).run [] with
  | error e =>
    rw [hRun] at h
    cases h
  | ok res =>
    obtain ⟨j', seen⟩ := res
    rw [hRun] at h
    cases h
    refine ⟨seen, rfl, (keepsDistinct_fuel registry options hDedup _).1 r none Path.root [] _ seen
      List.nodup_nil (fun _ _ h => List.not_mem_nil h) hRun⟩

/-- An identified class, `Car`, whose relationship `twin` points to a car. -/
def twinClass : ResolvedClass where
  fqn := "org.x@1.0.0.Car"
  name := "Car"
  ns := "org.x@1.0.0"
  kind := .asset
  isAbstract := false
  superType := none
  properties := [⟨.relationship ⟨"twin", ⟨"Car", none⟩, false, false, [], none⟩, "org.x@1.0.0.Car",
    some (.declared "org.x@1.0.0.Car"), none⟩]
  identifier := some "vin"
  identifierOwner := some "org.x@1.0.0.Car"
  decorators := []

/-- A registry whose index holds `Car` only. -/
def twinRegistry : Registry := ⟨{}, { classes := [twinClass] }, []⟩

/-- Car `1`, embedding itself as its twin. -/
def selfTwinCar : Resource :=
  .mk "org.x@1.0.0" "Car" (some "vin")
    [("twin", .concept (.mk "org.x@1.0.0" "Car" (some "vin") [("vin", .string "1")])), ("vin", .string "1")]

/-- The twin, the car being written already, is written as its URI. -/
theorem self_twin_written_once :
    ∃ seen, (encodeResource twinRegistry
        { deduplicateResources := true, permitResourcesForRelationships := true, validate := false }
        (4 * selfTwinCar.size + 4) selfTwinCar none Path.root).run [] =
      .ok (.object [(Names.classKey, .string "org.x@1.0.0.Car"), (Names.idKey, .string "resource:org.x@1.0.0.Car#1"),
        ("twin", .string "resource:org.x@1.0.0.Car#1")], seen) ∧ seen.Nodup :=
  deduplication_writes_each_instance_once rfl (by cbv)

end Wire

end DomainModels
