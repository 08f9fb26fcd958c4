import DomainModels.Proofs.Graph.PropertyOrder
/-! In a strict index every relationship of a class, declared or inherited, and every relationship
value of a map points at a class of the index that has an identifier. -/
namespace DomainModels

open Outcome

variable {files : ModelFiles}

/-! ### Resolved relationships -/

/-- A resolved relationship points at a class the files declare. -/
theorem resolveProperty_relationship {file : ModelFile} {owner : String} {prop : Property}
    {rp : ResolvedProperty} (h : resolveProperty files file owner prop = .ok rp) (hRel : rp.isRelationship = true) :
    ∃ t c, rp.targetFqn? = some t ∧ files.lookup t = some (.cls c) := by
  have hProp := (resolveProperty_eq_ok h).1
  cases prop with
  | field f => simp [ResolvedProperty.isRelationship, hProp] at hRel
  | enumValue v => simp [ResolvedProperty.isRelationship, hProp] at hRel
  | relationship r =>
    unfold resolveProperty at h
    obtain ⟨target, -, h⟩ := bind_eq_ok.1 h
    split at h
    · next c hLookup =>
      cases h
      exact ⟨target, c, rfl, hLookup⟩
    · cases h

/-- Each declared property a class resolves is the resolution of a property under the class's
name. -/
theorem resolveOwnProperties_mem {file : ModelFile} {c : ClassDeclaration} {illegal : String → ModelError} :
    ∀ {seen : List String} {props : List Property} {own : List ResolvedProperty},
      resolveOwnProperties files file c illegal seen props = .ok own →
      ∀ p ∈ own, ∃ prop, resolveProperty files file c.fqn prop = .ok p
  | seen, [], own, h => by
    cases h
    simp
  | seen, q :: rest, own, h => by
    rw [resolveOwnProperties] at h
    dsimp only at h
    split at h
    · cases h
    split at h
    · cases h
    obtain ⟨rp, hRp, h⟩ := bind_eq_ok.1 h
    obtain ⟨ownRest, hRest, h⟩ := bind_eq_ok.1 h
    cases h
    intro p hp
    rcases List.mem_cons.1 hp with rfl | hp
    · exact ⟨q, hRp⟩
    · exact resolveOwnProperties_mem hRest p hp

/-- A system field is a field, never a relationship. -/
theorem isRelationship_of_mem_systemFields {c : ClassDeclaration} {inherited : List ResolvedProperty}
    {p : ResolvedProperty} (hp : p ∈ systemFields c inherited) : p.isRelationship = false := by
  unfold systemFields at hp
  rcases List.mem_append.1 hp with hp | hp <;> split at hp <;>
    simp_all [systemProperty, ResolvedProperty.isRelationship]

/-- A class declaration is found under every qualified name that looks it up. -/
theorem classDeclaration_of_lookup {fqn : String} {c : ClassDeclaration} (h : files.lookup fqn = some (.cls c)) :
    ∃ file, classDeclaration files fqn = .ok (file, c) := by
  unfold ModelFiles.lookup at h
  obtain ⟨⟨ns, name⟩, hSplit, h⟩ := Option.bind_eq_some_iff.1 h
  obtain ⟨file, hFile, hDecl⟩ := Option.bind_eq_some_iff.1 h
  exact ⟨file, by simp [classDeclaration, hSplit, hFile, hDecl]⟩

/-! ### Recorded classes -/

namespace Recorded

variable {L : List ResolvedClass}

/-- Every property of a recorded class is owned by a recorded class that holds it. -/
theorem mem_ownProperties (h : Recorded files L) :
    ∀ rc ∈ L, ∀ p ∈ rc.properties, ∃ q ∈ L, p ∈ q.ownProperties := by
  induction h with
  | nil => simp
  | @snoc classes rc file c _ _ _ hBuilt ih =>
    intro x hx p hp
    rcases List.mem_append.1 hx with hx | hx
    · obtain ⟨q, hq, hpq⟩ := ih x hx p hp
      exact ⟨q, List.mem_append_left _ hq, hpq⟩
    obtain rfl := List.mem_singleton.1 hx
    obtain ⟨own, hc⟩ := completeClass_eq_ok hBuilt.complete
    rw [hc.properties, List.mem_append] at hp
    rcases hp with hp | hp
    · refine ⟨x, List.mem_append_right _ (List.mem_singleton_self _), ?_⟩
      rw [ResolvedClass.ownProperties, List.mem_filter, hc.properties]
      exact ⟨List.mem_append_left _ hp, by simp [hc.owner p hp, completeClass_fqn hBuilt.complete]⟩
    · obtain ⟨q, hq, hpq⟩ := mem_inheritedFrom hp
      obtain ⟨o, ho, hpo⟩ := ih q (mem_of_parent hq).1 p hpq
      exact ⟨o, List.mem_append_left _ ho, hpo⟩

/-- Every relationship of a recorded class points at a class the files declare. -/
theorem relationship_declared (h : Recorded files L) :
    ∀ rc ∈ L, ∀ p ∈ rc.properties, p.isRelationship = true →
      ∃ t c, p.targetFqn? = some t ∧ files.lookup t = some (.cls c) := by
  refine h.forall_mem fun {classes rc _ _ _} _ ih _ _ hc => ?_
  intro p hp hRel
  obtain ⟨illegal, hOwn⟩ := hc.resolved
  rw [hc.properties, List.append_assoc, List.mem_append, List.mem_append] at hp
  rcases hp with hp | hp | hp
  · obtain ⟨prop, hRp⟩ := resolveOwnProperties_mem hOwn p hp
    exact resolveProperty_relationship hRp hRel
  · rw [isRelationship_of_mem_systemFields hp] at hRel
    cases hRel
  · obtain ⟨q, hq, hpq⟩ := mem_inheritedFrom hp
    exact ih q (mem_of_parent hq).1 p hpq hRel

end Recorded

/-! ### The relationship pass -/

/-- A relationship passes the last pass of a build when its target is not a class or has an
identifier. -/
theorem unidentifiedTarget_eq_none {classes : List ResolvedClass} {prop : Property} {t : String}
    (h : unidentifiedTarget classes prop t = none) {T : ResolvedClass} (hT : T ∈ classes) (hName : T.fqn = t) :
    ∃ T' ∈ classes, T'.fqn = t ∧ T'.identifier.isSome = true := by
  unfold unidentifiedTarget at h
  obtain ⟨T', hFound⟩ := Option.isSome_iff_exists.1
    (List.find?_isSome.2 ⟨T, hT, by simp [hName]⟩ : (classes.find? (·.fqn == t)).isSome)
  rw [hFound] at h
  dsimp only at h
  split at h
  · next hId => exact ⟨T', List.mem_of_find?_eq_some hFound, by simpa using List.find?_some hFound, hId⟩
  · cases h

/-- Without faults, every relationship a class owns and every relationship value of a map passes
the last pass. -/
theorem relationshipFaults_eq_nil {classes : List ResolvedClass} {maps : List ResolvedMap}
    (h : relationshipFaults classes maps = []) :
    (∀ q ∈ classes, ∀ p ∈ q.ownProperties, p.isRelationship = true → ∀ t, p.target = some (.declared t) →
      unidentifiedTarget classes p.property t = none) ∧
    ∀ m ∈ maps, m.value.isRelationship = true → ∀ t, m.value.target = some (.declared t) →
      unidentifiedTarget classes m.value.property t = none := by
  have hNone {x : String × ModelError} (hx : x ∈ relationshipFaults classes maps) : False := by
    rw [h] at hx
    cases hx
  unfold relationshipFaults at hNone
  simp only [List.mem_mergeSort, List.mem_append] at hNone
  refine ⟨fun q hq p hp hRel t ht => ?_, fun m hm hRel t ht => ?_⟩
  · cases hFault : unidentifiedTarget classes p.property t with
    | none => rfl
    | some e =>
      refine (hNone (.inl (List.mem_flatMap.2 ⟨q, hq, List.mem_filterMap.2 ⟨p, hp,
        (?_ : _ = some (q.fqn, e))⟩⟩))).elim
      simp [hRel, ht, hFault]
  · cases hFault : unidentifiedTarget classes m.value.property t with
    | none => rfl
    | some e =>
      refine (hNone (.inr (List.mem_filterMap.2 ⟨m, hm, (?_ : _ = some (m.fqn, e))⟩))).elim
      simp [hRel, ht, hFault]

/-- A resolved map's value is its declaration's value property, resolved under the map's name. -/
theorem resolveMap_value {file : ModelFile} {m : MapDeclaration} {r : ResolvedMap}
    (h : resolveMap files file m = .ok r) : resolveProperty files file m.fqn m.valueProperty = .ok r.value := by
  unfold resolveMap at h
  obtain ⟨key, -, h⟩ := bind_eq_ok.1 h
  dsimp only at h
  split at h
  case h_3 => exact absurd h (throw_bind_ne_ok _ _ _)
  all_goals
    obtain ⟨value, hValue, h⟩ := bind_eq_ok.1 h
    cases h
    exact hValue

/-! ### The parts of a type index -/

/-- A type index holds, of the classes resolved and of the maps resolved from the map declarations
of the files, those without a relationship fault; a strict index holds all of them, with no fault. -/
theorem build_parts {mode : BuildMode} {ix : TypeIndex} (h : TypeIndex.build files mode = .ok ix) :
    ∃ classes maps, resolveClasses files mode = .ok classes ∧
      (∀ m ∈ maps, ∃ f ∈ files.files, ∃ md, Declaration.map md ∈ f.declarations ∧ resolveMap files f md = .ok m) ∧
      ix.classes.Sublist classes ∧ ix.maps.Sublist maps ∧
      (mode = .strict → relationshipFaults classes maps = [] ∧ ix.classes = classes ∧ ix.maps = maps) ∧
      ix.order = lastPlaces (files.files.flatMap fun f =>
        f.declarations.filterMap fun d => if ix.classes.any (·.fqn == d.fqn) then some d.fqn else none) := by
  obtain ⟨classes, maps, hClasses, hResolved, hStrict, hClassesKept, hMapsKept, hOrder⟩ := build_eq_ok h
  refine ⟨classes, maps, hClasses, hResolved, hClassesKept ▸ List.filter_sublist, hMapsKept ▸ List.filter_sublist,
    ?_, hOrder⟩
  rintro rfl
  have hNil := hStrict rfl
  refine ⟨hNil, ?_, ?_⟩ <;> simp [hClassesKept, hMapsKept, hNil]

/-! ### Relationships of a strict index -/

section Strict

variable {ix : TypeIndex}

/-- A class the files declare is a class of their strict index. -/
theorem TypeIndex.mem_of_lookup_strict (hwf : files.WellFormed) (hix : TypeIndex.build files .strict = .ok ix)
    {t : String} {c : ClassDeclaration} (h : files.lookup t = some (.cls c)) : ∃ T ∈ ix.classes, T.fqn = t := by
  obtain ⟨file, hDecl⟩ := classDeclaration_of_lookup h
  obtain ⟨hFile, hMem⟩ := classDeclaration_mem hwf hDecl
  obtain ⟨T, hT, hName⟩ := (build_strict_recorded hwf hix).2 file hFile c hMem
  exact ⟨T, hT, hName.trans (classDeclaration_fqn hwf hDecl)⟩

/-- A relationship that points at a class the files declare and passes the last pass of a strict
build points at an identified class of the index. -/
theorem TypeIndex.identified_of_passed (hwf : files.WellFormed) (hix : TypeIndex.build files .strict = .ok ix)
    {p : ResolvedProperty} {t : String} {c : ClassDeclaration} (hTarget : p.targetFqn? = some t)
    (hLookup : files.lookup t = some (.cls c)) (hPassed : unidentifiedTarget ix.classes p.property t = none) :
    ∃ T ∈ ix.classes, p.targetFqn? = some T.fqn ∧ T.identifier.isSome = true := by
  obtain ⟨T, hT, hName⟩ := TypeIndex.mem_of_lookup_strict hwf hix hLookup
  obtain ⟨T', hT', hName', hId⟩ := unidentifiedTarget_eq_none hPassed hT hName
  exact ⟨T', hT', hTarget.trans (congrArg some hName'.symm), hId⟩

/-- A property points at a declared class only through a resolved target. -/
theorem ResolvedProperty.target_of_targetFqn? {p : ResolvedProperty} {t : String} (h : p.targetFqn? = some t) :
    p.target = some (.declared t) := by
  unfold ResolvedProperty.targetFqn? at h
  split at h
  · cases h
    assumption
  · cases h

/-- Relationships point at identified classes. In the strict index of well-formed files, every
relationship of a class, declared by it or inherited, and every relationship value of a map
points at a class of the index whose identifier is set. -/
theorem relationships_target_identified_classes (hwf : files.WellFormed)
    (hix : TypeIndex.build files .strict = .ok ix) :
    (∀ rc ∈ ix.classes, ∀ p ∈ rc.properties, p.isRelationship = true →
      ∃ T ∈ ix.classes, p.targetFqn? = some T.fqn ∧ T.identifier.isSome = true) ∧
    ∀ m ∈ ix.maps, m.value.isRelationship = true →
      ∃ T ∈ ix.classes, m.value.targetFqn? = some T.fqn ∧ T.identifier.isSome = true := by
  have hRec := (build_strict_recorded hwf hix).1
  obtain ⟨classes, maps, -, hMaps, -, -, hStrict, -⟩ := build_parts hix
  obtain ⟨hNil, hClasses, hIxMaps⟩ := hStrict rfl
  rw [← hClasses, ← hIxMaps] at hNil
  obtain ⟨hOwned, hValues⟩ := relationshipFaults_eq_nil hNil
  refine ⟨fun rc hrc p hp hRel => ?_, fun m hm hRel => ?_⟩
  · obtain ⟨t, c, hTarget, hLookup⟩ := hRec.relationship_declared rc hrc p hp hRel
    obtain ⟨q, hq, hpq⟩ := hRec.mem_ownProperties rc hrc p hp
    exact TypeIndex.identified_of_passed hwf hix hTarget hLookup
      (hOwned q hq p hpq hRel t (ResolvedProperty.target_of_targetFqn? hTarget))
  · obtain ⟨f, -, md, -, hResolve⟩ := hMaps m (hIxMaps ▸ hm)
    obtain ⟨t, c, hTarget, hLookup⟩ := resolveProperty_relationship (resolveMap_value hResolve) hRel
    exact TypeIndex.identified_of_passed hwf hix hTarget hLookup
      (hValues _ hm hRel t (ResolvedProperty.target_of_targetFqn? hTarget))

/-- In the zoo, `Keeper` and `Feed` hold relationships to animals and the map `Rota` holds them
as values; each targets a class of the index with an identifier. -/
theorem zoo_relationships_target_identified_classes :
    ((∀ rc ∈ zooIndex.classes, ∀ p ∈ rc.properties, p.isRelationship = true →
        ∃ T ∈ zooIndex.classes, p.targetFqn? = some T.fqn ∧ T.identifier.isSome = true) ∧
      ∀ m ∈ zooIndex.maps, m.value.isRelationship = true →
        ∃ T ∈ zooIndex.classes, m.value.targetFqn? = some T.fqn ∧ T.identifier.isSome = true) ∧
      (zooIndex.classes.flatMap fun rc => (rc.properties.filter (·.isRelationship)).map fun p => (rc.name, p.targetFqn?)) =
        [("Keeper", some "org.zoo@1.0.0.Animal"), ("Feed", some "org.zoo@1.0.0.Animal")] ∧
      (zooIndex.maps.filter (·.value.isRelationship)).map (·.value.targetFqn?) = [some "org.zoo@1.0.0.Animal"] :=
  ⟨relationships_target_identified_classes ModelFiles.wellFormed_zooFiles zoo_files_build_strict,
    by decide +kernel, by decide +kernel⟩

end Strict

end DomainModels
