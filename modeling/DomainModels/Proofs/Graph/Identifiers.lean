import DomainModels.Proofs.Graph.PropertyOrder
/-! The identifier of a class in a strict index is the one its nearest choosing class made; it names
exactly one property, and below the root types at most one class chooses. -/

namespace DomainModels

open Outcome

/-- The identifier a class declaration chooses: `$identifier` when it is identified by the
system, the field it names otherwise; none when it chooses none. -/
def ClassDeclaration.declaredIdentifier (c : ClassDeclaration) : Option String :=
  match c.identified with
  | some .system => some Names.identifierField
  | some (.byField n) => some n
  | none => none

/-- `x` has identifier `id?`, chosen by the class `owner?`, along its supertype chain in `ix`: the
choice of the first class on the chain, `x` itself first, whose declaration makes one; none when
no class on the chain does. -/
inductive ChosenIdentifier (files : ModelFiles) (ix : TypeIndex) : String → Option String → Option String → Prop
  | declared {x : String} {file : ModelFile} {c : ClassDeclaration} {id : String} :
      classDeclaration files x = .ok (file, c) → c.declaredIdentifier = some id →
      ChosenIdentifier files ix x (some id) (some x)
  | inherited {x y : String} {file : ModelFile} {c : ClassDeclaration} {id? owner? : Option String} :
      classDeclaration files x = .ok (file, c) → c.declaredIdentifier = none → ix.parent? x = some y →
      ChosenIdentifier files ix y id? owner? → ChosenIdentifier files ix x id? owner?
  | unidentified {x : String} {file : ModelFile} {c : ClassDeclaration} :
      classDeclaration files x = .ok (file, c) → c.declaredIdentifier = none → ix.parent? x = none →
      ChosenIdentifier files ix x none none

/-- A class outside the root namespace whose declaration chooses an identifier. -/
def ModelFiles.ChoosesIdentifier (files : ModelFiles) (x : String) : Prop :=
  ∃ file c, classDeclaration files x = .ok (file, c) ∧ c.identified ≠ none ∧ c.ns ≠ Names.rootNamespace

theorem declaredIdentifier_eq_none {c : ClassDeclaration} : c.declaredIdentifier = none ↔ c.identified = none := by
  unfold ClassDeclaration.declaredIdentifier
  split <;> simp_all

section Checks

variable {c : ClassDeclaration} {illegal : String → ModelError}

/-- A class identified by a field has a property of that name whose field is a required single
String. -/
theorem checkIdentifyingField_eq_ok {props : List ResolvedProperty} {n : String}
    (hId : c.identified = some (.byField n)) (h : checkIdentifyingField c props illegal = .ok ()) :
    ∃ p ∈ props, p.name = n ∧ ∃ field, p.effectiveField? = some field ∧ field.primitive? = some .string ∧
      field.isOptional = false ∧ field.isArray = false := by
  unfold checkIdentifyingField at h
  rw [hId] at h
  dsimp only at h
  cases hFind : props.find? (·.name == n) with
  | none =>
    rw [hFind] at h
    cases h
  | some prop =>
    rw [hFind] at h
    dsimp only at h
    cases hField : prop.effectiveField?.filter (·.primitive? == some .string) with
    | none =>
      rw [hField] at h
      cases h
    | some field =>
      rw [hField] at h
      dsimp only at h
      have hOpt : field.isOptional = false := by
        cases hO : field.isOptional
        · rfl
        · rw [hO, if_pos rfl] at h
          cases h
      rw [hOpt, if_neg Bool.false_ne_true] at h
      have hArr : field.isArray = false := by
        cases hA : field.isArray
        · rfl
        · rw [hA, if_pos rfl] at h
          cases h
      have hSelected := List.find?_some hFind
      obtain ⟨hEff, hPrim⟩ := Option.filter_eq_some_iff.1 hField
      exact ⟨prop, List.mem_of_find?_eq_some hFind, beq_iff_eq.1 hSelected, field, hEff, by simpa using hPrim,
        hOpt, hArr⟩

/-- A class that chooses an identifier over an inherited one inherits it from a root type. -/
theorem checkIdentifierOverride_eq_ok {owner : String} (hId : c.identified ≠ none)
    (h : checkIdentifierOverride c (some owner) illegal = .ok ()) : Names.isRootType owner = true := by
  unfold checkIdentifierOverride at h
  cases hc : c.identified with
  | none => exact absurd hc hId
  | some i =>
    rw [hc] at h
    dsimp only at h
    split at h
    · assumption
    · cases h

end Checks

/-- A class declared outside the root namespace is not a root type. -/
theorem isRootType_of_classDeclaration {files : ModelFiles} (hwf : files.WellFormed) {x : String} {file : ModelFile}
    {c : ClassDeclaration} (h : classDeclaration files x = .ok (file, c)) (hns : c.ns ≠ Names.rootNamespace) :
    Names.isRootType x = false := by
  unfold classDeclaration at h
  split at h
  · cases h
  · next ns name hSplit =>
    split at h
    · cases h
    · next f hFile =>
      split at h
      · next c' hDecl =>
        cases h
        obtain ⟨hMem, hNs⟩ := hwf.of_get? hFile
        have hcNs : c.ns = ns := ((hwf.of_mem_files hMem).1.declarations_ns _ (List.mem_of_find?_eq_some hDecl)).trans hNs
        simp [Names.isRootType, hSplit, ← hcNs, hns]
      · cases h
      · cases h

/-- The system field named `$identifier` is the synthetic String field of the class. -/
theorem mem_systemFields_identifierField {c : ClassDeclaration} {inherited : List ResolvedProperty}
    {p : ResolvedProperty} (hp : p ∈ systemFields c inherited) (hName : p.name = Names.identifierField) :
    p = systemProperty Names.identifierField .string c.fqn := by
  unfold systemFields at hp
  rcases List.mem_append.1 hp with hp | hp
  · split at hp
    · exact List.mem_singleton.1 hp
    · cases hp
  · split at hp
    · rw [List.mem_singleton.1 hp] at hName
      simp [systemProperty, ResolvedProperty.name, Property.name, Field.synthetic, Names.timestampField,
        Names.identifierField] at hName
    · cases hp

section Completion

variable {files : ModelFiles} {file : ModelFile} {c : ClassDeclaration} {parent : Option ResolvedClass}
  {rc : ResolvedClass} {own : List ResolvedProperty}

theorem Completion.identifier_of_declared (hc : Completion files file c parent rc own) {id : String}
    (h : c.declaredIdentifier = some id) : rc.identifier = some id ∧ rc.identifierOwner = some c.fqn := by
  have hPair := hc.identifier
  unfold ClassDeclaration.declaredIdentifier at h
  split at h
  · next hId =>
    cases h
    rw [hId, Prod.mk.injEq] at hPair
    exact hPair
  · next n hId =>
    cases h
    rw [hId, Prod.mk.injEq] at hPair
    exact hPair
  · cases h

theorem Completion.identifier_of_none (hc : Completion files file c parent rc own)
    (h : c.declaredIdentifier = none) :
    rc.identifier = parent.bind (·.identifier) ∧ rc.identifierOwner = parent.bind (·.identifierOwner) := by
  have hPair := hc.identifier
  unfold ClassDeclaration.declaredIdentifier at h
  split at h
  · cases h
  · cases h
  · next hId =>
    rw [hId, Prod.mk.injEq] at hPair
    exact hPair

/-- A class identified by the system holds a property named `$identifier`: its own system field,
or one it inherits. -/
theorem Completion.mem_identifierField (hc : Completion files file c parent rc own)
    (h : c.identified = some .system) : ∃ p ∈ rc.properties, p.name = Names.identifierField := by
  rw [hc.properties]
  by_cases hInherits : (inheritedFrom parent).any (·.name == Names.identifierField) = true
  · obtain ⟨p, hp, hName⟩ := List.any_eq_true.1 hInherits
    exact ⟨p, List.mem_append_right _ hp, beq_iff_eq.1 hName⟩
  · refine ⟨systemProperty Names.identifierField .string c.fqn, List.mem_append_left _ (List.mem_append_right _ ?_), rfl⟩
    unfold systemFields
    rw [if_pos (by simp only [h, Bool.and_eq_true]; exact ⟨rfl, by simpa using hInherits⟩)]
    exact List.mem_append_left _ (List.mem_singleton_self _)

end Completion

namespace Recorded

variable {files : ModelFiles} {L : List ResolvedClass}

/-- A property named `$identifier` of a recorded class is the synthetic String field some class
introduced. -/
theorem identifierField (hwf : files.WellFormed) (h : Recorded files L) :
    ∀ rc ∈ L, ∀ p ∈ rc.properties, p.name = Names.identifierField →
      p.effectiveField? = some (Field.synthetic Names.identifierField (.primitive .string)) := by
  refine h.forall_mem fun _ ih hDecl _ hc => ?_
  intro p hp hName
  obtain ⟨illegal, hOwn⟩ := hc.resolved
  rw [hc.properties, List.append_assoc, List.mem_append, List.mem_append] at hp
  rcases hp with hp | hp | hp
  · have hPlain := own_plain hwf hDecl hOwn p hp
    rw [hName, Names.isSystemProperty_identifierField] at hPlain
    cases hPlain
  · rw [mem_systemFields_identifierField hp hName]
    rfl
  · obtain ⟨q, hq, hpq⟩ := mem_inheritedFrom hp
    exact ih q (mem_of_parent hq).1 p hpq hName

end Recorded

/-! ### Along the chain of a strict index -/

section Index

variable {files : ModelFiles} {ix : TypeIndex}

/-- A class of a recorded index was completed from its declaration with the class of the index
under its supertype's name, which the index holds. -/
theorem TypeIndex.completion_of_mem (hRec : Recorded files ix.classes) {rc : ResolvedClass} (hrc : rc ∈ ix.classes) :
    ∃ file c own, classDeclaration files rc.fqn = .ok (file, c) ∧
      Completion files file c (rc.superType.bind ix.class?) rc own ∧ rc.ns = c.ns ∧
      ix.parent? rc.fqn = rc.superType ∧ ∀ s, rc.superType = some s → ∃ q ∈ ix.classes, q.fqn = s ∧ ix.class? s = some q := by
  obtain ⟨file, c, hDecl, hBuilt⟩ := hRec.classBuilt hrc
  obtain ⟨own, hc⟩ := completeClass_eq_ok hBuilt.complete
  refine ⟨file, c, own, hDecl, hc, (completeClass_header hBuilt.complete).1, ?_, ?_⟩
  · rw [TypeIndex.parent?, TypeIndex.class?_eq_of_mem hRec.nodup hrc]
    rfl
  · intro s hs
    obtain ⟨q, hq, rfl⟩ := hBuilt.superRecorded s hs
    exact ⟨q, hq, rfl, TypeIndex.class?_eq_of_mem hRec.nodup hq⟩

variable (hwf : files.WellFormed) (hRec : Recorded files ix.classes)
include hwf hRec

/-- The identifier of a class of the index is that of the first class on its chain whose
declaration chooses one. -/
theorem TypeIndex.chosenIdentifier :
    ∀ rc ∈ ix.classes, ChosenIdentifier files ix rc.fqn rc.identifier rc.identifierOwner := by
  refine TypeIndex.forall_mem_of_step hRec fun rc hrc ih => ?_
  obtain ⟨file, c, own, hDecl, hc, -, hParent, hSuper⟩ := TypeIndex.completion_of_mem hRec hrc
  cases hDeclared : c.declaredIdentifier with
  | some id =>
    obtain ⟨hId, hOwner⟩ := hc.identifier_of_declared hDeclared
    rw [hId, hOwner, classDeclaration_fqn hwf hDecl]
    exact .declared hDecl hDeclared
  | none =>
    obtain ⟨hId, hOwner⟩ := hc.identifier_of_none hDeclared
    cases hs : rc.superType with
    | none =>
      rw [hId, hOwner, hs]
      exact .unidentified hDecl hDeclared (hParent.trans hs)
    | some s =>
      obtain ⟨q, hq, rfl, hClass⟩ := hSuper s hs
      rw [hId, hOwner, hs, Option.bind_some, hClass, Option.bind_some, Option.bind_some]
      exact .inherited hDecl hDeclared (hParent.trans hs) (ih q hq hs)

/-- The identifier of a class of the index names a property of it whose field is a required
single String. -/
theorem TypeIndex.identifier_property :
    ∀ rc ∈ ix.classes, ∀ n, rc.identifier = some n → ∃ p ∈ rc.properties, p.name = n ∧
      ∃ field, p.effectiveField? = some field ∧ field.primitive? = some .string ∧ field.isOptional = false ∧
        field.isArray = false := by
  refine TypeIndex.forall_mem_of_step hRec fun rc hrc ih => ?_
  intro n hn
  obtain ⟨file, c, own, hDecl, hc, -, -, hSuper⟩ := TypeIndex.completion_of_mem hRec hrc
  cases hIdentified : c.identified with
  | none =>
    obtain ⟨hId, -⟩ := hc.identifier_of_none (by simp [ClassDeclaration.declaredIdentifier, hIdentified])
    cases hs : rc.superType with
    | none =>
      rw [hId, hs] at hn
      cases hn
    | some s =>
      obtain ⟨q, hq, rfl, hClass⟩ := hSuper s hs
      rw [hId, hs, Option.bind_some, hClass, Option.bind_some] at hn
      obtain ⟨p, hp, hName, hField⟩ := ih q hq hs n hn
      refine ⟨p, ?_, hName, hField⟩
      rw [hc.properties, hs, Option.bind_some, hClass]
      exact List.mem_append_right _ hp
  | some i =>
    cases i with
    | system =>
      obtain ⟨hId, -⟩ := hc.identifier_of_declared
        (by simp [ClassDeclaration.declaredIdentifier, hIdentified] : c.declaredIdentifier = some Names.identifierField)
      rw [hId] at hn
      cases hn
      obtain ⟨p, hp, hName⟩ := hc.mem_identifierField hIdentified
      exact ⟨p, hp, hName, _, hRec.identifierField hwf rc hrc p hp hName, rfl, rfl, rfl⟩
    | byField m =>
      obtain ⟨hId, -⟩ := hc.identifier_of_declared
        (by simp [ClassDeclaration.declaredIdentifier, hIdentified] : c.declaredIdentifier = some m)
      rw [hId] at hn
      cases hn
      obtain ⟨illegal, hField⟩ := hc.identifyingField
      exact checkIdentifyingField_eq_ok hIdentified hField

/-- When a class outside the root namespace on the chain of a class chooses an identifier, the
class that chose the identifier of the class is not a root type. -/
theorem TypeIndex.identifierOwner_not_root :
    ∀ rc ∈ ix.classes, (∃ k z, ix.ancestor? k rc.fqn = some z ∧ files.ChoosesIdentifier z) →
      ∃ w, rc.identifierOwner = some w ∧ Names.isRootType w = false := by
  refine TypeIndex.forall_mem_of_step hRec fun rc hrc ih => ?_
  rintro ⟨k, z, hz, file', c', hDecl', hChooses, hOutside⟩
  obtain ⟨file, c, own, hDecl, hc, hns, -, -⟩ := TypeIndex.completion_of_mem hRec hrc
  cases hDeclared : c.declaredIdentifier with
  | some id =>
    obtain ⟨-, hOwner⟩ := hc.identifier_of_declared hDeclared
    refine ⟨c.fqn, hOwner, ?_⟩
    by_cases hRoot : c.ns = Names.rootNamespace
    · exfalso
      have hTop : rc.superType = none := (superType_eq_none_iff hwf hRec hrc).2 (hns.trans hRoot)
      cases k with
      | zero =>
        obtain rfl : rc.fqn = z := Option.some.inj hz
        rw [hDecl] at hDecl'
        cases hDecl'
        exact hOutside hRoot
      | succ k =>
        obtain ⟨q, -, hs, -⟩ := TypeIndex.ancestor?_succ_of_mem hRec hrc hz
        rw [hTop] at hs
        cases hs
    · rw [classDeclaration_fqn hwf hDecl]
      exact isRootType_of_classDeclaration hwf hDecl hRoot
  | none =>
    obtain ⟨-, hOwner⟩ := hc.identifier_of_none hDeclared
    cases k with
    | zero =>
      obtain rfl : rc.fqn = z := Option.some.inj hz
      rw [hDecl] at hDecl'
      cases hDecl'
      exact absurd (declaredIdentifier_eq_none.1 hDeclared) hChooses
    | succ k =>
      obtain ⟨q, hq, hs, hClass, hz⟩ := TypeIndex.ancestor?_succ_of_mem hRec hrc hz
      obtain ⟨w, hw, hRootW⟩ := ih q hq hs ⟨k, z, hz, file', c', hDecl', hChooses, hOutside⟩
      refine ⟨w, ?_, hRootW⟩
      rw [hOwner, hs, Option.bind_some, hClass, Option.bind_some, hw]

/-- On the chain of a class of the index, at most one class outside the root namespace chooses an
identifier: a class that chooses one may override only an identifier a root type chose. -/
theorem TypeIndex.one_chooser :
    ∀ rc ∈ ix.classes, ∀ j k y z, ix.ancestor? j rc.fqn = some y → ix.ancestor? k rc.fqn = some z →
      files.ChoosesIdentifier y → files.ChoosesIdentifier z → y = z := by
  refine TypeIndex.forall_mem_of_step hRec fun rc hrc ih => ?_
  intro j k y z hy hz hcy hcz
  obtain ⟨file, c, own, hDecl, hc, -, -, -⟩ := TypeIndex.completion_of_mem hRec hrc
  have hAbove : c.identified ≠ none → ∀ k z, ix.ancestor? (k + 1) rc.fqn = some z → ¬ files.ChoosesIdentifier z := by
    intro hIdentified k z hz hcz
    obtain ⟨q, hq, hs, hClass, hz⟩ := TypeIndex.ancestor?_succ_of_mem hRec hrc hz
    obtain ⟨w, hw, hRootW⟩ := TypeIndex.identifierOwner_not_root hwf hRec q hq ⟨k, z, hz, hcz⟩
    obtain ⟨illegal, hOverride⟩ := hc.override
    rw [hs, Option.bind_some, hClass, Option.bind_some, hw] at hOverride
    rw [checkIdentifierOverride_eq_ok hIdentified hOverride] at hRootW
    cases hRootW
  have hSelf : ∀ y, ix.ancestor? 0 rc.fqn = some y → files.ChoosesIdentifier y → c.identified ≠ none := by
    intro y hy hcy
    obtain rfl : rc.fqn = y := Option.some.inj hy
    obtain ⟨file', c', hDecl', hChooses, -⟩ := hcy
    rw [hDecl] at hDecl'
    cases hDecl'
    exact hChooses
  cases j with
  | zero =>
    cases k with
    | zero => exact (Option.some.inj hy).symm.trans (Option.some.inj hz)
    | succ k => exact absurd hcz (hAbove (hSelf y hy hcy) k z hz)
  | succ j =>
    cases k with
    | zero => exact absurd hcy (hAbove (hSelf z hz hcz) j y hy)
    | succ k =>
      obtain ⟨q, hq, hs, -, hy⟩ := TypeIndex.ancestor?_succ_of_mem hRec hrc hy
      obtain ⟨q', -, hs', -, hz⟩ := TypeIndex.ancestor?_succ_of_mem hRec hrc hz
      rw [Option.some.inj (hs'.symm.trans hs)] at hz
      exact ih q hq hs j k y z hy hz hcy hcz

end Index

/-- The identifier of a class of an index. -/
structure IdentifierRule (files : ModelFiles) (ix : TypeIndex) (rc : ResolvedClass) : Prop where
  /-- The identifier names exactly one property, whose field is a required single String. -/
  property : ∀ n, rc.identifier = some n → ∃ p ∈ rc.properties, p.name = n ∧ (∀ q ∈ rc.properties, q.name = n → q = p) ∧
    ∃ field, p.effectiveField? = some field ∧ field.primitive? = some .string ∧ field.isOptional = false ∧
      field.isArray = false
  /-- It is chosen by the first class on the chain whose declaration chooses one. -/
  nearest : ChosenIdentifier files ix rc.fqn rc.identifier rc.identifierOwner
  /-- At most one class outside the root namespace on the chain chooses one. -/
  oneChooser : ∀ j k y z, ix.ancestor? j rc.fqn = some y → ix.ancestor? k rc.fqn = some z →
    files.ChoosesIdentifier y → files.ChoosesIdentifier z → y = z

/-- The identifier rule. For well-formed files, every class of the strict index follows
`IdentifierRule`: its identifier is the one the nearest class on its supertype chain chooses, the
class itself first; it names exactly one property, a required single String; and at most one class
outside the root namespace on the chain chooses an identifier. -/
theorem identifier_comes_from_the_nearest_chooser {files : ModelFiles} (hwf : files.WellFormed) {ix : TypeIndex}
    (hix : TypeIndex.build files .strict = .ok ix) : ∀ rc ∈ ix.classes, IdentifierRule files ix rc := by
  have hRec := (build_strict_recorded hwf hix).1
  intro rc hrc
  refine ⟨fun n hn => ?_, TypeIndex.chosenIdentifier hwf hRec rc hrc, TypeIndex.one_chooser hwf hRec rc hrc⟩
  obtain ⟨p, hp, hName, hField⟩ := TypeIndex.identifier_property hwf hRec rc hrc n hn
  have hNodup := hRec.names_nodup hwf rc hrc
  exact ⟨p, hp, hName, fun q hq hq' => List.inj_on_of_nodup_map hNodup hq hp (hq'.trans hName.symm), hField⟩

/-- In the zoo, `Cub` is identified by the `tag` that `Animal` chose two classes up, `Ticket` by
the system and the transaction `Feed` by nothing. -/
theorem zoo_identifiers_come_from_the_nearest_chooser :
    (∀ rc ∈ zooIndex.classes, IdentifierRule zooFiles zooIndex rc) ∧
      (zooIndex.class? "org.zoo@1.0.0.Cub").map (fun rc => (rc.identifier, rc.identifierOwner)) =
        some (some "tag", some "org.zoo@1.0.0.Animal") ∧
      (zooIndex.class? "org.zoo@1.0.0.Ticket").map (·.identifier) = some (some Names.identifierField) ∧
      (zooIndex.class? "org.zoo@1.0.0.Feed").map (·.identifier) = some none :=
  ⟨identifier_comes_from_the_nearest_chooser ModelFiles.wellFormed_zooFiles zoo_files_build_strict,
    by decide +kernel, by decide +kernel, by decide +kernel⟩

end DomainModels
