import DomainModels.Proofs.Graph.Inheritance
import DomainModels.Proofs.Wire.KeyOrder
/-! The properties of a resolved class are its own, then the system fields it introduces, then its
supertype's; and a written instance lays its keys out in that order. -/

namespace DomainModels

open Metamodel (ClassKind)
open Outcome

/-- The system fields a class introduces over the properties it inherits: `$identifier` when it
is identified by the system, `$timestamp` when it is a transaction or an event, each unless a
property of that name is inherited. -/
def systemFields (c : ClassDeclaration) (inherited : List ResolvedProperty) : List ResolvedProperty :=
  (if c.identified == some .system && !inherited.any (·.name == Names.identifierField) then
    [systemProperty Names.identifierField .string c.fqn] else []) ++
  (if c.kind.isTimestamped && !inherited.any (·.name == Names.timestampField) then
    [systemProperty Names.timestampField .dateTime c.fqn] else [])

/-- The properties a class completed with `parent` inherits. -/
def inheritedFrom (parent : Option ResolvedClass) : List ResolvedProperty := (parent.map (·.properties)).getD []

/-- The properties a class of an index inherits: those of the class under its supertype's name. -/
def TypeIndex.inheritedProperties (ix : TypeIndex) (rc : ResolvedClass) : List ResolvedProperty :=
  inheritedFrom (rc.superType.bind ix.class?)

theorem Names.isSystemProperty_identifierField : Names.isSystemProperty Names.identifierField = true :=
  (Names.isSystemProperty_iff _).2 rfl

theorem Names.isSystemProperty_timestampField : Names.isSystemProperty Names.timestampField = true :=
  (Names.isSystemProperty_iff _).2 rfl

/-! ### Completing one class -/

/-- What a successful completion of a class with `parent` establishes, with `own` its declared
properties resolved: the checks it passed, and the properties and identifier it gives the class. -/
structure Completion (files : ModelFiles) (file : ModelFile) (c : ClassDeclaration)
    (parent : Option ResolvedClass) (rc : ResolvedClass) (own : List ResolvedProperty) : Prop where
  override : ∃ illegal, checkIdentifierOverride c (parent.bind (·.identifierOwner)) illegal = .ok ()
  resolved : ∃ illegal, resolveOwnProperties files file c illegal [] c.properties = .ok own
  notInherited : ∃ illegal,
    checkNotInherited c (inheritedFrom parent) illegal (own ++ systemFields c (inheritedFrom parent)) = .ok ()
  properties : rc.properties = own ++ systemFields c (inheritedFrom parent) ++ inheritedFrom parent
  identifyingField : ∃ illegal, checkIdentifyingField c rc.properties illegal = .ok ()
  identifier : (rc.identifier, rc.identifierOwner) = match c.identified with
    | some .system => (some Names.identifierField, some c.fqn)
    | some (.byField n) => (some n, some c.fqn)
    | none => (parent.bind (·.identifier), parent.bind (·.identifierOwner))

section Completion

variable {files : ModelFiles} {file : ModelFile} {c : ClassDeclaration}

/-- The system fields follow the declared properties as the completion appends them:
`$identifier` first, then `$timestamp`. -/
theorem append_systemFields (own inherited : List ResolvedProperty) :
    own ++ systemFields c inherited =
      if c.kind.isTimestamped && !inherited.any (·.name == Names.timestampField) then
        (if c.identified == some .system && !inherited.any (·.name == Names.identifierField) then
          own ++ [systemProperty Names.identifierField .string c.fqn] else own) ++
          [systemProperty Names.timestampField .dateTime c.fqn]
      else if c.identified == some .system && !inherited.any (·.name == Names.identifierField) then
        own ++ [systemProperty Names.identifierField .string c.fqn] else own := by
  unfold systemFields
  split <;> split <;> simp

theorem completeClass_eq_ok {s? : Option String} {parent : Option ResolvedClass} {rc : ResolvedClass}
    (h : completeClass files file c s? parent = .ok rc) : ∃ own, Completion files file c parent rc own := by
  unfold completeClass at h
  obtain ⟨⟨⟩, hOverride, h⟩ := bind_eq_ok.1 h
  obtain ⟨own, hOwn, h⟩ := bind_eq_ok.1 h
  obtain ⟨⟨⟩, hNotInherited, h⟩ := bind_eq_ok.1 h
  obtain ⟨⟨⟩, hField, h⟩ := bind_eq_ok.1 h
  split at h
  next identifier owner hId =>
  cases h
  refine ⟨own, ⟨_, hOverride⟩, ⟨_, hOwn⟩, ⟨fun m => .illegalAt m file.fileName c.location, ?_⟩, ?_,
    ⟨_, hField⟩, hId.symm⟩
  · rw [append_systemFields]
    exact hNotInherited
  · rw [append_systemFields]
    rfl

/-- A resolved property keeps the property it resolves and its owner. -/
theorem resolveProperty_eq_ok {owner : String} {prop : Property} {rp : ResolvedProperty}
    (h : resolveProperty files file owner prop = .ok rp) : rp.property = prop ∧ rp.owner = owner := by
  unfold resolveProperty at h
  split at h
  · split at h
    · cases h
      exact ⟨rfl, rfl⟩
    · obtain ⟨target, -, h⟩ := bind_eq_ok.1 h
      dsimp only at h
      split at h
      · cases h
        exact ⟨rfl, rfl⟩
      · split at h
        · split at h
          · cases h
          · cases h
            exact ⟨rfl, rfl⟩
        · cases h
          exact ⟨rfl, rfl⟩
      · cases h
        exact ⟨rfl, rfl⟩
  · obtain ⟨target, -, h⟩ := bind_eq_ok.1 h
    split at h
    · cases h
      exact ⟨rfl, rfl⟩
    · cases h
  · cases h
    exact ⟨rfl, rfl⟩

/-- The declared properties, resolved in order and owned by the class, have distinct names none of
which was seen before, and reserved names only in the root namespace. -/
theorem resolveOwnProperties_eq_ok {illegal : String → ModelError} :
    ∀ {seen : List String} {props : List Property} {own : List ResolvedProperty},
      resolveOwnProperties files file c illegal seen props = .ok own →
      own.map (·.property) = props ∧ (∀ p ∈ own, p.owner = c.fqn) ∧ (props.map (·.name)).Nodup ∧
        (∀ p ∈ props, p.name ∉ seen) ∧
        (c.ns ≠ Names.rootNamespace → ∀ p ∈ props, Names.isSystemProperty p.name = false)
  | seen, [], own, h => by
    cases h
    simp
  | seen, p :: rest, own, h => by
    rw [resolveOwnProperties] at h
    dsimp only at h
    split at h
    · cases h
    next hReserved =>
    split at h
    · cases h
    next hSeen =>
    obtain ⟨rp, hRp, h⟩ := bind_eq_ok.1 h
    obtain ⟨ownRest, hRest, h⟩ := bind_eq_ok.1 h
    cases h
    obtain ⟨hProp, hOwner⟩ := resolveProperty_eq_ok hRp
    obtain ⟨hProps, hOwners, hNodup, hFresh, hPlain⟩ := resolveOwnProperties_eq_ok hRest
    refine ⟨by rw [List.map_cons, hProp, hProps], ?_, ?_, ?_, ?_⟩
    · intro q hq
      rcases List.mem_cons.1 hq with rfl | hq
      · exact hOwner
      · exact hOwners q hq
    · rw [List.map_cons, List.nodup_cons]
      refine ⟨fun hMem => ?_, hNodup⟩
      obtain ⟨q, hq, hName⟩ := List.mem_map.1 hMem
      exact hFresh q hq (hName ▸ List.mem_cons_self)
    · intro q hq
      rcases List.mem_cons.1 hq with rfl | hq
      · simpa using hSeen
      · exact fun hMem => hFresh q hq (List.mem_cons_of_mem _ hMem)
    · intro hns q hq
      rcases List.mem_cons.1 hq with rfl | hq
      · simpa [hns] using hReserved
      · exact hPlain hns q hq

/-- No property a class adds shares a name with one it inherits. -/
theorem checkNotInherited_eq_ok {inherited added : List ResolvedProperty} {illegal : String → ModelError}
    (h : checkNotInherited c inherited illegal added = .ok ()) : ∀ p ∈ added, ∀ q ∈ inherited, q.name ≠ p.name := by
  unfold checkNotInherited at h
  obtain ⟨⟨⟩, hLoop, -⟩ := bind_eq_ok.1 h
  clear h
  induction added with
  | nil => simp
  | cons p rest ih =>
    rw [List.forIn_cons] at hLoop
    obtain ⟨step, hStep, hLoop⟩ := bind_eq_ok.1 hLoop
    cases hFind : inherited.find? (·.name == p.name) with
    | some existing =>
      rw [hFind] at hStep
      cases hStep
    | none =>
      rw [hFind] at hStep
      cases hStep
      intro x hx q hq hName
      rcases List.mem_cons.1 hx with rfl | hx
      · exact absurd (beq_iff_eq.2 hName) (List.find?_eq_none.1 hFind q hq)
      · exact ih hLoop x hx q hq hName

/-- A system field is owned by the class that introduces it, and is `$identifier` or, on a
transaction or an event, `$timestamp`. -/
theorem mem_systemFields {inherited : List ResolvedProperty} {p : ResolvedProperty}
    (hp : p ∈ systemFields c inherited) :
    p.owner = c.fqn ∧ (p.name = Names.identifierField ∨ (p.name = Names.timestampField ∧ c.kind.isTimestamped = true)) := by
  unfold systemFields at hp
  rcases List.mem_append.1 hp with hp | hp
  · split at hp
    · rw [List.mem_singleton.1 hp]
      exact ⟨rfl, .inl rfl⟩
    · cases hp
  · split at hp
    · next hStamp =>
      rw [List.mem_singleton.1 hp]
      exact ⟨rfl, .inr ⟨rfl, by simpa using (Bool.and_eq_true_iff.1 hStamp).1⟩⟩
    · cases hp

theorem systemFields_nodup (inherited : List ResolvedProperty) :
    ((systemFields c inherited).map (·.name)).Nodup := by
  unfold systemFields
  split <;> split <;> simp [systemProperty, ResolvedProperty.name, Property.name, Field.synthetic,
    Names.identifierField, Names.timestampField]

/-- No declared property of a class has a reserved name: outside the root namespace the names are
checked, and the root classes declare no property. -/
theorem own_plain (hwf : files.WellFormed) {fqn : String} (hDecl : classDeclaration files fqn = .ok (file, c))
    {illegal : String → ModelError} {own : List ResolvedProperty}
    (hOwn : resolveOwnProperties files file c illegal [] c.properties = .ok own) :
    ∀ p ∈ own, Names.isSystemProperty p.name = false := by
  obtain ⟨hProps, -, -, -, hPlain⟩ := resolveOwnProperties_eq_ok hOwn
  by_cases hns : c.ns = Names.rootNamespace
  · obtain ⟨k, rfl⟩ := classDeclaration_rootNamespace hwf hDecl hns
    have hNil : own = [] := List.map_eq_nil_iff.1 (hProps.trans (by cases k <;> rfl))
    simp [hNil]
  · intro p hp
    exact hPlain hns p.property (hProps ▸ List.mem_map_of_mem hp)

theorem mem_inheritedFrom {parent : Option ResolvedClass} {p : ResolvedProperty} (hp : p ∈ inheritedFrom parent) :
    ∃ q, parent = some q ∧ p ∈ q.properties := by
  cases parent with
  | none => cases hp
  | some q => exact ⟨q, rfl, hp⟩

variable {parent : Option ResolvedClass} {rc : ResolvedClass} {own : List ResolvedProperty}

/-- The properties a completed class contributes itself are owned by it. -/
theorem Completion.owner (hc : Completion files file c parent rc own) :
    ∀ p ∈ own ++ systemFields c (inheritedFrom parent), p.owner = c.fqn := by
  obtain ⟨illegal, hOwn⟩ := hc.resolved
  intro p hp
  rcases List.mem_append.1 hp with hp | hp
  · exact (resolveOwnProperties_eq_ok hOwn).2.1 p hp
  · exact (mem_systemFields hp).1

/-- The names of a completed class are distinct when those it inherits are and those it declares
are not reserved. -/
theorem Completion.nodup (hc : Completion files file c parent rc own)
    (hParent : ((inheritedFrom parent).map (·.name)).Nodup)
    (hPlain : ∀ p ∈ own, Names.isSystemProperty p.name = false) : (rc.properties.map (·.name)).Nodup := by
  obtain ⟨illegal, hOwn⟩ := hc.resolved
  obtain ⟨hProps, -, hOwnNodup, -, -⟩ := resolveOwnProperties_eq_ok hOwn
  obtain ⟨_, hNot⟩ := hc.notInherited
  have hOwnNames : own.map (·.name) = c.properties.map (·.name) := by
    rw [← hProps, List.map_map]
    rfl
  rw [hc.properties, List.map_append, List.map_append, List.nodup_append, List.nodup_append]
  refine ⟨⟨hOwnNames ▸ hOwnNodup, systemFields_nodup _, ?_⟩, hParent, ?_⟩
  · intro a ha b hb hab
    obtain ⟨p, hp, rfl⟩ := List.mem_map.1 ha
    obtain ⟨q, hq, rfl⟩ := List.mem_map.1 hb
    have hReserved : Names.isSystemProperty q.name = true := by
      rcases (mem_systemFields hq).2 with hName | ⟨hName, -⟩
      · rw [hName]
        exact Names.isSystemProperty_identifierField
      · rw [hName]
        exact Names.isSystemProperty_timestampField
    rw [← hab, hPlain p hp] at hReserved
    cases hReserved
  · intro a ha b hb hab
    rw [← List.map_append] at ha
    obtain ⟨p, hp, rfl⟩ := List.mem_map.1 ha
    obtain ⟨q, hq, rfl⟩ := List.mem_map.1 hb
    exact checkNotInherited_eq_ok hNot p hp q hq hab.symm

end Completion

/-- A class declaration is what its qualified name looks up. -/
theorem lookup_of_classDeclaration {files : ModelFiles} {fqn : String} {file : ModelFile} {c : ClassDeclaration}
    (h : classDeclaration files fqn = .ok (file, c)) : files.lookup fqn = some (.cls c) := by
  unfold classDeclaration at h
  split at h
  · cases h
  · next ns name hSplit =>
    split at h
    · cases h
    · next f hFile =>
      split at h
      · next c' hDecl =>
        cases h
        simp [ModelFiles.lookup, hSplit, hFile, hDecl]
      · cases h
      · cases h

/-! ### Recorded classes -/

namespace Recorded

variable {files : ModelFiles} {L : List ResolvedClass}

/-- The classes recorded before any point were recorded in order too. -/
theorem of_append (h : Recorded files L) : ∀ {l₁ l₂ : List ResolvedClass}, L = l₁ ++ l₂ → Recorded files l₁ := by
  induction h with
  | nil =>
    intro l₁ l₂ hSplit
    rw [(List.nil_eq_append_iff.1 hSplit).1]
    exact .nil
  | snoc hRec hFresh hDecl hBuilt ih =>
    intro l₁ l₂ hSplit
    rcases List.eq_nil_or_concat l₂ with rfl | ⟨l₂', y, rfl⟩
    · rw [List.append_nil] at hSplit
      rw [← hSplit]
      exact .snoc hRec hFresh hDecl hBuilt
    · rw [List.concat_eq_append, ← List.append_assoc] at hSplit
      exact ih (List.append_inj' hSplit rfl).1

/-- The parent a class is completed with is a class recorded before it, under its supertype's
name. -/
theorem mem_of_parent {classes : List ResolvedClass} {rc q : ResolvedClass}
    (h : (rc.superType.bind fun s => classes.find? (·.fqn == s)) = some q) :
    q ∈ classes ∧ rc.superType = some q.fqn := by
  obtain ⟨s, hs, hFound⟩ := Option.bind_eq_some_iff.1 h
  have hSelected := List.find?_some hFound
  exact ⟨List.mem_of_find?_eq_some hFound, by rw [hs, beq_iff_eq.1 hSelected]⟩

/-- Induction over the recorded classes: a fact holds of every recorded class when it holds of a
class completed with its parent among the classes recorded before it, all of which have it. -/
theorem forall_mem {P : ResolvedClass → Prop} (h : Recorded files L)
    (step : ∀ {classes : List ResolvedClass} {rc : ResolvedClass} {file : ModelFile} {c : ClassDeclaration}
      {own : List ResolvedProperty}, Recorded files classes → (∀ q ∈ classes, P q) →
      classDeclaration files rc.fqn = .ok (file, c) → ClassBuilt files classes file c rc →
      Completion files file c (rc.superType.bind fun s => classes.find? (·.fqn == s)) rc own → P rc) :
    ∀ rc ∈ L, P rc := by
  induction h with
  | nil => simp
  | snoc hRec _ hDecl hBuilt ih =>
    intro x hx
    rcases List.mem_append.1 hx with hx | hx
    · exact ih x hx
    obtain rfl := List.mem_singleton.1 hx
    obtain ⟨own, hc⟩ := completeClass_eq_ok hBuilt.complete
    exact step hRec ih hDecl hBuilt hc

/-- Every property of a recorded class is owned by a recorded class. -/
theorem owners (h : Recorded files L) : ∀ rc ∈ L, ∀ p ∈ rc.properties, ∃ q ∈ L, q.fqn = p.owner := by
  induction h with
  | nil => simp
  | @snoc classes rc file c _ _ _ hBuilt ih =>
    intro x hx p hp
    rcases List.mem_append.1 hx with hx | hx
    · obtain ⟨q, hq, hOwner⟩ := ih x hx p hp
      exact ⟨q, List.mem_append_left _ hq, hOwner⟩
    obtain rfl := List.mem_singleton.1 hx
    obtain ⟨own, hc⟩ := completeClass_eq_ok hBuilt.complete
    rw [hc.properties, List.mem_append] at hp
    rcases hp with hp | hp
    · refine ⟨x, List.mem_append_right _ (List.mem_singleton_self _), ?_⟩
      rw [hc.owner p hp, completeClass_fqn hBuilt.complete]
    · obtain ⟨q, hq, hpq⟩ := mem_inheritedFrom hp
      obtain ⟨o, ho, hOwner⟩ := ih q (mem_of_parent hq).1 p hpq
      exact ⟨o, List.mem_append_left _ ho, hOwner⟩

/-- The property names of a recorded class are distinct. -/
theorem names_nodup (hwf : files.WellFormed) (h : Recorded files L) :
    ∀ rc ∈ L, (rc.properties.map (·.name)).Nodup := by
  refine h.forall_mem fun {classes rc _ _ _} _ ih hDecl _ hc => ?_
  obtain ⟨illegal, hOwn⟩ := hc.resolved
  refine hc.nodup ?_ (own_plain hwf hDecl hOwn)
  cases hParent : (rc.superType.bind fun s => classes.find? (·.fqn == s)) with
  | none => exact List.nodup_nil
  | some q => exact ih q (mem_of_parent hParent).1

/-- A reserved name of a property of a recorded class is `$identifier`, or `$timestamp` on a
transaction or an event. -/
theorem reserved (hwf : files.WellFormed) (h : Recorded files L) :
    ∀ rc ∈ L, ∀ p ∈ rc.properties, Names.isSystemProperty p.name = true →
      p.name = Names.identifierField ∨ (p.name = Names.timestampField ∧ rc.isTimestamped = true) := by
  refine h.forall_mem fun hRec ih hDecl hBuilt hc => ?_
  intro p hp hSys
  obtain ⟨illegal, hOwn⟩ := hc.resolved
  obtain ⟨-, hKind, -⟩ := completeClass_header hBuilt.complete
  rw [hc.properties, List.append_assoc, List.mem_append, List.mem_append] at hp
  rcases hp with hp | hp | hp
  · rw [own_plain hwf hDecl hOwn p hp] at hSys
    cases hSys
  · rcases (mem_systemFields hp).2 with hName | ⟨hName, hStamp⟩
    · exact .inl hName
    · exact .inr ⟨hName, by rw [ResolvedClass.isTimestamped, hKind]; exact hStamp⟩
  · obtain ⟨q, hq, hpq⟩ := mem_inheritedFrom hp
    obtain ⟨hqMem, hs⟩ := mem_of_parent hq
    rcases ih q hqMem p hpq hSys with hName | ⟨hName, hStamp⟩
    · exact .inl hName
    refine .inr ⟨hName, ?_⟩
    obtain ⟨illegal', hCheck⟩ := hBuilt.superChecked q.fqn hs
    obtain ⟨pd, hLookup, hCompat⟩ := checkSuperType_eq_ok hCheck
    obtain ⟨file', c', hDecl', hBuilt'⟩ := hRec.classBuilt hqMem
    obtain ⟨-, hKind', -⟩ := completeClass_header hBuilt'.complete
    rw [lookup_of_classDeclaration hDecl'] at hLookup
    cases hLookup
    rcases hCompat with hSame | hConcept
    · rw [ResolvedClass.isTimestamped, hKind, ← hSame, ← hKind']
      exact hStamp
    · have hRoot := hwf.classDeclaration_eq_rootClass hDecl' ((classDeclaration_fqn hwf hDecl').trans hConcept)
      rw [ResolvedClass.isTimestamped, hKind', hRoot] at hStamp
      cases hStamp

/-- Every recorded class is well formed. -/
theorem wellFormed (hwf : files.WellFormed) (h : Recorded files L) {rc : ResolvedClass} (hrc : rc ∈ L) :
    rc.WellFormed :=
  ⟨h.names_nodup hwf rc hrc, h.reserved hwf rc hrc⟩

/-- A recorded class holds its declared properties, resolved in declaration order and none of
them reserved, then the system fields it introduces, then the properties of the class recorded
under its supertype's name; and it owns exactly the properties before those it inherits. -/
theorem layout (hwf : files.WellFormed) (h : Recorded files L) {rc : ResolvedClass} (hrc : rc ∈ L) :
    ∃ file c own, classDeclaration files rc.fqn = .ok (file, c) ∧ own.map (·.property) = c.properties ∧
      (∀ p ∈ own, Names.isSystemProperty p.name = false) ∧
      rc.properties = own ++ systemFields c (inheritedFrom (rc.superType.bind fun s => L.find? (·.fqn == s))) ++
        inheritedFrom (rc.superType.bind fun s => L.find? (·.fqn == s)) ∧
      rc.ownProperties = own ++ systemFields c (inheritedFrom (rc.superType.bind fun s => L.find? (·.fqn == s))) := by
  obtain ⟨l₁, l₂, hSplit⟩ := List.append_of_mem hrc
  obtain ⟨hFresh, file, c, hDecl, hBuilt⟩ := h.split hSplit
  have hParent : (rc.superType.bind fun s => L.find? (·.fqn == s)) =
      rc.superType.bind fun s => l₁.find? (·.fqn == s) := by
    rw [hSplit]
    exact hBuilt.parent_append _
  rw [hParent]
  obtain ⟨own, hc⟩ := completeClass_eq_ok hBuilt.complete
  obtain ⟨illegal, hOwn⟩ := hc.resolved
  have hFqn : rc.fqn = c.fqn := completeClass_fqn hBuilt.complete
  have hInherited : ∀ p ∈ inheritedFrom (rc.superType.bind fun s => l₁.find? (·.fqn == s)),
      (p.owner == rc.fqn) = false := by
    intro p hp
    obtain ⟨q, hq, hpq⟩ := mem_inheritedFrom hp
    obtain ⟨o, ho, hOwner⟩ := (h.of_append hSplit).owners q (mem_of_parent hq).1 p hpq
    simpa [← hOwner] using hFresh o ho
  have hContributed : ∀ p ∈ own ++ systemFields c (inheritedFrom (rc.superType.bind fun s => l₁.find? (·.fqn == s))),
      (p.owner == rc.fqn) = true := by
    intro p hp
    simp [hc.owner p hp, hFqn]
  refine ⟨file, c, own, hDecl, (resolveOwnProperties_eq_ok hOwn).1, own_plain hwf hDecl hOwn, hc.properties, ?_⟩
  rw [ResolvedClass.ownProperties, hc.properties, List.filter_append, List.filter_eq_self.2 hContributed,
    List.filter_eq_nil_iff.2 (fun p hp => by simp [hInherited p hp]), List.append_nil]

end Recorded

/-- A class the registry resolves is a class of its index, under the name asked for. -/
theorem Registry.resolvedClass_mem {registry : Registry} {fqn : String} {c : ResolvedClass}
    (h : registry.resolvedClass fqn = .ok c) : c ∈ registry.index.classes ∧ c.fqn = fqn := by
  unfold Registry.resolvedClass at h
  split at h
  · next c' hFound =>
    cases h
    have hFound : registry.index.classes.find? (·.fqn == fqn) = some c := hFound
    have hSelected := List.find?_some hFound
    exact ⟨List.mem_of_find?_eq_some hFound, beq_iff_eq.1 hSelected⟩
  · obtain ⟨d, -, h⟩ := bind_eq_ok.1 h
    split at h <;> cases h

/-! ### The properties of a strict index -/

/-- How the properties of a class of an index are laid out. -/
structure PropertyLayout (files : ModelFiles) (ix : TypeIndex) (rc : ResolvedClass) : Prop where
  /-- Its declared properties in declaration order, none of them reserved, then the system fields it
  introduces, then the properties of its supertype; it owns those before the inherited ones. -/
  ordered : ∃ file c own, classDeclaration files rc.fqn = .ok (file, c) ∧ own.map (·.property) = c.properties ∧
    (∀ p ∈ own, Names.isSystemProperty p.name = false) ∧
    rc.properties = own ++ systemFields c (ix.inheritedProperties rc) ++ ix.inheritedProperties rc ∧
    rc.ownProperties = own ++ systemFields c (ix.inheritedProperties rc)
  /-- Distinct names, reserved ones only for the system fields. -/
  wellFormed : rc.WellFormed

/-- Resolved property lists are own-then-inherited and name-unique. For well-formed files, every
class of the strict index has the layout `PropertyLayout` describes; and an instance written by a
registry holding that index, with any options, is an object keyed `$class`, then `$id` when
resources are deduplicated and the instance has a URI, then the properties written, in the
order of its class. -/
theorem properties_are_own_then_inherited {files : ModelFiles} (hwf : files.WellFormed) {ix : TypeIndex}
    (hix : TypeIndex.build files .strict = .ok ix) :
    (∀ rc ∈ ix.classes, PropertyLayout files ix rc) ∧
    ∀ (registry : Registry), registry.index = ix → ∀ options r j, Wire.encode registry options r = .ok j →
      ∃ rc ∈ ix.classes, rc.fqn = r.fullyQualifiedType ∧
        ∃ out, j = .object out ∧ out.map (·.1) = Wire.writtenKeys options rc r := by
  have hRec := (build_strict_recorded hwf hix).1
  refine ⟨fun rc hrc => ⟨hRec.layout hwf hrc, hRec.wellFormed hwf hrc⟩, ?_⟩
  rintro registry rfl options r j hj
  obtain ⟨c, hc, hKeys⟩ := Wire.encode_keys registry hj
  obtain ⟨hMem, hName⟩ := Registry.resolvedClass_mem hc
  exact ⟨c, hMem, hName, hKeys (hRec.wellFormed hwf hMem)⟩

theorem Registry.index_mk (files : ModelFiles) (index : TypeIndex) (factories : List DecoratorFactory) :
    (Registry.mk files index factories).index = index := rfl

/-- A cub of the zoo, with its tag and its inherited diet. -/
def zooCub : Resource :=
  .mk "org.zoo@1.0.0" "Cub" (some "tag") [("diet", .enum "MEAT"), ("roars", .boolean true), ("tag", .string "c1")]

/-- Every class of the zoo is laid out own-then-inherited: `Cub` has `Lion`'s field, then
`Animal`'s, then the root asset's `$identifier`; and a cub is written keyed in that order. -/
theorem zoo_properties_are_own_then_inherited :
    (∀ rc ∈ zooIndex.classes, PropertyLayout zooFiles zooIndex rc) ∧
      (zooIndex.class? "org.zoo@1.0.0.Cub").map (fun rc => rc.properties.map (·.name)) =
        some ["roars", "tag", "diet", "$identifier"] ∧
      ∃ j, Wire.encode ⟨zooFiles, zooIndex, []⟩ {} zooCub = .ok j ∧
        ∃ rc ∈ zooIndex.classes, rc.fqn = zooCub.fullyQualifiedType ∧
          ∃ out, j = .object out ∧ out.map (·.1) = Wire.writtenKeys {} rc zooCub := by
  have hLayout := properties_are_own_then_inherited ModelFiles.wellFormed_zooFiles zoo_files_build_strict
  have hWritten := Outcome.eq_ok_getD
    (show (Wire.encode ⟨zooFiles, zooIndex, []⟩ {} zooCub).toBool = true by decide +kernel)
  have hCub : (zooIndex.class? "org.zoo@1.0.0.Cub").map (fun rc => rc.properties.map (·.name)) =
      some ["roars", "tag", "diet", "$identifier"] := by decide +kernel
  have hKeys := hLayout.2 ⟨zooFiles, zooIndex, []⟩ (Registry.index_mk zooFiles zooIndex []) {} zooCub _ hWritten
  exact ⟨hLayout.1, hCub, _, hWritten, hKeys⟩

end DomainModels
