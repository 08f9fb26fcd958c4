import DomainModels.Proofs.Graph.RootClasses
/-! The order in which a build records its classes: each after its supertype, under a name not
recorded before, as `completeClass` builds it (`Recorded`). -/
namespace DomainModels

open Building Outcome

variable {files : ModelFiles} {file : ModelFile} {c : ClassDeclaration}

/-! ### The class a qualified name finds -/

/-- A text cut at the last occurrence of a character is the two pieces around it. -/
theorem Text.splitLast?_eq_some {s : String} {ch : Char} {a b : String} (h : Text.splitLast? s ch = some (a, b)) :
    a ++ String.singleton ch ++ b = s := by
  unfold Text.splitLast? at h
  dsimp only at h
  split at h
  · next i hi =>
    cases h
    obtain ⟨hlt, hch, -⟩ := List.idxOf?_eq_some_iff.1 hi
    have hCut : s.toList.reverse = s.toList.reverse.take i ++ ch :: s.toList.reverse.drop (i + 1) := by
      rw [← hch, List.getElem_cons_drop, List.take_append_drop]
    have hRev : s.toList = (s.toList.reverse.drop (i + 1)).reverse ++ [ch] ++ (s.toList.reverse.take i).reverse :=
      calc s.toList = s.toList.reverse.reverse := (List.reverse_reverse _).symm
        _ = (s.toList.reverse.take i ++ ch :: s.toList.reverse.drop (i + 1)).reverse := congrArg List.reverse hCut
        _ = _ := by simp
    apply String.toList_inj.1
    simp only [String.toList_append, String.toList_ofList, String.toList_singleton]
    exact hRev.symm
  · cases h

theorem Names.qualify_of_split? {fqn ns name : String} (h : Names.split? fqn = some (ns, name)) :
    Names.qualify ns name = fqn := by
  unfold Names.split? at h
  split at h
  · next ns' name' hSplit =>
    split at h
    · cases h
    · cases h
      have hDot : String.singleton '.' = "." := by decide
      have hCut := Text.splitLast?_eq_some hSplit
      rwa [hDot] at hCut
  · cases h

/-- In well-formed files, the class a qualified name finds has that name. -/
theorem classDeclaration_fqn (hwf : files.WellFormed) {fqn : String} (h : classDeclaration files fqn = .ok (file, c)) :
    c.fqn = fqn := by
  unfold classDeclaration at h
  split at h
  · cases h
  · next ns name hSplit =>
    split at h
    · cases h
    · next file' hFile =>
      split at h
      · next hDecl =>
        cases h
        have hFound : file.declarations.find? (·.name == name) = some (.cls c) := hDecl
        have hSelected := List.find?_some hFound
        have hName : c.name = name := beq_iff_eq.1 hSelected
        have hns : c.ns = ns := by
          obtain ⟨hMem, hFileNs⟩ := hwf.of_get? hFile
          rw [← hFileNs]
          exact (hwf.of_mem_files hMem).1.declarations_ns _ (List.mem_of_find?_eq_some hFound)
        rw [ClassDeclaration.fqn, hName, hns]
        exact Names.qualify_of_split? hSplit
      · cases h
      · cases h

/-! ### A class built with its supertype -/

/-- A completed class keeps the namespace and kind of its declaration, and the supertype it is
completed with. -/
theorem completeClass_header {s? : Option String} {parent : Option ResolvedClass} {rc : ResolvedClass}
    (h : completeClass files file c s? parent = .ok rc) : rc.ns = c.ns ∧ rc.kind = c.kind ∧ rc.superType = s? := by
  unfold completeClass at h
  obtain ⟨_, -, h⟩ := bind_eq_ok.1 h
  obtain ⟨own, -, h⟩ := bind_eq_ok.1 h
  obtain ⟨_, -, h⟩ := bind_eq_ok.1 h
  obtain ⟨_, -, h⟩ := bind_eq_ok.1 h
  split at h
  cases h
  exact ⟨rfl, rfl, rfl⟩

/-- What a resolved class owes to its declaration and to the classes recorded before it: the
supertype `superTypeOf` names, accepted by `checkSuperType` and recorded before it, and the class
`completeClass` builds with the class recorded under that name. -/
structure ClassBuilt (files : ModelFiles) (earlier : List ResolvedClass) (file : ModelFile)
    (c : ClassDeclaration) (rc : ResolvedClass) : Prop where
  superType : ∃ illegal, superTypeOf files file c illegal = .ok rc.superType
  superChecked : ∀ s, rc.superType = some s → ∃ illegal, checkSuperType files c illegal s = .ok ()
  superRecorded : ∀ s, rc.superType = some s → ∃ p ∈ earlier, p.fqn = s
  complete : completeClass files file c rc.superType
    (rc.superType.bind fun s => earlier.find? (·.fqn == s)) = .ok rc

/-- A class built from its declaration: its supertype named and checked, resolved first when there
is one, and the class completed with what the state records under the supertype's name then. -/
theorem buildClass_eq_ok {rs : String → Building Unit} {st st₁ : IndexBuild} {rc : ResolvedClass}
    (h : (buildClass files rs file c).run.run st = (.ok rc, st₁)) :
    (∃ illegal, superTypeOf files file c illegal = .ok rc.superType) ∧
    (∀ s, rc.superType = some s →
      (∃ illegal, checkSuperType files c illegal s = .ok ()) ∧ (rs s).run.run st = (.ok (), st₁)) ∧
    (rc.superType = none → st₁ = st) ∧
    completeClass files file c rc.superType (rc.superType.bind fun s => st₁.classes.find? (·.fqn == s)) = .ok rc := by
  unfold buildClass at h
  rw [run_bind, run_lift] at h
  generalize (fun m => ModelError.illegalAt m file.fileName c.location) = illegal at h
  rcases hSuper : superTypeOf files file c illegal with e | s?
  · rw [hSuper] at h
    cases h
  rw [hSuper] at h
  dsimp only at h
  have hComplete (st₂ : IndexBuild)
      (h₂ : (do let st ← get; Building.lift (completeClass files file c s?
        (s?.bind fun s => st.classes.find? (·.fqn == s))) : Building ResolvedClass).run.run st₂ = (.ok rc, st₁)) :
      rc.superType = s? ∧ st₁ = st₂ ∧
        completeClass files file c s? (s?.bind fun s => st₁.classes.find? (·.fqn == s)) = .ok rc := by
    rw [run_bind, run_get] at h₂
    dsimp only at h₂
    rw [run_lift, Prod.mk.injEq] at h₂
    obtain ⟨hrc, rfl⟩ := h₂
    exact ⟨(completeClass_header hrc).2.2, rfl, hrc⟩
  cases s? with
  | none =>
    obtain ⟨hTop, rfl, hrc⟩ := hComplete st h
    rw [hTop]
    exact ⟨⟨illegal, hSuper⟩, fun s h => (by cases h), fun _ => rfl, hrc⟩
  | some s =>
    dsimp only at h
    rw [run_bind, run_lift] at h
    rcases hCheck : checkSuperType files c illegal s with e | u
    · rw [hCheck] at h
      cases h
    rw [hCheck] at h
    dsimp only at h
    rw [run_bind] at h
    rcases hResolve : (rs s).run.run st with ⟨_ | u', st₂⟩
    · rw [hResolve] at h
      cases h
    rw [hResolve] at h
    obtain ⟨hTop, rfl, hrc⟩ := hComplete st₂ h
    rw [hTop]
    refine ⟨⟨illegal, hSuper⟩, fun s' hs' => ?_, fun h => (by cases h), hrc⟩
    cases hs'
    exact ⟨⟨illegal, hCheck⟩, hResolve⟩

/-- The class recorded under a built class's supertype's name is found among the classes recorded
before it, whatever is recorded after them. -/
theorem ClassBuilt.parent_append {earlier : List ResolvedClass} {rc : ResolvedClass}
    (h : ClassBuilt files earlier file c rc) (later : List ResolvedClass) :
    (rc.superType.bind fun s => (earlier ++ later).find? (·.fqn == s)) =
      rc.superType.bind fun s => earlier.find? (·.fqn == s) := by
  cases hs : rc.superType with
  | none => rfl
  | some s =>
    obtain ⟨p, hp, hName⟩ := h.superRecorded s hs
    have hFound : (earlier.find? (·.fqn == s)).isSome := List.find?_isSome.2 ⟨p, hp, by simp [hName]⟩
    obtain ⟨q, hq⟩ := Option.isSome_iff_exists.1 hFound
    simp only [Option.bind_some, List.find?_append, hq, Option.some_or]

/-- More classes recorded after them change nothing a class owes to those before it. -/
theorem ClassBuilt.append {earlier : List ResolvedClass} {rc : ResolvedClass}
    (h : ClassBuilt files earlier file c rc) (later : List ResolvedClass) :
    ClassBuilt files (earlier ++ later) file c rc where
  superType := h.superType
  superChecked := h.superChecked
  superRecorded s hs := by
    obtain ⟨p, hp, hName⟩ := h.superRecorded s hs
    exact ⟨p, List.mem_append_left _ hp, hName⟩
  complete := by
    rw [h.parent_append later]
    exact h.complete

/-! ### Recorded classes -/

/-- The classes a build records, in order: each under a qualified name not recorded before, built
from the declaration its name finds, after the class under its supertype's name. -/
inductive Recorded (files : ModelFiles) : List ResolvedClass → Prop where
  | nil : Recorded files []
  | snoc {classes : List ResolvedClass} {rc : ResolvedClass} {file : ModelFile} {c : ClassDeclaration} :
      Recorded files classes → (∀ p ∈ classes, p.fqn ≠ rc.fqn) → classDeclaration files rc.fqn = .ok (file, c) →
      ClassBuilt files classes file c rc → Recorded files (classes ++ [rc])

namespace Recorded

variable {L : List ResolvedClass}

/-- At each of its classes, a recorded list splits into classes recorded before it, which hold its
supertype and not its name, and classes recorded after. -/
theorem split (h : Recorded files L) :
    ∀ {l₁ l₂ : List ResolvedClass} {rc : ResolvedClass}, L = l₁ ++ rc :: l₂ →
      (∀ p ∈ l₁, p.fqn ≠ rc.fqn) ∧ ∃ file c, classDeclaration files rc.fqn = .ok (file, c) ∧
        ClassBuilt files l₁ file c rc := by
  induction h with
  | nil =>
    intro l₁ l₂ rc hSplit
    simp at hSplit
  | snoc _ hFresh hDecl hBuilt ih =>
    intro l₁ l₂ rc hSplit
    rcases List.eq_nil_or_concat l₂ with rfl | ⟨l₂', y, rfl⟩
    · obtain ⟨rfl, hLast⟩ := List.append_inj' hSplit rfl
      cases hLast
      exact ⟨hFresh, _, _, hDecl, hBuilt⟩
    · rw [List.concat_eq_append, ← List.cons_append, ← List.append_assoc] at hSplit
      exact ih (List.append_inj' hSplit rfl).1

/-- A recorded list holds one class per qualified name. -/
theorem nodup (h : Recorded files L) : (L.map (·.fqn)).Nodup := by
  induction h with
  | nil => exact List.nodup_nil
  | snoc _ hFresh _ _ ih =>
    rw [List.map_append, List.nodup_append]
    refine ⟨ih, List.nodup_singleton _, fun a ha b hb => ?_⟩
    obtain ⟨p, hp, rfl⟩ := List.mem_map.1 ha
    rw [List.map_cons, List.map_nil, List.mem_singleton] at hb
    rw [hb]
    exact hFresh p hp

/-- Every class of a recorded list owes its declaration and the list what `ClassBuilt` says. -/
theorem classBuilt (h : Recorded files L) {rc : ResolvedClass} (hrc : rc ∈ L) :
    ∃ file c, classDeclaration files rc.fqn = .ok (file, c) ∧ ClassBuilt files L file c rc := by
  obtain ⟨l₁, l₂, hSplit⟩ := List.append_of_mem hrc
  obtain ⟨-, file, c, hDecl, hBuilt⟩ := h.split hSplit
  refine ⟨file, c, hDecl, ?_⟩
  rw [hSplit]
  exact hBuilt.append _

/-- The supertype of a recorded class is found before the class itself. -/
theorem findIdx_superType_lt (h : Recorded files L) {rc : ResolvedClass} (hrc : rc ∈ L) {s : String}
    (hs : rc.superType = some s) : L.findIdx (·.fqn == s) < L.findIdx (·.fqn == rc.fqn) := by
  obtain ⟨l₁, l₂, hSplit⟩ := List.append_of_mem hrc
  obtain ⟨hFresh, file, c, -, hBuilt⟩ := h.split hSplit
  obtain ⟨p, hp, hName⟩ := hBuilt.superRecorded s hs
  have hSuper : l₁.findIdx (·.fqn == s) < l₁.length :=
    List.findIdx_lt_length_of_exists ⟨p, hp, by simp [hName]⟩
  have hOwn : l₁.findIdx (·.fqn == rc.fqn) = l₁.length :=
    List.findIdx_eq_length.2 fun q hq => by simpa using hFresh q hq
  rw [hSplit, List.findIdx_append, List.findIdx_append, if_pos hSuper, hOwn, if_neg (Nat.lt_irrefl _),
    List.findIdx_cons]
  simp only [beq_self_eq_true, cond_true]
  omega

end Recorded

/-! ### Resolutions keep the order -/

/-- What every resolution keeps of a build state: its classes are recorded in order, and none of
them is on the stack of classes being resolved. -/
structure BuildOrder (files : ModelFiles) (st : IndexBuild) : Prop where
  recorded : Recorded files st.classes
  idle : ∀ v ∈ st.visiting, ∀ p ∈ st.classes, p.fqn ≠ v

theorem buildOrder_empty : BuildOrder files {} := ⟨.nil, fun _ h => by cases h⟩

/-- A resolution that succeeds leaves its class resolved. -/
theorem resolveClass_ok_mem (hwf : files.WellFormed) {fuel : Nat} {fqn : String} {st st' : IndexBuild}
    (h : (resolveClass files fuel fqn).run.run st = (.ok (), st')) : ∃ p ∈ st'.classes, p.fqn = fqn := by
  cases fuel with
  | zero => cases h
  | succ fuel =>
    cases resolveClass_step h with
    | resolved hAny =>
      obtain ⟨p, hp, hName⟩ := List.any_eq_true.1 hAny
      exact ⟨p, hp, beq_iff_eq.1 hName⟩
    | @built _ _ rc _ _ _ hDecl hBuild =>
      exact ⟨rc, List.mem_append_right _ (List.mem_singleton_self _),
        (answers_buildClass_fqn _ _ _ hBuild).trans (classDeclaration_fqn hwf hDecl)⟩

theorem keeps_buildOrder_resolveClass (hwf : files.WellFormed) :
    ∀ fuel fqn, Keeps (BuildOrder files) (resolveClass files fuel fqn) := by
  refine keeps_resolveClass fun fuel fqn st res st' hSuper hStep hSt => ?_
  have hPushed (hNew : st.classes.any (·.fqn == fqn) = false) :
      BuildOrder files { st with visiting := st.visiting ++ [fqn] } := by
    refine ⟨hSt.recorded, fun v hv p hp => ?_⟩
    rcases List.mem_append.1 hv with hv | hv
    · exact hSt.idle v hv p hp
    · rw [List.mem_singleton.1 hv]
      simpa using List.any_eq_false.1 hNew p hp
  have hStack {file : ModelFile} {c : ClassDeclaration} {r : Outcome ResolvedClass} {st₁ : IndexBuild}
      (hBuild : (buildClass files (resolveClass files fuel) file c).run.run
        { st with visiting := st.visiting ++ [fqn] } = (r, st₁)) : st₁.visiting = st.visiting ++ [fqn] :=
    (keeps_buildClass fun s => keeps_visiting_resolveClass files fuel s _).of_run hBuild rfl
  cases hStep with
  | resolved _ => exact hSt
  | refused _ _ => exact hSt
  | @built file c rc st₁ hNew hIdle hDecl hBuild =>
    have h₁ := (keeps_buildClass hSuper).of_run hBuild (hPushed hNew)
    have hFqn : rc.fqn = fqn := (answers_buildClass_fqn _ _ _ hBuild).trans (classDeclaration_fqn hwf hDecl)
    obtain ⟨hSuperOf, hSuperRun, -, hComplete⟩ := buildClass_eq_ok hBuild
    refine ⟨.snoc h₁.recorded (fun p hp => ?_) (hFqn ▸ hDecl)
      ⟨hSuperOf, fun s hs => (hSuperRun s hs).1, fun s hs => resolveClass_ok_mem hwf (hSuperRun s hs).2, hComplete⟩,
      fun v hv p hp => ?_⟩
    · rw [hFqn]
      exact h₁.idle fqn (by rw [hStack hBuild]; exact List.mem_append_right _ (List.mem_singleton_self _)) p hp
    · have hv' : v ∈ st.visiting := by simpa [hStack hBuild] using hv
      rcases List.mem_append.1 hp with hp | hp
      · exact h₁.idle v (by rw [hStack hBuild]; exact List.mem_append_left _ hv') p hp
      · rw [List.mem_singleton.1 hp, hFqn]
        exact fun hEq => hIdle (hEq ▸ hv')
  | @failed file c e st₁ hNew hIdle hDecl hBuild =>
    have h₁ := (keeps_buildClass hSuper).of_run hBuild (hPushed hNew)
    refine ⟨h₁.recorded, fun v hv p hp => h₁.idle v ?_ p hp⟩
    have hv' : v ∈ st.visiting := by simpa [hStack hBuild] using hv
    rw [hStack hBuild]
    exact List.mem_append_left _ hv'

/-! ### The resolution of all classes -/

/-- The qualified names of the classes the files declare, in file and declaration order. -/
theorem fqn_mem_classFqns {f : ModelFile} (hf : f ∈ files.files) {c : ClassDeclaration} (hc : .cls c ∈ f.declarations) :
    c.fqn ∈ files.files.flatMap fun f => f.declarations.filterMap fun d => d.cls?.map (·.fqn) :=
  List.mem_flatMap.2 ⟨f, hf, List.mem_filterMap.2 ⟨.cls c, hc, rfl⟩⟩

theorem resolveClasses_recorded (hwf : files.WellFormed) {mode : BuildMode} {classes : List ResolvedClass}
    (h : resolveClasses files mode = .ok classes) : Recorded files classes := by
  unfold resolveClasses at h
  dsimp only at h
  split at h
  · next st hRun =>
    cases h
    have hOrder := (Keeps.forM fun fqn =>
      Keeps.tolerated mode (keeps_buildOrder_resolveClass hwf (files.classCount + 1) fqn)).of_run hRun buildOrder_empty
    exact hOrder.recorded
  · cases h

/-- A class of the strict loop succeeds only where its resolution does. -/
theorem run_tolerated_strict {x : Building Unit} {st st₁ : IndexBuild} {u : PUnit}
    (h : (do let result ← tryCatch (Except.ok <$> x) fun e => pure (Except.error e)
             Building.lift (tolerate .strict result) : Building Unit).run.run st = (.ok u, st₁)) :
    x.run.run st = (.ok (), st₁) := by
  rw [run_bind, run_tryCatch] at h
  dsimp only at h
  rw [run_lift, tolerate_strict] at h
  rcases hx : x.run.run st with ⟨r, st₂⟩
  rw [hx] at h
  cases h
  rfl

/-- A strict resolution of all classes resolves every class the files declare. -/
theorem resolveClasses_strict_mem (hwf : files.WellFormed) {classes : List ResolvedClass}
    (h : resolveClasses files .strict = .ok classes)
    {fqn : String} (hfqn : fqn ∈ files.files.flatMap fun f => f.declarations.filterMap fun d => d.cls?.map (·.fqn)) :
    ∃ p ∈ classes, p.fqn = fqn := by
  unfold resolveClasses at h
  dsimp only at h
  split at h
  · next st hRun =>
    cases h
    have hResolved (x : String) : Keeps (fun st => ∃ p ∈ st.classes, p.fqn = fqn)
        (resolveClass files (files.classCount + 1) x) :=
      fun st ⟨p, hp, hName⟩ => ⟨p, keeps_mem_classes_resolveClass p _ x st hp, hName⟩
    have hAny (x : String) : Keeps (fun _ => True) (do
        let result ← tryCatch (Except.ok <$> resolveClass files (files.classCount + 1) x) fun e => pure (Except.error e)
        Building.lift (tolerate .strict result)) := fun _ _ => trivial
    exact forM_establishes hAny (fun x => Keeps.tolerated .strict (hResolved x)) hfqn
      (fun st st₁ _ hStep => resolveClass_ok_mem hwf (run_tolerated_strict hStep)) trivial hRun
  · cases h

/-! ### The classes of a type index -/

/-- A type index keeps, of the classes resolved, those without a faulty relationship; a strict
index keeps all of them. -/
theorem build_classes {mode : BuildMode} {ix : TypeIndex} (h : TypeIndex.build files mode = .ok ix) :
    ∃ classes, resolveClasses files mode = .ok classes ∧ ix.classes.Sublist classes ∧
      (mode = .strict → ix.classes = classes) := by
  obtain ⟨classes, maps, hClasses, -, hStrict, hKept, -, -⟩ := build_eq_ok h
  refine ⟨classes, hClasses, hKept ▸ List.filter_sublist, ?_⟩
  rintro rfl
  rw [hKept, hStrict rfl]
  simp

/-- The classes of a type index are a sublist of a recorded list. -/
theorem build_recorded (hwf : files.WellFormed) {mode : BuildMode} {ix : TypeIndex}
    (h : TypeIndex.build files mode = .ok ix) : ∃ L, Recorded files L ∧ ix.classes.Sublist L := by
  obtain ⟨classes, hClasses, hSub, -⟩ := build_classes h
  exact ⟨classes, resolveClasses_recorded hwf hClasses, hSub⟩

/-- The classes of a strict type index are recorded, and they are every class the files declare. -/
theorem build_strict_recorded (hwf : files.WellFormed) {ix : TypeIndex} (h : TypeIndex.build files .strict = .ok ix) :
    Recorded files ix.classes ∧
      ∀ f ∈ files.files, ∀ c, .cls c ∈ f.declarations → ∃ p ∈ ix.classes, p.fqn = c.fqn := by
  obtain ⟨classes, hClasses, -, hAll⟩ := build_classes h
  rw [hAll rfl]
  exact ⟨resolveClasses_recorded hwf hClasses, fun f hf c hc =>
    resolveClasses_strict_mem hwf hClasses (fqn_mem_classFqns hf hc)⟩

end DomainModels
