import DomainModels.Proofs.Graph.ModelFiles
/-! The five root classes survive every build of well-formed files, strict or lenient, followed
through the class resolution with the state predicates `Keeps` and `Answers`. -/
namespace DomainModels

open Metamodel (ClassKind)
open Outcome

variable {α β γ : Type}

namespace Building

@[simp] theorem run_pure (a : α) (st : IndexBuild) : (pure a : Building α).run.run st = (.ok a, st) := rfl

@[simp] theorem run_throw (e : ModelError) (st : IndexBuild) :
    (throw e : Building α).run.run st = (.error e, st) := rfl

@[simp] theorem run_get (st : IndexBuild) : (get : Building IndexBuild).run.run st = (.ok st, st) := rfl

@[simp] theorem run_modify (f : IndexBuild → IndexBuild) (st : IndexBuild) :
    (modify f : Building PUnit).run.run st = (.ok ⟨⟩, f st) := rfl

/-- Every run of `x` from a state meeting `P` leaves a state meeting `P`, whatever its outcome. -/
def Keeps (P : IndexBuild → Prop) (x : Building α) : Prop := ∀ st, P st → P (x.run.run st).2

/-- Every successful run of `x` answers a value meeting `Q`. -/
def Answers (Q : α → Prop) (x : Building α) : Prop := ∀ st a st', x.run.run st = (.ok a, st') → Q a

variable {P : IndexBuild → Prop} {Q : β → Prop}

theorem keeps_pure (a : α) : Keeps P (pure a) := fun _ h => h

theorem keeps_get : Keeps P get := fun _ h => h

theorem keeps_lift (o : Outcome α) : Keeps P (Building.lift o) := by
  intro st h
  rw [run_lift]
  exact h

theorem Keeps.bind {x : Building α} {f : α → Building β} (hx : Keeps P x) (hf : ∀ a, Keeps P (f a)) :
    Keeps P (x >>= f) := by
  intro st h
  have h₁ := hx st h
  rw [run_bind]
  rcases hRun : x.run.run st with ⟨_ | a, st₁⟩
  · rw [hRun] at h₁
    exact h₁
  · rw [hRun] at h₁
    exact hf a st₁ h₁

theorem Keeps.of_run {x : Building α} (hx : Keeps P x) {st : IndexBuild} {r : Except ModelError α}
    {st' : IndexBuild} (hRun : x.run.run st = (r, st')) (hSt : P st) : P st' := by
  have h := hx st hSt
  rw [hRun] at h
  exact h

theorem Keeps.forM {l : List γ} {f : γ → Building PUnit} (h : ∀ c, Keeps P (f c)) : Keeps P (l.forM f) := by
  induction l with
  | nil => exact keeps_pure _
  | cons c rest ih => exact (h c).bind fun _ => ih

/-- A loop that succeeds has run every one of its steps, each successfully: a property that a
successful step at `c₀` establishes from `P`, where every step keeps both, holds when the loop is
done. -/
theorem forM_establishes {l : List γ} {f : γ → Building PUnit} {R : IndexBuild → Prop}
    (hP : ∀ c, Keeps P (f c)) (hR : ∀ c, Keeps R (f c)) {c₀ : γ} (hc₀ : c₀ ∈ l)
    (h₀ : ∀ st st₁, P st → (f c₀).run.run st = (.ok ⟨⟩, st₁) → R st₁) :
    ∀ {st st'}, P st → (l.forM f).run.run st = (.ok ⟨⟩, st') → R st' := by
  induction l with
  | nil => cases hc₀
  | cons c rest ih =>
    intro st st' hSt hRun
    rw [List.forM_eq_forM, List.forM_cons, run_bind] at hRun
    rcases hStep : (f c).run.run st with ⟨_ | u, st₁⟩
    · rw [hStep] at hRun
      cases hRun
    · rw [hStep] at hRun
      have hRest : (rest.forM f).run.run st₁ = (.ok ⟨⟩, st') := hRun
      rcases List.mem_cons.1 hc₀ with rfl | hc₀
      · exact (Keeps.forM hR).of_run hRest (h₀ st st₁ hSt hStep)
      · have hP₁ := hP c st hSt
        rw [hStep] at hP₁
        exact ih hc₀ hP₁ hRest

theorem Answers.bind {x : Building α} {f : α → Building β} (hf : ∀ a, Answers Q (f a)) :
    Answers Q (x >>= f) := by
  intro st b st' h
  rw [run_bind] at h
  rcases hRun : x.run.run st with ⟨_ | a, st₁⟩
  · rw [hRun] at h
    cases h
  · rw [hRun] at h
    exact hf a st₁ b st' h

theorem answers_lift {o : Outcome β} (h : ∀ b, o = .ok b → Q b) : Answers Q (Building.lift o) := by
  intro st b st' hRun
  rw [run_lift] at hRun
  cases hRun
  exact h b rfl

end Building

open Building

/-! ### Building one class -/

theorem completeClass_fqn {files : ModelFiles} {file : ModelFile} {c : ClassDeclaration} {s : Option String}
    {parent : Option ResolvedClass} {rc : ResolvedClass} (h : completeClass files file c s parent = .ok rc) :
    rc.fqn = c.fqn := by
  unfold completeClass at h
  obtain ⟨_, -, h⟩ := bind_eq_ok.1 h
  obtain ⟨own, -, h⟩ := bind_eq_ok.1 h
  obtain ⟨_, -, h⟩ := bind_eq_ok.1 h
  obtain ⟨_, -, h⟩ := bind_eq_ok.1 h
  split at h
  cases h
  rfl

/-- A root class resolves, with nothing inherited, to a class of its own name whose only
properties are system fields. -/
theorem completeClass_rootClass (files : ModelFiles) (file : ModelFile) (k : ClassKind) :
    ∃ rc, completeClass files file (rootClass k) none none = .ok rc ∧ rc.fqn = k.rootFqn ∧
      ∀ p ∈ rc.properties, p.isRelationship = false := by
  cases k <;> exact ⟨_, rfl, rfl, by decide⟩

theorem superTypeOf_rootClass (files : ModelFiles) (file : ModelFile) (k : ClassKind)
    (illegal : String → ModelError) : superTypeOf files file (rootClass k) illegal = .ok none := by
  cases k <;> rfl

section BuildClass

variable {files : ModelFiles} {resolveSuper : String → Building Unit} {file : ModelFile} {c : ClassDeclaration}

/-- Building a class changes the state only through the resolution of its supertype. -/
theorem keeps_buildClass {P : IndexBuild → Prop} (hSuper : ∀ s, Keeps P (resolveSuper s)) :
    Keeps P (buildClass files resolveSuper file c) := by
  unfold buildClass
  refine (keeps_lift _).bind fun superFqn => ?_
  split
  · exact (keeps_lift _).bind fun _ => (hSuper _).bind fun _ => keeps_get.bind fun _ => keeps_lift _
  · exact keeps_get.bind fun _ => keeps_lift _

theorem answers_buildClass_fqn : Answers (·.fqn = c.fqn) (buildClass files resolveSuper file c) := by
  unfold buildClass
  refine Answers.bind fun superFqn => ?_
  split
  · exact Answers.bind fun _ => Answers.bind fun _ => Answers.bind fun _ => answers_lift fun _ => completeClass_fqn
  · exact Answers.bind fun _ => answers_lift fun _ => completeClass_fqn

/-- A root class is built without resolving anything and without touching the state. -/
theorem buildClass_rootClass (files : ModelFiles) (resolveSuper : String → Building Unit) (file : ModelFile)
    (k : ClassKind) :
    ∃ rc, rc.fqn = k.rootFqn ∧ (∀ p ∈ rc.properties, p.isRelationship = false) ∧
      ∀ st, (buildClass files resolveSuper file (rootClass k)).run.run st = (.ok rc, st) := by
  obtain ⟨rc, hrc, hFqn, hPlain⟩ := completeClass_rootClass files file k
  refine ⟨rc, hFqn, hPlain, fun st => ?_⟩
  rw [buildClass, run_bind, run_lift, superTypeOf_rootClass]
  dsimp only
  rw [run_bind, run_get]
  dsimp only
  rw [run_lift]
  exact congrArg (·, st) hrc

end BuildClass

/-! ### The class a qualified name names -/

section Declarations

variable {files : ModelFiles}

theorem classDeclaration_mem (hwf : files.WellFormed) {fqn : String} {file : ModelFile} {c : ClassDeclaration}
    (h : classDeclaration files fqn = .ok (file, c)) : file ∈ files.files ∧ .cls c ∈ file.declarations := by
  unfold classDeclaration at h
  split at h
  · cases h
  · split at h
    · cases h
    · next hFile =>
      split at h
      · next hDecl =>
        cases h
        exact ⟨(hwf.of_get? hFile).1, List.mem_of_find?_eq_some hDecl⟩
      · cases h
      · cases h

theorem split?_rootFqn (k : ClassKind) : Names.split? k.rootFqn = some (Names.rootNamespace, k.rootName) := by
  cases k <;> decide +kernel

theorem classDeclaration_rootFqn (hwf : files.WellFormed) (k : ClassKind) :
    classDeclaration files k.rootFqn = .ok (rootFile, rootClass k) := by
  simp only [classDeclaration, split?_rootFqn, hwf.root, rootFile_declaration?]

/-- A class declared under the qualified name of a root class is that root class. -/
theorem ModelFiles.WellFormed.classDeclaration_eq_rootClass (hwf : files.WellFormed) {fqn : String}
    {file : ModelFile} {c : ClassDeclaration} (h : classDeclaration files fqn = .ok (file, c)) {k : ClassKind}
    (hName : c.fqn = k.rootFqn) : c = rootClass k := by
  obtain ⟨hFile, hDecl⟩ := classDeclaration_mem hwf h
  have hEq := (hwf.eq_rootClass hFile hDecl hName).2
  cases hEq
  rfl

end Declarations

/-! ### One resolution -/

/-- The ways one resolution of `fqn`, with fuel left, can end from the state `st`: its answer
and the state it leaves. -/
inductive ResolveStep (files : ModelFiles) (fuel : Nat) (fqn : String) (st : IndexBuild) :
    Except ModelError Unit → IndexBuild → Prop where
  /-- The class is resolved already. -/
  | resolved : st.classes.any (·.fqn == fqn) = true → ResolveStep files fuel fqn st (.ok ()) st
  /-- The class failed before, is on the stack, or is not a declared class. -/
  | refused (e : ModelError) :
      (∃ m, st.failed.lookup fqn = some m) ∨ fqn ∈ st.visiting ∨ (∃ e', classDeclaration files fqn = .error e') →
      ResolveStep files fuel fqn st (.error e) st
  /-- A class neither resolved nor on the stack is built with its name on the stack, its
  supertypes resolved with the fuel left, and recorded. -/
  | built {file : ModelFile} {c : ClassDeclaration} {rc : ResolvedClass} {st₁ : IndexBuild} :
      st.classes.any (·.fqn == fqn) = false → fqn ∉ st.visiting → classDeclaration files fqn = .ok (file, c) →
      (buildClass files (resolveClass files fuel) file c).run.run { st with visiting := st.visiting ++ [fqn] } =
        (.ok rc, st₁) →
      ResolveStep files fuel fqn st (.ok ())
        { st₁ with visiting := st₁.visiting.dropLast, classes := st₁.classes ++ [rc] }
  /-- Building the class fails, and the failure is recorded. -/
  | failed {file : ModelFile} {c : ClassDeclaration} {e : ModelError} {st₁ : IndexBuild} :
      st.classes.any (·.fqn == fqn) = false → fqn ∉ st.visiting → classDeclaration files fqn = .ok (file, c) →
      (buildClass files (resolveClass files fuel) file c).run.run { st with visiting := st.visiting ++ [fqn] } =
        (.error e, st₁) →
      ResolveStep files fuel fqn st (.error e)
        { st₁ with visiting := st₁.visiting.dropLast, failed := (fqn, e.message) :: st₁.failed }

section Resolution

variable {files : ModelFiles}

theorem resolveClass_step {fuel : Nat} {fqn : String} {st : IndexBuild} {res : Except ModelError Unit}
    {st' : IndexBuild} (h : (resolveClass files (fuel + 1) fqn).run.run st = (res, st')) :
    ResolveStep files fuel fqn st res st' := by
  rw [resolveClass, run_bind, run_get] at h
  dsimp only at h
  split at h
  · next hAny =>
    cases h
    exact .resolved hAny
  · next hAny =>
    have hNew : st.classes.any (·.fqn == fqn) = false := by simpa using hAny
    split at h
    · next m hFailed =>
      rw [run_bind, run_throw] at h
      cases h
      exact .refused _ (.inl ⟨m, hFailed⟩)
    · split at h
      · next pos hCycle =>
        rw [run_bind, run_throw] at h
        cases h
        exact .refused _ (.inr (.inl (List.isSome_idxOf?.1 (by rw [hCycle]; rfl))))
      · next hNoCycle =>
        have hIdle : fqn ∉ st.visiting := fun hMem => by
          obtain ⟨pos, hPos⟩ := Option.isSome_iff_exists.1 (List.isSome_idxOf?.2 hMem)
          exact hNoCycle pos hPos
        rw [run_bind, run_lift] at h
        rcases hDecl : classDeclaration files fqn with e' | ⟨file, c⟩
        · rw [hDecl] at h
          cases h
          exact .refused _ (.inr (.inr ⟨e', hDecl⟩))
        · rw [hDecl] at h
          dsimp only at h
          simp only [run_bind, run_modify, run_tryCatch] at h
          rcases hBuild : (buildClass files (resolveClass files fuel) file c).run.run
            { st with visiting := st.visiting ++ [fqn] } with ⟨_ | rc, st₁⟩
          · rw [hBuild] at h
            dsimp only at h
            simp only [run_bind, run_modify, run_throw] at h
            cases h
            exact .failed hNew hIdle hDecl hBuild
          · rw [hBuild] at h
            dsimp only at h
            simp only [run_modify] at h
            cases h
            exact .built hNew hIdle hDecl hBuild

/-- A resolution gives back the stack of classes being resolved it started from. -/
theorem keeps_visiting_resolveClass (files : ModelFiles) :
    ∀ (fuel : Nat) (fqn : String) (visiting : List String),
      Keeps (·.visiting = visiting) (resolveClass files fuel fqn)
  | 0, _, _ => fun _ h => h
  | fuel + 1, fqn, visiting => by
    intro st hSt
    rcases hRun : (resolveClass files (fuel + 1) fqn).run.run st with ⟨res, st'⟩
    have hPopped (st₁ : IndexBuild) (r : Outcome ResolvedClass) {file : ModelFile} {c : ClassDeclaration}
        (hBuild : (buildClass files (resolveClass files fuel) file c).run.run
          { st with visiting := st.visiting ++ [fqn] } = (r, st₁)) : st₁.visiting.dropLast = visiting := by
      have h₁ := (keeps_buildClass fun s => keeps_visiting_resolveClass files fuel s (visiting ++ [fqn])).of_run
        hBuild (congrArg (· ++ [fqn]) hSt)
      rw [h₁, List.dropLast_concat]
    cases resolveClass_step hRun with
    | resolved _ => exact hSt
    | refused _ _ => exact hSt
    | built _ _ _ hBuild => exact hPopped _ _ hBuild
    | failed _ _ _ hBuild => exact hPopped _ _ hBuild

/-- A property of build states that every way out of one resolution keeps, when the resolutions
of supertypes keep it, is kept by every resolution. -/
theorem keeps_resolveClass {P : IndexBuild → Prop}
    (hStep : ∀ fuel fqn st res st', (∀ s, Keeps P (resolveClass files fuel s)) →
      ResolveStep files fuel fqn st res st' → P st → P st') :
    ∀ fuel fqn, Keeps P (resolveClass files fuel fqn)
  | 0, _ => fun _ h => h
  | fuel + 1, fqn => by
    intro st hSt
    rcases hRun : (resolveClass files (fuel + 1) fqn).run.run st with ⟨res, st'⟩
    exact hStep fuel fqn st res st' (keeps_resolveClass hStep fuel) (resolveClass_step hRun) hSt

/-- Resolved classes stay resolved. -/
theorem keeps_mem_classes_resolveClass (rc : ResolvedClass) :
    ∀ fuel fqn, Keeps (rc ∈ ·.classes) (resolveClass files fuel fqn) := by
  refine keeps_resolveClass fun fuel fqn st res st' hSuper hStep hSt => ?_
  cases hStep with
  | resolved _ => exact hSt
  | refused _ _ => exact hSt
  | @built _ _ _ st₁ _ _ _ hBuild =>
    have h₁ : rc ∈ st₁.classes := (keeps_buildClass hSuper).of_run hBuild hSt
    exact List.mem_append_left _ h₁
  | @failed _ _ _ st₁ _ _ _ hBuild =>
    have h₁ : rc ∈ st₁.classes := (keeps_buildClass hSuper).of_run hBuild hSt
    exact h₁

/-- What a build keeps about the root classes: none of them has failed, and a resolved class
under the name of a root class has no relationship. -/
structure RootsSafe (st : IndexBuild) : Prop where
  not_failed : ∀ k : ClassKind, st.failed.lookup k.rootFqn = none
  plain : ∀ rc ∈ st.classes, ∀ k : ClassKind, rc.fqn = k.rootFqn → ∀ p ∈ rc.properties, p.isRelationship = false

theorem rootsSafe_empty : RootsSafe {} := ⟨fun _ => rfl, fun _ h => by cases h⟩

theorem keeps_rootsSafe_resolveClass (hwf : files.WellFormed) :
    ∀ fuel fqn, Keeps RootsSafe (resolveClass files fuel fqn) := by
  refine keeps_resolveClass fun fuel fqn st res st' hSuper hStep hSt => ?_
  cases hStep with
  | resolved _ => exact hSt
  | refused _ _ => exact hSt
  | @built file c rc st₁ _ _ hDecl hBuild =>
    have h₁ := (keeps_buildClass hSuper).of_run hBuild ⟨hSt.1, hSt.2⟩
    refine ⟨h₁.not_failed, fun rc' hrc' k hName => ?_⟩
    rcases List.mem_append.1 hrc' with hOld | hNew
    · exact h₁.plain rc' hOld k hName
    · rw [List.mem_singleton] at hNew
      subst hNew
      have hc := hwf.classDeclaration_eq_rootClass hDecl (answers_buildClass_fqn _ _ _ hBuild ▸ hName)
      subst hc
      obtain ⟨rc₀, -, hPlain, hRun⟩ := buildClass_rootClass files (resolveClass files fuel) file k
      rw [hRun] at hBuild
      cases hBuild
      exact hPlain
  | @failed file c e st₁ _ _ hDecl hBuild =>
    have h₁ := (keeps_buildClass hSuper).of_run hBuild ⟨hSt.1, hSt.2⟩
    refine ⟨fun k => ?_, h₁.plain⟩
    show ((fqn, e.message) :: st₁.failed).lookup k.rootFqn = none
    rw [ModelFiles.lookup_cons_eq]
    split
    · next hRoot =>
      subst hRoot
      rw [classDeclaration_rootFqn hwf k] at hDecl
      cases hDecl
      obtain ⟨rc₀, -, -, hRun⟩ := buildClass_rootClass files (resolveClass files fuel) rootFile k
      rw [hRun] at hBuild
      cases hBuild
    · exact h₁.not_failed k

/-- From a state where no root class has failed or is being resolved, resolving a root class
succeeds and leaves it resolved. -/
theorem resolveClass_rootFqn (hwf : files.WellFormed) {fuel : Nat} {st : IndexBuild} (hSt : RootsSafe st)
    {k : ClassKind} (hIdle : k.rootFqn ∉ st.visiting) :
    ((resolveClass files (fuel + 1) k.rootFqn).run.run st).1 = .ok () ∧
      ∃ rc ∈ ((resolveClass files (fuel + 1) k.rootFqn).run.run st).2.classes, rc.fqn = k.rootFqn := by
  rcases hRun : (resolveClass files (fuel + 1) k.rootFqn).run.run st with ⟨res, st'⟩
  cases resolveClass_step hRun with
  | resolved hAny =>
    obtain ⟨rc, hrc, hName⟩ := List.any_eq_true.1 hAny
    exact ⟨rfl, rc, hrc, beq_iff_eq.1 hName⟩
  | refused e hWhy =>
    exfalso
    rcases hWhy with ⟨m, hFailed⟩ | hVisiting | ⟨e', hDecl⟩
    · rw [hSt.not_failed k] at hFailed
      cases hFailed
    · exact hIdle hVisiting
    · rw [classDeclaration_rootFqn hwf k] at hDecl
      cases hDecl
  | @built file c rc st₁ _ _ hDecl hBuild =>
    rw [classDeclaration_rootFqn hwf k] at hDecl
    cases hDecl
    obtain ⟨rc₀, hName, -, hRoot⟩ := buildClass_rootClass files (resolveClass files fuel) rootFile k
    rw [hRoot] at hBuild
    cases hBuild
    exact ⟨rfl, _, List.mem_append_right _ (List.mem_singleton_self _), hName⟩
  | @failed file c e st₁ _ _ hDecl hBuild =>
    rw [classDeclaration_rootFqn hwf k] at hDecl
    cases hDecl
    obtain ⟨rc₀, -, -, hRoot⟩ := buildClass_rootClass files (resolveClass files fuel) rootFile k
    rw [hRoot] at hBuild
    cases hBuild

end Resolution

/-! ### The resolution of all classes -/

section Classes

variable {files : ModelFiles}

/-- One class of the resolution loop, its failure tolerated as the mode says, leaves the state its
resolution leaves. -/
theorem run_tolerated (mode : BuildMode) (x : Building Unit) (st : IndexBuild) :
    ((do let result ← tryCatch (Except.ok <$> x) fun e => pure (Except.error e)
         Building.lift (tolerate mode result) : Building Unit).run.run st).2 = (x.run.run st).2 := by
  rw [run_bind, run_tryCatch]
  dsimp only
  rw [run_lift]

theorem Building.Keeps.tolerated {P : IndexBuild → Prop} (mode : BuildMode) {x : Building Unit}
    (hx : Keeps P x) :
    Keeps P (do let result ← tryCatch (Except.ok <$> x) fun e => pure (Except.error e)
                Building.lift (tolerate mode result)) := by
  intro st hSt
  rw [run_tolerated]
  exact hx st hSt

theorem mem_classFqns (hwf : files.WellFormed) (k : ClassKind) :
    k.rootFqn ∈ files.files.flatMap fun f => f.declarations.filterMap fun d => d.cls?.map (·.fqn) := by
  refine List.mem_flatMap.2 ⟨rootFile, (hwf.of_get? hwf.root).1, ?_⟩
  exact List.mem_filterMap.2 ⟨.cls (rootClass k), List.mem_of_find?_eq_some (rootFile_declaration? k), rfl⟩

/-- Resolving all classes resolves each root class, and no class under the name of a root class
has a relationship. -/
theorem resolveClasses_rootClass (hwf : files.WellFormed) {mode : BuildMode} {classes : List ResolvedClass}
    (h : resolveClasses files mode = .ok classes) (k : ClassKind) :
    (∃ rc ∈ classes, rc.fqn = k.rootFqn) ∧
      ∀ rc ∈ classes, rc.fqn = k.rootFqn → ∀ p ∈ rc.properties, p.isRelationship = false := by
  unfold resolveClasses at h
  dsimp only at h
  split at h
  · next st hRun =>
    cases h
    have hIdle (fqn : String) :=
      Keeps.tolerated mode (keeps_visiting_resolveClass files (files.classCount + 1) fqn [])
    have hSafe (fqn : String) :=
      Keeps.tolerated mode (keeps_rootsSafe_resolveClass hwf (files.classCount + 1) fqn)
    have hTop (fqn : String) : Keeps (fun st => st.visiting = [] ∧ RootsSafe st) _ :=
      fun st hSt => ⟨hIdle fqn st hSt.1, hSafe fqn st hSt.2⟩
    have hResolved (fqn : String) : Keeps (fun st => ∃ rc ∈ st.classes, rc.fqn = k.rootFqn)
        (resolveClass files (files.classCount + 1) fqn) :=
      fun st ⟨rc, hrc, hName⟩ => ⟨rc, keeps_mem_classes_resolveClass rc _ fqn st hrc, hName⟩
    refine ⟨forM_establishes hTop (fun fqn => Keeps.tolerated mode (hResolved fqn)) (mem_classFqns hwf k)
      (fun st st₁ hSt hStep => ?_) ⟨rfl, rootsSafe_empty⟩ hRun, fun rc hrc => ?_⟩
    · have hRoot : ∃ rc ∈ ((resolveClass files (files.classCount + 1) k.rootFqn).run.run st).2.classes,
          rc.fqn = k.rootFqn :=
        (resolveClass_rootFqn hwf hSt.2 (hSt.1 ▸ List.not_mem_nil)).2
      rw [← run_tolerated mode, hStep] at hRoot
      exact hRoot
    · exact ((Keeps.forM hSafe).of_run hRun rootsSafe_empty).plain rc hrc k
  · cases h

end Classes

/-! ### The index keeps the root classes -/

section Index

variable {files : ModelFiles}

theorem resolveMap_fqn {file : ModelFile} {m : MapDeclaration} {r : ResolvedMap}
    (h : resolveMap files file m = .ok r) : r.fqn = m.fqn := by
  unfold resolveMap at h
  obtain ⟨key, -, h⟩ := bind_eq_ok.1 h
  dsimp only at h
  split at h
  case h_3 => exact absurd h (throw_bind_ne_ok _ _ _)
  all_goals
    obtain ⟨value, -, h⟩ := bind_eq_ok.1 h
    cases h
    rfl

/-- A relationship fault is about a class with a relationship, or about a map. -/
theorem mem_relationshipFaults {classes : List ResolvedClass} {maps : List ResolvedMap} {s : String}
    {e : ModelError} (h : (s, e) ∈ relationshipFaults classes maps) :
    (∃ c ∈ classes, c.fqn = s ∧ ∃ p ∈ c.properties, p.isRelationship = true) ∨ ∃ m ∈ maps, m.fqn = s := by
  unfold relationshipFaults at h
  rw [List.mem_mergeSort, List.mem_append] at h
  rcases h with h | h
  · obtain ⟨c, hc, h⟩ := List.mem_flatMap.1 h
    obtain ⟨p, hp, h⟩ := List.mem_filterMap.1 h
    split at h
    · next hRel _ =>
      obtain ⟨_, -, hFault⟩ := Option.map_eq_some_iff.1 h
      cases hFault
      exact .inl ⟨c, hc, rfl, p, (List.mem_filter.1 hp).1, hRel⟩
    · cases h
  · obtain ⟨m, hm, h⟩ := List.mem_filterMap.1 h
    split at h
    · obtain ⟨_, -, hFault⟩ := Option.map_eq_some_iff.1 h
      cases hFault
      exact .inr ⟨m, hm, rfl⟩
    · cases h

/-- The faults of a strict build are all passed on, so a strict build that succeeds has none. -/
theorem faults_eq_nil {faults : List (String × ModelError)} {u : PUnit}
    (h : forIn faults PUnit.unit (fun (x : String × ModelError) (_ : PUnit) => match x with
      | (_, e) => do tolerate .strict (.error e); pure (ForInStep.yield PUnit.unit)) = .ok u) : faults = [] := by
  cases faults with
  | nil => rfl
  | cons fault rest =>
    rw [List.forIn_cons] at h
    obtain ⟨_, e⟩ := fault
    cases h

/-- A build that succeeds resolved the classes, and resolved each map from a map some file
declares; it keeps those that no relationship fault names, and a strict build has no fault. -/
theorem build_eq_ok {mode : BuildMode} {ix : TypeIndex} (h : TypeIndex.build files mode = .ok ix) :
    ∃ classes maps, resolveClasses files mode = .ok classes ∧
      (∀ m ∈ maps, ∃ f ∈ files.files, ∃ md, Declaration.map md ∈ f.declarations ∧ resolveMap files f md = .ok m) ∧
      (mode = .strict → relationshipFaults classes maps = []) ∧
      ix.classes = classes.filter (fun c => !((relationshipFaults classes maps).map Prod.fst).contains c.fqn) ∧
      ix.maps = maps.filter (fun m => !((relationshipFaults classes maps).map Prod.fst).contains m.fqn) ∧
      ix.order = lastPlaces (files.files.flatMap fun f =>
        f.declarations.filterMap fun d => if ix.classes.any (·.fqn == d.fqn) then some d.fqn else none) := by
  unfold TypeIndex.build at h
  obtain ⟨_, -, h⟩ := bind_eq_ok.1 h
  obtain ⟨classes, hClasses, h⟩ := bind_eq_ok.1 h
  obtain ⟨maps, hMaps, h⟩ := bind_eq_ok.1 h
  obtain ⟨_, hFaults, h⟩ := bind_eq_ok.1 h
  cases h
  have hResolved : ∀ m ∈ maps, ∃ f ∈ files.files, ∃ md, Declaration.map md ∈ f.declarations ∧
      resolveMap files f md = .ok m := by
    refine forIn_inv (fun maps => ∀ m ∈ maps, ∃ f ∈ files.files, ∃ md, Declaration.map md ∈ f.declarations ∧
      resolveMap files f md = .ok m) (fun f hf acc step hAcc hStep => ?_) (fun _ h => by cases h) hMaps
    obtain ⟨inner, hInner, hStep⟩ := bind_eq_ok.1 hStep
    cases hStep
    refine forIn_inv (fun maps => ∀ m ∈ maps, ∃ f ∈ files.files, ∃ md, Declaration.map md ∈ f.declarations ∧
      resolveMap files f md = .ok m) (fun d hd acc' step' hAcc' hStep' => ?_) hAcc hInner
    dsimp only at hStep'
    split at hStep'
    · next md =>
      split at hStep'
      · next r hr =>
        cases hStep'
        intro m hm
        rcases List.mem_append.1 hm with hm | hm
        · exact hAcc' m hm
        · rw [List.mem_singleton.1 hm]
          exact ⟨f, hf, md, hd, hr⟩
      · obtain ⟨_, -, hStep'⟩ := bind_eq_ok.1 hStep'
        cases hStep'
        exact hAcc'
    · cases hStep'
      exact hAcc'
  refine ⟨classes, maps, hClasses, hResolved, ?_, rfl, rfl, rfl⟩
  rintro rfl
  exact faults_eq_nil hFaults

/-- A type index built from well-formed files, strictly or leniently, resolves every root
class. -/
theorem build_resolves_rootClass (hwf : files.WellFormed) {mode : BuildMode} {ix : TypeIndex}
    (h : TypeIndex.build files mode = .ok ix) (k : ClassKind) : (ix.class? k.rootFqn).isSome := by
  obtain ⟨classes, maps, hClasses, hResolved, -, hKept, -, -⟩ := build_eq_ok h
  obtain ⟨⟨rc, hrc, hName⟩, hPlain⟩ := resolveClasses_rootClass hwf hClasses k
  have hNotFaulty : k.rootFqn ∉ (relationshipFaults classes maps).map Prod.fst := by
    intro hMem
    obtain ⟨⟨s, e⟩, hFault, hs⟩ := List.mem_map.1 hMem
    dsimp only at hs
    subst hs
    rcases mem_relationshipFaults hFault with ⟨c, hc, hcName, p, hp, hRel⟩ | ⟨m, hm, hmName⟩
    · rw [hPlain c hc hcName p hp] at hRel
      cases hRel
    · obtain ⟨f, hf, md, hmd, hm⟩ := hResolved m hm
      have hEq := (hwf.eq_rootClass hf hmd ((resolveMap_fqn hm).symm.trans hmName)).2
      cases hEq
  rw [TypeIndex.class?, hKept, List.find?_isSome]
  refine ⟨rc, List.mem_filter.2 ⟨hrc, ?_⟩, by rw [hName, beq_self_eq_true]⟩
  simpa [hName] using hNotFaulty

end Index

end DomainModels
