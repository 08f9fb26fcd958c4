import DomainModels.Registry
/-! Strict and lenient builds of a type index: a lenient build never fails, and where a strict build
succeeds the lenient one gives the same index. -/
namespace DomainModels

variable {α β γ : Type}

namespace Outcome

/-- `b` succeeds with every value `a` succeeds with; it may turn failures into successes. -/
def Relaxes (a b : Outcome α) : Prop := ∀ x, a = .ok x → b = .ok x

/-- An outcome that is not a failure. -/
def Succeeds (a : Outcome α) : Prop := ∃ x, a = .ok x

/-- An outcome that is not a failure is its value, read with any default. -/
theorem eq_ok_getD [Inhabited α] {a : Outcome α} (h : a.toBool = true) : a = .ok (a.toOption.getD default) := by
  cases a with
  | error e => cases h
  | ok x => rfl

theorem exists_eq_ok {a : Outcome α} (h : a.toBool = true) : ∃ x, a = .ok x := by
  cases a with
  | error e => cases h
  | ok x => exact ⟨x, rfl⟩

theorem eq_ok_of_toOption {a : Outcome α} {x : α} (h : a.toOption = some x) : a = .ok x := by
  cases a with
  | error e => cases h
  | ok y =>
    cases h
    rfl

theorem exists_eq_ok_of_map {g : α → β} {b : β} {a : Outcome α} (h : a.toOption.map g = some b) :
    ∃ x, a = .ok x ∧ g x = b := by
  obtain ⟨x, hx, hg⟩ := Option.map_eq_some_iff.1 h
  exact ⟨x, eq_ok_of_toOption hx, hg⟩

theorem throw_bind_ne_ok (e : ModelError) (f : α → Outcome β) (y : β) :
    ((throw e : Outcome α) >>= f) ≠ .ok y := by
  intro h
  cases h

/-- A loop that succeeds keeps every invariant its steps keep. -/
theorem forIn_inv {l : List γ} {f : γ → β → Outcome (ForInStep β)} (P : β → Prop)
    (hStep : ∀ c ∈ l, ∀ b step, P b → f c b = .ok step → P step.value) :
    ∀ {init out : β}, P init → forIn l init f = .ok out → P out := by
  induction l with
  | nil =>
    intro init out hInit h
    cases h
    exact hInit
  | cons c rest ih =>
    intro init out hInit h
    rw [List.forIn_cons, bind_eq_ok] at h
    obtain ⟨step, hc, hRest⟩ := h
    have hP := hStep c List.mem_cons_self init step hInit hc
    cases step with
    | done b => cases hRest; exact hP
    | yield b => exact ih (fun c' hc' => hStep c' (List.mem_cons_of_mem _ hc')) hP hRest

theorem Relaxes.refl (a : Outcome α) : a.Relaxes a := fun _ h => h

theorem Relaxes.bind {a b : Outcome α} {f g : α → Outcome β} (hab : a.Relaxes b)
    (hfg : ∀ x, (f x).Relaxes (g x)) : (a >>= f).Relaxes (b >>= g) := by
  intro y h
  cases ha : a with
  | error e => rw [ha] at h; cases h
  | ok x =>
    rw [ha] at h
    rw [hab x ha]
    exact hfg x y h

theorem Relaxes.forIn {l : List γ} {f g : γ → β → Outcome (ForInStep β)}
    (h : ∀ c s, (f c s).Relaxes (g c s)) (init : β) : (forIn l init f).Relaxes (forIn l init g) := by
  induction l generalizing init with
  | nil => exact Relaxes.refl _
  | cons c rest ih =>
    rw [List.forIn_cons, List.forIn_cons]
    refine (h c init).bind fun step => ?_
    cases step with
    | done s => exact Relaxes.refl _
    | yield s => exact ih s

theorem succeeds_pure (x : α) : (pure x : Outcome α).Succeeds := ⟨x, rfl⟩

theorem Succeeds.bind {a : Outcome α} {f : α → Outcome β} (ha : a.Succeeds)
    (hf : ∀ x, (f x).Succeeds) : (a >>= f).Succeeds := by
  obtain ⟨x, rfl⟩ := ha
  exact hf x

theorem succeeds_forIn {l : List γ} {f : γ → β → Outcome (ForInStep β)} (h : ∀ c s, (f c s).Succeeds)
    (init : β) : (forIn l init f).Succeeds := by
  induction l generalizing init with
  | nil => exact succeeds_pure init
  | cons c rest ih =>
    rw [List.forIn_cons]
    refine (h c init).bind fun step => ?_
    cases step with
    | done s => exact succeeds_pure s
    | yield s => exact ih s

end Outcome

open Outcome

@[simp] theorem tolerate_lenient (r : Outcome Unit) : tolerate .lenient r = .ok () := by
  cases r <;> rfl

@[simp] theorem tolerate_strict (r : Outcome Unit) : tolerate .strict r = r := by
  cases r <;> rfl

/-- Whatever the mode, a build tolerates at least what a strict one does. -/
theorem tolerate_relaxes (mode : BuildMode) (r : Outcome Unit) :
    (tolerate .strict r).Relaxes (tolerate mode r) := by
  rw [tolerate_strict]
  rintro ⟨⟩ rfl
  rfl

namespace Building

/-- `b` succeeds with every value and final state `a` succeeds with, from every state. -/
def Relaxes (a b : Building α) : Prop :=
  ∀ st x st', a.run.run st = (.ok x, st') → b.run.run st = (.ok x, st')

/-- A step that does not fail, from any state. -/
def Succeeds (a : Building α) : Prop := ∀ st, ∃ x st', a.run.run st = (.ok x, st')

theorem run_bind (x : Building α) (f : α → Building β) (st : IndexBuild) :
    (x >>= f).run.run st = match x.run.run st with
      | (.ok a, st') => (f a).run.run st'
      | (.error e, st') => (.error e, st') := by
  rw [ExceptT.run_bind, StateT.run_bind]
  rcases x.run.run st with ⟨_ | a, st'⟩ <;> rfl

theorem run_lift (o : Outcome α) (st : IndexBuild) : (Building.lift o).run.run st = (o, st) := by
  cases o <;> rfl

/-- Catching every failure of a step into its answer never fails, and keeps the state the step
leaves. -/
theorem run_tryCatch (x : Building α) (st : IndexBuild) :
    (tryCatch (Except.ok <$> x) (fun e => pure (Except.error e)) : Building (Outcome α)).run.run st =
      (.ok (x.run.run st).1, (x.run.run st).2) := by
  show (ExceptT.tryCatch (Except.ok <$> x) _).run.run st = _
  simp only [ExceptT.tryCatch, Functor.map, ExceptT.map, ExceptT.mk, ExceptT.run, StateT.run_bind]
  rcases StateT.run x st with ⟨_ | a, st'⟩ <;> rfl

theorem Relaxes.refl (a : Building α) : a.Relaxes a := fun _ _ _ h => h

theorem Relaxes.bind {a b : Building α} {f g : α → Building β} (hab : a.Relaxes b)
    (hfg : ∀ x, (f x).Relaxes (g x)) : (a >>= f).Relaxes (b >>= g) := by
  intro st y st' h
  rw [run_bind] at h ⊢
  rcases ha : a.run.run st with ⟨_ | x, st₁⟩
  · rw [ha] at h; cases h
  · rw [ha] at h
    rw [hab st x st₁ ha]
    exact hfg x st₁ y st' h

theorem Relaxes.lift {a b : Outcome α} (h : a.Relaxes b) : (Building.lift a).Relaxes (Building.lift b) := by
  intro st x st' ha
  rw [run_lift] at ha ⊢
  cases ha
  rw [h x rfl]

theorem Relaxes.forM {l : List γ} {f g : γ → Building PUnit} (h : ∀ c, (f c).Relaxes (g c)) :
    (l.forM f).Relaxes (l.forM g) := by
  induction l with
  | nil => exact Relaxes.refl _
  | cons c rest ih => exact (h c).bind fun _ => ih

theorem Succeeds.bind {a : Building α} {f : α → Building β} (ha : a.Succeeds)
    (hf : ∀ x, (f x).Succeeds) : (a >>= f).Succeeds := by
  intro st
  obtain ⟨x, st₁, hx⟩ := ha st
  rw [run_bind, hx]
  exact hf x st₁

theorem succeeds_pure (x : α) : (pure x : Building α).Succeeds := fun st => ⟨x, st, rfl⟩

theorem succeeds_forM {l : List γ} {f : γ → Building PUnit} (h : ∀ c, (f c).Succeeds) :
    (l.forM f).Succeeds := by
  induction l with
  | nil => exact succeeds_pure _
  | cons c rest ih => exact (h c).bind fun _ => ih

end Building

/-- One class of the resolution loop, its failure tolerated as the mode says. -/
theorem resolveClasses_step_relaxes (files : ModelFiles) (mode : BuildMode) (fuel : Nat) (fqn : String) :
    Building.Relaxes
      (do let result ← tryCatch (Except.ok <$> resolveClass files fuel fqn) fun e => pure (Except.error e)
          Building.lift (tolerate .strict result))
      (do let result ← tryCatch (Except.ok <$> resolveClass files fuel fqn) fun e => pure (Except.error e)
          Building.lift (tolerate mode result)) :=
  (Building.Relaxes.refl _).bind fun result => Building.Relaxes.lift (tolerate_relaxes mode result)

theorem resolveClasses_relaxes (files : ModelFiles) (mode : BuildMode) :
    (resolveClasses files .strict).Relaxes (resolveClasses files mode) := by
  intro classes h
  unfold resolveClasses at h ⊢
  have hLoop := Building.Relaxes.forM (l := files.files.flatMap fun f =>
      f.declarations.filterMap fun d => d.cls?.map (·.fqn))
    (resolveClasses_step_relaxes files mode (files.classCount + 1))
  dsimp only at h ⊢
  split at h
  · next st hRun =>
    cases h
    rw [hLoop {} () st hRun]
  · cases h

theorem resolveClasses_lenient_succeeds (files : ModelFiles) : (resolveClasses files .lenient).Succeeds := by
  unfold resolveClasses
  have hStep : ∀ fqn : String, Building.Succeeds
      (do let result ← tryCatch (Except.ok <$> resolveClass files (files.classCount + 1) fqn)
            fun e => pure (Except.error e)
          Building.lift (tolerate .lenient result)) := by
    intro fqn st
    refine ⟨(), ((resolveClass files (files.classCount + 1) fqn).run.run st).2, ?_⟩
    rw [Building.run_bind, Building.run_tryCatch]
    dsimp only
    rw [Building.run_lift, tolerate_lenient]
  obtain ⟨u, st, hRun⟩ := Building.succeeds_forM hStep {}
  dsimp only
  rw [hRun]
  exact ⟨st.classes, rfl⟩

theorem build_relaxes (files : ModelFiles) (mode : BuildMode) :
    (TypeIndex.build files .strict).Relaxes (TypeIndex.build files mode) := by
  unfold TypeIndex.build
  refine (Relaxes.forIn (fun f _ => (tolerate_relaxes mode _).bind fun _ => .refl _) _).bind fun _ => ?_
  refine (resolveClasses_relaxes files mode).bind fun classes => ?_
  refine (Relaxes.forIn (fun f maps => (Relaxes.forIn (fun d maps => ?_) _).bind fun _ => .refl _) _).bind
    fun maps => ?_
  · dsimp only
    split
    · split
      · exact .refl _
      · exact (tolerate_relaxes mode _).bind fun _ => .refl _
    · exact .refl _
  · exact (Relaxes.forIn (fun ⟨_, e⟩ _ => (tolerate_relaxes mode _).bind fun _ => .refl _) _).bind
      fun _ => .refl _

theorem build_lenient_succeeds (files : ModelFiles) : (TypeIndex.build files .lenient).Succeeds := by
  unfold TypeIndex.build
  have hTolerated (r : Outcome Unit) : (tolerate .lenient r >>= fun _ => pure (ForInStep.yield ())).Succeeds := by
    rw [tolerate_lenient]
    exact succeeds_pure _
  refine (succeeds_forIn (fun f _ => hTolerated _) _).bind fun _ => ?_
  refine (resolveClasses_lenient_succeeds files).bind fun classes => ?_
  refine (succeeds_forIn (fun f maps => (succeeds_forIn (fun d maps => ?_) _).bind fun _ => succeeds_pure _) _).bind
    fun maps => ?_
  · dsimp only
    split
    · split
      · exact succeeds_pure _
      · rw [tolerate_lenient]
        exact succeeds_pure _
    · exact succeeds_pure _
  · exact (succeeds_forIn (fun ⟨_, e⟩ _ => hTolerated _) _).bind fun _ => succeeds_pure _

/-- A lenient build never fails, and wherever a strict build succeeds the lenient one gives the
same index: the same resolved classes with their properties, identifiers and supertypes, the
same maps, and the same declaration order, from which subclasses are read. -/
theorem lenient_build_agrees_with_strict (files : ModelFiles) :
    (∃ ix, TypeIndex.build files .lenient = .ok ix) ∧
      ∀ ix, TypeIndex.build files .strict = .ok ix → TypeIndex.build files .lenient = .ok ix :=
  ⟨build_lenient_succeeds files, build_relaxes files .lenient⟩

/-- A zoo: an abstract asset `Animal` identified by its `tag`, with an enumeration field; `Lion`
and `Tiger` extending it and `Cub` extending `Lion`; a map `Rota` from texts to relationships to
animals; a participant `Keeper` identified by `email` holding a relationship and a rota; an asset
`Ticket` identified by the system; and a transaction `Feed`. -/
def zooModel : Metamodel.Model :=
  { ns := "org.zoo@1.0.0"
    declarations := [
      .enum "Diet" [{ name := "MEAT", kind := .enumValue }, { name := "PLANTS", kind := .enumValue }] [] none,
      .cls .asset
        { name := "Animal", isAbstract := true, identified := some (.byField "tag")
          properties := [{ name := "tag", kind := .string none none none },
            { name := "diet", kind := .object ⟨"Diet", none⟩ none }] },
      .cls .asset
        { name := "Lion", superType := some ⟨"Animal", none⟩
          properties := [{ name := "roars", kind := .boolean none }] },
      .cls .asset { name := "Cub", superType := some ⟨"Lion", none⟩ },
      .cls .asset
        { name := "Tiger", superType := some ⟨"Animal", none⟩
          properties := [{ name := "stripes", kind := .string none none none, isOptional := true }] },
      .map "Rota" .string (.relationship ⟨"Animal", none⟩) [] none,
      .cls .participant
        { name := "Keeper", identified := some (.byField "email")
          properties := [{ name := "email", kind := .string none none none },
            { name := "favourite", kind := .relationship ⟨"Animal", none⟩ },
            { name := "rota", kind := .object ⟨"Rota", none⟩ none }] },
      .cls .asset
        { name := "Ticket", identified := some .system
          properties := [{ name := "holder", kind := .string none none none }] },
      .cls .transaction
        { name := "Feed"
          properties := [{ name := "animal", kind := .relationship ⟨"Animal", none⟩ }] }] }

/-- Two concepts that extend each other. -/
def loopModel : Metamodel.Model :=
  { ns := "org.loop@1.0.0"
    declarations := [
      .cls .concept { name := "A", superType := some ⟨"B", none⟩ },
      .cls .concept { name := "B", superType := some ⟨"A", none⟩ }] }

/-- The files of a new registry with one more model, read from its syntax tree. -/
def rootFilesWith (ast : Metamodel.Model) : Outcome ModelFiles := do
  let files ← rootFiles
  let file ← ModelFile.ofMetamodel ast none []
  pure (files.insert file)

/-- The files of a registry holding the zoo. -/
def zooFiles : ModelFiles := ((rootFilesWith zooModel).toOption).getD default

/-- The files of a registry holding the loop. -/
def loopFiles : ModelFiles := ((rootFilesWith loopModel).toOption).getD default

theorem rootFilesWith_zooModel : rootFilesWith zooModel = .ok zooFiles :=
  Outcome.eq_ok_getD (by decide +kernel)

theorem rootFilesWith_loopModel : rootFilesWith loopModel = .ok loopFiles :=
  Outcome.eq_ok_getD (by decide +kernel)

/-- The zoo, whose classes inherit, builds leniently to its strict index; the loop, whose classes
extend each other, fails to build strictly and still builds leniently. -/
theorem zoo_and_loop_build_leniently :
    (∃ ix, TypeIndex.build zooFiles .strict = .ok ix ∧ TypeIndex.build zooFiles .lenient = .ok ix) ∧
      (∃ ix, TypeIndex.build loopFiles .lenient = .ok ix) ∧ (TypeIndex.build loopFiles .strict).toBool = false := by
  have hZoo := Outcome.eq_ok_getD (show (TypeIndex.build zooFiles .strict).toBool = true by decide +kernel)
  exact ⟨⟨_, hZoo, (lenient_build_agrees_with_strict zooFiles).2 _ hZoo⟩,
    (lenient_build_agrees_with_strict loopFiles).1, by decide +kernel⟩

end DomainModels
