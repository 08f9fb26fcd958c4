import DomainModels.Registry
/-! Failed changes of the registry are atomic: built from steps that assign nothing (`ReadOnly`) or
give the starting registry back on failure (`Atomic`). -/
namespace DomainModels.Mutation

variable {m : Type → Type} [Monad m] {α β γ δ : Type}

/-- The registry left after an outcome, a failure giving back the starting one. -/
def restore (r : Registry) : Except ModelError α × Registry → Except ModelError α × Registry
  | (.ok a, r') => (.ok a, r')
  | (.error e, _) => (.error e, r)

/-- A change that assigns nothing: whatever its outcome, it leaves the registry it started
from. -/
def ReadOnly (x : Mutation m α) : Prop :=
  ∀ r, x.run.run r = (fun res => (res.1, r)) <$> x.run.run r

/-- A change that, when it fails, leaves the registry it started from: its run is unchanged
when every failure is given back the starting registry. -/
def Atomic (x : Mutation m α) : Prop :=
  ∀ r, x.run.run r = restore r <$> x.run.run r

theorem run_run_bind (x : Mutation m α) (f : α → Mutation m β) (r : Registry) :
    (x >>= f).run.run r = x.run.run r >>= fun res => match res.1 with
      | .ok a => (f a).run.run res.2
      | .error e => pure (.error e, res.2) := by
  rw [ExceptT.run_bind, StateT.run_bind]
  congr 1
  funext res
  rcases res with ⟨_ | a, r'⟩ <;> rfl

variable [LawfulMonad m]

theorem run_run_get (r : Registry) : (get : Mutation m Registry).run.run r = pure (.ok r, r) := by
  show (Except.ok <$> (get : StateT Registry m Registry)).run r = _
  simp

theorem run_run_modify (f : Registry → Registry) (r : Registry) :
    (modify f : Mutation m PUnit).run.run r = pure (.ok ⟨⟩, f r) := by
  show (Except.ok <$> (modify f : StateT Registry m PUnit)).run r = _
  simp

theorem run_run_monadLift (y : m α) (r : Registry) :
    (monadLift y : Mutation m α).run.run r = (fun a => (.ok a, r)) <$> y := by
  simp [monadLift, MonadLift.monadLift, ExceptT.lift]

theorem ReadOnly.atomic {x : Mutation m α} (h : ReadOnly x) : Atomic x := by
  intro r
  rw [h r, ← comp_map]
  congr 1
  funext res
  rcases res with ⟨_ | a, r'⟩ <;> rfl

theorem readOnly_pure (a : α) : ReadOnly (pure a : Mutation m α) := by
  intro r
  simp

theorem readOnly_throw (e : ModelError) : ReadOnly (throw e : Mutation m α) := by
  intro r
  simp

theorem readOnly_get : ReadOnly (get : Mutation m Registry) := by
  intro r
  simp [run_run_get]

theorem readOnly_lift (o : Outcome α) : ReadOnly (lift o : Mutation m α) := by
  cases o with
  | ok a => exact readOnly_pure a
  | error e => exact readOnly_throw e

theorem readOnly_monadLift (y : m α) : ReadOnly (monadLift y : Mutation m α) := by
  intro r
  rw [run_run_monadLift, ← comp_map]
  rfl

/-- Reading, then reading again, still assigns nothing. -/
theorem ReadOnly.bind {x : Mutation m α} {f : α → Mutation m β} (hx : ReadOnly x)
    (hf : ∀ a, ReadOnly (f a)) : ReadOnly (x >>= f) := by
  intro r
  rw [run_run_bind, hx r, bind_map_left, map_bind]
  congr 1
  funext res
  rcases res with ⟨_ | a, r'⟩
  · simp
  · exact hf a r

/-- Reading, then an atomic change, is atomic: the only assignment is the last change's. -/
theorem ReadOnly.bind_atomic {x : Mutation m α} {f : α → Mutation m β} (hx : ReadOnly x)
    (hf : ∀ a, Atomic (f a)) : Atomic (x >>= f) := by
  intro r
  rw [run_run_bind, hx r, bind_map_left, map_bind]
  congr 1
  funext res
  rcases res with ⟨_ | a, r'⟩
  · simp [restore]
  · exact hf a r

/-- An atomic change followed by an answer that neither reads nor fails is atomic. -/
theorem Atomic.bind_pure {x : Mutation m α} (hx : Atomic x) (g : α → β) :
    Atomic (x >>= fun a => pure (g a)) := by
  intro r
  rw [run_run_bind, hx r, bind_map_left, map_bind]
  congr 1
  funext res
  rcases res with ⟨_ | a, r'⟩ <;> simp [restore]

theorem readOnly_foldlM {f : γ → δ → Mutation m γ} (hf : ∀ acc d, ReadOnly (f acc d)) :
    ∀ (l : List δ) (init : γ), ReadOnly (l.foldlM f init)
  | [], init => readOnly_pure init
  | d :: rest, init => (hf init d).bind fun acc => readOnly_foldlM hf rest acc


theorem atomic_modify (f : Registry → Registry) : Atomic (modify f : Mutation m PUnit) := by
  intro r
  simp [run_run_modify, restore]

theorem atomic_commit (files : ModelFiles) (mode : BuildMode) : Atomic (commit files mode : Mutation m Unit) :=
  (readOnly_lift _).bind_atomic fun _ => atomic_modify _

theorem readOnly_buildFile (input : ModelInput) : ReadOnly (buildFile input : Mutation m ModelFile) :=
  readOnly_get.bind fun _ => readOnly_lift _

theorem readOnly_addToBatch (batch : ModelFiles × List ModelFile) (input : ModelInput) :
    ReadOnly (addToBatch batch input : Mutation m _) :=
  (readOnly_buildFile input).bind fun _ => (readOnly_lift _).bind fun _ => readOnly_pure _

theorem atomic_addModelFile (input : ModelInput) : Atomic (addModelFile input : Mutation m ModelFile) :=
  (readOnly_buildFile input).bind_atomic fun _ => readOnly_get.bind_atomic fun _ =>
    (readOnly_lift _).bind_atomic fun _ => (atomic_commit _ _).bind_pure _

theorem atomic_addModelFiles (inputs : List ModelInput) (disableValidation : Bool) :
    Atomic (addModelFiles inputs disableValidation : Mutation m _) :=
  readOnly_get.bind_atomic fun _ => (readOnly_foldlM readOnly_addToBatch _ _).bind_atomic fun _ =>
    (atomic_commit _ _).bind_pure _


theorem atomic_updateModelFile (input : ModelInput) : Atomic (updateModelFile input : Mutation m _) := by
  unfold updateModelFile
  refine (readOnly_buildFile input).bind_atomic fun file => (readOnly_lift _).bind_atomic fun _ =>
    readOnly_get.bind_atomic fun registry => ?_
  dsimp only
  split
  · split
    · exact (readOnly_pure (m := m) _).atomic
    · exact (atomic_commit _ _).bind_pure _
  · exact (readOnly_throw (m := m) _).atomic

theorem atomic_deleteModelFile (ns : String) : Atomic (deleteModelFile ns : Mutation m Unit) := by
  unfold deleteModelFile
  refine (readOnly_lift _).bind_atomic fun _ => readOnly_get.bind_atomic fun registry => ?_
  dsimp only
  split
  · exact (readOnly_throw (m := m) _).bind_atomic fun _ => atomic_commit _ _
  · exact atomic_commit _ _

theorem atomic_clear : Atomic (clear : Mutation m Unit) :=
  (readOnly_lift _).bind_atomic fun _ => atomic_commit _ _


section Refresh

variable (fetch : List ExternalImport → m (Outcome (List ModelInput)))

theorem readOnly_addFetched (missing : List ExternalImport) (acc : ModelFiles × List String × Bool)
    (input : ModelInput) : ReadOnly (addFetched missing acc input : Mutation m _) := by
  obtain ⟨files, fetched, progress⟩ := acc
  exact (readOnly_buildFile input).bind fun _ => (readOnly_lift _).bind fun _ => readOnly_pure _

theorem readOnly_fetchRound (missing : List ExternalImport) (files : ModelFiles) (fetched : List String) :
    ReadOnly (fetchRound fetch missing files fetched) :=
  (readOnly_monadLift _).bind fun _ => (readOnly_lift _).bind fun _ =>
    readOnly_foldlM (readOnly_addFetched missing) _ _

theorem readOnly_refresh : ∀ (rounds : Nat) (files : ModelFiles) (fetched : List String),
    ReadOnly (refresh fetch rounds files fetched)
  | 0, _, _ => readOnly_pure _
  | rounds + 1, files, fetched => by
    rw [refresh]
    dsimp only
    split
    · exact readOnly_pure _
    · refine (readOnly_fetchRound fetch _ files fetched).bind fun round => ?_
      obtain ⟨files', fetched', progress⟩ := round
      dsimp only
      split
      · exact (readOnly_throw _).bind fun _ => readOnly_refresh rounds files' fetched'
      · exact readOnly_refresh rounds files' fetched'

theorem atomic_updateExternalModels (rounds : Nat) : Atomic (updateExternalModels fetch rounds) := by
  refine readOnly_get.bind_atomic fun registry => (readOnly_refresh fetch rounds _ _).bind_atomic fun result => ?_
  obtain ⟨files, fetched⟩ := result
  dsimp only
  split
  · exact (readOnly_pure _).atomic
  · exact (atomic_commit _ _).bind_pure _

end Refresh

/-- For plain changes, atomicity says exactly that a failure leaves the starting registry. -/
theorem atomic_iff_failure_keeps (x : Mutation Id α) :
    Atomic x ↔ ∀ r e r', x.run.run r = (.error e, r') → r' = r := by
  constructor
  · intro h r e r' hx
    have hr := h r
    rw [hx] at hr
    cases hr
    rfl
  · intro h r
    show x.run.run r = restore r (x.run.run r)
    rcases hx : x.run.run r with ⟨_ | a, r'⟩
    · rw [h r _ r' hx]
      rfl
    · rfl

/-- A failed change leaves the registry as it was, whichever of its steps fails: adding a
file, adding a batch strictly or leniently, replacing or removing a file, clearing, and
refreshing external models from a source with any state of its own, for any number of
rounds. -/
theorem failed_changes_are_atomic :
    (∀ input, Atomic (addModelFile input : Mutation Id ModelFile)) ∧
    (∀ inputs disableValidation, Atomic (addModelFiles inputs disableValidation : Mutation Id _)) ∧
    (∀ input, Atomic (updateModelFile input : Mutation Id _)) ∧
    (∀ ns, Atomic (deleteModelFile ns : Mutation Id Unit)) ∧
    Atomic (clear : Mutation Id Unit) ∧
    ∀ {σ : Type} (fetch : List ExternalImport → StateM σ (Outcome (List ModelInput))) (rounds : Nat),
      Atomic (updateExternalModels fetch rounds) :=
  ⟨atomic_addModelFile, atomic_addModelFiles, atomic_updateModelFile, atomic_deleteModelFile,
    atomic_clear, fun fetch rounds => atomic_updateExternalModels fetch rounds⟩

end DomainModels.Mutation
