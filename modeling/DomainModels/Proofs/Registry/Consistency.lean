import DomainModels.Proofs.Graph.RootClasses
import DomainModels.Proofs.Registry.Atomicity
/-! Every registry a client can reach is consistent: its files stay well formed, and its index is
the one they build in the mode of the last change that committed. -/
namespace DomainModels

open Metamodel (ClassKind)

namespace Registry

/-- What every registry a client can reach keeps: well-formed files, and the index they build
in `mode`. -/
structure Invariant (r : Registry) (mode : BuildMode) : Prop where
  wellFormed : r.files.WellFormed
  built : TypeIndex.build r.files mode = .ok r.index

/-- A registry as its clients see it, consistent with the last commit, made in `mode`. -/
structure Consistent (r : Registry) (mode : BuildMode) : Prop where
  /-- The root namespace holds the file of the root model. -/
  root : r.files.get? Names.rootNamespace = some rootFile
  /-- Every file sits under its own namespace. -/
  keys : ∀ p ∈ r.files.entries, p.1 = p.2.ns
  sorted : r.namespaces.Pairwise (· < ·)
  nodup : r.namespaces.Nodup
  user : Names.rootNamespace ∉ r.namespaces
  rootClasses : ∀ k : ClassKind, (r.index.class? k.rootFqn).isSome
  /-- The index is the one the files build in the mode of the last commit. -/
  built : TypeIndex.build r.files mode = .ok r.index

variable {r : Registry} {mode : BuildMode}

theorem namespaces_sorted (h : r.files.WellFormed) : r.namespaces.Pairwise (· < ·) := by
  have hKeys : r.files.files.map (·.ns) = r.files.entries.map (·.1) := by
    rw [ModelFiles.files, List.map_map]
    exact List.map_congr_left fun p hp => (h.keys p hp).symm
  have hSorted : (r.files.files.map (·.ns)).Pairwise (· < ·) := by
    rw [hKeys, List.pairwise_map]
    exact h.sorted
  exact hSorted.sublist ((List.filter_sublist).map _)

theorem rootNamespace_not_mem_namespaces (r : Registry) : Names.rootNamespace ∉ r.namespaces := by
  intro hMem
  obtain ⟨f, hf, hns⟩ := List.mem_map.1 hMem
  have hUser := (List.mem_filter.1 hf).2
  rw [hns, bne_self_eq_false] at hUser
  cases hUser

theorem Invariant.consistent (h : r.Invariant mode) : r.Consistent mode where
  root := h.wellFormed.root
  keys := h.wellFormed.keys
  sorted := namespaces_sorted h.wellFormed
  nodup := (namespaces_sorted h.wellFormed).imp ne_of_lt
  user := rootNamespace_not_mem_namespaces r
  rootClasses := build_resolves_rootClass h.wellFormed h.built
  built := h.built

end Registry

theorem ne_rootNamespace_of_checkNotSystem {ns : String} (h : checkNotSystem ns = .ok ()) :
    ns ≠ Names.rootNamespace := by
  intro hns
  subst hns
  cases h

theorem ne_rootNamespace_of_checkNewNamespace {files : ModelFiles} {ns : String}
    (h : checkNewNamespace files ns = .ok ()) : ns ≠ Names.rootNamespace := by
  obtain ⟨_, hSystem, -⟩ := Outcome.bind_eq_ok.1 h
  exact ne_rootNamespace_of_checkNotSystem hSystem

namespace Mutation

variable {α β : Type} {r r' : Registry} {mode : BuildMode}

/-! ### Runs of plain changes -/

theorem run_bind_id (x : Mutation Id α) (f : α → Mutation Id β) (r : Registry) :
    (x >>= f).run.run r = match x.run.run r with
      | (.ok a, r₁) => (f a).run.run r₁
      | (.error e, r₁) => (.error e, r₁) := by
  rw [ExceptT.run_bind, StateT.run_bind]
  rcases x.run.run r with ⟨_ | a, r₁⟩ <;> rfl

/-- A run of a bind that succeeds ran both parts successfully. -/
theorem run_bind_eq_ok {x : Mutation Id α} {f : α → Mutation Id β} {b : β} :
    (x >>= f).run.run r = (.ok b, r') ↔ ∃ a r₁, x.run.run r = (.ok a, r₁) ∧ (f a).run.run r₁ = (.ok b, r') := by
  rw [run_bind_id]
  rcases x.run.run r with ⟨_ | a, r₁⟩
  · constructor
    · intro h
      cases h
    · rintro ⟨a, r₁', h, -⟩
      cases h
  · constructor
    · intro h
      exact ⟨a, r₁, rfl, h⟩
    · rintro ⟨a', r₁', h, h'⟩
      cases h
      exact h'

theorem lift_eq_ok {o : Outcome α} {a : α} (h : (lift o : Mutation Id α).run.run r = (.ok a, r')) :
    o = .ok a ∧ r' = r := by
  cases o with
  | error e => cases h
  | ok b =>
    cases h
    exact ⟨rfl, rfl⟩

theorem get_eq_ok {reg : Registry} (h : (get : Mutation Id Registry).run.run r = (.ok reg, r')) :
    reg = r ∧ r' = r := by
  cases h
  exact ⟨rfl, rfl⟩

theorem buildFile_eq_ok {input : ModelInput} {file : ModelFile}
    (h : (buildFile input : Mutation Id ModelFile).run.run r = (.ok file, r')) :
    ModelFile.ofMetamodel input.ast input.fileName r.factories = .ok file ∧ r' = r := by
  rw [buildFile, run_bind_eq_ok] at h
  obtain ⟨reg, r₁, hGet, h⟩ := h
  obtain ⟨rfl, rfl⟩ := get_eq_ok hGet
  exact lift_eq_ok h

/-- A commit that succeeds assigns the files and the index they build. -/
theorem commit_eq_ok {files : ModelFiles} {u : Unit}
    (h : (commit files mode : Mutation Id Unit).run.run r = (.ok u, r')) :
    r'.files = files ∧ TypeIndex.build files mode = .ok r'.index := by
  rw [commit, run_bind_eq_ok] at h
  obtain ⟨index, r₁, hBuild, h⟩ := h
  obtain ⟨hIndex, rfl⟩ := lift_eq_ok hBuild
  cases h
  exact ⟨rfl, hIndex⟩

theorem invariant_commit {files : ModelFiles} {u : Unit} (hwf : files.WellFormed)
    (h : (commit files mode : Mutation Id Unit).run.run r = (.ok u, r')) : r'.Invariant mode := by
  obtain ⟨hFiles, hIndex⟩ := commit_eq_ok h
  rw [← hFiles] at hwf hIndex
  exact ⟨hwf, hIndex⟩

/-- A change that fails leaves the registry as it was, and with it the invariant. -/
theorem invariant_of_error {x : Mutation Id α} (hx : Atomic x) {e : ModelError} (h : r.Invariant mode)
    (hRun : x.run.run r = (.error e, r')) : r'.Invariant mode := by
  rw [(atomic_iff_failure_keeps x).1 hx r e r' hRun]
  exact h

/-! ### Adding, replacing, removing and clearing -/

theorem addToBatch_eq_ok {batch batch' : ModelFiles × List ModelFile} {input : ModelInput}
    (h : (addToBatch batch input : Mutation Id _).run.run r = (.ok batch', r')) :
    ∃ file, file.Built ∧ file.ns ≠ Names.rootNamespace ∧ batch'.1 = batch.1.insert file ∧ r' = r := by
  rw [addToBatch, run_bind_eq_ok] at h
  obtain ⟨file, r₁, hFile, h⟩ := h
  obtain ⟨hBuilt, rfl⟩ := buildFile_eq_ok hFile
  rw [run_bind_eq_ok] at h
  obtain ⟨_, r₂, hCheck, h⟩ := h
  obtain ⟨hNew, rfl⟩ := lift_eq_ok hCheck
  cases h
  exact ⟨file, (ModelFile.built_ofMetamodel hBuilt).1, ne_rootNamespace_of_checkNewNamespace hNew, rfl, rfl⟩

/-- A batch keeps the files it starts from well formed. -/
theorem foldlM_addToBatch_wellFormed :
    ∀ (inputs : List ModelInput) {batch batch' : ModelFiles × List ModelFile} {r r' : Registry},
      batch.1.WellFormed → (inputs.foldlM addToBatch batch : Mutation Id _).run.run r = (.ok batch', r') →
      batch'.1.WellFormed
  | [], _, _, _, _, hBatch, h => by
    cases h
    exact hBatch
  | input :: rest, batch, batch', r, r', hBatch, h => by
    rw [List.foldlM_cons, run_bind_eq_ok] at h
    obtain ⟨batch₁, r₁, hStep, h⟩ := h
    obtain ⟨file, hBuilt, hns, hFiles, rfl⟩ := addToBatch_eq_ok hStep
    refine foldlM_addToBatch_wellFormed rest ?_ h
    rw [hFiles]
    exact hBatch.insert hBuilt hns

/-- A commit assigns the files with the index they build, or fails and assigns nothing. -/
theorem run_commit (files : ModelFiles) (mode : BuildMode) (r : Registry) :
    (commit files mode : Mutation Id Unit).run.run r = match TypeIndex.build files mode with
      | .ok index => (.ok (), { r with files, index })
      | .error e => (.error e, r) := by
  unfold commit
  rw [run_bind_id]
  cases TypeIndex.build files mode <;> rfl

/-- A file added is built, under its own namespace, new and not the root one, with the strict
index of the files it joins. -/
theorem addModelFile_eq_ok {input : ModelInput} {file : ModelFile}
    (h : (addModelFile input : Mutation Id _).run.run r = (.ok file, r')) :
    file.Built ∧ file.ns = input.ast.ns ∧ checkNewNamespace r.files file.ns = .ok () ∧
      ∃ index, TypeIndex.build (r.files.insert file) .strict = .ok index ∧
        r' = { r with files := r.files.insert file, index } := by
  rw [addModelFile, run_bind_eq_ok] at h
  obtain ⟨file', r₁, hFile, h⟩ := h
  obtain ⟨hBuilt, rfl⟩ := buildFile_eq_ok hFile
  obtain ⟨hFileBuilt, hns⟩ := ModelFile.built_ofMetamodel hBuilt
  rw [run_bind_eq_ok] at h
  obtain ⟨reg, r₂, hGet, h⟩ := h
  obtain ⟨rfl, rfl⟩ := get_eq_ok hGet
  rw [run_bind_eq_ok] at h
  obtain ⟨_, r₃, hCheck, h⟩ := h
  obtain ⟨hNew, rfl⟩ := lift_eq_ok hCheck
  rw [run_bind_eq_ok] at h
  obtain ⟨_, r₄, hCommit, h⟩ := h
  cases h
  rw [run_commit] at hCommit
  split at hCommit
  · next index hIndex =>
    cases hCommit
    exact ⟨hFileBuilt, hns, hNew, index, hIndex, rfl⟩
  · cases hCommit

theorem invariant_addModelFile {input : ModelInput} {res : Outcome ModelFile} (h : r.Invariant mode)
    (hRun : (addModelFile input : Mutation Id _).run.run r = (res, r')) :
    r'.Invariant (if res.isOk then .strict else mode) := by
  rcases res with e | file
  · exact invariant_of_error (atomic_addModelFile input) h hRun
  · obtain ⟨hBuilt, -, hNew, index, hIndex, rfl⟩ := addModelFile_eq_ok hRun
    exact ⟨h.wellFormed.insert hBuilt (ne_rootNamespace_of_checkNewNamespace hNew), hIndex⟩

theorem invariant_addModelFiles {inputs : List ModelInput} {disableValidation : Bool}
    {res : Outcome (List ModelFile)} (h : r.Invariant mode)
    (hRun : (addModelFiles inputs disableValidation : Mutation Id _).run.run r = (res, r')) :
    r'.Invariant (if res.isOk then (if disableValidation then .lenient else .strict) else mode) := by
  rcases res with e | added
  · exact invariant_of_error (atomic_addModelFiles inputs disableValidation) h hRun
  · rw [addModelFiles, run_bind_eq_ok] at hRun
    obtain ⟨reg, r₁, hGet, hRun⟩ := hRun
    obtain ⟨rfl, rfl⟩ := get_eq_ok hGet
    rw [run_bind_eq_ok] at hRun
    obtain ⟨⟨files, added'⟩, r₂, hBatch, hRun⟩ := hRun
    have hwf := foldlM_addToBatch_wellFormed inputs h.wellFormed hBatch
    rw [run_bind_eq_ok] at hRun
    obtain ⟨_, r₃, hCommit, hRun⟩ := hRun
    cases hRun
    exact invariant_commit hwf hCommit

theorem invariant_updateModelFile {input : ModelInput} {res : Outcome (ModelFile × Bool)} (h : r.Invariant mode)
    (hRun : (updateModelFile input : Mutation Id _).run.run r = (res, r')) :
    r'.Invariant (if res.toOption.any (!·.2) then .strict else mode) := by
  rcases res with e | ⟨file, unchanged⟩
  · exact invariant_of_error (atomic_updateModelFile input) h hRun
  · rw [updateModelFile, run_bind_eq_ok] at hRun
    obtain ⟨file', r₁, hFile, hRun⟩ := hRun
    obtain ⟨hBuilt, rfl⟩ := buildFile_eq_ok hFile
    rw [run_bind_eq_ok] at hRun
    obtain ⟨_, r₂, hCheck, hRun⟩ := hRun
    obtain ⟨hSystem, rfl⟩ := lift_eq_ok hCheck
    rw [run_bind_eq_ok] at hRun
    obtain ⟨reg, r₃, hGet, hRun⟩ := hRun
    obtain ⟨rfl, rfl⟩ := get_eq_ok hGet
    dsimp only at hRun
    split at hRun
    · split at hRun
      · cases hRun
        exact h
      · rw [run_bind_eq_ok] at hRun
        obtain ⟨_, r₄, hCommit, hRun⟩ := hRun
        cases hRun
        exact invariant_commit (h.wellFormed.insert (ModelFile.built_ofMetamodel hBuilt).1
          (ne_rootNamespace_of_checkNotSystem hSystem)) hCommit
    · cases hRun

theorem invariant_deleteModelFile {ns : String} {res : Outcome Unit} (h : r.Invariant mode)
    (hRun : (deleteModelFile ns : Mutation Id Unit).run.run r = (res, r')) :
    r'.Invariant (if res.isOk then .lenient else mode) := by
  rcases res with e | u
  · exact invariant_of_error (atomic_deleteModelFile ns) h hRun
  · rw [deleteModelFile, run_bind_eq_ok] at hRun
    obtain ⟨_, r₁, hCheck, hRun⟩ := hRun
    obtain ⟨hSystem, rfl⟩ := lift_eq_ok hCheck
    rw [run_bind_eq_ok] at hRun
    obtain ⟨reg, r₂, hGet, hRun⟩ := hRun
    obtain ⟨rfl, rfl⟩ := get_eq_ok hGet
    dsimp only at hRun
    split at hRun
    · rw [run_bind_eq_ok] at hRun
      obtain ⟨_, _, hThrow, -⟩ := hRun
      cases hThrow
    · exact invariant_commit (h.wellFormed.erase (ne_rootNamespace_of_checkNotSystem hSystem)) hRun

theorem invariant_clear {res : Outcome Unit} (h : r.Invariant mode)
    (hRun : (clear : Mutation Id Unit).run.run r = (res, r')) : r'.Invariant (if res.isOk then .strict else mode) := by
  rcases res with e | u
  · exact invariant_of_error atomic_clear h hRun
  · rw [clear, run_bind_eq_ok] at hRun
    obtain ⟨files, r₁, hRoot, hRun⟩ := hRun
    obtain ⟨hFiles, rfl⟩ := lift_eq_ok hRoot
    rw [rootFiles_eq] at hFiles
    cases hFiles
    exact invariant_commit ModelFiles.wellFormed_rootFiles hRun

/-! ### Refreshing external models

A source keeps a state of its own, so a refresh runs over `StateM σ`; the runs are read backwards
the same way, the state of the source carried along. -/

section Refresh

variable {σ : Type} {s s' : σ}

theorem run_bind_state (x : Mutation (StateM σ) α) (f : α → Mutation (StateM σ) β) (r : Registry) (s : σ) :
    ((x >>= f).run.run r).run s = match (x.run.run r).run s with
      | ((.ok a, r₁), s₁) => ((f a).run.run r₁).run s₁
      | ((.error e, r₁), s₁) => ((.error e, r₁), s₁) := by
  rw [ExceptT.run_bind, StateT.run_bind, StateT.run_bind]
  rcases (x.run.run r).run s with ⟨⟨_ | a, r₁⟩, s₁⟩ <;> rfl

theorem run_bind_eq_ok_state {x : Mutation (StateM σ) α} {f : α → Mutation (StateM σ) β} {b : β} :
    ((x >>= f).run.run r).run s = ((.ok b, r'), s') ↔
      ∃ a r₁ s₁, (x.run.run r).run s = ((.ok a, r₁), s₁) ∧ ((f a).run.run r₁).run s₁ = ((.ok b, r'), s') := by
  rw [run_bind_state]
  rcases (x.run.run r).run s with ⟨⟨_ | a, r₁⟩, s₁⟩
  · constructor
    · intro h
      cases h
    · rintro ⟨a, r₁', s₁', h, -⟩
      cases h
  · constructor
    · intro h
      exact ⟨a, r₁, s₁, rfl, h⟩
    · rintro ⟨a', r₁', s₁', h, h'⟩
      cases h
      exact h'

theorem lift_eq_ok_state {o : Outcome α} {a : α}
    (h : ((lift o : Mutation (StateM σ) α).run.run r).run s = ((.ok a, r'), s')) : o = .ok a ∧ r' = r ∧ s' = s := by
  cases o with
  | error e => cases h
  | ok b =>
    cases h
    exact ⟨rfl, rfl, rfl⟩

theorem get_eq_ok_state {reg : Registry}
    (h : ((get : Mutation (StateM σ) Registry).run.run r).run s = ((.ok reg, r'), s')) : reg = r ∧ r' = r ∧ s' = s := by
  cases h
  exact ⟨rfl, rfl, rfl⟩

theorem buildFile_eq_ok_state {input : ModelInput} {file : ModelFile}
    (h : ((buildFile input : Mutation (StateM σ) ModelFile).run.run r).run s = ((.ok file, r'), s')) :
    ModelFile.ofMetamodel input.ast input.fileName r.factories = .ok file ∧ r' = r ∧ s' = s := by
  rw [buildFile, run_bind_eq_ok_state] at h
  obtain ⟨reg, r₁, s₁, hGet, h⟩ := h
  obtain ⟨rfl, rfl, rfl⟩ := get_eq_ok_state hGet
  exact lift_eq_ok_state h

theorem commit_eq_ok_state {files : ModelFiles} {u : Unit}
    (h : ((commit files mode : Mutation (StateM σ) Unit).run.run r).run s = ((.ok u, r'), s')) :
    r'.files = files ∧ TypeIndex.build files mode = .ok r'.index := by
  rw [commit, run_bind_eq_ok_state] at h
  obtain ⟨index, r₁, s₁, hBuild, h⟩ := h
  obtain ⟨hIndex, rfl, rfl⟩ := lift_eq_ok_state hBuild
  cases h
  exact ⟨rfl, hIndex⟩

theorem invariant_commit_state {files : ModelFiles} {u : Unit} (hwf : files.WellFormed)
    (h : ((commit files mode : Mutation (StateM σ) Unit).run.run r).run s = ((.ok u, r'), s')) :
    r'.Invariant mode := by
  obtain ⟨hFiles, hIndex⟩ := commit_eq_ok_state h
  rw [← hFiles] at hwf hIndex
  exact ⟨hwf, hIndex⟩

theorem ReadOnly.eq_of_run_state {x : Mutation (StateM σ) α} (hx : ReadOnly x) {res : Except ModelError α}
    (h : (x.run.run r).run s = ((res, r'), s')) : r' = r := by
  have hr := congrArg (fun y => StateT.run y s) (hx r)
  simp only [StateT.run_map, h] at hr
  cases hr
  rfl

theorem Atomic.eq_of_error_state {x : Mutation (StateM σ) α} (hx : Atomic x) {e : ModelError}
    (h : (x.run.run r).run s = ((.error e, r'), s')) : r' = r := by
  have hr := congrArg (fun y => StateT.run y s) (hx r)
  simp only [StateT.run_map, h] at hr
  cases hr
  rfl

/-- The files fetched in one round join the files of the refresh, keeping them well formed. -/
theorem foldlM_addFetched_wellFormed (missing : List ExternalImport) :
    ∀ (inputs : List ModelInput) {acc acc' : ModelFiles × List String × Bool} {r r' : Registry} {s s' : σ},
      acc.1.WellFormed →
      ((inputs.foldlM (addFetched missing) acc : Mutation (StateM σ) _).run.run r).run s = ((.ok acc', r'), s') →
      acc'.1.WellFormed
  | [], _, _, _, _, _, _, hAcc, h => by
    cases h
    exact hAcc
  | input :: rest, ⟨files, fetched, progress⟩, acc', r, r', s, s', hAcc, h => by
    rw [List.foldlM_cons, run_bind_eq_ok_state] at h
    obtain ⟨acc₁, r₁, s₁, hStep, h⟩ := h
    refine foldlM_addFetched_wellFormed missing rest ?_ h
    rw [addFetched, run_bind_eq_ok_state] at hStep
    obtain ⟨file, r₂, s₂, hFile, hStep⟩ := hStep
    obtain ⟨hBuilt, rfl, rfl⟩ := buildFile_eq_ok_state hFile
    rw [run_bind_eq_ok_state] at hStep
    obtain ⟨_, r₃, s₃, hCheck, hStep⟩ := hStep
    obtain ⟨hSystem, rfl, rfl⟩ := lift_eq_ok_state hCheck
    cases hStep
    exact hAcc.insert (ModelFile.built_ofMetamodel hBuilt).1 (ne_rootNamespace_of_checkNotSystem hSystem)

variable (fetch : List ExternalImport → StateM σ (Outcome (List ModelInput)))

theorem fetchRound_wellFormed {missing : List ExternalImport} {files : ModelFiles} {fetched : List String}
    {round : ModelFiles × List String × Bool} (hwf : files.WellFormed)
    (h : ((fetchRound fetch missing files fetched).run.run r).run s = ((.ok round, r'), s')) : round.1.WellFormed := by
  rw [fetchRound, run_bind_eq_ok_state] at h
  obtain ⟨out, r₁, s₁, -, h⟩ := h
  rw [run_bind_eq_ok_state] at h
  obtain ⟨inputs, r₂, s₂, hLift, h⟩ := h
  obtain ⟨-, rfl, rfl⟩ := lift_eq_ok_state hLift
  exact foldlM_addFetched_wellFormed missing inputs hwf h

/-- Every round of a refresh keeps the files well formed. -/
theorem refresh_wellFormed :
    ∀ (rounds : Nat) {files files' : ModelFiles} {fetched fetched' : List String} {r r' : Registry} {s s' : σ},
      files.WellFormed →
      ((refresh fetch rounds files fetched).run.run r).run s = ((.ok (files', fetched'), r'), s') →
      files'.WellFormed
  | 0, _, _, _, _, _, _, _, _, hwf, h => by
    cases h
    exact hwf
  | rounds + 1, files, files', fetched, fetched', r, r', s, s', hwf, h => by
    rw [refresh] at h
    dsimp only at h
    split at h
    · cases h
      exact hwf
    · rw [run_bind_eq_ok_state] at h
      obtain ⟨⟨files₁, fetched₁, progress⟩, r₁, s₁, hRound, h⟩ := h
      have hwf₁ := fetchRound_wellFormed fetch hwf hRound
      dsimp only at h
      split at h
      · rw [run_bind_eq_ok_state] at h
        obtain ⟨_, _, _, hThrow, -⟩ := h
        cases hThrow
      · exact refresh_wellFormed rounds hwf₁ h

theorem invariant_updateExternalModels {rounds : Nat} {res : Outcome (List String)} (h : r.Invariant mode)
    (hRun : ((updateExternalModels fetch rounds).run.run r).run s = ((res, r'), s')) :
    r'.Invariant (if res.toOption.any (!·.isEmpty) then .strict else mode) := by
  rcases res with e | fetched
  · rw [Atomic.eq_of_error_state (atomic_updateExternalModels fetch rounds) hRun]
    exact h
  · rw [updateExternalModels, run_bind_eq_ok_state] at hRun
    obtain ⟨reg, r₁, s₁, hGet, hRun⟩ := hRun
    obtain ⟨rfl, rfl, rfl⟩ := get_eq_ok_state hGet
    rw [run_bind_eq_ok_state] at hRun
    obtain ⟨⟨files, fetched'⟩, r₂, s₂, hRefresh, hRun⟩ := hRun
    have hwf := refresh_wellFormed fetch rounds h.wellFormed hRefresh
    obtain rfl := ReadOnly.eq_of_run_state (readOnly_refresh fetch rounds _ _) hRefresh
    dsimp only at hRun
    split at hRun
    · next hNone =>
      cases hRun
      simp only [Except.toOption, Option.any_some, hNone, Bool.not_true, Bool.false_eq_true, if_false]
      exact h
    · next hSome =>
      rw [run_bind_eq_ok_state] at hRun
      obtain ⟨_, r₃, s₃, hCommit, hRun⟩ := hRun
      cases hRun
      simp only [Except.toOption, Option.any_some, hSome, Bool.not_false, if_true]
      exact invariant_commit_state hwf hCommit

end Refresh

end Mutation

/-! ### Reachable registries -/

namespace Registry

/-- The registries a client reaches from a new one by a sequence of changes, each with the mode
of the last change that committed. A change that fails is a step as well: the client keeps the
registry it leaves. A change commits exactly where its answer shows it: every successful addition,
removal and clearing, a replacement that reports a changed file, and a refresh that fetched
something. A source of external models may keep a state of its own. -/
inductive Reachable : Registry → BuildMode → Prop where
  | create {r : Registry} : Registry.create = .ok r → Reachable r .strict
  | addModelFile {r r' : Registry} {mode : BuildMode} {res : Outcome ModelFile} (input : ModelInput) :
      Reachable r mode → (Mutation.addModelFile input : Mutation Id _).run.run r = (res, r') →
      Reachable r' (if res.isOk then .strict else mode)
  | addModelFiles {r r' : Registry} {mode : BuildMode} {res : Outcome (List ModelFile)}
      (inputs : List ModelInput) (disableValidation : Bool) :
      Reachable r mode → (Mutation.addModelFiles inputs disableValidation : Mutation Id _).run.run r = (res, r') →
      Reachable r' (if res.isOk then (if disableValidation then .lenient else .strict) else mode)
  | updateModelFile {r r' : Registry} {mode : BuildMode} {res : Outcome (ModelFile × Bool)} (input : ModelInput) :
      Reachable r mode → (Mutation.updateModelFile input : Mutation Id _).run.run r = (res, r') →
      Reachable r' (if res.toOption.any (!·.2) then .strict else mode)
  | deleteModelFile {r r' : Registry} {mode : BuildMode} {res : Outcome Unit} (ns : String) :
      Reachable r mode → (Mutation.deleteModelFile ns : Mutation Id _).run.run r = (res, r') →
      Reachable r' (if res.isOk then .lenient else mode)
  | clear {r r' : Registry} {mode : BuildMode} {res : Outcome Unit} :
      Reachable r mode → (Mutation.clear : Mutation Id _).run.run r = (res, r') →
      Reachable r' (if res.isOk then .strict else mode)
  | updateExternalModels {r r' : Registry} {mode : BuildMode} {σ : Type} {s s' : σ} {res : Outcome (List String)}
      (fetch : List ExternalImport → StateM σ (Outcome (List ModelInput))) (rounds : Nat) :
      Reachable r mode → ((Mutation.updateExternalModels fetch rounds).run.run r).run s = ((res, r'), s') →
      Reachable r' (if res.toOption.any (!·.isEmpty) then .strict else mode)
  | addDecoratorFactory {r : Registry} {mode : BuildMode} (factory : DecoratorFactory) :
      Reachable r mode → Reachable (r.addDecoratorFactory factory) mode

theorem invariant_create {r : Registry} (h : Registry.create = .ok r) : r.Invariant .strict := by
  obtain ⟨files, hFiles, h⟩ := Outcome.bind_eq_ok.1 h
  obtain ⟨index, hIndex, h⟩ := Outcome.bind_eq_ok.1 h
  cases h
  rw [rootFiles_eq] at hFiles
  cases hFiles
  exact ⟨ModelFiles.wellFormed_rootFiles, hIndex⟩

theorem Reachable.invariant {r : Registry} {mode : BuildMode} (h : Reachable r mode) : r.Invariant mode := by
  induction h with
  | create hCreate => exact invariant_create hCreate
  | addModelFile _ _ hRun ih => exact Mutation.invariant_addModelFile ih hRun
  | addModelFiles _ _ _ hRun ih => exact Mutation.invariant_addModelFiles ih hRun
  | updateModelFile _ _ hRun ih => exact Mutation.invariant_updateModelFile ih hRun
  | deleteModelFile _ _ hRun ih => exact Mutation.invariant_deleteModelFile ih hRun
  | clear _ hRun ih => exact Mutation.invariant_clear ih hRun
  | updateExternalModels fetch _ _ hRun ih => exact Mutation.invariant_updateExternalModels fetch ih hRun
  | addDecoratorFactory _ _ ih => exact ⟨ih.wellFormed, ih.built⟩

/-- Every registry a client reaches is consistent: the root namespace holds the root file, each
file sits under its own namespace, the namespaces a client sees are sorted, distinct and never
the root namespace, the five root classes are resolved, and the index is the one the files build
in the mode of the last commit. -/
theorem reachable_registries_are_consistent {r : Registry} {mode : BuildMode} (h : Reachable r mode) :
    r.Consistent mode :=
  h.invariant.consistent

theorem change_eq_ok {α : Type} {r r' : Registry} {x : Mutation Id α} {a : α} :
    r.change x = .ok (r', a) ↔ x.run.run r = (.ok a, r') := by
  unfold change
  rcases x.run.run r with ⟨_ | b, r₁⟩
  · constructor
    · intro h
      cases h
    · intro h
      cases h
  · constructor
    · intro h
      cases h
      rfl
    · intro h
      cases h
      rfl

/-- A new registry with the zoo added is consistent, and so is the registry that then takes the
loop leniently, in the lenient mode of that last change. -/
theorem zoo_registries_are_consistent :
    ∃ S file S' added, (Registry.create >>= fun S₀ => S₀.addModelFile ⟨zooModel, none⟩) = .ok (S, file) ∧
      S.Consistent .strict ∧ S.addModelFiles [⟨loopModel, none⟩] true = .ok (S', added) ∧ S'.Consistent .lenient := by
  have hFacts : ((Registry.create >>= fun S₀ => S₀.addModelFile ⟨zooModel, none⟩).toOption.map fun added =>
      (added.1.addModelFiles [⟨loopModel, none⟩] true).toBool) = some true := by
    decide +kernel
  obtain ⟨⟨S, file⟩, hAdded, hLoopOk⟩ := Outcome.exists_eq_ok_of_map hFacts
  obtain ⟨S₀, hCreate, hAdd⟩ := Outcome.bind_eq_ok.mp hAdded
  have hS : Reachable S .strict := .addModelFile _ (.create hCreate) (change_eq_ok.1 hAdd)
  obtain ⟨⟨S', added⟩, hLoop⟩ := Outcome.exists_eq_ok hLoopOk
  have hS' : Reachable S' .lenient := .addModelFiles _ true hS (change_eq_ok.1 hLoop)
  exact ⟨S, file, S', added, hAdded, reachable_registries_are_consistent hS, hLoop,
    reachable_registries_are_consistent hS'⟩

end Registry

end DomainModels
