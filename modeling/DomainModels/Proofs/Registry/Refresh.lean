import DomainModels.Proofs.Registry.MissingImports
import DomainModels.Proofs.Registry.Consistency
/-! Refreshing external models from a static source ends, and closes the imports, after at most as
many rounds as the source has namespaces. -/
namespace DomainModels

/-- The models of a list in the namespaces a request asks for, in list order. -/
def served (models : List ModelInput) (request : List ExternalImport) : List ModelInput :=
  models.filter fun i => request.any (·.ns == i.ast.ns)

/-- A source serving a fixed list of models, which keeps the requests sent to it. -/
def staticSource (models : List ModelInput) (request : List ExternalImport) :
    StateM (List (List ExternalImport)) (Outcome (List ModelInput)) := do
  modify (· ++ [request])
  pure (.ok (served models request))

namespace ModelFiles

theorem contains_eq_isSome (fs : ModelFiles) (ns : String) : fs.contains ns = (fs.get? ns).isSome := by
  unfold contains get?
  rw [Bool.eq_iff_iff, List.any_eq_true, List.lookup_isSome_iff]
  simp only [beq_iff_eq]
  constructor <;> rintro ⟨p, hp, hEq⟩ <;> exact ⟨p, hp, hEq.symm⟩

theorem contains_insert_iff {fs : ModelFiles} {f : ModelFile} {ns : String} :
    (fs.insert f).contains ns = true ↔ ns = f.ns ∨ fs.contains ns = true := by
  rw [contains_eq_isSome, contains_eq_isSome, get?_insert]
  by_cases h : ns = f.ns <;> simp [h]

theorem mem_files_insert {fs : ModelFiles} {f g : ModelFile} (h : g ∈ (fs.insert f).files) :
    g = f ∨ g ∈ fs.files := by
  obtain ⟨p, hp, rfl⟩ := List.mem_map.1 h
  rcases mem_insert_go hp with rfl | hp
  · exact .inl rfl
  · exact .inr (List.mem_map_of_mem hp)

end ModelFiles

namespace Mutation

/-- A fetched input joining the files of a refresh, as an outcome at a registry with the given
decorator factories. -/
def addFetchedOutcome (factories : List DecoratorFactory) (missing : List ExternalImport)
    (acc : ModelFiles × List String × Bool) (input : ModelInput) : Outcome (ModelFiles × List String × Bool) := do
  let (files, fetched, progress) := acc
  let file ← ModelFile.ofMetamodel input.ast input.fileName factories
  checkNotSystem file.ns
  let progress := progress || missing.any (·.ns == file.ns)
  let fetched := if fetched.contains file.ns then fetched else fetched ++ [file.ns]
  pure (files.insert file, fetched, progress)

/-! ### Runs -/

section Runs

variable {σ α : Type}

theorem run_get_state (r : Registry) (s : σ) :
    ((get : Mutation (StateM σ) Registry).run.run r).run s = ((.ok r, r), s) := rfl

theorem run_lift_state (o : Outcome α) (r : Registry) (s : σ) :
    ((lift o : Mutation (StateM σ) α).run.run r).run s = ((o, r), s) := by
  cases o <;> rfl

/-- Adding a fetched input reads the registry and leaves it, and the source, alone. -/
theorem run_addFetched (missing : List ExternalImport) (acc : ModelFiles × List String × Bool)
    (input : ModelInput) (r : Registry) (s : σ) :
    ((addFetched missing acc input : Mutation (StateM σ) _).run.run r).run s =
      ((addFetchedOutcome r.factories missing acc input, r), s) := by
  obtain ⟨files, fetched, progress⟩ := acc
  simp only [addFetched, addFetchedOutcome, buildFile, run_bind_state, run_get_state, run_lift_state]
  cases ModelFile.ofMetamodel input.ast input.fileName r.factories with
  | error e => rfl
  | ok file =>
    dsimp only [bind, Except.bind]
    cases checkNotSystem file.ns <;> rfl

theorem run_foldlM_addFetched (missing : List ExternalImport) (r : Registry) (s : σ) :
    ∀ (inputs : List ModelInput) (acc : ModelFiles × List String × Bool),
      ((inputs.foldlM (addFetched missing) acc : Mutation (StateM σ) _).run.run r).run s =
        ((inputs.foldlM (addFetchedOutcome r.factories missing) acc, r), s)
  | [], acc => rfl
  | input :: rest, acc => by
    rw [List.foldlM_cons, List.foldlM_cons, run_bind_state, run_addFetched]
    cases addFetchedOutcome r.factories missing acc input with
    | error e => rfl
    | ok acc₁ => exact run_foldlM_addFetched missing r s rest acc₁

theorem run_commit_state (files : ModelFiles) (mode : BuildMode) (r : Registry) (s : σ) :
    ((commit files mode : Mutation (StateM σ) Unit).run.run r).run s = match TypeIndex.build files mode with
      | .ok index => ((.ok (), { r with files, index }), s)
      | .error e => ((.error e, r), s) := by
  unfold commit
  rw [run_bind_state, run_lift_state]
  cases TypeIndex.build files mode <;> rfl

/-- An update refreshes from the loaded files and commits what it fetched, if anything. -/
theorem run_updateExternalModels_state (fetch : List ExternalImport → StateM σ (Outcome (List ModelInput)))
    (rounds : Nat) (r : Registry) (s : σ) :
    ((updateExternalModels fetch rounds).run.run r).run s =
      match ((refresh fetch rounds r.files []).run.run r).run s with
      | ((.ok (files, fetched), r₁), s₁) =>
        if fetched.isEmpty then ((.ok fetched, r₁), s₁)
        else match TypeIndex.build files .strict with
          | .ok index => ((.ok fetched, { r₁ with files, index }), s₁)
          | .error e => ((.error e, r₁), s₁)
      | ((.error e, r₁), s₁) => ((.error e, r₁), s₁) := by
  simp only [updateExternalModels, run_bind_state, run_get_state]
  rcases ((refresh fetch rounds r.files []).run.run r).run s with ⟨⟨_ | ⟨files, fetched⟩, r₁⟩, s₁⟩
  · rfl
  · dsimp only
    split
    · rfl
    · rw [run_bind_state, run_commit_state]
      cases TypeIndex.build files .strict <;> rfl

end Runs

/-- A round asks the static source once, and builds what it serves. -/
theorem run_fetchRound_static (models : List ModelInput) (missing : List ExternalImport)
    (files : ModelFiles) (fetched : List String) (r : Registry) (log : List (List ExternalImport)) :
    ((fetchRound (staticSource models) missing files fetched).run.run r).run log =
      (((served models missing).foldlM (addFetchedOutcome r.factories missing) (files, fetched, false), r),
        log ++ [missing]) := by
  have hAsk : ((liftM (staticSource models missing) :
      Mutation (StateM (List (List ExternalImport))) (Outcome (List ModelInput))).run.run r).run log =
        ((.ok (.ok (served models missing)), r), log ++ [missing]) := rfl
  simp only [fetchRound, run_bind_state, hAsk, run_lift_state]
  exact run_foldlM_addFetched missing r _ _ _

/-! ### What a refresh accumulates -/

/-- The files and fetched namespaces of a refresh that started at the registry `S`, fetching
from `models`: the namespaces are the loaded ones and the fetched ones, each fetched namespace
new, once, and served by the list, and every file one of `S` or built from one of the models. -/
structure Accumulated (S : Registry) (models : List ModelInput) (files : ModelFiles)
    (fetched : List String) : Prop where
  contains_iff : ∀ ns, files.contains ns = true ↔ S.files.contains ns = true ∨ ns ∈ fetched
  fetched_new : ∀ ns ∈ fetched, S.files.contains ns = false
  nodup : fetched.Nodup
  listed : ∀ ns ∈ fetched, ns ∈ models.map (·.ast.ns)
  files_from : ∀ f ∈ files.files,
    f ∈ S.files.files ∨ ∃ i ∈ models, ModelFile.ofMetamodel i.ast i.fileName S.factories = .ok f

section Accumulated

variable {S : Registry} {models : List ModelInput} {files : ModelFiles} {fetched : List String}

theorem accumulated_start : Accumulated S models S.files [] where
  contains_iff ns := by simp
  fetched_new _ h := absurd h List.not_mem_nil
  nodup := List.nodup_nil
  listed _ h := absurd h List.not_mem_nil
  files_from _ hf := .inl hf

/-- At most as many namespaces are fetched as the list serves. -/
theorem Accumulated.length_le (h : Accumulated S models files fetched) :
    fetched.length ≤ (models.map (·.ast.ns)).dedup.length :=
  h.nodup.length_le_of_subset fun ns hns => List.mem_dedup.2 (h.listed ns hns)

/-- A missing namespace is neither loaded nor fetched. -/
theorem Accumulated.not_mem_of_missing (h : Accumulated S models files fetched) {e : ExternalImport}
    (he : e ∈ missingImports files) : S.files.contains e.ns = false ∧ e.ns ∉ fetched := by
  have hMissing := (((importRequest_missingImports files).mem_iff e.ns).1 (List.mem_map_of_mem he)).1
  have hNot : ¬(S.files.contains e.ns = true ∨ e.ns ∈ fetched) := by
    rw [← h.contains_iff, hMissing]
    simp
  obtain ⟨hLoaded, hFetched⟩ := not_or.1 hNot
  exact ⟨by simpa using hLoaded, hFetched⟩

/-- The fetched namespaces are those the files load and the registry did not. -/
theorem Accumulated.mem_fetched_iff (h : Accumulated S models files fetched) (ns : String) :
    ns ∈ fetched ↔ files.contains ns = true ∧ S.files.contains ns = false := by
  constructor
  · intro hns
    exact ⟨(h.contains_iff ns).2 (.inr hns), h.fetched_new ns hns⟩
  · rintro ⟨hLoaded, hNew⟩
    rcases (h.contains_iff ns).1 hLoaded with hOld | hns
    · rw [hOld] at hNew
      cases hNew
    · exact hns

theorem Accumulated.addFetched (h : Accumulated S models files fetched) {missing : List ExternalImport}
    {progress : Bool} {input : ModelInput} {acc : ModelFiles × List String × Bool}
    (hInput : input ∈ models) (hNew : S.files.contains input.ast.ns = false)
    (hAdd : addFetchedOutcome S.factories missing (files, fetched, progress) input = .ok acc) :
    Accumulated S models acc.1 acc.2.1 ∧ fetched ⊆ acc.2.1 ∧ input.ast.ns ∈ acc.2.1 := by
  dsimp only [addFetchedOutcome] at hAdd
  obtain ⟨file, hFile, hAdd⟩ := Outcome.bind_eq_ok.1 hAdd
  obtain ⟨_, -, hAdd⟩ := Outcome.bind_eq_ok.1 hAdd
  cases hAdd
  have hns : file.ns = input.ast.ns := (ModelFile.built_ofMetamodel hFile).2
  have hMem : ∀ ns, ns ∈ (if fetched.contains file.ns then fetched else fetched ++ [file.ns]) ↔
      ns ∈ fetched ∨ ns = file.ns := by
    intro ns
    split
    · next hIn =>
      constructor
      · exact .inl
      · rintro (hOld | rfl)
        · exact hOld
        · simpa using hIn
    · simp
  refine ⟨⟨fun ns => ?_, fun ns hns' => ?_, ?_, fun ns hns' => ?_, fun f hf => ?_⟩,
    fun ns hns' => (hMem ns).2 (.inl hns'), (hMem _).2 (.inr hns.symm)⟩
  · rw [ModelFiles.contains_insert_iff, h.contains_iff, hMem]
    tauto
  · rcases (hMem ns).1 hns' with hOld | rfl
    · exact h.fetched_new ns hOld
    · rwa [hns]
  · split
    · exact h.nodup
    · next hIn =>
      refine List.nodup_append.2 ⟨h.nodup, List.nodup_singleton _, ?_⟩
      intro a ha b hb hEq
      simp only [List.mem_singleton] at hb
      subst hb
      subst hEq
      exact hIn (List.elem_eq_true_of_mem ha)
  · rcases (hMem ns).1 hns' with hOld | rfl
    · exact h.listed ns hOld
    · rw [hns]
      exact List.mem_map_of_mem hInput
  · rcases ModelFiles.mem_files_insert hf with rfl | hf
    · exact .inr ⟨input, hInput, hFile⟩
    · exact h.files_from f hf

theorem accumulated_foldlM_addFetched {missing : List ExternalImport} :
    ∀ (inputs : List ModelInput) {files : ModelFiles} {fetched : List String} {progress : Bool}
      {acc : ModelFiles × List String × Bool},
      (∀ i ∈ inputs, i ∈ models ∧ S.files.contains i.ast.ns = false) →
      Accumulated S models files fetched →
      inputs.foldlM (addFetchedOutcome S.factories missing) (files, fetched, progress) = .ok acc →
      Accumulated S models acc.1 acc.2.1 ∧ fetched ⊆ acc.2.1 ∧ ∀ i ∈ inputs, i.ast.ns ∈ acc.2.1
  | [], _, _, _, _, _, h, hFold => by
    cases hFold
    exact ⟨h, List.Subset.refl _, fun _ hi => absurd hi List.not_mem_nil⟩
  | input :: rest, files, fetched, progress, acc, hInputs, h, hFold => by
    rw [List.foldlM_cons] at hFold
    obtain ⟨⟨files₁, fetched₁, progress₁⟩, hStep, hRest⟩ := Outcome.bind_eq_ok.1 hFold
    obtain ⟨hInput, hNew⟩ := hInputs input List.mem_cons_self
    obtain ⟨h₁, hSub₁, hMem₁⟩ := h.addFetched hInput hNew hStep
    obtain ⟨h', hSub', hMem'⟩ := accumulated_foldlM_addFetched rest
      (fun i hi => hInputs i (List.mem_cons_of_mem _ hi)) h₁ hRest
    refine ⟨h', List.Subset.trans hSub₁ hSub', fun i hi => ?_⟩
    rcases List.mem_cons.1 hi with rfl | hi
    · exact hSub' hMem₁
    · exact hMem' i hi

/-- A round that makes progress keeps the files accumulated and fetches a namespace it had not:
every model served is in a missing namespace. -/
theorem Accumulated.round (h : Accumulated S models files fetched) {acc : ModelFiles × List String × Bool}
    (hRound : (served models (missingImports files)).foldlM
      (addFetchedOutcome S.factories (missingImports files)) (files, fetched, false) = .ok acc)
    (hProgress : acc.2.2 = true) :
    Accumulated S models acc.1 acc.2.1 ∧ fetched.length < acc.2.1.length := by
  have hServed : ∀ i ∈ served models (missingImports files),
      i ∈ models ∧ S.files.contains i.ast.ns = false ∧ i.ast.ns ∉ fetched := by
    intro i hi
    obtain ⟨hi, hAsked⟩ := List.mem_filter.1 hi
    obtain ⟨e, he, hEq⟩ := List.any_eq_true.1 hAsked
    have hEq : e.ns = i.ast.ns := by simpa using hEq
    rw [← hEq]
    exact ⟨hi, h.not_mem_of_missing he⟩
  obtain ⟨h', hSub, hMem⟩ := accumulated_foldlM_addFetched _
    (fun i hi => ⟨(hServed i hi).1, (hServed i hi).2.1⟩) h hRound
  refine ⟨h', ?_⟩
  cases hInputs : served models (missingImports files) with
  | nil =>
    rw [hInputs] at hRound
    cases hRound
    cases hProgress
  | cons i rest =>
    have hi : i ∈ served models (missingImports files) := by
      rw [hInputs]
      exact List.mem_cons_self
    have hLonger := (List.nodup_cons.2 ⟨(hServed i hi).2.2, h.nodup⟩).length_le_of_subset
      (List.cons_subset.2 ⟨hMem i hi, hSub⟩)
    simpa using hLonger

/-! ### Whole refreshes -/

/-- A refresh from a static source, with more fuel than namespaces left to fetch, asks at most once
per namespace left and once more, each time for what the files so far lack; when it succeeds,
nothing is missing, and it fetched either nothing or more. -/
theorem refresh_static :
    ∀ (n : Nat) {files : ModelFiles} {fetched : List String} (log : List (List ExternalImport)),
      Accumulated S models files fetched → (models.map (·.ast.ns)).dedup.length - fetched.length < n →
      ∃ res requests,
        ((refresh (staticSource models) n files fetched).run.run S).run log = ((res, S), log ++ requests) ∧
        requests.length ≤ (models.map (·.ast.ns)).dedup.length - fetched.length + 1 ∧
        (∀ request ∈ requests, ∃ F fs, Accumulated S models F fs ∧ request = missingImports F) ∧
        ∀ F fs, res = .ok (F, fs) → Accumulated S models F fs ∧ missingImports F = [] ∧
          ((F = files ∧ fs = fetched) ∨ fetched.length < fs.length)
  | 0, _, _, _, _, hFuel => absurd hFuel (Nat.not_lt_zero _)
  | n + 1, files, fetched, log, h, hFuel => by
    rw [refresh]
    dsimp only
    split
    · next hEmpty =>
      refine ⟨.ok (files, fetched), [], by simp; rfl, by simp, by simp, fun F fs hRes => ?_⟩
      cases hRes
      exact ⟨h, List.isEmpty_iff.1 hEmpty, .inl ⟨rfl, rfl⟩⟩
    · have hAsked : ∃ F fs, Accumulated S models F fs ∧ missingImports files = missingImports F :=
        ⟨files, fetched, h, rfl⟩
      rw [run_bind_state, run_fetchRound_static]
      cases hRound : (served models (missingImports files)).foldlM
          (addFetchedOutcome S.factories (missingImports files)) (files, fetched, false) with
      | error e =>
        refine ⟨.error e, [missingImports files], rfl, by simp, by simpa using hAsked, fun F fs hRes => ?_⟩
        cases hRes
      | ok acc =>
        obtain ⟨files', fetched', progress⟩ := acc
        cases progress with
        | false =>
          refine ⟨_, [missingImports files], rfl, by simp, by simpa using hAsked, fun F fs hRes => ?_⟩
          cases hRes
        | true =>
          obtain ⟨h', hLonger⟩ := h.round hRound rfl
          have hBound := h'.length_le
          obtain ⟨res, requests, hRun, hCount, hRequests, hOk⟩ := refresh_static n _ h' (by omega)
          refine ⟨res, missingImports files :: requests, ?_, ?_, ?_, fun F fs hRes => ?_⟩
          · rw [show log ++ missingImports files :: requests = log ++ [missingImports files] ++ requests by simp]
            exact hRun
          · simp only [List.length_cons]
            omega
          · intro request hRequest
            rcases List.mem_cons.1 hRequest with rfl | hRequest
            · exact hAsked
            · exact hRequests request hRequest
          · obtain ⟨hF, hNil, hGrown⟩ := hOk F fs hRes
            refine ⟨hF, hNil, .inr ?_⟩
            rcases hGrown with ⟨-, rfl⟩ | hGrown <;> omega

/-- One more round of fuel changes nothing once the fuel exceeds the namespaces left to fetch. -/
theorem refresh_static_fuel_succ :
    ∀ (n : Nat) {files : ModelFiles} {fetched : List String} {log : List (List ExternalImport)},
      Accumulated S models files fetched → (models.map (·.ast.ns)).dedup.length - fetched.length < n →
      ((refresh (staticSource models) (n + 1) files fetched).run.run S).run log =
        ((refresh (staticSource models) n files fetched).run.run S).run log
  | 0, _, _, _, _, hFuel => absurd hFuel (Nat.not_lt_zero _)
  | n + 1, files, fetched, log, h, hFuel => by
    conv_lhs => rw [refresh]
    conv_rhs => rw [refresh]
    dsimp only
    by_cases hEmpty : (missingImports files).isEmpty = true
    · rw [if_pos hEmpty, if_pos hEmpty]
    · rw [if_neg hEmpty, if_neg hEmpty, run_bind_state, run_bind_state, run_fetchRound_static]
      cases hRound : (served models (missingImports files)).foldlM
          (addFetchedOutcome S.factories (missingImports files)) (files, fetched, false) with
      | error e => rfl
      | ok acc =>
        obtain ⟨files', fetched', progress⟩ := acc
        cases progress with
        | false => rfl
        | true =>
          obtain ⟨h', hLonger⟩ := h.round hRound rfl
          have hBound := h'.length_le
          dsimp only at h' hLonger hBound
          have hFuel' : (models.map (·.ast.ns)).dedup.length - fetched'.length < n := by omega
          exact refresh_static_fuel_succ n h' hFuel'

/-- Any fuel beyond the namespaces left to fetch gives the same run. -/
theorem refresh_static_fuel {n n' : Nat} (h : Accumulated S models files fetched)
    (hFuel : (models.map (·.ast.ns)).dedup.length - fetched.length < n) (hMore : n ≤ n')
    (log : List (List ExternalImport)) :
    ((refresh (staticSource models) n' files fetched).run.run S).run log =
      ((refresh (staticSource models) n files fetched).run.run S).run log := by
  induction hMore with
  | refl => rfl
  | step hMore ih => rw [refresh_static_fuel_succ _ h (lt_of_lt_of_le hFuel hMore), ih]

end Accumulated

/-- What a refresh from a static source promises of a run that answers `res`, leaves the
registry `S'` and sends `requests`, from the registry `S` and the list `models`: at most one request
per namespace of the list and one more, each for what some accumulated files import and do not
load; on success every namespace a file imports is loaded and the answer lists the namespaces
added, each once, and an empty answer or a failure leaves the registry as it was. -/
structure Refreshed (S : Registry) (models : List ModelInput) (res : Outcome (List String))
    (S' : Registry) (requests : List (List ExternalImport)) : Prop where
  count : requests.length ≤ (models.map (·.ast.ns)).dedup.length + 1
  asks : ∀ request ∈ requests, ∃ files fetched,
    Accumulated S models files fetched ∧ ImportRequest files request
  closed : ∀ fetched, res = .ok fetched →
    ∀ f ∈ S'.files.files, ∀ i ∈ f.ast.imports, S'.files.contains i.ns = true
  nodup : ∀ fetched, res = .ok fetched → fetched.Nodup
  added : ∀ fetched, res = .ok fetched →
    ∀ ns, ns ∈ fetched ↔ S'.files.contains ns = true ∧ S.files.contains ns = false
  unchanged_of_nil : res = .ok [] → S' = S
  unchanged_of_error : ∀ e, res = .error e → S' = S

section Promises

variable {S : Registry} {models : List ModelInput} {requests : List (List ExternalImport)}
  {files : ModelFiles} {fetched : List String}
  (hCount : requests.length ≤ (models.map (·.ast.ns)).dedup.length + 1)
  (hAsked : ∀ request ∈ requests, ∃ files fetched,
    Accumulated S models files fetched ∧ ImportRequest files request)
include hCount hAsked

theorem refreshed_error (e : ModelError) : Refreshed S models (.error e) S requests where
  count := hCount
  asks := hAsked
  closed _ hRes := by cases hRes
  nodup _ hRes := by cases hRes
  added _ hRes := by cases hRes
  unchanged_of_nil hRes := by cases hRes
  unchanged_of_error _ _ := rfl

theorem refreshed_nil (hClosed : ∀ f ∈ S.files.files, ∀ i ∈ f.ast.imports, S.files.contains i.ns = true) :
    Refreshed S models (.ok []) S requests where
  count := hCount
  asks := hAsked
  closed _ _ := hClosed
  nodup _ hRes := by
    cases hRes
    exact List.nodup_nil
  added _ hRes := by
    cases hRes
    simp
  unchanged_of_nil _ := rfl
  unchanged_of_error _ hRes := by cases hRes

/-- Committing the files of a refresh that fetched something and left nothing missing. -/
theorem refreshed_commit (h : Accumulated S models files fetched) (hNil : missingImports files = [])
    (hSome : fetched ≠ []) (index : TypeIndex) :
    Refreshed S models (.ok fetched) { S with files, index } requests where
  count := hCount
  asks := hAsked
  closed _ _ := missingImports_eq_nil_iff.1 hNil
  nodup _ hRes := by
    cases hRes
    exact h.nodup
  added _ hRes := by
    cases hRes
    exact h.mem_fetched_iff
  unchanged_of_nil hRes := by
    cases hRes
    exact absurd rfl hSome
  unchanged_of_error _ hRes := by cases hRes

end Promises

/-- Refreshing external models from a static source, with more rounds of fuel than the list has
namespaces, ends: any more fuel gives the same run, and that run keeps the promises of
`Refreshed`. -/
theorem static_refresh_closes_imports (S : Registry) (models : List ModelInput) (rounds : Nat)
    (hRounds : (models.map (·.ast.ns)).dedup.length < rounds) :
    ∃ res S' requests,
      (∀ n, rounds ≤ n →
        ((updateExternalModels (staticSource models) n).run.run S).run [] = ((res, S'), requests)) ∧
      Refreshed S models res S' requests := by
  have hFuel : (models.map (·.ast.ns)).dedup.length - ([] : List String).length < rounds := by
    simpa using hRounds
  obtain ⟨res, requests, hRun, hCount, hRequests, hOk⟩ := refresh_static rounds [] accumulated_start hFuel
  have hRunFrom : ∀ n, rounds ≤ n →
      ((refresh (staticSource models) n S.files []).run.run S).run [] = ((res, S), requests) := by
    intro n hn
    rw [refresh_static_fuel accumulated_start hFuel hn [], hRun, List.nil_append]
  have hCount' : requests.length ≤ (models.map (·.ast.ns)).dedup.length + 1 := by simpa using hCount
  have hAsked : ∀ request ∈ requests, ∃ files fetched,
      Accumulated S models files fetched ∧ ImportRequest files request := by
    intro request hRequest
    obtain ⟨files, fetched, hAcc, rfl⟩ := hRequests request hRequest
    exact ⟨files, fetched, hAcc, importRequest_missingImports files⟩
  rcases res with e | ⟨files, fetched⟩
  · refine ⟨.error e, S, requests, fun n hn => ?_, refreshed_error hCount' hAsked e⟩
    rw [run_updateExternalModels_state, hRunFrom n hn]
  · obtain ⟨hAcc, hNil, hGrown⟩ := hOk files fetched rfl
    by_cases hEmpty : fetched.isEmpty = true
    · obtain rfl : fetched = [] := List.isEmpty_iff.1 hEmpty
      obtain rfl : files = S.files := by
        rcases hGrown with ⟨hFiles, -⟩ | hLonger
        · exact hFiles
        · simp at hLonger
      refine ⟨.ok [], S, requests, fun n hn => ?_,
        refreshed_nil hCount' hAsked (missingImports_eq_nil_iff.1 hNil)⟩
      rw [run_updateExternalModels_state, hRunFrom n hn]
      rfl
    · have hSome : fetched ≠ [] := fun hNone => hEmpty (List.isEmpty_iff.2 hNone)
      cases hBuild : TypeIndex.build files .strict with
      | error e =>
        refine ⟨.error e, S, requests, fun n hn => ?_, refreshed_error hCount' hAsked e⟩
        rw [run_updateExternalModels_state, hRunFrom n hn]
        simp only [hEmpty, hBuild]
        rfl
      | ok index =>
        refine ⟨.ok fetched, { S with files, index }, requests, fun n hn => ?_,
          refreshed_commit hCount' hAsked hAcc hNil hSome index⟩
        rw [run_updateExternalModels_state, hRunFrom n hn]
        simp only [hEmpty, hBuild]
        rfl

/-- The refresh of a registry whose one file imports a namespace, from a list serving it. -/
theorem refresh_of_people_closes_imports :
    (([{ ast := { ns := "org.people@1.0.0" } }] : List ModelInput).map (·.ast.ns)).dedup.length < 2 ∧
      ∃ res S' requests,
        (∀ n, 2 ≤ n →
          ((updateExternalModels (staticSource [{ ast := { ns := "org.people@1.0.0" } }]) n).run.run
            { files := ({} : ModelFiles).insert
                { (default : ModelFile) with
                  ns := "org.orders@1.0.0",
                  ast := { ns := "org.orders@1.0.0", imports := [.all "org.people@1.0.0" none] } },
              index := {} }).run [] = ((res, S'), requests)) ∧
        Refreshed
          { files := ({} : ModelFiles).insert
              { (default : ModelFile) with
                ns := "org.orders@1.0.0",
                ast := { ns := "org.orders@1.0.0", imports := [.all "org.people@1.0.0" none] } },
            index := {} }
          [{ ast := { ns := "org.people@1.0.0" } }] res S' requests :=
  ⟨by simp, static_refresh_closes_imports _ _ 2 (by simp)⟩

end Mutation

end DomainModels
