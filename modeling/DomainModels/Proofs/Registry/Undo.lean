import DomainModels.Proofs.Registry.Consistency
/-! Removing a namespace undoes adding it: the files and the index come back to what they were. -/
namespace DomainModels

namespace ModelFiles

/-- Erasing the namespace of a file just inserted, among entries of other namespaces, leaves
those entries. -/
theorem filter_insert_go {f : ModelFile} :
    ∀ {l : List (String × ModelFile)}, (∀ p ∈ l, p.1 ≠ f.ns) → (insert.go f l).filter (·.1 != f.ns) = l
  | [], _ => by simp [insert.go]
  | (ns, g) :: rest, h => by
    have hKeep : ∀ p ∈ (ns, g) :: rest, (p.1 != f.ns) = true := fun p hp => by simpa using h p hp
    have hns : ns ≠ f.ns := h _ List.mem_cons_self
    unfold insert.go
    rw [if_neg (by simpa using Ne.symm hns)]
    split
    · rw [List.filter_cons_of_neg (by simp), List.filter_eq_self.2 hKeep]
    · rw [List.filter_cons_of_pos (by simpa using hns),
        filter_insert_go fun p hp => h p (List.mem_cons_of_mem _ hp)]

theorem erase_insert {fs : ModelFiles} {f : ModelFile} (h : fs.contains f.ns = false) :
    (fs.insert f).erase f.ns = fs := by
  have hAbsent : ∀ p ∈ fs.entries, p.1 ≠ f.ns := fun p hp hp' => by
    have hNe := List.any_eq_false.1 h p hp
    simp [hp'] at hNe
  unfold erase insert
  dsimp only
  rw [filter_insert_go hAbsent]

theorem contains_insert (fs : ModelFiles) (f : ModelFile) : (fs.insert f).contains f.ns = true := by
  have hGet : (fs.insert f).get? f.ns = some f := by rw [get?_insert, if_pos rfl]
  exact List.any_eq_true.2 ⟨_, mem_of_lookup hGet, by simp⟩

end ModelFiles

theorem not_contains_of_checkNewNamespace {files : ModelFiles} {ns : String}
    (h : checkNewNamespace files ns = .ok ()) : files.contains ns = false := by
  obtain ⟨_, -, h⟩ := Outcome.bind_eq_ok.1 h
  cases hMem : files.contains ns
  · rfl
  · rw [hMem, if_pos rfl] at h
    cases h

namespace Registry

variable {α : Type} {r r' : Registry} {mode : BuildMode}

/-- The lenient build of a consistent registry's files gives the index it holds. -/
theorem Invariant.build_lenient (h : r.Invariant mode) : TypeIndex.build r.files .lenient = .ok r.index := by
  cases mode with
  | strict => exact (lenient_build_agrees_with_strict r.files).2 _ h.built
  | lenient => exact h.built

end Registry

namespace Mutation

variable {α : Type} {r r' : Registry}

@[simp] theorem run_pure_id (a : α) (r : Registry) : (pure a : Mutation Id α).run.run r = (.ok a, r) := rfl

@[simp] theorem run_get_id (r : Registry) : (get : Mutation Id Registry).run.run r = (.ok r, r) := rfl

/-- Removing a loaded namespace other than the root one is a lenient commit of the other files. -/
theorem run_deleteModelFile {ns : String} (hns : ns ≠ Names.rootNamespace) (hMem : r.files.contains ns = true) :
    (deleteModelFile ns : Mutation Id Unit).run.run r = (commit (r.files.erase ns) .lenient : Mutation Id Unit).run.run r := by
  have hSystem : checkNotSystem ns = .ok () := by simp [checkNotSystem, hns]
  unfold deleteModelFile
  rw [run_bind_id, hSystem]
  dsimp only [lift]
  rw [run_pure_id]
  dsimp only
  rw [run_bind_id, run_get_id]
  dsimp only
  rw [if_neg (by simp [hMem])]

end Mutation

namespace Registry

/-- Removing the namespace of a model just added gives back the registry as it was before the
addition, its files and its index alike, whichever mode built the index it held. -/
theorem delete_undoes_add {S S₁ : Registry} {mode : BuildMode} (hS : Reachable S mode) {input : ModelInput}
    {file : ModelFile} (hAdd : S.addModelFile input = .ok (S₁, file)) :
    S₁.deleteModelFile input.ast.ns = .ok S := by
  obtain ⟨-, hns, hNew, index, -, rfl⟩ := Mutation.addModelFile_eq_ok (change_eq_ok.1 hAdd)
  have hRoot : file.ns ≠ Names.rootNamespace := ne_rootNamespace_of_checkNewNamespace hNew
  have hFresh : S.files.contains file.ns = false := not_contains_of_checkNewNamespace hNew
  unfold deleteModelFile change
  rw [← hns, Mutation.run_deleteModelFile hRoot (ModelFiles.contains_insert _ _), Mutation.run_commit]
  dsimp only
  rw [ModelFiles.erase_insert hFresh, hS.invariant.build_lenient]
  rfl

theorem adding_then_removing_a_namespace_restores_the_registry :
    ∃ S S₁ file, Registry.create = .ok S ∧
      S.addModelFile { ast := { ns := "org.acme@1.0.0", declarations := [.cls .concept { name := "Person" }] } } =
        .ok (S₁, file) ∧
      S₁.deleteModelFile "org.acme@1.0.0" = .ok S := by
  have hAdded : (Registry.create >>= fun S => S.addModelFile
      { ast := { ns := "org.acme@1.0.0", declarations := [.cls .concept { name := "Person" }] } }).toBool = true := by
    decide +kernel
  cases hCreate : Registry.create with
  | error e =>
    rw [hCreate] at hAdded
    cases hAdded
  | ok S =>
    rw [hCreate] at hAdded
    cases hAdd : S.addModelFile
        { ast := { ns := "org.acme@1.0.0", declarations := [.cls .concept { name := "Person" }] } } with
    | error e =>
      change (S.addModelFile _).toBool = true at hAdded
      rw [hAdd] at hAdded
      cases hAdded
    | ok added =>
      obtain ⟨S₁, file⟩ := added
      have hDeleted := delete_undoes_add (.create hCreate) hAdd
      exact ⟨S, S₁, file, rfl, hAdd, hDeleted⟩

end Registry

end DomainModels
