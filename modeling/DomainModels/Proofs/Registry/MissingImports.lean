import DomainModels.Proofs.Graph.ModelFiles
/-! The request a refresh sends: each imported namespace that is not loaded, once, with the first
source named for it, sorted; empty exactly when every import is loaded. -/
namespace DomainModels

/-- The source an imported namespace is noted with, when it is `ns`. -/
def sourceFor (ns : String) (p : String × Option String) : Option String :=
  if p.1 = ns then p.2 else none

theorem findSome?_sourceFor_eq_none {ns : String} {l : List (String × Option String)}
    (h : ns ∉ l.map Prod.fst) : l.findSome? (sourceFor ns) = none := by
  rw [List.findSome?_eq_none_iff]
  intro p hp
  have hNe : p.1 ≠ ns := fun hEq => h (List.mem_map.2 ⟨p, hp, hEq⟩)
  simp [sourceFor, hNe]

namespace ModelFile

/-- What noting the imports `pre` one by one keeps: the namespaces imported, each with the
source of its first import. -/
structure Noted (pre : List Metamodel.Import) (seen : List (String × Option String)) : Prop where
  mem_iff : ∀ ns, ns ∈ seen.map Prod.fst ↔ ∃ i ∈ pre, i.ns = ns
  source : ∀ ns, seen.findSome? (sourceFor ns) = (pre.find? (·.ns == ns)).bind Metamodel.Import.uri

theorem Noted.noteImport {pre : List Metamodel.Import} {seen : List (String × Option String)}
    (h : Noted pre seen) (i : Metamodel.Import) : Noted (pre ++ [i]) (noteImport seen i) := by
  unfold ModelFile.noteImport
  split
  · next hSeen =>
    obtain ⟨j, hj, hji⟩ := (h.mem_iff i.ns).1 (by simpa using hSeen)
    refine ⟨fun ns => ?_, fun ns => ?_⟩
    · rw [h.mem_iff]
      constructor
      · rintro ⟨k, hk, rfl⟩
        exact ⟨k, List.mem_append_left _ hk, rfl⟩
      · rintro ⟨k, hk, rfl⟩
        rcases List.mem_append.1 hk with hk | hk
        · exact ⟨k, hk, rfl⟩
        · obtain rfl := List.mem_singleton.1 hk
          exact ⟨j, hj, hji⟩
    · rw [h.source, List.find?_append]
      by_cases hns : i.ns = ns
      · subst hns
        cases hFind : pre.find? (·.ns == i.ns) with
        | none => exact absurd hji (by simpa using List.find?_eq_none.1 hFind j hj)
        | some k => simp
      · simp [hns]
  · next hNew =>
    have hAbsent : i.ns ∉ seen.map Prod.fst := fun hMem => hNew (by
      obtain ⟨p, hp, hpi⟩ := List.mem_map.1 hMem
      exact List.any_eq_true.2 ⟨p, hp, by simp [hpi]⟩)
    have hNone : pre.find? (·.ns == i.ns) = none := by
      rw [List.find?_eq_none]
      intro k hk hki
      exact hAbsent ((h.mem_iff i.ns).2 ⟨k, hk, by simpa using hki⟩)
    refine ⟨fun ns => ?_, fun ns => ?_⟩
    · simp only [List.map_append, List.mem_append, h.mem_iff, List.mem_singleton,
        List.map_cons, List.map_nil]
      constructor
      · rintro (⟨k, hk, rfl⟩ | rfl)
        · exact ⟨k, .inl hk, rfl⟩
        · exact ⟨i, .inr rfl, rfl⟩
      · rintro ⟨k, hk | rfl, rfl⟩
        · exact .inl ⟨k, hk, rfl⟩
        · exact .inr rfl
    · rw [List.findSome?_append, h.source, List.find?_append]
      by_cases hns : i.ns = ns
      · subst hns
        simp [hNone, sourceFor]
      · simp [sourceFor, hns]

theorem noted_foldl :
    ∀ (imports : List Metamodel.Import) {pre : List Metamodel.Import} {seen : List (String × Option String)},
      Noted pre seen → Noted (pre ++ imports) (imports.foldl noteImport seen)
  | [], pre, seen, h => by simpa using h
  | i :: rest, pre, seen, h => by
    have hStep := noted_foldl rest (h.noteImport i)
    simpa using hStep

theorem noted_importedNamespaces (f : ModelFile) : Noted f.ast.imports f.importedNamespaces := by
  have hStart : Noted [] [] := ⟨fun ns => by simp, fun ns => by simp⟩
  rw [importedNamespaces]
  simpa using noted_foldl f.ast.imports hStart

theorem mem_importedNamespaces {f : ModelFile} {ns : String} :
    ns ∈ f.importedNamespaces.map Prod.fst ↔ ∃ i ∈ f.ast.imports, i.ns = ns :=
  (noted_importedNamespaces f).mem_iff ns

end ModelFile

/-- Across files, the first source named for a namespace is that of the first file importing it
with a source at its first import. -/
theorem findSome?_flatMap_importedNamespaces (ns : String) :
    ∀ fs : List ModelFile, (fs.flatMap ModelFile.importedNamespaces).findSome? (sourceFor ns) =
      (fs.filterMap fun f => f.ast.imports.find? (·.ns == ns)).findSome? Metamodel.Import.uri
  | [] => rfl
  | f :: rest => by
    rw [List.flatMap_cons, List.findSome?_append, (ModelFile.noted_importedNamespaces f).source,
      findSome?_flatMap_importedNamespaces ns rest, List.filterMap_cons]
    cases f.ast.imports.find? (·.ns == ns) with
    | none => simp
    | some i => cases hUri : i.uri <;> simp [hUri]

/-- With distinct keys, the look-up of a key finds its entry. -/
theorem lookup_of_mem_of_nodup {β : Type} :
    ∀ {l : List (String × β)}, (l.map Prod.fst).Nodup → ∀ {p : String × β}, p ∈ l → l.lookup p.1 = some p.2
  | [], _, _, hp => absurd hp List.not_mem_nil
  | (k, v) :: rest, hNodup, p, hp => by
    rw [List.map_cons, List.nodup_cons] at hNodup
    rw [ModelFiles.lookup_cons_eq]
    rcases List.mem_cons.1 hp with rfl | hRest
    · simp
    · have hMem : p.1 ∈ rest.map Prod.fst := List.mem_map_of_mem hRest
      have hNe : p.1 ≠ k := fun hEq => hNodup.1 (by simpa [hEq] using hMem)
      rw [if_neg hNe, lookup_of_mem_of_nodup hNodup.2 hRest]

/-! ### Scanning for missing namespaces -/

/-- What scanning the imports `pre` for missing namespaces keeps: each namespace imported and
not loaded, once, with the first source named for it. -/
structure Scanned (files : ModelFiles) (pre acc : List (String × Option String)) : Prop where
  nodup : (acc.map Prod.fst).Nodup
  mem_iff : ∀ ns, ns ∈ acc.map Prod.fst ↔ files.contains ns = false ∧ ns ∈ pre.map Prod.fst
  source : ∀ p ∈ acc, p.2 = pre.findSome? (sourceFor p.1)

section Scan

variable {files : ModelFiles} {pre acc : List (String × Option String)} {ns : String}
  {uri : Option String}

/-- The missing namespaces after an import of `ns`: those before, and `ns` unless it is loaded. -/
theorem missing_append_iff (n : String) :
    (files.contains n = false ∧ n ∈ (pre ++ [(ns, uri)]).map Prod.fst) ↔
      (files.contains n = false ∧ n ∈ pre.map Prod.fst) ∨ (files.contains ns = false ∧ n = ns) := by
  simp only [List.map_append, List.mem_append, List.map_cons, List.map_nil, List.mem_singleton]
  constructor
  · rintro ⟨hn, hMem | rfl⟩
    · exact .inl ⟨hn, hMem⟩
    · exact .inr ⟨hn, rfl⟩
  · rintro (⟨hn, hMem⟩ | ⟨hn, rfl⟩)
    · exact ⟨hn, .inl hMem⟩
    · exact ⟨hn, .inr rfl⟩

/-- An entry of another namespace keeps its source past an import of `ns`. -/
theorem Scanned.source_other (h : Scanned files pre acc) {p : String × Option String} (hp : p ∈ acc)
    (hNe : p.1 ≠ ns) : p.2 = (pre ++ [(ns, uri)]).findSome? (sourceFor p.1) := by
  rw [List.findSome?_append, ← h.source p hp]
  simp [sourceFor, Ne.symm hNe]

/-- The entry of a namespace holds what its look-up gives. -/
theorem Scanned.source_of_lookup (h : Scanned files pre acc) {v : Option String}
    (hv : acc.lookup ns = some v) {p : String × Option String} (hp : p ∈ acc) (hEq : p.1 = ns) :
    p.2 = v := by
  have hp' := lookup_of_mem_of_nodup h.nodup hp
  rw [hEq, hv] at hp'
  exact (Option.some.inj hp').symm

/-- A namespace held already keeps the missing namespaces as they are past another import of it. -/
theorem Scanned.mem_iff_of_lookup (h : Scanned files pre acc) {v : Option String}
    (hv : acc.lookup ns = some v) (n : String) :
    n ∈ acc.map Prod.fst ↔ files.contains n = false ∧ n ∈ (pre ++ [(ns, uri)]).map Prod.fst := by
  obtain ⟨p, hp, hpns⟩ := List.lookup_isSome_iff.1 (Option.isSome_iff_exists.2 ⟨v, hv⟩)
  have hEq : p.1 = ns := (beq_iff_eq.1 hpns).symm
  have hHeld := (h.mem_iff ns).1 (hEq ▸ List.mem_map_of_mem hp)
  rw [h.mem_iff, missing_append_iff]
  constructor
  · exact .inl
  · rintro (hOld | ⟨-, rfl⟩)
    · exact hOld
    · exact hHeld

/-- Taking a source for a namespace listed without one rewrites sources only: the namespaces
stay as they were. -/
theorem names_addMissing_of_lookup (hNew : files.contains ns = false) (hLookup : acc.lookup ns = some none)
    (uri : Option String) : (addMissing files acc (ns, uri)).map Prod.fst = acc.map Prod.fst := by
  simp only [DomainModels.addMissing, hNew, hLookup, Bool.false_eq_true, if_false, List.map_map]
  refine List.map_congr_left fun p _ => ?_
  obtain ⟨n, u⟩ := p
  simp only [Function.comp_apply]
  split <;> rfl

theorem Scanned.addMissing (h : Scanned files pre acc) (q : String × Option String) :
    Scanned files (pre ++ [q]) (addMissing files acc q) := by
  obtain ⟨ns, uri⟩ := q
  rw [DomainModels.addMissing]
  split
  · next hLoaded =>
    refine ⟨h.nodup, fun n => ?_, fun p hp => h.source_other hp fun hEq => ?_⟩
    · rw [h.mem_iff, missing_append_iff]
      simp [hLoaded]
    · have hMissing := ((h.mem_iff p.1).1 (List.mem_map_of_mem hp)).1
      rw [hEq, hLoaded] at hMissing
      cases hMissing
  · next hLoaded =>
    have hNew : files.contains ns = false := by simpa using hLoaded
    split
    · next hLookup =>
      have hAbsent : ns ∉ acc.map Prod.fst := by
        intro hMem
        obtain ⟨p, hp, rfl⟩ := List.mem_map.1 hMem
        simpa using List.lookup_eq_none_iff.1 hLookup p hp
      have hPre : ns ∉ pre.map Prod.fst := fun hMem => hAbsent ((h.mem_iff ns).2 ⟨hNew, hMem⟩)
      refine ⟨?_, fun n => ?_, fun p hp => ?_⟩
      · rw [List.map_append, List.nodup_append]
        refine ⟨h.nodup, by simp, ?_⟩
        intro a ha b hb hEq
        simp only [List.map_cons, List.map_nil, List.mem_singleton] at hb
        subst hb
        subst hEq
        exact hAbsent ha
      · rw [missing_append_iff, List.map_append, List.mem_append, h.mem_iff]
        simp [hNew]
      · rcases List.mem_append.1 hp with hp | hp
        · exact h.source_other hp fun hEq => hAbsent (hEq ▸ List.mem_map_of_mem hp)
        · obtain rfl := List.mem_singleton.1 hp
          simp [List.findSome?_append, findSome?_sourceFor_eq_none hPre, sourceFor]
    · next hLookup =>
      have hFst := names_addMissing_of_lookup hNew hLookup uri
      simp only [DomainModels.addMissing, hNew, hLookup, Bool.false_eq_true, if_false] at hFst
      refine ⟨?_, fun n => ?_, fun p hp => ?_⟩
      · rw [hFst]
        exact h.nodup
      · rw [hFst]
        exact h.mem_iff_of_lookup hLookup n
      · obtain ⟨⟨n, u⟩, hp₀, rfl⟩ := List.mem_map.1 hp
        by_cases hEq : n = ns
        · subst hEq
          have hNone : pre.findSome? (sourceFor n) = none := by
            rw [← h.source _ hp₀]
            exact h.source_of_lookup hLookup hp₀ rfl
          simp [List.findSome?_append, hNone, sourceFor]
        · simpa [hEq] using h.source_other hp₀ hEq
    · next v hLookup =>
      refine ⟨h.nodup, h.mem_iff_of_lookup hLookup, fun p hp => ?_⟩
      by_cases hEq : p.1 = ns
      · rw [List.findSome?_append, ← h.source p hp, h.source_of_lookup hLookup hp hEq]
        rfl
      · exact h.source_other hp hEq

end Scan

theorem scanned_foldl (files : ModelFiles) :
    ∀ (imported : List (String × Option String)) {pre acc : List (String × Option String)},
      Scanned files pre acc → Scanned files (pre ++ imported) (imported.foldl (addMissing files) acc)
  | [], pre, acc, h => by simpa using h
  | q :: rest, pre, acc, h => by
    have hStep := scanned_foldl files rest (h.addMissing q)
    simpa using hStep

/-! ### The request -/

theorem sortsBefore_iff {a b : String × Option String} : (!decide (b.1 < a.1)) = true ↔ a.1 ≤ b.1 := by
  rw [Bool.not_eq_true', decide_eq_false_iff_not, not_lt]

/-- A request for the namespaces the files import and do not load: sorted by namespace, so each
is asked for once, and each with the first source named for it, that of the first file (in
namespace order) whose first import of it names one. -/
structure ImportRequest (files : ModelFiles) (request : List ExternalImport) : Prop where
  sorted : request.Pairwise fun a b => a.ns < b.ns
  mem_iff : ∀ ns, ns ∈ request.map (·.ns) ↔
    files.contains ns = false ∧ ∃ f ∈ files.files, ∃ i ∈ f.ast.imports, i.ns = ns
  source : ∀ e ∈ request,
    e.uri = (files.files.filterMap fun f => f.ast.imports.find? (·.ns == e.ns)).findSome? Metamodel.Import.uri

theorem importRequest_missingImports (files : ModelFiles) : ImportRequest files (missingImports files) := by
  have hStart : Scanned files [] [] := ⟨by simp, by simp, by simp⟩
  have hScan := scanned_foldl files (files.files.flatMap ModelFile.importedNamespaces) hStart
  rw [List.nil_append] at hScan
  rw [missingImports]
  dsimp only
  generalize (files.files.flatMap ModelFile.importedNamespaces).foldl (addMissing files) [] = missing at hScan
  have hOrdered : (missing.mergeSort fun a b => !(b.1 < a.1)).Pairwise fun a b => !(b.1 < a.1) := by
    apply List.pairwise_mergeSort
    · intro a b c hab hbc
      rw [sortsBefore_iff] at hab hbc ⊢
      exact le_trans hab hbc
    · intro a b
      rw [Bool.or_eq_true, sortsBefore_iff, sortsBefore_iff]
      exact le_total a.1 b.1
  have hPerm := List.mergeSort_perm missing fun a b => !(b.1 < a.1)
  generalize missing.mergeSort (fun a b => !(b.1 < a.1)) = sorted at hPerm hOrdered
  have hKeys : (sorted.map Prod.fst).Nodup := (hPerm.map Prod.fst).nodup_iff.2 hScan.nodup
  have hNs : (sorted.map fun p => ({ ns := p.1, uri := p.2 } : ExternalImport)).map (·.ns) =
      sorted.map Prod.fst := by
    rw [List.map_map]
    rfl
  refine ⟨?_, fun ns => ?_, fun e he => ?_⟩
  · rw [List.pairwise_map]
    exact (hOrdered.and (List.pairwise_map.1 hKeys)).imp fun ⟨hLe, hNe⟩ =>
      lt_of_le_of_ne (sortsBefore_iff.1 hLe) hNe
  · rw [hNs, (hPerm.map Prod.fst).mem_iff, hScan.mem_iff, List.map_flatMap, List.mem_flatMap]
    simp only [ModelFile.mem_importedNamespaces]
  · obtain ⟨p, hp, rfl⟩ := List.mem_map.1 he
    rw [hScan.source p (hPerm.mem_iff.1 hp), findSome?_flatMap_importedNamespaces]

/-- Nothing is missing exactly when every namespace a file imports is loaded. -/
theorem missingImports_eq_nil_iff {files : ModelFiles} :
    missingImports files = [] ↔ ∀ f ∈ files.files, ∀ i ∈ f.ast.imports, files.contains i.ns = true := by
  have hMem := (importRequest_missingImports files).mem_iff
  constructor
  · intro hNil f hf i hi
    by_contra hLoaded
    have hAsked := (hMem i.ns).2 ⟨by simpa using hLoaded, f, hf, i, hi, rfl⟩
    simp [hNil] at hAsked
  · intro hAll
    apply List.eq_nil_iff_forall_not_mem.2
    intro e he
    obtain ⟨hMissing, f, hf, i, hi, hns⟩ := (hMem e.ns).1 (List.mem_map_of_mem he)
    rw [← hns, hAll f hf i hi] at hMissing
    cases hMissing

end DomainModels
