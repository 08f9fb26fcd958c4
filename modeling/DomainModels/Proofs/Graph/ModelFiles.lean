import Mathlib
import DomainModels.Proofs.Graph.BuildModes
/-! Well-formed model files: each file under its own namespace, namespaces increasing, every file
built from its metamodel, the root file under the root namespace. -/
namespace DomainModels

open Metamodel (ClassKind)
open Outcome

/-! ### Files built from their metamodel -/

/-- What building a file from its metamodel guarantees: its namespace carries a version, and
everything it declares is in that namespace. -/
structure ModelFile.Built (f : ModelFile) : Prop where
  versioned : ∃ v, Namespace.parseVersioned f.ns = .ok v
  declarations_ns : ∀ d ∈ f.declarations, d.ns = f.ns

theorem Outcome.map_eq_ok {α β : Type} {a : Outcome α} {g : α → β} {y : β} :
    g <$> a = .ok y ↔ ∃ x, a = .ok x ∧ g x = y := by
  cases a <;> simp [Functor.map, Except.map]

theorem Outcome.mapError_eq_ok {α : Type} {a : Outcome α} {g : ModelError → ModelError} {y : α} :
    a.mapError g = .ok y ↔ a = .ok y := by
  cases a <;> simp [Except.mapError]

theorem Declaration.ns_ofMetamodel {s : FileScope} {node : Metamodel.Declaration} {d : Declaration}
    (h : Declaration.ofMetamodel s node = .ok d) : d.ns = s.ns := by
  cases node with
  | cls kind node =>
    obtain ⟨c, hc, rfl⟩ := map_eq_ok.1 h
    unfold ClassDeclaration.ofMetamodel at hc
    obtain ⟨_, -, hc⟩ := bind_eq_ok.1 hc
    obtain ⟨_, -, hc⟩ := bind_eq_ok.1 hc
    cases hc
    rfl
  | scalar name kind decorators location =>
    obtain ⟨c, hc, rfl⟩ := map_eq_ok.1 h
    unfold ScalarDeclaration.ofMetamodel at hc
    cases kind <;> simp only [bind_eq_ok, pure, Except.pure, Except.ok.injEq] at hc <;>
      (repeat obtain ⟨_, -, hc⟩ := hc) <;> rfl
  | map name key value decorators location =>
    unfold Declaration.ofMetamodel at h
    obtain ⟨_, -, h⟩ := bind_eq_ok.1 h
    cases h
    rfl
  | enum name properties decorators location =>
    unfold Declaration.ofMetamodel at h
    obtain ⟨_, -, h⟩ := bind_eq_ok.1 h
    obtain ⟨_, -, h⟩ := bind_eq_ok.1 h
    cases h
    rfl

/-- The declarations of a file are built one by one, each in the file's namespace. -/
theorem ns_buildDeclarations {s : FileScope} {imports : List (String × String)} :
    ∀ {built : List Declaration} {nodes : List Metamodel.Declaration} {ds : List Declaration},
      buildDeclarations s imports built nodes = .ok ds → (∀ d ∈ built, d.ns = s.ns) →
        ∀ d ∈ ds, d.ns = s.ns
  | built, [], ds, h, hBuilt => by
    cases h
    simpa using hBuilt
  | built, node :: rest, ds, h, hBuilt => by
    unfold buildDeclarations at h
    obtain ⟨d, hd, h⟩ := bind_eq_ok.1 h
    by_cases hAny : built.any (·.name == d.name) = true
    · simp [hAny, throw_bind_ne_ok] at h
    rw [if_neg hAny] at h
    cases hImported : imports.lookup d.name with
    | some imported => simp [hImported, throw_bind_ne_ok] at h
    | none =>
      simp only [hImported] at h
      refine ns_buildDeclarations h fun d' hd' => ?_
      rcases List.mem_cons.1 hd' with rfl | hd'
      · exact Declaration.ns_ofMetamodel hd
      · exact hBuilt d' hd'

theorem ModelFile.built_ofMetamodel {ast : Metamodel.Model} {fileName : Option String}
    {factories : List DecoratorFactory} {f : ModelFile}
    (h : ModelFile.ofMetamodel ast fileName factories = .ok f) : f.Built ∧ f.ns = ast.ns := by
  unfold ModelFile.ofMetamodel at h
  obtain ⟨version, hVersion, h⟩ := bind_eq_ok.1 h
  obtain ⟨table, -, h⟩ := bind_eq_ok.1 h
  obtain ⟨declarations, hDeclarations, h⟩ := bind_eq_ok.1 h
  obtain ⟨_, -, h⟩ := bind_eq_ok.1 h
  cases h
  exact ⟨⟨⟨version, mapError_eq_ok.1 hVersion⟩,
    ns_buildDeclarations hDeclarations (by simp)⟩, rfl⟩

/-! ### The root file -/

/-- The file of the root model, as a new registry holds it. -/
def rootFile : ModelFile :=
  ((ModelFile.ofMetamodel rootModel (some "concerto.cto") []).toOption).getD default

theorem ofMetamodel_rootModel : ModelFile.ofMetamodel rootModel (some "concerto.cto") [] = .ok rootFile := by
  have hOk : (ModelFile.ofMetamodel rootModel (some "concerto.cto") []).toBool = true := by
    decide +kernel
  unfold rootFile
  cases h : ModelFile.ofMetamodel rootModel (some "concerto.cto") [] with
  | error e => rw [h] at hOk; cases hOk
  | ok f => rfl

theorem rootFiles_eq : rootFiles = .ok (({} : ModelFiles).insert rootFile) := by
  unfold rootFiles
  rw [ofMetamodel_rootModel]
  rfl

theorem rootFile_built : rootFile.Built ∧ rootFile.ns = Names.rootNamespace :=
  ModelFile.built_ofMetamodel ofMetamodel_rootModel

/-- The root class of a kind as the root model declares it: abstract, without properties, and
identified by the system when its instances are assets or participants. -/
def rootClass (k : ClassKind) : ClassDeclaration :=
  { name := k.rootName, ns := Names.rootNamespace, kind := k, isAbstract := true,
    identified := match k with
      | .asset | .participant => some .system
      | _ => none }

theorem rootFile_declarations :
    rootFile.declarations =
      [ClassKind.concept, .asset, .participant, .transaction, .event].map fun k => .cls (rootClass k) := by
  rfl

theorem rootFile_declaration? (k : ClassKind) : rootFile.declaration? k.rootName = some (.cls (rootClass k)) := by
  cases k <;> rfl

theorem fqn_rootClass (k : ClassKind) : (rootClass k).fqn = k.rootFqn := rfl

/-- Every declaration of the root file is a root class. -/
theorem mem_rootFile_declarations {d : Declaration} (h : d ∈ rootFile.declarations) :
    ∃ k : ClassKind, d = .cls (rootClass k) := by
  rw [rootFile_declarations] at h
  simp only [List.map_cons, List.map_nil, List.mem_cons, List.not_mem_nil, or_false] at h
  rcases h with h | h | h | h | h <;> exact ⟨_, h⟩

/-! ### Qualified names of the root classes -/

/-- Where a qualified name of a root class can be cut: after `concerto@1`, `concerto@1.0` or
the root namespace. -/
theorem qualify_eq_rootFqn {ns name : String} {k : ClassKind} (h : Names.qualify ns name = k.rootFqn) :
    ns = "concerto@1" ∨ ns = "concerto@1.0" ∨ ns = Names.rootNamespace := by
  have hList := congrArg String.toList h
  simp only [Names.qualify, String.toList_append] at hList
  have hDot : k.rootFqn.toList[ns.toList.length]? = some '.' := by
    rw [← hList]
    simp
  have hTake : ns.toList = k.rootFqn.toList.take ns.toList.length := by
    rw [← hList]
    simp
  have hLt : ns.toList.length < k.rootFqn.toList.length := by
    rw [← hList]
    simp
  have hDots : ∀ n < k.rootFqn.toList.length, k.rootFqn.toList[n]? = some '.' →
      (k.rootFqn.toList.take n = "concerto@1".toList ∨ k.rootFqn.toList.take n = "concerto@1.0".toList ∨
        k.rootFqn.toList.take n = Names.rootNamespace.toList) := by
    cases k <;> decide +kernel
  rcases hDots _ hLt hDot with h | h | h
  · exact .inl (String.toList_inj.1 (hTake.trans h))
  · exact .inr (.inl (String.toList_inj.1 (hTake.trans h)))
  · exact .inr (.inr (String.toList_inj.1 (hTake.trans h)))

/-- A file built from its metamodel outside the root namespace declares no name of a root
class. -/
theorem ModelFile.Built.qualify_ne_rootFqn {f : ModelFile} (hf : f.Built) (hns : f.ns ≠ Names.rootNamespace)
    (name : String) (k : ClassKind) : Names.qualify f.ns name ≠ k.rootFqn := by
  intro h
  obtain ⟨v, hv⟩ := hf.versioned
  rcases qualify_eq_rootFqn h with h | h | h
  · have hFails : (Namespace.parseVersioned "concerto@1").toBool = false := by decide +kernel
    rw [← h, hv] at hFails
    cases hFails
  · have hFails : (Namespace.parseVersioned "concerto@1.0").toBool = false := by decide +kernel
    rw [← h, hv] at hFails
    cases hFails
  · exact hns h

/-! ### Insertion and removal -/

namespace ModelFiles

theorem lookup_cons_eq {β : Type} (k a : String) (v : β) (rest : List (String × β)) :
    ((a, v) :: rest).lookup k = if k = a then some v else rest.lookup k := by
  by_cases h : k = a
  · subst h
    simp
  · have hBeq : (k == a) = false := by simpa using h
    simp [List.lookup_cons, hBeq, h]

theorem lookup_insert_go (f : ModelFile) (k : String) :
    ∀ l : List (String × ModelFile), (insert.go f l).lookup k = if k = f.ns then some f else l.lookup k
  | [] => by
    by_cases hk : k = f.ns <;> simp [insert.go, lookup_cons_eq, hk]
  | (ns, g) :: rest => by
    unfold insert.go
    by_cases hSame : f.ns = ns
    · subst hSame
      by_cases hk : k = f.ns <;> simp [lookup_cons_eq, hk]
    · rw [if_neg (by simpa using hSame)]
      split
      · by_cases hk : k = f.ns <;> simp [lookup_cons_eq, hk]
      · rw [lookup_cons_eq, lookup_cons_eq, lookup_insert_go f k rest]
        by_cases hk : k = f.ns
        · subst hk
          simp [hSame]
        · simp [hk]

@[simp] theorem get?_insert (fs : ModelFiles) (f : ModelFile) (k : String) :
    (fs.insert f).get? k = if k = f.ns then some f else fs.get? k :=
  lookup_insert_go f k fs.entries

theorem mem_insert_go {f : ModelFile} {p : String × ModelFile} :
    ∀ {l : List (String × ModelFile)}, p ∈ insert.go f l → p = (f.ns, f) ∨ p ∈ l
  | [], h => by simpa [insert.go] using h
  | (ns, g) :: rest, h => by
    unfold insert.go at h
    split at h
    · next hSame =>
      have hSame : f.ns = ns := by simpa using hSame
      subst hSame
      rcases List.mem_cons.1 h with rfl | h
      · exact .inl rfl
      · exact .inr (List.mem_cons_of_mem _ h)
    · split at h
      · rcases List.mem_cons.1 h with rfl | h
        · exact .inl rfl
        · exact .inr h
      · rcases List.mem_cons.1 h with rfl | h
        · exact .inr List.mem_cons_self
        · rcases mem_insert_go h with h | h
          · exact .inl h
          · exact .inr (List.mem_cons_of_mem _ h)

theorem sorted_insert_go (f : ModelFile) :
    ∀ {l : List (String × ModelFile)}, l.Pairwise (fun a b => a.1 < b.1) →
      (insert.go f l).Pairwise (fun a b => a.1 < b.1)
  | [], _ => by simp [insert.go]
  | (ns, g) :: rest, h => by
    rw [List.pairwise_cons] at h
    unfold insert.go
    split
    · next hSame =>
      have hSame : f.ns = ns := by simpa using hSame
      subst hSame
      exact List.pairwise_cons.2 h
    · split
      · next hLt =>
        refine List.pairwise_cons.2 ⟨fun e he => ?_, List.pairwise_cons.2 h⟩
        rcases List.mem_cons.1 he with rfl | he
        · exact hLt
        · exact lt_trans hLt (h.1 e he)
      · next hSame hLt =>
        have hGt : ns < f.ns := by
          rcases lt_trichotomy ns f.ns with h' | h' | h'
          · exact h'
          · exact absurd h'.symm (by simpa using hSame)
          · exact absurd h' hLt
        refine List.pairwise_cons.2 ⟨fun e he => ?_, sorted_insert_go f h.2⟩
        rcases mem_insert_go he with rfl | he
        · exact hGt
        · exact h.1 e he

theorem lookup_filter_ne (ns k : String) :
    ∀ l : List (String × ModelFile),
      (l.filter (·.1 != ns)).lookup k = if k = ns then none else l.lookup k
  | [] => by simp
  | (k', g) :: rest => by
    rw [List.filter_cons, lookup_cons_eq]
    by_cases hk' : k' = ns
    · subst hk'
      rw [if_neg (by simp), lookup_filter_ne k' k rest]
      by_cases hk : k = k' <;> simp [hk]
    · have hKeep : (k' != ns) = true := by simpa using hk'
      rw [if_pos hKeep, lookup_cons_eq, lookup_filter_ne ns k rest]
      by_cases hk : k = ns
      · subst hk
        simp [Ne.symm hk']
      · simp [hk]

@[simp] theorem get?_erase (fs : ModelFiles) (ns k : String) :
    (fs.erase ns).get? k = if k = ns then none else fs.get? k :=
  lookup_filter_ne ns k fs.entries

/-- With strictly increasing keys, a look-up finds every entry. -/
theorem lookup_of_mem {l : List (String × ModelFile)} (hSorted : l.Pairwise fun a b => a.1 < b.1)
    {p : String × ModelFile} (hp : p ∈ l) : l.lookup p.1 = some p.2 := by
  induction l with
  | nil => cases hp
  | cons q rest ih =>
    rw [List.pairwise_cons] at hSorted
    obtain ⟨k, g⟩ := q
    rcases List.mem_cons.1 hp with rfl | hp
    · simp
    · have hNe : p.1 ≠ k := (ne_of_lt (hSorted.1 p hp)).symm
      rw [lookup_cons_eq, if_neg hNe, ih hSorted.2 hp]

theorem mem_of_lookup {k : String} {f : ModelFile} :
    ∀ {l : List (String × ModelFile)}, l.lookup k = some f → (k, f) ∈ l
  | [], h => by cases h
  | (k', g) :: rest, h => by
    rw [lookup_cons_eq] at h
    by_cases hk : k = k'
    · rw [if_pos hk] at h
      cases h
      subst hk
      exact List.mem_cons_self
    · rw [if_neg hk] at h
      exact List.mem_cons_of_mem _ (mem_of_lookup h)

/-! ### Well-formed files -/

/-- The files of a registry: each under its own namespace, the namespaces strictly increasing,
each built from its metamodel, and the root file under the root namespace. -/
structure WellFormed (fs : ModelFiles) : Prop where
  keys : ∀ p ∈ fs.entries, p.1 = p.2.ns
  sorted : fs.entries.Pairwise fun a b => a.1 < b.1
  built : ∀ p ∈ fs.entries, p.2.Built
  root : fs.get? Names.rootNamespace = some rootFile

variable {fs : ModelFiles}

theorem WellFormed.insert (h : fs.WellFormed) {f : ModelFile} (hf : f.Built) (hns : f.ns ≠ Names.rootNamespace) :
    (fs.insert f).WellFormed where
  keys p hp := by
    rcases mem_insert_go hp with rfl | hp
    · rfl
    · exact h.keys p hp
  sorted := sorted_insert_go f h.sorted
  built p hp := by
    rcases mem_insert_go hp with rfl | hp
    · exact hf
    · exact h.built p hp
  root := by
    rw [ModelFiles.get?_insert, if_neg (Ne.symm hns)]
    exact h.root

theorem WellFormed.erase (h : fs.WellFormed) {ns : String} (hns : ns ≠ Names.rootNamespace) :
    (fs.erase ns).WellFormed where
  keys p hp := h.keys p (List.mem_filter.1 hp).1
  sorted := h.sorted.filter _
  built p hp := h.built p (List.mem_filter.1 hp).1
  root := by
    rw [ModelFiles.get?_erase, if_neg (Ne.symm hns)]
    exact h.root

theorem wellFormed_rootFiles : (({} : ModelFiles).insert rootFile).WellFormed := by
  have hEntries : (({} : ModelFiles).insert rootFile).entries = [(Names.rootNamespace, rootFile)] := by
    rw [← rootFile_built.2]
    rfl
  refine ⟨?_, ?_, ?_, ?_⟩
  · intro p hp
    rw [hEntries, List.mem_singleton] at hp
    subst hp
    exact rootFile_built.2.symm
  · rw [hEntries]
    exact List.pairwise_singleton _ _
  · intro p hp
    rw [hEntries, List.mem_singleton] at hp
    subst hp
    exact rootFile_built.1
  · show (({} : ModelFiles).insert rootFile).entries.lookup Names.rootNamespace = some rootFile
    rw [hEntries, lookup_cons_eq, if_pos rfl]

/-- The files of a new registry with one more model outside the root namespace are well formed. -/
theorem wellFormed_rootFilesWith {ast : Metamodel.Model} {files : ModelFiles} (h : rootFilesWith ast = .ok files)
    (hns : ast.ns ≠ Names.rootNamespace) : files.WellFormed := by
  unfold rootFilesWith at h
  rw [rootFiles_eq] at h
  obtain ⟨root, hRoot, h⟩ := Outcome.bind_eq_ok.1 h
  cases hRoot
  obtain ⟨file, hFile, h⟩ := Outcome.bind_eq_ok.1 h
  cases h
  obtain ⟨hBuilt, hNs⟩ := ModelFile.built_ofMetamodel hFile
  exact wellFormed_rootFiles.insert hBuilt (hNs ▸ hns)

theorem wellFormed_zooFiles : zooFiles.WellFormed := wellFormed_rootFilesWith rootFilesWith_zooModel (by decide)

theorem wellFormed_loopFiles : loopFiles.WellFormed := wellFormed_rootFilesWith rootFilesWith_loopModel (by decide)

/-- A file of well-formed files is built, and found under its namespace. -/
theorem WellFormed.of_mem_files (h : fs.WellFormed) {f : ModelFile} (hf : f ∈ fs.files) :
    f.Built ∧ fs.get? f.ns = some f := by
  obtain ⟨p, hp, rfl⟩ := List.mem_map.1 hf
  refine ⟨h.built p hp, ?_⟩
  rw [← h.keys p hp]
  exact lookup_of_mem h.sorted hp

theorem WellFormed.of_get? (h : fs.WellFormed) {k : String} {f : ModelFile} (hf : fs.get? k = some f) :
    f ∈ fs.files ∧ f.ns = k := by
  have hp := mem_of_lookup hf
  exact ⟨List.mem_map.2 ⟨_, hp, rfl⟩, (h.keys _ hp).symm⟩

/-- In well-formed files, a declaration with the qualified name of a root class is that root
class, in the root file. -/
theorem WellFormed.eq_rootClass (h : fs.WellFormed) {f : ModelFile} (hf : f ∈ fs.files) {d : Declaration}
    (hd : d ∈ f.declarations) {k : ClassKind} (hName : d.fqn = k.rootFqn) :
    f = rootFile ∧ d = .cls (rootClass k) := by
  obtain ⟨hBuilt, hGet⟩ := h.of_mem_files hf
  have hns : f.ns = Names.rootNamespace := by
    by_contra hns
    apply hBuilt.qualify_ne_rootFqn hns d.name k
    rw [← hName, Declaration.fqn, hBuilt.declarations_ns d hd]
  have hRoot : f = rootFile := by
    rw [hns, h.root] at hGet
    exact (Option.some.inj hGet).symm
  subst hRoot
  obtain ⟨k', rfl⟩ := mem_rootFile_declarations hd
  have hk : k'.rootFqn = k.rootFqn → k' = k := by
    cases k' <;> cases k <;> decide +kernel
  obtain rfl := hk hName
  exact ⟨rfl, rfl⟩

end ModelFiles

end DomainModels
