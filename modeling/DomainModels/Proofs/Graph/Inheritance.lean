import DomainModels.Proofs.Graph.Resolution
/-! Supertypes in a built type index never lead back to a class, so `isAssignable` decides the
supertype relation, and a strict build fails on files whose supertypes form a cycle. -/
namespace DomainModels

open Metamodel (ClassKind)
open Outcome

namespace TypeIndex

variable (ix : TypeIndex)

/-- The supertype of the class a name finds. -/
def parent? (fqn : String) : Option String := (ix.class? fqn).bind (·.superType)

/-- `sub` finds a class of the index whose supertype is `sup`. -/
def Extends (sub sup : String) : Prop := ix.parent? sub = some sup

/-- The name `n` steps up the supertypes. -/
def ancestor? : Nat → String → Option String
  | 0, fqn => some fqn
  | n + 1, fqn => (ix.parent? fqn).bind (ancestor? n)

variable {ix}

theorem ancestor?_succ' (n : Nat) (fqn : String) :
    ix.ancestor? (n + 1) fqn = (ix.ancestor? n fqn).bind ix.parent? := by
  induction n generalizing fqn with
  | zero =>
    show (ix.parent? fqn).bind (ix.ancestor? 0) = ix.parent? fqn
    cases ix.parent? fqn <;> rfl
  | succ n ih =>
    rw [ancestor?, ancestor?]
    cases ix.parent? fqn with
    | none => rfl
    | some s => exact ih s

theorem ancestor?_add (m k : Nat) (fqn : String) :
    ix.ancestor? (m + k) fqn = (ix.ancestor? m fqn).bind (ix.ancestor? k) := by
  induction m generalizing fqn with
  | zero => rw [Nat.zero_add]; rfl
  | succ m ih =>
    rw [Nat.add_right_comm, ancestor?, ancestor?]
    cases ix.parent? fqn with
    | none => rfl
    | some s => exact ih s

theorem reflTransGen_iff_ancestor? {sub sup : String} :
    Relation.ReflTransGen ix.Extends sub sup ↔ ∃ n, ix.ancestor? n sub = some sup := by
  constructor
  · intro h
    induction h with
    | refl => exact ⟨0, rfl⟩
    | tail _ hStep ih =>
      obtain ⟨n, hn⟩ := ih
      exact ⟨n + 1, by rw [ancestor?_succ', hn]; exact hStep⟩
  · rintro ⟨n, hn⟩
    induction n generalizing sup with
    | zero =>
      cases hn
      exact .refl
    | succ n ih =>
      rw [ancestor?_succ'] at hn
      obtain ⟨mid, hMid, hStep⟩ := Option.bind_eq_some_iff.1 hn
      exact .tail (ih hMid) hStep

theorem transGen_of_ancestor? {n : Nat} {sub sup : String} (h : ix.ancestor? (n + 1) sub = some sup) :
    Relation.TransGen ix.Extends sub sup := by
  rw [ancestor?_succ'] at h
  obtain ⟨mid, hMid, hStep⟩ := Option.bind_eq_some_iff.1 h
  exact Relation.TransGen.tail' (reflTransGen_iff_ancestor?.2 ⟨n, hMid⟩) hStep

/-- The walk of `isAssignable` with `fuel` steps finds `sup` exactly when fewer than `fuel` steps
up the supertypes reach it. -/
theorem isAssignable_go_iff {sup : String} :
    ∀ (fuel : Nat) (fqn : String), isAssignable.go ix sup fuel fqn = true ↔ ∃ n < fuel, ix.ancestor? n fqn = some sup
  | 0, fqn => by simp [isAssignable.go]
  | fuel + 1, fqn => by
    have hParent : (ix.class? fqn).bind (·.superType) = ix.parent? fqn := rfl
    rw [isAssignable.go, hParent, Bool.or_eq_true, beq_iff_eq]
    have hSplit : (∃ n < fuel + 1, ix.ancestor? n fqn = some sup) ↔
        fqn = sup ∨ ∃ n < fuel, ix.ancestor? (n + 1) fqn = some sup := by
      constructor
      · rintro ⟨_ | n, hn, hAnc⟩
        · exact .inl (Option.some.inj hAnc)
        · exact .inr ⟨n, by omega, hAnc⟩
      · rintro (rfl | ⟨n, hn, hAnc⟩)
        · exact ⟨0, by omega, rfl⟩
        · exact ⟨n + 1, by omega, hAnc⟩
    rw [hSplit]
    cases hParent : ix.parent? fqn with
    | none => simp [ancestor?, hParent]
    | some s => simp only [ancestor?, hParent, Option.bind_some, isAssignable_go_iff fuel s]

section Recorded

variable {files : ModelFiles} {L : List ResolvedClass}

/-- A class in a list with one class per name is the one its name finds. -/
theorem class?_eq_of_mem (hNodup : (ix.classes.map (·.fqn)).Nodup) {p : ResolvedClass} (hp : p ∈ ix.classes) :
    ix.class? p.fqn = some p := by
  have hFound : (ix.classes.find? (·.fqn == p.fqn)).isSome := List.find?_isSome.2 ⟨p, hp, beq_self_eq_true _⟩
  obtain ⟨q, hq⟩ := Option.isSome_iff_exists.1 hFound
  have hSelected := List.find?_some hq
  rw [class?, hq, List.inj_on_of_nodup_map hNodup (List.mem_of_find?_eq_some hq) hp (beq_iff_eq.1 hSelected)]

theorem mem_of_parent? {x y : String} (h : ix.parent? x = some y) : ∃ rc ∈ ix.classes, rc.fqn = x ∧ rc.superType = some y := by
  obtain ⟨rc, hrc, hs⟩ := Option.bind_eq_some_iff.1 h
  have hSelected := List.find?_some hrc
  exact ⟨rc, List.mem_of_find?_eq_some hrc, beq_iff_eq.1 hSelected, hs⟩

/-- A step up the supertypes lowers the position of the name in a recorded list that the
classes of the index come from. -/
theorem Extends.findIdx_lt (hL : Recorded files L) (hSub : ix.classes.Sublist L) {a b : String}
    (h : ix.Extends a b) : L.findIdx (·.fqn == b) < L.findIdx (·.fqn == a) := by
  obtain ⟨rc, hrc, rfl, hs⟩ := mem_of_parent? h
  exact hL.findIdx_superType_lt (hSub.subset hrc) hs

theorem transGen_findIdx_lt (hL : Recorded files L) (hSub : ix.classes.Sublist L) {a b : String}
    (h : Relation.TransGen ix.Extends a b) : L.findIdx (·.fqn == b) < L.findIdx (·.fqn == a) := by
  induction h with
  | single hStep => exact hStep.findIdx_lt hL hSub
  | tail _ hStep ih => exact lt_trans (hStep.findIdx_lt hL hSub) ih

/-- Following supertypes never comes back to a class. -/
theorem not_transGen_self (hL : Recorded files L) (hSub : ix.classes.Sublist L) (fqn : String) :
    ¬ Relation.TransGen ix.Extends fqn fqn :=
  fun h => lt_irrefl _ (transGen_findIdx_lt hL hSub h)

/-- Going up the supertypes always stops. -/
theorem extends_wellFounded (hL : Recorded files L) (hSub : ix.classes.Sublist L) :
    WellFounded fun sup sub => ix.Extends sub sup :=
  Subrelation.wf (fun h => h.findIdx_lt hL hSub) (measure fun fqn => L.findIdx (·.fqn == fqn)).wf

/-- A walk up the supertypes takes at most one step per class of the index: the names it passes
are classes of the index, and all different. -/
theorem ancestor?_steps_le (hL : Recorded files L) (hSub : ix.classes.Sublist L) {n : Nat} {fqn sup : String}
    (h : ix.ancestor? n fqn = some sup) : n ≤ ix.classes.length := by
  let name (i : Nat) : String := (ix.ancestor? i fqn).getD fqn
  have hName : ∀ i ≤ n, ix.ancestor? i fqn = some (name i) := by
    intro i hi
    have hSplit : ix.ancestor? (i + (n - i)) fqn = (ix.ancestor? i fqn).bind (ix.ancestor? (n - i)) :=
      ancestor?_add i (n - i) fqn
    rw [Nat.add_sub_cancel' hi, h] at hSplit
    obtain ⟨y, hy, -⟩ := Option.bind_eq_some_iff.1 hSplit.symm
    simp [name, hy]
  have hMaps : Set.MapsTo name (Finset.range n) (ix.classes.map (·.fqn)).toFinset := by
    intro i hi
    have hi : i < n := Finset.mem_range.1 hi
    have hNext := hName (i + 1) hi
    rw [ancestor?_succ', hName i hi.le, Option.bind_some] at hNext
    obtain ⟨rc, hrc, hrcName, -⟩ := mem_of_parent? hNext
    exact List.mem_toFinset.2 (List.mem_map.2 ⟨rc, hrc, hrcName⟩)
  have hInj : Set.InjOn name (Finset.range n) := by
    have hApart : ∀ i j, i < j → j ≤ n → name i ≠ name j := by
      intro i j hij hj hEq
      have hSteps : ix.ancestor? (i + (j - i - 1 + 1)) fqn = (ix.ancestor? i fqn).bind (ix.ancestor? (j - i - 1 + 1)) :=
        ancestor?_add i (j - i - 1 + 1) fqn
      rw [show i + (j - i - 1 + 1) = j by omega, hName j hj, hName i (by omega), Option.bind_some] at hSteps
      have hCycle := transGen_of_ancestor? hSteps.symm
      rw [← hEq] at hCycle
      exact not_transGen_self hL hSub (name i) hCycle
    intro i hi j hj hEq
    have hi : i < n := Finset.mem_range.1 hi
    have hj : j < n := Finset.mem_range.1 hj
    rcases lt_trichotomy i j with hij | hij | hij
    · exact absurd hEq (hApart i j hij hj.le)
    · exact hij
    · exact absurd hEq.symm (hApart j i hij hi.le)
  calc n = (Finset.range n).card := (Finset.card_range n).symm
    _ ≤ (ix.classes.map (·.fqn)).toFinset.card := Finset.card_le_card_of_injOn name hMaps hInj
    _ ≤ (ix.classes.map (·.fqn)).length := List.toFinset_card_le _
    _ = ix.classes.length := List.length_map _

/-- `isAssignable` is the reflexive-transitive supertype relation: its walk, one step per class,
is never cut short. -/
theorem isAssignable_iff (hL : Recorded files L) (hSub : ix.classes.Sublist L) {sub sup : String} :
    ix.isAssignable sub sup = true ↔ Relation.ReflTransGen ix.Extends sub sup := by
  rw [isAssignable, isAssignable_go_iff, reflTransGen_iff_ancestor?]
  constructor
  · rintro ⟨n, -, hn⟩
    exact ⟨n, hn⟩
  · rintro ⟨n, hn⟩
    exact ⟨n, Nat.lt_succ_of_le (ancestor?_steps_le hL hSub hn), hn⟩

end Recorded

end TypeIndex

/-! ### Supertypes and declarations -/

section Declarations

variable {files : ModelFiles} {file : ModelFile} {c : ClassDeclaration} {illegal : String → ModelError}

/-- Only a class of the root namespace has no supertype. -/
theorem superTypeOf_eq_none (h : superTypeOf files file c illegal = .ok none) : c.ns = Names.rootNamespace := by
  unfold superTypeOf at h
  split at h
  · obtain ⟨target, -, h⟩ := bind_eq_ok.1 h
    split at h
    · by_cases hns : c.ns = Names.rootNamespace
      · exact hns
      · rw [if_pos (by simpa using hns)] at h
        cases h
    · cases h
  · by_cases hns : c.ns = Names.rootNamespace
    · exact hns
    · rw [if_neg (by simpa using hns)] at h
      cases h

/-- A supertype written in a declaration is the one its reference resolves to, unless a class of
the root namespace names itself. -/
theorem superTypeOf_of_superType {s? : Option String} (h : superTypeOf files file c illegal = .ok s?)
    {t : Metamodel.TypeIdentifier} (ht : c.superType = some t) {target : String}
    (hTarget : resolveType files file t = .ok target) :
    s? = some target ∨ (target = c.fqn ∧ c.ns = Names.rootNamespace) := by
  unfold superTypeOf at h
  rw [ht] at h
  obtain ⟨target', hTarget', h⟩ := bind_eq_ok.1 h
  rw [hTarget] at hTarget'
  cases hTarget'
  split at h
  · next hSelf =>
    by_cases hns : c.ns = Names.rootNamespace
    · exact .inr ⟨beq_iff_eq.1 hSelf, hns⟩
    · rw [if_pos (by simpa using hns)] at h
      cases h
  · cases h
    exact .inl rfl

/-- A supertype that passes the check is a declared class of the same kind, or the root
concept. -/
theorem checkSuperType_eq_ok {s : String} (h : checkSuperType files c illegal s = .ok ()) :
    ∃ parent, files.lookup s = some (.cls parent) ∧ (parent.kind = c.kind ∨ s = ClassKind.concept.rootFqn) := by
  unfold checkSuperType at h
  split at h
  · next parent hLookup =>
    refine ⟨parent, hLookup, ?_⟩
    by_cases hKind : parent.kind = c.kind
    · exact .inl hKind
    · by_cases hConcept : s = ClassKind.concept.rootFqn
      · exact .inr hConcept
      · have hKindNe : (parent.kind != c.kind) = true := by
          revert hKind
          cases parent.kind <;> cases c.kind <;> decide
        rw [if_pos (by simp [hKindNe, hConcept])] at h
        cases h
  · cases h
  · cases h

/-- In well-formed files, a class of the root namespace is a root class. -/
theorem classDeclaration_rootNamespace (hwf : files.WellFormed) {fqn : String}
    (h : classDeclaration files fqn = .ok (file, c)) (hns : c.ns = Names.rootNamespace) : ∃ k, c = rootClass k := by
  obtain ⟨hFile, hDecl⟩ := classDeclaration_mem hwf h
  obtain ⟨hBuilt, hGet⟩ := hwf.of_mem_files hFile
  have hFileNs : file.ns = Names.rootNamespace := (hBuilt.declarations_ns _ hDecl).symm.trans hns
  rw [hFileNs, hwf.root] at hGet
  cases hGet
  obtain ⟨k, hk⟩ := mem_rootFile_declarations hDecl
  cases hk
  exact ⟨k, rfl⟩

end Declarations

/-! ### Classes of an index and their supertypes -/

section Classes

variable {files : ModelFiles} {L : List ResolvedClass}

/-- A recorded class has no supertype exactly when it is a class of the root namespace. -/
theorem superType_eq_none_iff (hwf : files.WellFormed) (hL : Recorded files L) {rc : ResolvedClass} (hrc : rc ∈ L) :
    rc.superType = none ↔ rc.ns = Names.rootNamespace := by
  obtain ⟨file, c, hDecl, hBuilt⟩ := hL.classBuilt hrc
  obtain ⟨hns, -, -⟩ := completeClass_header hBuilt.complete
  obtain ⟨illegal, hSuper⟩ := hBuilt.superType
  rw [hns]
  constructor
  · intro hNone
    rw [hNone] at hSuper
    exact superTypeOf_eq_none hSuper
  · intro hRoot
    obtain ⟨k, rfl⟩ := classDeclaration_rootNamespace hwf hDecl hRoot
    rw [superTypeOf_rootClass] at hSuper
    exact (Except.ok.inj hSuper).symm

/-- The supertype of a recorded class is a declared class of its kind, or the root concept. -/
theorem superType_declared (hL : Recorded files L) {rc : ResolvedClass} (hrc : rc ∈ L) {s : String}
    (hs : rc.superType = some s) :
    ∃ parent, files.lookup s = some (.cls parent) ∧ (parent.kind = rc.kind ∨ s = ClassKind.concept.rootFqn) := by
  obtain ⟨file, c, -, hBuilt⟩ := hL.classBuilt hrc
  obtain ⟨-, hKind, -⟩ := completeClass_header hBuilt.complete
  obtain ⟨illegal, hCheck⟩ := hBuilt.superChecked s hs
  rw [hKind]
  exact checkSuperType_eq_ok hCheck

/-- A recorded class of the root namespace is a root class, under its name. -/
theorem rootFqn_of_rootNamespace (hwf : files.WellFormed) (hL : Recorded files L) {rc : ResolvedClass}
    (hrc : rc ∈ L) (hns : rc.ns = Names.rootNamespace) : ∃ k : ClassKind, rc.fqn = k.rootFqn := by
  obtain ⟨file, c, hDecl, hBuilt⟩ := hL.classBuilt hrc
  obtain ⟨hcns, -, -⟩ := completeClass_header hBuilt.complete
  obtain ⟨k, rfl⟩ := classDeclaration_rootNamespace hwf hDecl (hcns ▸ hns)
  exact ⟨k, (completeClass_fqn hBuilt.complete).trans (fqn_rootClass k)⟩

variable {ix : TypeIndex}

/-- In a recorded index, every supertype is a class of the index. -/
theorem TypeIndex.parent?_mem (hL : Recorded files ix.classes) {x y : String} (h : ix.parent? x = some y) :
    ∃ p ∈ ix.classes, p.fqn = y := by
  obtain ⟨rc, hrc, -, hs⟩ := TypeIndex.mem_of_parent? h
  obtain ⟨file, c, -, hBuilt⟩ := hL.classBuilt hrc
  exact hBuilt.superRecorded y hs

/-- In a recorded index, every class on the chain of a class is a class of the index. -/
theorem TypeIndex.ancestor?_mem (hL : Recorded files ix.classes) {rc : ResolvedClass} (hrc : rc ∈ ix.classes) :
    ∀ n y, ix.ancestor? n rc.fqn = some y → ∃ p ∈ ix.classes, p.fqn = y
  | 0, y, h => by
    cases h
    exact ⟨rc, hrc, rfl⟩
  | n + 1, y, h => by
    rw [TypeIndex.ancestor?_succ'] at h
    obtain ⟨mid, -, hStep⟩ := Option.bind_eq_some_iff.1 h
    exact TypeIndex.parent?_mem hL hStep

/-- One step up the chain of a class of a recorded index: a class above it is on the chain of
its supertype, a class of the index. -/
theorem TypeIndex.ancestor?_succ_of_mem (hL : Recorded files ix.classes) {rc : ResolvedClass} (hrc : rc ∈ ix.classes)
    {n : Nat} {y : String} (h : ix.ancestor? (n + 1) rc.fqn = some y) :
    ∃ q ∈ ix.classes, rc.superType = some q.fqn ∧ ix.class? q.fqn = some q ∧ ix.ancestor? n q.fqn = some y := by
  obtain ⟨s, hParent, hUp⟩ := Option.bind_eq_some_iff.1 h
  have hs : rc.superType = some s := by
    rw [TypeIndex.parent?, TypeIndex.class?_eq_of_mem hL.nodup hrc] at hParent
    exact hParent
  obtain ⟨file, c, -, hBuilt⟩ := hL.classBuilt hrc
  obtain ⟨q, hq, rfl⟩ := hBuilt.superRecorded s hs
  exact ⟨q, hq, hs, TypeIndex.class?_eq_of_mem hL.nodup hq, hUp⟩

/-- Induction up the supertypes of a recorded index: a fact holds of every class of the index when
it holds of each class whose supertype's class has it. -/
theorem TypeIndex.forall_mem_of_step (hL : Recorded files ix.classes) {P : ResolvedClass → Prop}
    (step : ∀ rc ∈ ix.classes, (∀ q ∈ ix.classes, rc.superType = some q.fqn → P q) → P rc) :
    ∀ rc ∈ ix.classes, P rc := by
  suffices h : ∀ x, ∀ rc ∈ ix.classes, rc.fqn = x → P rc from fun rc hrc => h rc.fqn rc hrc rfl
  intro x
  induction x using (TypeIndex.extends_wellFounded hL (List.Sublist.refl _)).induction with
  | _ x ih =>
    rintro rc hrc rfl
    refine step rc hrc fun q hq hs => ih q.fqn ?_ q hq rfl
    rw [TypeIndex.Extends, TypeIndex.parent?, TypeIndex.class?_eq_of_mem hL.nodup hrc]
    exact hs

/-- In a recorded index, the chain of every class ends at a root class. -/
theorem TypeIndex.chain_ends_at_root (hwf : files.WellFormed) (hL : Recorded files ix.classes) (x : String) :
    (∃ p ∈ ix.classes, p.fqn = x) → ∃ n, ∃ k : ClassKind, ix.ancestor? n x = some k.rootFqn ∧ ix.parent? k.rootFqn = none := by
  induction x using (TypeIndex.extends_wellFounded hL (List.Sublist.refl _)).induction with
  | _ x ih =>
    rintro ⟨p, hp, rfl⟩
    cases hParent : ix.parent? p.fqn with
    | none =>
      have hNone : p.superType = none := by
        rw [TypeIndex.parent?, TypeIndex.class?_eq_of_mem hL.nodup hp] at hParent
        exact hParent
      obtain ⟨k, hk⟩ := rootFqn_of_rootNamespace hwf hL hp ((superType_eq_none_iff hwf hL hp).1 hNone)
      exact ⟨0, k, by rw [hk]; rfl, hk ▸ hParent⟩
    | some y =>
      obtain ⟨n, k, hn, hk⟩ := ih y hParent (TypeIndex.parent?_mem hL hParent)
      exact ⟨n + 1, k, by rw [TypeIndex.ancestor?, hParent, Option.bind_some]; exact hn, hk⟩

end Classes

/-! ### The depth bound

A resolution carries fuel that bounds how deep it climbs the supertypes. The stack of classes
being resolved holds distinct declared classes, since a class met again on the way up is a
cycle and is refused; so with more fuel than classes the fuel never runs out, and more of it
changes nothing. -/

section Depth

open Building

variable {files : ModelFiles}

/-- Building a class resolves its supertype from the state it starts in, so resolutions that
agree there build alike. -/
theorem run_buildClass_congr {rs₁ rs₂ : String → Building Unit} {file : ModelFile} {c : ClassDeclaration}
    {st : IndexBuild} (h : ∀ s, (rs₁ s).run.run st = (rs₂ s).run.run st) :
    (buildClass files rs₁ file c).run.run st = (buildClass files rs₂ file c).run.run st := by
  unfold buildClass
  rw [run_bind, run_bind, run_lift]
  rcases superTypeOf files file c _ with e | _ | s
  · rfl
  · rfl
  · dsimp only
    rw [run_bind, run_bind, run_lift]
    rcases checkSuperType files c _ s with e | ⟨⟩
    · rfl
    · dsimp only
      rw [run_bind, run_bind, h s]

/-- Two resolutions of a class with fuel left differ only in the fuel their supertypes are
resolved with, and that only once the class is pushed on the stack. -/
theorem run_resolveClass_congr {k k' : Nat} {fqn : String} {st : IndexBuild}
    (hBuild : ∀ file c, classDeclaration files fqn = .ok (file, c) → fqn ∉ st.visiting →
      (buildClass files (resolveClass files k) file c).run.run { st with visiting := st.visiting ++ [fqn] } =
        (buildClass files (resolveClass files k') file c).run.run { st with visiting := st.visiting ++ [fqn] }) :
    (resolveClass files (k + 1) fqn).run.run st = (resolveClass files (k' + 1) fqn).run.run st := by
  rw [resolveClass, resolveClass, run_bind, run_bind, run_get]
  dsimp only
  split
  · rfl
  · cases hFailed : st.failed.lookup fqn with
    | some m => simp only [run_bind, run_throw]
    | none =>
      dsimp only
      cases hCycle : st.visiting.idxOf? fqn with
      | some pos => simp only [run_bind, run_throw]
      | none =>
        have hIdle : fqn ∉ st.visiting := fun hMem => by
          have hSome := List.isSome_idxOf?.2 hMem
          rw [hCycle] at hSome
          cases hSome
        dsimp only
        rw [run_bind, run_bind, run_lift]
        rcases hDecl : classDeclaration files fqn with e' | ⟨file, c⟩
        · rfl
        · dsimp only
          simp only [run_bind, run_modify, run_tryCatch, hBuild file c hDecl hIdle]

theorem length_classFqns (files : ModelFiles) :
    (files.files.flatMap fun f => f.declarations.filterMap fun d => d.cls?.map (·.fqn)).length =
      files.classCount := by
  simp [ModelFiles.classCount, List.length_flatMap, List.countP_flatMap, List.length_filterMap_eq_countP,
    Function.comp_def]

/-- From a stack of distinct declared classes, a resolution whose fuel and stack together exceed
the number of classes goes as it would with one more unit of fuel. -/
theorem resolveClass_fuel_succ (hwf : files.WellFormed) :
    ∀ (fuel : Nat) (fqn : String) (st : IndexBuild), st.visiting.Nodup →
      (∀ v ∈ st.visiting, v ∈ files.files.flatMap fun f => f.declarations.filterMap fun d => d.cls?.map (·.fqn)) →
      files.classCount < st.visiting.length + fuel →
      (resolveClass files fuel fqn).run.run st = (resolveClass files (fuel + 1) fqn).run.run st
  | 0, _, st, hNodup, hDeclared, hFuel => by
    have hLength := (List.subperm_of_subset hNodup hDeclared).length_le
    rw [length_classFqns] at hLength
    omega
  | fuel + 1, fqn, st, hNodup, hDeclared, hFuel => by
    refine run_resolveClass_congr fun file c hDecl hIdle => run_buildClass_congr fun s => ?_
    apply resolveClass_fuel_succ hwf fuel s
    · exact hNodup.append (List.nodup_singleton fqn) (List.disjoint_singleton.2 hIdle)
    · intro v hv
      rcases List.mem_append.1 hv with hv | hv
      · exact hDeclared v hv
      · obtain ⟨hFile, hMem⟩ := classDeclaration_mem hwf hDecl
        rw [List.mem_singleton.1 hv, ← classDeclaration_fqn hwf hDecl]
        exact fqn_mem_classFqns hFile hMem
    · simp only [List.length_append, List.length_singleton]
      omega

/-- A resolution started with no class on the stack, as the build starts each one, runs the
same with any more fuel than it is given. -/
theorem resolveClass_fuel_enough (hwf : files.WellFormed) (fqn : String) {st : IndexBuild}
    (hst : st.visiting = []) : ∀ extra, (resolveClass files (files.classCount + 1 + extra) fqn).run.run st =
      (resolveClass files (files.classCount + 1) fqn).run.run st
  | 0 => rfl
  | extra + 1 => by
    rw [← resolveClass_fuel_enough hwf fqn hst extra, ← Nat.add_assoc]
    exact (resolveClass_fuel_succ hwf _ fqn st (by simp [hst]) (by simp [hst])
      (by rw [hst, List.length_nil]; omega)).symm

end Depth

/-! ### Cycles in the files -/

/-- `sub` finds a class whose declaration names a supertype that resolves to `sup`. -/
def ModelFiles.ExtendsRef (files : ModelFiles) (sub sup : String) : Prop :=
  ∃ file c t, classDeclaration files sub = .ok (file, c) ∧ c.superType = some t ∧
    resolveType files file t = .ok sup

/-- A strict index follows every supertype reference of its files. -/
theorem ModelFiles.ExtendsRef.extends {files : ModelFiles} (hwf : files.WellFormed) {ix : TypeIndex}
    (hix : TypeIndex.build files .strict = .ok ix) {a b : String} (h : files.ExtendsRef a b) : ix.Extends a b := by
  obtain ⟨file, c, t, hDecl, ht, hb⟩ := h
  obtain ⟨hRec, hAll⟩ := build_strict_recorded hwf hix
  obtain ⟨hFile, hcMem⟩ := classDeclaration_mem hwf hDecl
  have ha : c.fqn = a := classDeclaration_fqn hwf hDecl
  obtain ⟨p, hp, hpName⟩ := hAll file hFile c hcMem
  obtain ⟨file', c', hDecl', hBuilt⟩ := hRec.classBuilt hp
  rw [hpName, ha, hDecl] at hDecl'
  cases hDecl'
  obtain ⟨illegal, hSuper⟩ := hBuilt.superType
  rcases superTypeOf_of_superType hSuper ht hb with hs | ⟨-, hRoot⟩
  · show (ix.class? a).bind (·.superType) = some b
    rw [← ha, ← hpName, TypeIndex.class?_eq_of_mem hRec.nodup hp]
    exact hs
  · obtain ⟨k, rfl⟩ := classDeclaration_rootNamespace hwf hDecl hRoot
    cases ht

/-- What a type index built in mode `mode` from the files says of inheritance. -/
structure InheritanceWellFounded (files : ModelFiles) (mode : BuildMode) (ix : TypeIndex) : Prop where
  /-- Following supertypes never comes back to a class. -/
  acyclic : ∀ fqn, ¬ Relation.TransGen ix.Extends fqn fqn
  /-- `isAssignable` is the reflexive-transitive supertype relation. -/
  assignable : ∀ sub sup, ix.isAssignable sub sup = true ↔ Relation.ReflTransGen ix.Extends sub sup
  /-- Exactly the classes of the root namespace have no supertype. -/
  rootless : ∀ rc ∈ ix.classes, rc.superType = none ↔ rc.ns = Names.rootNamespace
  /-- A supertype is a declared class of the same kind, or the root concept. -/
  kindCompatible : ∀ rc ∈ ix.classes, ∀ s, rc.superType = some s →
    ∃ parent, files.lookup s = some (.cls parent) ∧ (parent.kind = rc.kind ∨ s = ClassKind.concept.rootFqn)
  /-- A strict index holds every class on each chain. -/
  chainClosed : mode = .strict → ∀ rc ∈ ix.classes, ∀ n y, ix.ancestor? n rc.fqn = some y → ∃ p ∈ ix.classes, p.fqn = y
  /-- In a strict index each chain ends at a root class. -/
  chainRooted : mode = .strict → ∀ rc ∈ ix.classes,
    ∃ n, ∃ k : ClassKind, ix.ancestor? n rc.fqn = some k.rootFqn ∧ ix.parent? k.rootFqn = none

/-- Inheritance is well founded and keeps kinds. For well-formed files, the resolution of each
class, as the build starts it, runs the same with any more fuel: the bound on its depth is never
what stops it. A type index that builds, in either mode, has the properties of
`InheritanceWellFounded`. So a strict build fails on files whose supertype references go round
in a cycle, a class that extends itself included. -/
theorem inheritance_is_well_founded {files : ModelFiles} (hwf : files.WellFormed) :
    (∀ fqn st, st.visiting = [] → ∀ extra, (resolveClass files (files.classCount + 1 + extra) fqn).run.run st =
      (resolveClass files (files.classCount + 1) fqn).run.run st) ∧
    (∀ mode ix, TypeIndex.build files mode = .ok ix → InheritanceWellFounded files mode ix) ∧
    ((∃ fqn, Relation.TransGen files.ExtendsRef fqn fqn) → ∀ ix, TypeIndex.build files .strict ≠ .ok ix) := by
  refine ⟨fun fqn st hst => resolveClass_fuel_enough hwf fqn hst, fun mode ix hix => ?_,
    fun ⟨fqn, hCycle⟩ ix hix => ?_⟩
  · obtain ⟨L, hL, hSub⟩ := build_recorded hwf hix
    refine ⟨TypeIndex.not_transGen_self hL hSub, fun sub sup => TypeIndex.isAssignable_iff hL hSub,
      fun rc hrc => superType_eq_none_iff hwf hL (hSub.subset hrc),
      fun rc hrc s hs => superType_declared hL (hSub.subset hrc) hs, ?_, ?_⟩
    · rintro rfl rc hrc
      exact TypeIndex.ancestor?_mem (build_strict_recorded hwf hix).1 hrc
    · rintro rfl rc hrc
      exact TypeIndex.chain_ends_at_root hwf (build_strict_recorded hwf hix).1 rc.fqn ⟨rc, hrc, rfl⟩
  · have hRec := (build_strict_recorded hwf hix).1
    exact TypeIndex.not_transGen_self hRec (List.Sublist.refl _) fqn
      (Relation.TransGen.mono (fun _ _ h => ModelFiles.ExtendsRef.extends hwf hix h) fqn fqn hCycle)

/-- A supertype reference found by looking up the declaration and resolving its supertype. -/
theorem ModelFiles.extendsRef_of_eq {files : ModelFiles} {a b : String}
    (h : ((classDeclaration files a).toOption.bind fun d => d.2.superType.bind fun t =>
      (resolveType files d.1 t).toOption) = some b) : files.ExtendsRef a b := by
  obtain ⟨⟨file, c⟩, hd, h⟩ := Option.bind_eq_some_iff.1 h
  obtain ⟨t, ht, hr⟩ := Option.bind_eq_some_iff.1 h
  exact ⟨file, c, t, Outcome.eq_ok_of_toOption hd, ht, Outcome.eq_ok_of_toOption hr⟩

/-- The strict index of the zoo. -/
def zooIndex : TypeIndex := ((TypeIndex.build zooFiles .strict).toOption).getD default

theorem zoo_files_build_strict : TypeIndex.build zooFiles .strict = .ok zooIndex :=
  Outcome.eq_ok_getD (by decide +kernel)

/-- In the zoo, inheritance is well founded and the fuel of a resolution never cuts it short;
`Cub` reaches the root asset in three steps. The loop's concepts extend each other, so its files
never build strictly. -/
theorem zoo_and_loop_inheritance_is_well_founded :
    (∀ fqn st, st.visiting = [] → ∀ extra, (resolveClass zooFiles (zooFiles.classCount + 1 + extra) fqn).run.run st =
      (resolveClass zooFiles (zooFiles.classCount + 1) fqn).run.run st) ∧
    InheritanceWellFounded zooFiles .strict zooIndex ∧
    zooIndex.ancestor? 3 "org.zoo@1.0.0.Cub" = some ClassKind.asset.rootFqn ∧
    Relation.TransGen loopFiles.ExtendsRef "org.loop@1.0.0.A" "org.loop@1.0.0.A" ∧
    ∀ ix, TypeIndex.build loopFiles .strict ≠ .ok ix := by
  have hZoo := inheritance_is_well_founded ModelFiles.wellFormed_zooFiles
  have hAB : loopFiles.ExtendsRef "org.loop@1.0.0.A" "org.loop@1.0.0.B" :=
    ModelFiles.extendsRef_of_eq (by decide +kernel)
  have hBA : loopFiles.ExtendsRef "org.loop@1.0.0.B" "org.loop@1.0.0.A" :=
    ModelFiles.extendsRef_of_eq (by decide +kernel)
  have hCycle := Relation.TransGen.head hAB (.single hBA)
  exact ⟨hZoo.1, hZoo.2.1 .strict zooIndex zoo_files_build_strict, by decide +kernel, hCycle,
    (inheritance_is_well_founded ModelFiles.wellFormed_loopFiles).2.2 ⟨_, hCycle⟩⟩

end DomainModels
