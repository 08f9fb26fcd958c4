import DomainModels.Proofs.Graph.Relationships
/-! `assignableClasses` is the depth-first pre-order walk down the direct subclasses: it lists each
class once, exactly the classes `isAssignable` accepts. -/
namespace DomainModels

open Outcome

/-! ### Names at their last place -/

theorem mem_lastPlaces {x : String} : ∀ {l : List String}, x ∈ lastPlaces l ↔ x ∈ l
  | [] => Iff.rfl
  | y :: rest => by
    have ih : x ∈ lastPlaces rest ↔ x ∈ rest := mem_lastPlaces
    rw [lastPlaces]
    split
    · next hy =>
      have hy : y ∈ rest := by simpa using hy
      rw [ih, List.mem_cons]
      exact ⟨.inr, fun h => h.elim (fun h => h ▸ hy) id⟩
    · rw [List.mem_cons, ih, List.mem_cons]

theorem nodup_lastPlaces : ∀ l : List String, (lastPlaces l).Nodup
  | [] => List.nodup_nil
  | y :: rest => by
    rw [lastPlaces]
    split
    · exact nodup_lastPlaces rest
    · next hy =>
      refine List.nodup_cons.2 ⟨fun h => hy ?_, nodup_lastPlaces rest⟩
      simpa using mem_lastPlaces.1 h

theorem lastPlaces_filter (p : String → Bool) : ∀ l : List String,
    lastPlaces (l.filter p) = (lastPlaces l).filter p
  | [] => rfl
  | y :: rest => by
    have ih := lastPlaces_filter p rest
    by_cases hp : p y = true
    · have hLater : (rest.filter p).contains y = rest.contains y := by
        simp [List.mem_filter, hp]
      rw [List.filter_cons_of_pos hp, lastPlaces, lastPlaces, hLater]
      split
      · exact ih
      · rw [List.filter_cons_of_pos hp, ih]
    · rw [List.filter_cons_of_neg hp, ih, lastPlaces]
      split
      · rfl
      · rw [List.filter_cons_of_neg hp]

/-! ### The classes an index lists -/

/-- The classes of a list found by name and kept when they pass a test, named, are the names of
the list that find a class passing it. -/
theorem map_fqn_filterMap {classOf : String → Option ResolvedClass} (hName : ∀ x C, classOf x = some C → C.fqn = x)
    (P : ResolvedClass → Bool) : ∀ l : List String,
    (l.filterMap fun x => (classOf x).filter P).map (·.fqn) = l.filter fun x => (classOf x).any P
  | [] => rfl
  | x :: rest => by
    have ih := map_fqn_filterMap hName P rest
    rw [List.filterMap_cons, List.filter_cons]
    cases hx : classOf x with
    | none => simpa using ih
    | some C =>
      by_cases hP : P C = true
      · simp only [Option.filter_some, hP, if_true, List.map_cons, Option.any_some, ih, hName x C hx]
      · have hDropped : (some C).filter P = none := by simp [Option.filter, hP]
        rw [hDropped]
        simpa [hP] using ih

/-- The qualified names declared by the files, in file and declaration order. -/
def ModelFiles.declaredNames (files : ModelFiles) : List String :=
  files.files.flatMap fun f => f.declarations.map (·.fqn)

namespace TypeIndex

variable {files : ModelFiles} {ix : TypeIndex}

/-- The order of a type index keeps, of the names the files declare, those of its classes, each at
its last declaration. -/
theorem build_order {mode : BuildMode} (h : TypeIndex.build files mode = .ok ix) :
    ix.order = (lastPlaces files.declaredNames).filter fun x => ix.classes.any (·.fqn == x) := by
  obtain ⟨-, -, -, -, -, -, -, hOrder⟩ := build_parts h
  have hKept (l : List Declaration) : (l.filterMap fun d => if ix.classes.any (·.fqn == d.fqn) then some d.fqn else none) =
      (l.map (·.fqn)).filter fun x => ix.classes.any (·.fqn == x) := by
    induction l with
    | nil => rfl
    | cons d rest ih =>
      rw [List.filterMap_cons, ih, List.map_cons, List.filter_cons]
      by_cases hd : ix.classes.any (·.fqn == d.fqn) = true <;> simp [hd]
  rw [hOrder, ← lastPlaces_filter, ModelFiles.declaredNames, List.filter_flatMap]
  simp only [hKept]

/-- A name finds a class of the index under that name. -/
theorem class?_eq_some {x : String} {C : ResolvedClass} (h : ix.class? x = some C) : C ∈ ix.classes ∧ C.fqn = x :=
  ⟨List.mem_of_find?_eq_some h, by simpa using List.find?_some h⟩

/-- A class listed as a direct subclass is a class of the index with that supertype. -/
theorem superType_of_mem_subclasses {x : String} {S : ResolvedClass} (h : S ∈ ix.subclasses x) :
    S ∈ ix.classes ∧ S.superType = some x := by
  unfold subclasses at h
  split at h
  · obtain ⟨c, -, hc⟩ := List.mem_filterMap.1 h
    obtain ⟨hFound, hSuper⟩ := Option.filter_eq_some_iff.1 hc
    exact ⟨(class?_eq_some hFound).1, by simpa using hSuper⟩
  · cases h

/-- The direct subclasses of a listed name, named, are the names of the order whose class has that
supertype. -/
theorem subclasses_map_fqn {x : String} (hx : ix.order.contains x = true) :
    (ix.subclasses x).map (·.fqn) = ix.order.filter fun c => (ix.class? c).any (·.superType == some x) := by
  rw [subclasses, if_pos hx]
  exact map_fqn_filterMap (fun _ _ h => (class?_eq_some h).2) _ _

theorem nodup_subclasses (hOrder : ix.order.Nodup) (x : String) : ((ix.subclasses x).map (·.fqn)).Nodup := by
  by_cases hx : ix.order.contains x = true
  · rw [subclasses_map_fqn hx]
    exact hOrder.filter _
  · rw [subclasses, if_neg hx]
    exact List.nodup_nil

/-- One step of a walk down the subclasses: the class, then the walk below each direct subclass. -/
theorem go_succ (k : Nat) (x : String) : assignableClasses.go ix (k + 1) x =
    (ix.class? x).toList ++ (ix.subclasses x).flatMap fun S => assignableClasses.go ix k S.fqn := rfl

section Walk

variable {L : List ResolvedClass}

/-- A direct subclass is one step up from everything below it. -/
theorem ancestor?_succ_of_mem_subclasses (hNodup : (ix.classes.map (·.fqn)).Nodup) {x y : String}
    {S : ResolvedClass} (hS : S ∈ ix.subclasses x) {d : Nat} (h : ix.ancestor? d y = some S.fqn) :
    ix.ancestor? (d + 1) y = some x := by
  obtain ⟨hMem, hSuper⟩ := superType_of_mem_subclasses hS
  rw [ancestor?_succ', h, Option.bind_some, parent?, class?_eq_of_mem hNodup hMem, Option.bind_some, hSuper]

/-- A name lies at one depth only below any name above it: two depths would close a cycle. -/
theorem ancestor?_depth_eq (hL : Recorded files L) (hSub : ix.classes.Sublist L) {x y : String} {d d' : Nat}
    (h : ix.ancestor? d y = some x) (h' : ix.ancestor? d' y = some x) : d = d' := by
  have hShallower {d d' : Nat} (hlt : d < d') (h : ix.ancestor? d y = some x) (h' : ix.ancestor? d' y = some x) :
      False := by
    have hSteps : ix.ancestor? (d + (d' - d - 1 + 1)) y = (ix.ancestor? d y).bind (ix.ancestor? (d' - d - 1 + 1)) :=
      ancestor?_add d (d' - d - 1 + 1) y
    rw [show d + (d' - d - 1 + 1) = d' by omega, h', h, Option.bind_some] at hSteps
    exact not_transGen_self hL hSub x (transGen_of_ancestor? hSteps.symm)
  rcases lt_trichotomy d d' with hlt | heq | hgt
  · exact (hShallower hlt h h').elim
  · exact heq
  · exact (hShallower hgt h' h).elim

/-- A class a walk lists is a class of the index, fewer steps below where the walk starts than
the walk has fuel. -/
theorem depth_of_mem_go (hNodup : (ix.classes.map (·.fqn)).Nodup) :
    ∀ {k : Nat} {x : String} {B : ResolvedClass}, B ∈ assignableClasses.go ix k x →
      B ∈ ix.classes ∧ ∃ d < k, ix.ancestor? d B.fqn = some x
  | 0, _, _, h => by cases h
  | k + 1, x, B, h => by
    rw [go_succ, List.mem_append] at h
    rcases h with h | h
    · obtain ⟨hB, hName⟩ := class?_eq_some (Option.mem_toList.1 h)
      exact ⟨hB, 0, Nat.succ_pos k, by rw [hName]; rfl⟩
    · obtain ⟨S, hS, hB⟩ := List.mem_flatMap.1 h
      obtain ⟨hBmem, d, hd, hAnc⟩ := depth_of_mem_go hNodup hB
      exact ⟨hBmem, d + 1, by omega, ancestor?_succ_of_mem_subclasses hNodup hS hAnc⟩

/-- The direct subclasses of a listed class are the classes whose supertype it is. -/
theorem mem_subclasses (hNodup : (ix.classes.map (·.fqn)).Nodup)
    (hOrder : ∀ x, x ∈ ix.order ↔ ∃ C ∈ ix.classes, C.fqn = x) {x : String}
    (hx : ∃ X ∈ ix.classes, X.fqn = x) {S : ResolvedClass} :
    S ∈ ix.subclasses x ↔ S ∈ ix.classes ∧ S.superType = some x := by
  have hListed : ix.order.contains x = true := List.contains_iff_mem.2 ((hOrder x).2 hx)
  refine ⟨superType_of_mem_subclasses, fun ⟨hS, hSuper⟩ => ?_⟩
  rw [subclasses, if_pos hListed, List.mem_filterMap]
  refine ⟨S.fqn, (hOrder S.fqn).2 ⟨S, hS, rfl⟩, Option.filter_eq_some_iff.2 ⟨class?_eq_of_mem hNodup hS, ?_⟩⟩
  simp [hSuper]

/-- A walk from a class lists every class fewer steps below it than the walk has fuel. -/
theorem mem_go_of_depth (hNodup : (ix.classes.map (·.fqn)).Nodup)
    (hOrder : ∀ x, x ∈ ix.order ↔ ∃ C ∈ ix.classes, C.fqn = x) {B : ResolvedClass} (hB : B ∈ ix.classes) :
    ∀ {d k : Nat} {x : String}, (∃ X ∈ ix.classes, X.fqn = x) → d < k → ix.ancestor? d B.fqn = some x →
      B ∈ assignableClasses.go ix k x
  | _, 0, _, _, hd, _ => absurd hd (Nat.not_lt_zero _)
  | 0, k + 1, x, _, _, hAnc => by
    obtain rfl : B.fqn = x := Option.some.inj hAnc
    rw [go_succ]
    exact List.mem_append_left _ (Option.mem_toList.2 (class?_eq_of_mem hNodup hB))
  | d + 1, k + 1, x, hx, hd, hAnc => by
    rw [ancestor?_succ'] at hAnc
    obtain ⟨y, hy, hParent⟩ := Option.bind_eq_some_iff.1 hAnc
    obtain ⟨S, hS, rfl, hSuper⟩ := mem_of_parent? hParent
    rw [go_succ]
    refine List.mem_append_right _ (List.mem_flatMap.2 ⟨S, (mem_subclasses hNodup hOrder hx).2 ⟨hS, hSuper⟩, ?_⟩)
    exact mem_go_of_depth hNodup hOrder hB ⟨S, hS, rfl⟩ (by omega) hy

/-- A walk lists each class once: the walks below two direct subclasses meet nowhere, and none
comes back to where it started. -/
theorem nodup_go (hNodup : (ix.classes.map (·.fqn)).Nodup) (hOrder : ix.order.Nodup) (hL : Recorded files L)
    (hSub : ix.classes.Sublist L) : ∀ (k : Nat) (x : String), ((assignableClasses.go ix k x).map (·.fqn)).Nodup
  | 0, _ => List.nodup_nil
  | k + 1, x => by
    rw [go_succ, List.map_append, List.nodup_append, List.map_flatMap]
    have hBelow {S : ResolvedClass} (hS : S ∈ ix.subclasses x) {a : String}
        (ha : a ∈ (assignableClasses.go ix k S.fqn).map (·.fqn)) :
        ∃ d, ix.ancestor? d a = some S.fqn ∧ ix.ancestor? (d + 1) a = some x := by
      obtain ⟨B, hB, rfl⟩ := List.mem_map.1 ha
      obtain ⟨-, d, -, hAnc⟩ := depth_of_mem_go hNodup hB
      exact ⟨d, hAnc, ancestor?_succ_of_mem_subclasses hNodup hS hAnc⟩
    refine ⟨?_, ?_, ?_⟩
    · cases ix.class? x <;> simp
    · refine List.nodup_flatMap.2 ⟨fun S _ => nodup_go hNodup hOrder hL hSub k S.fqn, ?_⟩
      have hDistinct := List.pairwise_map.1 (nodup_subclasses hOrder x)
      refine hDistinct.imp_of_mem fun {S S'} hS hS' hne a ha ha' => hne ?_
      obtain ⟨d, hd, hdx⟩ := hBelow hS ha
      obtain ⟨d', hd', hdx'⟩ := hBelow hS' ha'
      obtain rfl := Nat.succ_injective (ancestor?_depth_eq hL hSub hdx hdx')
      exact Option.some.inj (hd.symm.trans hd')
    · intro a ha b hb hab
      obtain ⟨X, hX, rfl⟩ := List.mem_map.1 ha
      obtain ⟨-, hName⟩ := class?_eq_some (Option.mem_toList.1 hX)
      obtain ⟨S, hS, hb⟩ := List.mem_flatMap.1 hb
      obtain ⟨d, -, hdx⟩ := hBelow hS (hab ▸ hb)
      rw [hName] at hdx
      exact Nat.succ_ne_zero d (ancestor?_depth_eq hL hSub hdx rfl)

/-- A walk's fuel is enough once no class lies that many steps below where it starts. -/
theorem go_succ_eq (hNodup : (ix.classes.map (·.fqn)).Nodup) :
    ∀ {k : Nat} {x : String}, (∀ B ∈ ix.classes, ix.ancestor? k B.fqn ≠ some x) →
      assignableClasses.go ix (k + 1) x = assignableClasses.go ix k x
  | 0, x, h => by
    have hNone : ix.class? x = none := by
      cases hx : ix.class? x with
      | none => rfl
      | some X =>
        obtain ⟨hX, rfl⟩ := class?_eq_some hx
        exact absurd rfl (h X hX)
    rw [go_succ, hNone]
    simp [assignableClasses.go]
  | k + 1, x, h => by
    rw [go_succ (k + 1) x, go_succ k x]
    congr 1
    refine List.flatMap_congr fun S hS => go_succ_eq hNodup fun B hB hAnc => ?_
    exact h B hB (ancestor?_succ_of_mem_subclasses hNodup hS hAnc)

end Walk

/-- The order of an index built from well-formed files lists exactly the names of its classes:
each class is resolved from a declaration of the files. -/
theorem mem_order (hwf : files.WellFormed) {mode : BuildMode} (hix : TypeIndex.build files mode = .ok ix)
    {L : List ResolvedClass} (hL : Recorded files L) (hSub : ix.classes.Sublist L) (x : String) :
    x ∈ ix.order ↔ ∃ C ∈ ix.classes, C.fqn = x := by
  rw [build_order hix, List.mem_filter, mem_lastPlaces, List.any_eq_true]
  constructor
  · rintro ⟨-, C, hC, hName⟩
    exact ⟨C, hC, beq_iff_eq.1 hName⟩
  · rintro ⟨C, hC, rfl⟩
    obtain ⟨file, c, hDecl, -⟩ := hL.classBuilt (hSub.subset hC)
    obtain ⟨hFile, hMem⟩ := classDeclaration_mem hwf hDecl
    have hDeclared : C.fqn ∈ files.declaredNames :=
      List.mem_flatMap.2 ⟨file, hFile, List.mem_map.2 ⟨.cls c, hMem, classDeclaration_fqn hwf hDecl⟩⟩
    exact ⟨hDeclared, C, hC, beq_self_eq_true _⟩

end TypeIndex

open TypeIndex in
/-- Subclass enumeration agrees with the supertype walk. For a class `A` of an index built from
well-formed files in either mode, `assignableClasses A` lists each class once; it lists exactly
the classes of the index that `isAssignable` places under `A`; and it is the depth-first pre-order
walk from `A`: `A`, then the walk from each direct subclass in turn. The direct subclasses are
exactly the classes whose supertype is `A`, in declaration order: files in namespace order,
declarations in file order, a name declared twice at its last declaration. -/
theorem assignable_classes_walk_down_the_subclasses (hwf : files.WellFormed) {mode : BuildMode}
    {ix : TypeIndex} (hix : TypeIndex.build files mode = .ok ix) {A : ResolvedClass} (hA : A ∈ ix.classes) :
    ((ix.assignableClasses A.fqn).map (·.fqn)).Nodup ∧
    (∀ B, B ∈ ix.assignableClasses A.fqn ↔ B ∈ ix.classes ∧ ix.isAssignable B.fqn A.fqn = true) ∧
    ix.assignableClasses A.fqn = A :: (ix.subclasses A.fqn).flatMap (fun S => ix.assignableClasses S.fqn) ∧
    (∀ S, S ∈ ix.subclasses A.fqn ↔ S ∈ ix.classes ∧ S.superType = some A.fqn) ∧
    (ix.subclasses A.fqn).map (·.fqn) =
      (lastPlaces files.declaredNames).filter fun x => (ix.class? x).any (·.superType == some A.fqn) := by
  obtain ⟨L, hL, hSub⟩ := build_recorded hwf hix
  have hNodup : (ix.classes.map (·.fqn)).Nodup := (hSub.map _).nodup hL.nodup
  have hOrder := mem_order hwf hix hL hSub
  have hOrderNodup : ix.order.Nodup := by
    rw [build_order hix]
    exact (nodup_lastPlaces _).filter _
  have hStart {C : ResolvedClass} (hC : C ∈ ix.classes) :
      ix.assignableClasses C.fqn = assignableClasses.go ix (ix.classes.length + 1) C.fqn := by
    rw [assignableClasses, if_pos (List.contains_iff_mem.2 ((hOrder _).2 ⟨C, hC, rfl⟩))]
  refine ⟨?_, fun B => ?_, ?_, fun S => mem_subclasses hNodup hOrder ⟨A, hA, rfl⟩, ?_⟩
  · rw [hStart hA]
    exact nodup_go hNodup hOrderNodup hL hSub _ _
  · rw [hStart hA, isAssignable, isAssignable_go_iff]
    constructor
    · exact fun hB => depth_of_mem_go hNodup hB
    · rintro ⟨hB, d, hd, hAnc⟩
      exact mem_go_of_depth hNodup hOrder hB ⟨A, hA, rfl⟩ hd hAnc
  · rw [hStart hA, go_succ, class?_eq_of_mem hNodup hA, Option.toList_some, List.singleton_append]
    congr 1
    refine List.flatMap_congr fun S hS => ?_
    rw [hStart (superType_of_mem_subclasses hS).1]
    refine (go_succ_eq hNodup fun B _ hAnc => ?_).symm
    have hFar := ancestor?_succ_of_mem_subclasses hNodup hS hAnc
    exact absurd (ancestor?_steps_le hL hSub hFar) (by omega)
  · rw [subclasses_map_fqn (List.contains_iff_mem.2 ((hOrder _).2 ⟨A, hA, rfl⟩)), build_order hix,
      List.filter_filter]
    refine List.filter_congr fun x _ => ?_
    cases hx : ix.class? x with
    | none => simp
    | some C =>
      have hAny : ix.classes.any (·.fqn == x) = true :=
        List.any_eq_true.2 ⟨C, (class?_eq_some hx).1, by simp [(class?_eq_some hx).2]⟩
      simp [hAny]

/-- In the zoo, the classes assignable to `Animal` are walked depth first: `Animal`, `Lion`,
its subclass `Cub`, then `Tiger`. -/
theorem animal_assignable_classes_walk_down_the_subclasses :
    ∃ A ∈ zooIndex.classes, A.fqn = "org.zoo@1.0.0.Animal" ∧
      (((zooIndex.assignableClasses A.fqn).map (·.fqn)).Nodup ∧
      (∀ B, B ∈ zooIndex.assignableClasses A.fqn ↔ B ∈ zooIndex.classes ∧ zooIndex.isAssignable B.fqn A.fqn = true) ∧
      zooIndex.assignableClasses A.fqn = A :: (zooIndex.subclasses A.fqn).flatMap (fun S => zooIndex.assignableClasses S.fqn) ∧
      (∀ S, S ∈ zooIndex.subclasses A.fqn ↔ S ∈ zooIndex.classes ∧ S.superType = some A.fqn) ∧
      (zooIndex.subclasses A.fqn).map (·.fqn) = (lastPlaces zooFiles.declaredNames).filter
        fun x => (zooIndex.class? x).any (·.superType == some A.fqn)) ∧
      (zooIndex.assignableClasses A.fqn).map (·.fqn) =
        ["org.zoo@1.0.0.Animal", "org.zoo@1.0.0.Lion", "org.zoo@1.0.0.Cub", "org.zoo@1.0.0.Tiger"] := by
  obtain ⟨A, hA⟩ := Option.isSome_iff_exists.1
    (show (zooIndex.class? "org.zoo@1.0.0.Animal").isSome = true by decide +kernel)
  obtain ⟨hMem, hName⟩ := TypeIndex.class?_eq_some hA
  refine ⟨A, hMem, hName, assignable_classes_walk_down_the_subclasses ModelFiles.wellFormed_zooFiles
    zoo_files_build_strict hMem, ?_⟩
  rw [hName]
  decide +kernel

end DomainModels
