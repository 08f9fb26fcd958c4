import Mathlib
import DomainModels.Generate.Options
import DomainModels.Proofs.Graph.Subclasses
import DomainModels.Proofs.Wire.ReadResult
/-! A generated instance is an instance of the first concrete class assignable to the requested
type, made by the factory, with a value for every property that class requires. -/
namespace DomainModels

/-- A new resource holds its identifier under its identifying field. -/
theorem Factory.newResource_contains_identifier {f : Factory} {ns typeName id : String} {r : Resource}
    (h : f.newResource ns typeName id = .ok r) : ∃ k, r.identifierField = some k ∧ r.contains k = true := by
  unfold Factory.newResource at h
  rw [Outcome.bind_eq_ok] at h
  obtain ⟨c', -, h⟩ := h
  split at h
  · cases h
  rw [Outcome.bind_eq_ok] at h
  obtain ⟨r₁, -, h⟩ := h
  unfold Resource.setIdentifier at h
  split at h
  · next k hk =>
    cases h
    refine ⟨k, by rw [Resource.identifierField_set, hk], ?_⟩
    rw [Resource.contains_set, beq_self_eq_true, Bool.true_or]
  · cases h

end DomainModels

namespace DomainModels.Generate

open DomainModels.Random

/-! ### Generations that succeed -/

theorem Generating.run_bind_eq_ok {α β : Type} {x : Generating α} {f : α → Generating β} {g g' : ChaCha} {b : β} :
    (x >>= f).run g = .ok (b, g') ↔ ∃ a g₁, x.run g = .ok (a, g₁) ∧ (f a).run g₁ = .ok (b, g') := by
  rw [StateT.run_bind]
  cases h : x.run g with
  | error e => simp [bind, Except.bind]
  | ok p =>
    obtain ⟨a, g₁⟩ := p
    simp [bind, Except.bind]

theorem Generating.lift_run_eq_ok {α : Type} {x : Outcome α} {g g' : ChaCha} {a : α} :
    (Generating.lift x).run g = .ok (a, g') ↔ x = .ok a ∧ g' = g := by
  cases x with
  | error e =>
    constructor
    · intro h; cases h
    · rintro ⟨h, -⟩; cases h
  | ok b =>
    constructor
    · intro h; cases h; exact ⟨rfl, rfl⟩
    · rintro ⟨h, rfl⟩; cases h; rfl

theorem Generating.throw_run_ne_ok {α : Type} (e : ModelError) (g g' : ChaCha) (a : α) :
    (throw e : Generating α).run g ≠ .ok (a, g') := nofun

/-- A loop of generation that succeeds went through every element of `l` keeping the
invariant, which may depend on the elements done so far. -/
theorem Generating.forIn_inv {α β : Type} (l : List α) (f : α → β → Generating (ForInStep β))
    (inv : List α → β → Prop)
    (hStep : ∀ done a rest b g res g', done ++ a :: rest = l → inv done b →
      (f a b).run g = .ok (res, g') → ∃ b', res = .yield b' ∧ inv (done ++ [a]) b')
    {b : β} {g : ChaCha} {out : β} {g' : ChaCha} (hInit : inv [] b)
    (h : (forIn l b f).run g = .ok (out, g')) : inv l out := by
  suffices ∀ rest done b g, done ++ rest = l → inv done b → (forIn rest b f).run g = .ok (out, g') →
      inv l out from this l [] b g rfl hInit h
  intro rest
  induction rest with
  | nil =>
    intro done b g hl hInv h
    simp only [List.forIn_nil, StateT.run_pure] at h
    cases h
    simpa [← hl] using hInv
  | cons a rest ih =>
    intro done b g hl hInv h
    rw [List.forIn_cons, Generating.run_bind_eq_ok] at h
    obtain ⟨res, g₁, hRes, hRest⟩ := h
    obtain ⟨b', rfl, hInv'⟩ := hStep done a rest b g res g₁ hl hInv hRes
    exact ih (done ++ [a]) b' g₁ (by simpa using hl) hInv' hRest

/-! ### The class of a generated instance -/

open TypeIndex in
/-- The walk down the subclasses of a class of an index starts at the class itself. -/
theorem assignableClasses_eq_cons {files : ModelFiles} {mode : BuildMode} {ix : TypeIndex}
    (hwf : files.WellFormed) (hix : TypeIndex.build files mode = .ok ix) {A : ResolvedClass}
    (hA : A ∈ ix.classes) :
    ix.assignableClasses A.fqn = A :: (ix.subclasses A.fqn).flatMap fun S => assignableClasses.go ix ix.classes.length S.fqn := by
  obtain ⟨L, hL, hSub⟩ := build_recorded hwf hix
  have hNodup : (ix.classes.map (·.fqn)).Nodup := (hSub.map _).nodup hL.nodup
  have hListed : ix.order.contains A.fqn = true :=
    List.contains_iff_mem.2 ((mem_order hwf hix hL hSub _).2 ⟨A, hA, rfl⟩)
  rw [assignableClasses, if_pos hListed, go_succ, class?_eq_of_mem hNodup hA, Option.toList_some,
    List.singleton_append]

namespace Generator

variable (gen : Generator)

/-- The class standing for a type is the first concrete class assignable to it, and the
registry resolves it under its own name. -/
theorem concrete_eq_ok {mode : BuildMode} (hS : Registry.Reachable gen.registry mode) {fqn : String}
    {c : ResolvedClass} (h : gen.concrete fqn = .ok c) :
    (gen.registry.index.assignableClasses fqn).find? (!·.isAbstract) = some c ∧
      gen.registry.resolvedClass c.fqn = .ok c := by
  obtain ⟨hwf, hBuilt⟩ := hS.invariant
  obtain ⟨L, hL, hSub⟩ := build_recorded hwf hBuilt
  have hNodup : (gen.registry.index.classes.map (·.fqn)).Nodup := (hSub.map _).nodup hL.nodup
  have hResolved {d : ResolvedClass} (hd : d ∈ gen.registry.index.assignableClasses fqn) :
      gen.registry.resolvedClass d.fqn = .ok d := by
    unfold TypeIndex.assignableClasses at hd
    split at hd
    · have hMem := (TypeIndex.depth_of_mem_go hNodup hd).1
      simp [Registry.resolvedClass, TypeIndex.class?_eq_of_mem hNodup hMem, pure, Except.pure]
    · cases hd
  unfold concrete at h
  rw [Outcome.bind_eq_ok] at h
  obtain ⟨c₀, hc₀, h⟩ := h
  obtain ⟨hMem, rfl⟩ := Registry.resolvedClass_mem hc₀
  have hHead := assignableClasses_eq_cons hwf hBuilt hMem
  split at h
  · next hConcrete =>
    cases h
    refine ⟨?_, hc₀⟩
    rw [hHead, List.find?_cons_of_pos]
    exact hConcrete
  · next hAbstract =>
    split at h
    · next d hd =>
      cases h
      exact ⟨hd, hResolved (List.mem_of_find?_eq_some hd)⟩
    · cases h

/-- A property's value is left out only for an optional property. -/
theorem propertyValue_isOptional {fuel : Nat} {stack : List String} {p : ResolvedProperty} {g g' : ChaCha}
    (h : (propertyValue gen fuel stack p).run g = .ok (none, g')) : p.isOptional = true := by
  cases fuel with
  | zero => exact absurd h (Generating.throw_run_ne_ok _ _ _ _)
  | succ fuel =>
    rw [propertyValue] at h
    split at h
    · split at h
      · cases h
      · rw [Generating.run_bind_eq_ok] at h
        obtain ⟨items, g₁, -, h⟩ := h
        cases h
    · split at h
      · split at h
        · assumption
        · exact absurd h (Generating.throw_run_ne_ok _ _ _ _)
      · rw [StateT.run_map, Outcome.map_eq_ok] at h
        obtain ⟨⟨v, g₁⟩, -, h⟩ := h
        cases h

/-! ### The properties of a generated instance -/

/-- What the loop over a class's properties has made of the factory's instance `r₀` once the
properties `done` are through: the instance keeps its class and every value it had, and holds
a value for each required property done that is neither a system property nor the identifier. -/
structure Filled (c : ResolvedClass) (r₀ : Resource) (done : List ResolvedProperty) (r : Resource) : Prop where
  ns : r.ns = r₀.ns
  typeName : r.typeName = r₀.typeName
  kept : ∀ k, r₀.contains k = true → r.contains k = true
  required : ∀ p ∈ done, p.isOptional = false → Names.isSystemProperty p.name = false →
    c.identifier ≠ some p.name → r.contains p.name = true

theorem filled_start (c : ResolvedClass) (r₀ : Resource) : Filled c r₀ [] r₀ :=
  ⟨rfl, rfl, fun _ h => h, fun _ h => nomatch h⟩

namespace Filled

variable {c : ResolvedClass} {r₀ r : Resource} {done : List ResolvedProperty}

/-- A property passed over leaves the instance as it is. -/
theorem skip (h : Filled c r₀ done r) {p : ResolvedProperty}
    (hp : p.isOptional = false → Names.isSystemProperty p.name = false → c.identifier ≠ some p.name →
      r.contains p.name = true) :
    Filled c r₀ (done ++ [p]) r :=
  ⟨h.ns, h.typeName, h.kept, List.forall_mem_append.2 ⟨h.required, List.forall_mem_singleton.2 hp⟩⟩

/-- A property given a value is held from then on. -/
theorem set (h : Filled c r₀ done r) (p : ResolvedProperty) (v : Value) :
    Filled c r₀ (done ++ [p]) (r.set p.name v) := by
  refine ⟨h.ns, h.typeName, fun k hk => ?_, List.forall_mem_append.2 ⟨fun q hq hOpt hSys hId => ?_,
    List.forall_mem_singleton.2 fun _ _ _ => ?_⟩⟩
  · rw [Resource.contains_set, h.kept k hk, Bool.or_true]
  · rw [Resource.contains_set, h.required q hq hOpt hSys hId, Bool.or_true]
  · rw [Resource.contains_set, beq_self_eq_true, Bool.true_or]

end Filled

/-- The instance the loop over a class's properties starts from: made under the class's
namespace and name, and holding the class's identifier. -/
structure Started (c : ResolvedClass) (r₀ : Resource) : Prop where
  ns : r₀.ns = c.ns
  typeName : r₀.typeName = c.name
  identifier : ∀ k, c.identifier = some k → r₀.contains k = true

theorem started_newResource {f : Factory} {c : ResolvedClass} {id : String} {r₀ : Resource}
    (hc : f.registry.resolvedClass (Names.qualify c.ns c.name) = .ok c) (h : f.newResource c.ns c.name id = .ok r₀) :
    Started c r₀ := by
  have hMade := Factory.newResource_made h hc
  obtain ⟨k', hField, hIn⟩ := Factory.newResource_contains_identifier h
  refine ⟨hMade.ns, hMade.typeName, fun k hId => ?_⟩
  rw [← hMade.identifierField, hField, Option.some.injEq] at hId
  rw [← hId]
  exact hIn

theorem started_newConcept {f : Factory} {c : ResolvedClass} {r₀ : Resource}
    (hc : f.registry.resolvedClass (Names.qualify c.ns c.name) = .ok c) (hNone : c.identifier = none)
    (h : f.newConcept c.ns c.name = .ok r₀) : Started c r₀ := by
  have hMade : Factory.Made f c "" r₀ := Factory.newConcept_made h hc
  exact ⟨hMade.ns, hMade.typeName, fun k hId => by rw [hNone] at hId; cases hId⟩

/-- Once the loop is through, the instance holds every required property but the system ones:
the identifier from the start, every other from the loop. -/
theorem Started.complete {c : ResolvedClass} {r₀ r : Resource} (hStart : Started c r₀)
    (h : Filled c r₀ c.properties r) :
    r.ns = c.ns ∧ r.typeName = c.name ∧
      ∀ p ∈ c.properties, p.isOptional = false → Names.isSystemProperty p.name = false → r.contains p.name = true := by
  refine ⟨h.ns.trans hStart.ns, h.typeName.trans hStart.typeName, fun p hp hOpt hSys => ?_⟩
  by_cases hIdent : c.identifier = some p.name
  · exact h.kept _ (hStart.identifier _ hIdent)
  · exact h.required p hp hOpt hSys hIdent

/-- A populated instance is the factory's instance of the class with a value for every required
property but the system properties. -/
theorem populate_eq_ok {fuel : Nat} {stack : List String} {c : ResolvedClass} {g g' : ChaCha} {r : Resource}
    (hc : gen.registry.resolvedClass (Names.qualify c.ns c.name) = .ok c)
    (h : (populate gen fuel stack c).run g = .ok (r, g')) :
    r.ns = c.ns ∧ r.typeName = c.name ∧
      ∀ p ∈ c.properties, p.isOptional = false → Names.isSystemProperty p.name = false → r.contains p.name = true := by
  cases fuel with
  | zero => exact absurd h (Generating.throw_run_ne_ok _ _ _ _)
  | succ fuel =>
  rw [populate] at h
  split at h
  on_goal 1 =>
    rw [Generating.run_bind_eq_ok] at h
    obtain ⟨id, g₁, -, h⟩ := h
  all_goals
    rw [Generating.run_bind_eq_ok] at h
    obtain ⟨r₀, g₂, hNew, h⟩ := h
    rw [Generating.lift_run_eq_ok] at hNew
  on_goal 1 => have hStart := started_newResource hc hNew.1
  on_goal 2 =>
    rename_i hNone
    have hStart := started_newConcept hc hNone hNew.1
  all_goals
    rw [Generating.run_bind_eq_ok] at h
    obtain ⟨out, g₃, hLoop, h⟩ := h
    cases h
    refine hStart.complete (Generating.forIn_inv c.properties _ (Filled c r₀) ?_ (filled_start c r₀) hLoop)
    rintro done a rest b g₀ res g₀' - hInv hRes
    dsimp only at hRes
    split at hRes
    · next hPassed =>
      cases hRes
      refine ⟨b, rfl, hInv.skip fun _ hSys hIdent => ?_⟩
      simp [hSys, hIdent] at hPassed
    split at hRes
    · next hOptional =>
      cases hRes
      refine ⟨b, rfl, hInv.skip fun hOpt _ _ => ?_⟩
      simp [hOpt] at hOptional
    split at hRes
    · next hHeld =>
      cases hRes
      exact ⟨b, rfl, hInv.skip fun _ _ _ => hHeld⟩
    rw [Generating.run_bind_eq_ok] at hRes
    obtain ⟨v?, g₁, hv, hRes⟩ := hRes
    split at hRes
    · cases hRes
      exact ⟨_, rfl, hInv.set a _⟩
    · next hNoValue =>
      cases hRes
      refine ⟨b, rfl, hInv.skip fun hOpt _ _ => ?_⟩
      cases v? with
      | none => rw [propertyValue_isOptional gen hv] at hOpt; cases hOpt
      | some v => exact (hNoValue v rfl).elim

/-- A generated instance is populated from the first concrete class assignable to the type
asked for. -/
theorem generate_eq_ok {mode : BuildMode} (hS : Registry.Reachable gen.registry mode) {ns typeName : String}
    {stream : ChaCha} {r : Resource} (h : gen.generate ns typeName stream = .ok r) :
    ∃ c, (gen.registry.index.assignableClasses (Names.qualify ns typeName)).find? (!·.isAbstract) = some c ∧
      r.ns = c.ns ∧ r.typeName = c.name ∧
      ∀ p ∈ c.properties, p.isOptional = false → Names.isSystemProperty p.name = false → r.contains p.name = true := by
  unfold generate at h
  rw [StateT.run'_eq, Outcome.map_eq_ok] at h
  obtain ⟨⟨r', g'⟩, h, rfl⟩ := h
  obtain ⟨fuel, hFuel⟩ := Nat.exists_eq_add_one_of_ne_zero
    (show 8 * (gen.registry.index.classes.length + 2) * (gen.registry.index.maps.length + 2) ≠ 0 by positivity)
  rw [hFuel, classInstance, Generating.run_bind_eq_ok] at h
  obtain ⟨c, g₁, hc, h⟩ := h
  rw [Generating.lift_run_eq_ok] at hc
  obtain ⟨hFirst, hResolved⟩ := gen.concrete_eq_ok hS hc.1
  have hQualify := (hS.resolvedClass_complete hResolved).1.qualify
  rw [← hQualify] at hResolved
  exact ⟨c, hFirst, gen.populate_eq_ok hResolved h⟩

end Generator

/-- Every generated instance, in either mode and with optional properties or without, is an
instance of the first concrete class assignable to the type asked for, made under that class's
namespace and name, and holds a value for every required property of the class other than the
system properties. -/
theorem generated_instances_hold_their_required_properties {f : Factory} {mode : BuildMode}
    (hS : Registry.Reachable f.registry mode) (o : Options) {ns typeName : String} {r : Resource}
    (h : o.generate f ns typeName = .ok r) :
    ∃ c, (f.registry.index.assignableClasses (Names.qualify ns typeName)).find? (!·.isAbstract) = some c ∧
      r.ns = c.ns ∧ r.typeName = c.name ∧
      ∀ p ∈ c.properties, p.isOptional = false → Names.isSystemProperty p.name = false → r.contains p.name = true := by
  unfold Options.generate at h
  dsimp only at h
  exact Generator.generate_eq_ok ⟨f, ⟨o.mode, f.now⟩, o.includeOptionalFields⟩ hS h

/-- The car of `carModel` generated in the empty mode is an instance of `Car` holding its
identifier. -/
theorem empty_car_holds_its_identifier :
    ∃ S file r, (Registry.create >>= fun S₀ => S₀.addModelFile Wire.carModel) = .ok (S, file) ∧
      Registry.Reachable S .strict ∧ ({} : Options).generate ⟨S, ⟨0, 0, 0⟩⟩ "org.x@1.0.0" "Car" = .ok r ∧
      ∃ c, (S.index.assignableClasses (Names.qualify "org.x@1.0.0" "Car")).find? (!·.isAbstract) = some c ∧
        r.ns = c.ns ∧ r.typeName = c.name ∧
        ∀ p ∈ c.properties, p.isOptional = false → Names.isSystemProperty p.name = false → r.contains p.name = true := by
  have hFacts : ((Registry.create >>= fun S₀ => S₀.addModelFile Wire.carModel).toOption.map fun added =>
      (({} : Options).generate ⟨added.1, ⟨0, 0, 0⟩⟩ "org.x@1.0.0" "Car").toBool) = some true := by
    decide +kernel
  obtain ⟨⟨S, file⟩, hAdded⟩ : ∃ added, (Registry.create >>= fun S₀ => S₀.addModelFile Wire.carModel) = .ok added := by
    cases h : (Registry.create >>= fun S₀ => S₀.addModelFile Wire.carModel) with
    | error e => rw [h] at hFacts; cases hFacts
    | ok added => exact ⟨added, rfl⟩
  obtain ⟨S₀, hCreate, hAdd⟩ := Outcome.bind_eq_ok.mp hAdded
  have hS : Registry.Reachable S .strict := .addModelFile Wire.carModel (.create hCreate) (Registry.change_eq_ok.1 hAdd)
  rw [hAdded] at hFacts
  simp only [Except.toOption, Option.map_some, Option.some.injEq] at hFacts
  obtain ⟨r, hr⟩ : ∃ r, ({} : Options).generate ⟨S, ⟨0, 0, 0⟩⟩ "org.x@1.0.0" "Car" = .ok r := by
    cases h : ({} : Options).generate ⟨S, ⟨0, 0, 0⟩⟩ "org.x@1.0.0" "Car" with
    | error e => rw [h] at hFacts; cases hFacts
    | ok r => exact ⟨r, rfl⟩
  exact ⟨S, file, r, hAdded, hS, hr, @generated_instances_hold_their_required_properties ⟨S, ⟨0, 0, 0⟩⟩ .strict hS {} _ _ r hr⟩

end DomainModels.Generate
