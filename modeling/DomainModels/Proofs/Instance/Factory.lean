import Mathlib
import DomainModels.Instance.Factory
import DomainModels.Proofs.Instance.Values
/-! What the factory makes: `withDefaults` adds values only under properties with defaults and the
timestamp, so a new instance holds values only under the keys `NewKey` names. -/

namespace DomainModels

namespace Factory

variable (f : Factory)

/-- A property with a declared default. -/
def Defaulted (c : ResolvedClass) (k : String) : Prop :=
  ∃ p ∈ c.properties, p.name = k ∧ ∃ v, defaultValue p = .ok (some v)

theorem foldlM_defaults (props : List ResolvedProperty) (hProps : ∀ p ∈ props, ∃ d, defaultValue p = .ok d)
    (r : Resource) :
    ∃ r₁, props.foldlM (fun (r : Resource) p => do
        match ← defaultValue p with
        | some v => pure (r.set p.name v)
        | none => pure r) r = .ok r₁ ∧
      r.Grows r₁ fun k => ∃ p ∈ props, p.name = k ∧ ∃ v, defaultValue p = .ok (some v) := by
  induction props generalizing r with
  | nil => exact ⟨r, rfl, Resource.Grows.refl r _⟩
  | cons p rest ih =>
    obtain ⟨d, hd⟩ := hProps p List.mem_cons_self
    have hRest := fun q hq => hProps q (List.mem_cons_of_mem _ hq)
    rw [List.foldlM_cons, hd]
    cases d with
    | none =>
      obtain ⟨r₁, hr₁, hg⟩ := ih hRest r
      refine ⟨r₁, hr₁, hg.mono ?_⟩
      rintro k ⟨q, hq, hqk, hqv⟩
      exact ⟨q, List.mem_cons_of_mem _ hq, hqk, hqv⟩
    | some v =>
      obtain ⟨r₁, hr₁, hg⟩ := ih hRest (r.set p.name v)
      have hAdded : ∀ k, (∃ q ∈ rest, q.name = k ∧ ∃ v, defaultValue q = .ok (some v)) →
          ∃ q ∈ p :: rest, q.name = k ∧ ∃ v, defaultValue q = .ok (some v) :=
        fun k ⟨q, hq, hqk, hqv⟩ => ⟨q, List.mem_cons_of_mem _ hq, hqk, hqv⟩
      refine ⟨r₁, hr₁, ((Resource.Grows.refl r _).set ⟨p, List.mem_cons_self, rfl, v, hd⟩ v).trans
        (hg.mono hAdded)⟩

/-- The keys a new instance of a class may hold a value under: its identifying field, a property
with a declared default, and the timestamp of a transaction or event. -/
def NewKey (c : ResolvedClass) (k : String) : Prop :=
  c.identifier = some k ∨ Defaulted c k ∨ (c.isTimestamped = true ∧ k = Names.timestampField)

theorem withDefaults_ok (c : ResolvedClass) (r : Resource) (hDefaults : ∀ p ∈ c.properties, ∃ d, defaultValue p = .ok d) :
    ∃ r₁, f.withDefaults c r = .ok r₁ ∧ r.Grows r₁ fun k => Defaulted c k ∨ (c.isTimestamped = true ∧ k = Names.timestampField) := by
  obtain ⟨r₁, hFold, hg⟩ := foldlM_defaults c.properties hDefaults r
  have hg' := hg.mono fun k hk => Or.inl (b := c.isTimestamped = true ∧ k = Names.timestampField) hk
  unfold withDefaults
  erw [hFold]
  by_cases hStamp : c.isTimestamped = true
  · exact ⟨_, by simp [hStamp, bind, Except.bind, pure, Except.pure],
      hg'.trans ((Resource.Grows.refl r₁ _).set (.inr ⟨hStamp, rfl⟩) (.dateTime f.now))⟩
  · exact ⟨_, by simp [hStamp, bind, Except.bind, pure, Except.pure], hg'⟩

theorem instantiable_ok {ns typeName : String} {c : ResolvedClass}
    (hClass : f.registry.resolvedClass (Names.qualify ns typeName) = .ok c) (hAbs : c.isAbstract = false) :
    f.instantiable ns typeName = .ok c := by
  simp [instantiable, hClass, hAbs, bind, Except.bind, pure, Except.pure]

/-- The factory makes an instance of an identified class, holding at most the identifier, the
defaults and the timestamp. -/
theorem newResource_ok {ns typeName : String} {c : ResolvedClass} (id : String)
    (hClass : f.registry.resolvedClass (Names.qualify ns typeName) = .ok c) (hAbs : c.isAbstract = false)
    {field : String} (hId : c.identifier = some field) (hDefaults : ∀ p ∈ c.properties, ∃ d, defaultValue p = .ok d) :
    ∃ r₁, f.newResource ns typeName id = .ok r₁ ∧ (Resource.new ns typeName c.identifier).Grows r₁ (NewKey c) := by
  obtain ⟨r₁, hr₁, hg⟩ := f.withDefaults_ok c (Resource.new ns typeName c.identifier) hDefaults
  have hIdentified : c.isIdentified = true := by simp [ResolvedClass.isIdentified, hId]
  have hField : r₁.identifierField = some field := by rw [hg.identifierField, Resource.identifierField_new, hId]
  refine ⟨r₁.set field (.string id), ?_, ?_⟩
  · simp [newResource, f.instantiable_ok hClass hAbs, hIdentified, hr₁, Resource.setIdentifier, hField,
      bind, Except.bind]
  · exact (hg.mono fun k hk => .inr hk).trans ((Resource.Grows.refl r₁ _).set (.inl hId) _)

/-- The factory makes an instance of a class without identifier, holding at most the defaults
and the timestamp. -/
theorem newConcept_ok {ns typeName : String} {c : ResolvedClass}
    (hClass : f.registry.resolvedClass (Names.qualify ns typeName) = .ok c) (hAbs : c.isAbstract = false)
    (hId : c.identifier = none) (hDefaults : ∀ p ∈ c.properties, ∃ d, defaultValue p = .ok d) :
    ∃ r₁, f.newConcept ns typeName = .ok r₁ ∧ (Resource.new ns typeName c.identifier).Grows r₁ (NewKey c) := by
  obtain ⟨r₁, hr₁, hg⟩ := f.withDefaults_ok c (Resource.new ns typeName c.identifier) hDefaults
  have hIdentified : c.isIdentified = false := by simp [ResolvedClass.isIdentified, hId]
  refine ⟨r₁, ?_, hg.mono fun k hk => .inr hk⟩
  rw [hId] at hr₁
  simp [newConcept, f.instantiable_ok hClass hAbs, hIdentified, hr₁, bind, Except.bind]

end Factory

end DomainModels
