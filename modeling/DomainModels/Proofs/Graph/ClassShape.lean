import Mathlib
import DomainModels.Graph.Index
/-! The shape of a resolved class: distinct property names, and no reserved name but the system
fields `$identifier` and, on transactions and events, `$timestamp`. -/

namespace DomainModels.Names

/-- A reserved name is one that starts with `$`. -/
theorem isSystemProperty_iff (s : String) : isSystemProperty s = true ↔ s.toList.head? = some '$' := by
  rw [isSystemProperty, String.startsWith_string_iff]
  cases h : s.toList with
  | nil => simp
  | cons c rest => simp [show "$".toList = ['$'] from rfl, List.cons_prefix_cons, eq_comm]

theorem isSystemProperty_classKey : isSystemProperty classKey = true := (isSystemProperty_iff _).mpr rfl

end DomainModels.Names

namespace DomainModels.ResolvedProperty

/-- A property with no primitive type has no field, or a field that is not primitive. -/
theorem primitive?_eq_none {p : ResolvedProperty} (h : p.primitive? = none) :
    p.effectiveField? = none ∨ ∃ field, p.effectiveField? = some field ∧ field.primitive? = none := by
  unfold ResolvedProperty.primitive? at h
  cases hf : p.effectiveField? with
  | none => exact .inl rfl
  | some field => rw [hf] at h; exact .inr ⟨field, rfl, h⟩

end DomainModels.ResolvedProperty

namespace DomainModels.ResolvedClass

/-- The `$identifier` slot of a class identified by a declared field: the writer puts the
identifier there in place of a value, and the reader passes over it. -/
def passesOver (c : ResolvedClass) (name : String) : Bool :=
  name == Names.identifierField && c.hasExplicitIdentifier

/-- Distinct property names, and reserved names only for the system fields. -/
structure WellFormed (c : ResolvedClass) : Prop where
  nodup : (c.properties.map (·.name)).Nodup
  system : ∀ p ∈ c.properties, Names.isSystemProperty p.name = true →
    p.name = Names.identifierField ∨ (p.name = Names.timestampField ∧ c.isTimestamped = true)

variable {c : ResolvedClass}

/-- In a class with distinct names, a property is found by its own name. -/
theorem WellFormed.property?_name (hc : c.WellFormed) {p : ResolvedProperty} (hp : p ∈ c.properties) :
    c.property? p.name = some p := by
  obtain ⟨l₁, l₂, hSplit⟩ := List.append_of_mem hp
  have hNodup := hc.nodup
  rw [hSplit, List.map_append, List.map_cons, List.nodup_append] at hNodup
  have hNot : ∀ q ∈ l₁, q.name ≠ p.name := fun q hq hqp =>
    hNodup.2.2 _ (List.mem_map_of_mem hq) _ List.mem_cons_self hqp
  rw [property?, hSplit, List.find?_append, List.find?_eq_none.mpr (by simpa using hNot)]
  simp

/-- Two properties of a class with distinct names are the same when their names are. -/
theorem WellFormed.eq_of_name (hc : c.WellFormed) {p q : ResolvedProperty} (hp : p ∈ c.properties)
    (hq : q ∈ c.properties) (h : p.name = q.name) : p = q := by
  have h₁ := hc.property?_name hp
  rw [h, hc.property?_name hq] at h₁
  exact (Option.some.inj h₁).symm

/-- No property of a well-formed class is named `$class`. -/
theorem WellFormed.name_ne_classKey (hc : c.WellFormed) {p : ResolvedProperty} (hp : p ∈ c.properties) :
    p.name ≠ Names.classKey := by
  intro h
  have hSys : Names.isSystemProperty p.name = true := h ▸ Names.isSystemProperty_classKey
  rcases hc.system p hp hSys with h' | ⟨h', -⟩ <;> rw [h] at h' <;> exact absurd h' (by decide)

/-- Names of distinct properties of a well-formed class differ, wherever the two stand. -/
theorem WellFormed.name_ne_of_split (hc : c.WellFormed) {done rest : List ResolvedProperty}
    {p : ResolvedProperty} (hSplit : done ++ p :: rest = c.properties) : ∀ q ∈ done, q.name ≠ p.name := by
  intro q hq hqp
  have hNodup := hc.nodup
  rw [← hSplit, List.map_append, List.map_cons, List.nodup_append] at hNodup
  exact hNodup.2.2 _ (List.mem_map_of_mem hq) _ List.mem_cons_self hqp

end DomainModels.ResolvedClass
