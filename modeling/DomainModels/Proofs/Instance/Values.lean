import Mathlib
import DomainModels.Instance.Value
/-! The values of an instance as a finite map from names: sorted insertion, lookups after it, and
the keys that setting values adds (`Grows`). -/

namespace DomainModels

/-- Values sorted strictly by name, each name once: the shape `Resource.set` keeps. -/
def SortedByName (vs : List (String × Value)) : Prop := vs.Pairwise fun a b => a.1 < b.1

namespace Resource

theorem lookup_cons (k n : String) (v : Value) (rest : List (String × Value)) :
    ((n, v) :: rest).lookup k = if k = n then some v else rest.lookup k := by
  by_cases h : k = n
  · subst h; simp
  · have hne : (k == n) = false := by simpa using h
    simp [List.lookup, hne, h]

@[simp]
theorem lookup_insertSorted (n k : String) (v : Value) (vs : List (String × Value)) :
    (insertSorted n v vs).lookup k = if k = n then some v else vs.lookup k := by
  induction vs with
  | nil => simp [insertSorted, lookup_cons]
  | cons entry rest ih =>
    obtain ⟨m, w⟩ := entry
    unfold insertSorted
    by_cases hnm : n = m
    · subst hnm
      by_cases hk : k = n <;> simp [lookup_cons, hk]
    · rw [if_neg (by simpa using hnm)]
      split
      · rw [lookup_cons, lookup_cons]
      · rw [lookup_cons, lookup_cons, ih]
        by_cases hk : k = n
        · subst hk; simp [hnm]
        · simp [hk]

theorem mem_insertSorted {n : String} {v : Value} {vs : List (String × Value)} {e : String × Value}
    (h : e ∈ insertSorted n v vs) : e = (n, v) ∨ e ∈ vs := by
  induction vs with
  | nil => simpa [insertSorted] using h
  | cons entry rest ih =>
    obtain ⟨m, w⟩ := entry
    unfold insertSorted at h
    split at h
    · rcases List.mem_cons.mp h with rfl | h
      · exact Or.inl rfl
      · exact Or.inr (List.mem_cons_of_mem _ h)
    · split at h
      · rcases List.mem_cons.mp h with rfl | h
        · exact Or.inl rfl
        · exact Or.inr h
      · rcases List.mem_cons.mp h with rfl | h
        · exact Or.inr List.mem_cons_self
        · rcases ih h with h | h
          · exact Or.inl h
          · exact Or.inr (List.mem_cons_of_mem _ h)

theorem sortedByName_insertSorted (n : String) (v : Value) {vs : List (String × Value)}
    (h : SortedByName vs) : SortedByName (insertSorted n v vs) := by
  induction vs with
  | nil => simp [insertSorted, SortedByName]
  | cons entry rest ih =>
    obtain ⟨m, w⟩ := entry
    rw [SortedByName, List.pairwise_cons] at h
    unfold insertSorted
    split
    · next hnm =>
      have hnm : n = m := by simpa using hnm
      subst hnm
      exact List.pairwise_cons.mpr h
    · split
      · next hlt =>
        refine List.pairwise_cons.mpr ⟨fun e he => ?_, List.pairwise_cons.mpr h⟩
        rcases List.mem_cons.mp he with rfl | he
        · exact hlt
        · exact lt_trans hlt (h.1 e he)
      · next hnm hlt =>
        have hgt : m < n := by
          rcases lt_trichotomy m n with h' | h' | h'
          · exact h'
          · exact absurd h'.symm (by simpa using hnm)
          · exact absurd h' hlt
        refine List.pairwise_cons.mpr ⟨fun e he => ?_, ih h.2⟩
        rcases mem_insertSorted he with rfl | he
        · exact hgt
        · exact h.1 e he

theorem lookup_eq_none_of_lt {k : String} {vs : List (String × Value)} (h : ∀ e ∈ vs, k < e.1) :
    vs.lookup k = none := by
  induction vs with
  | nil => rfl
  | cons entry rest ih =>
    obtain ⟨m, w⟩ := entry
    have hk : k ≠ m := ne_of_lt (h _ List.mem_cons_self)
    rw [lookup_cons, if_neg hk, ih fun e he => h e (List.mem_cons_of_mem _ he)]

/-- Two strictly sorted value lists with the same lookups are equal. -/
theorem eq_of_lookup {vs ws : List (String × Value)} (hv : SortedByName vs) (hw : SortedByName ws)
    (h : ∀ k, vs.lookup k = ws.lookup k) : vs = ws := by
  induction vs generalizing ws with
  | nil =>
    cases ws with
    | nil => rfl
    | cons e ws =>
      obtain ⟨b, y⟩ := e
      have := h b
      simp at this
  | cons e vs ih =>
    cases ws with
    | nil =>
      obtain ⟨a, x⟩ := e
      have := h a
      simp at this
    | cons f ws =>
      obtain ⟨a, x⟩ := e
      obtain ⟨b, y⟩ := f
      rw [SortedByName, List.pairwise_cons] at hv hw
      have hab : a = b := by
        rcases lt_trichotomy a b with hlt | heq | hgt
        · have := h a
          rw [lookup_cons, lookup_cons, if_pos rfl, if_neg (ne_of_lt hlt),
            lookup_eq_none_of_lt fun e he => lt_trans hlt (hw.1 e he)] at this
          exact absurd this (by simp)
        · exact heq
        · have := h b
          rw [lookup_cons, lookup_cons, if_pos rfl, if_neg (ne_of_lt hgt),
            lookup_eq_none_of_lt fun e he => lt_trans hgt (hv.1 e he)] at this
          exact absurd this (by simp)
      subst hab
      have hxy : x = y := by simpa [lookup_cons] using h a
      subst hxy
      have hRest : ∀ k, vs.lookup k = ws.lookup k := by
        intro k
        by_cases hk : k = a
        · subst hk
          rw [lookup_eq_none_of_lt hv.1, lookup_eq_none_of_lt hw.1]
        · simpa [lookup_cons, hk] using h k
      rw [ih hv.2 hw.2 hRest]

@[simp]
theorem values_set (r : Resource) (n : String) (v : Value) :
    (r.set n v).values = insertSorted n v r.values := rfl

@[simp]
theorem ns_set (r : Resource) (n : String) (v : Value) : (r.set n v).ns = r.ns := rfl

@[simp]
theorem typeName_set (r : Resource) (n : String) (v : Value) : (r.set n v).typeName = r.typeName := rfl

@[simp]
theorem identifierField_set (r : Resource) (n : String) (v : Value) :
    (r.set n v).identifierField = r.identifierField := rfl

@[simp]
theorem get?_set (r : Resource) (n k : String) (v : Value) :
    (r.set n v).get? k = if k = n then some v else r.get? k := by
  simp [get?]

theorem contains_eq_true_iff (r : Resource) (k : String) : r.contains k = true ↔ (r.get? k).isSome := by
  rw [contains, get?, List.lookup_isSome_iff, List.any_eq_true]
  constructor
  · rintro ⟨e, he, hk⟩
    exact ⟨e, he, by rw [beq_iff_eq] at hk ⊢; exact hk.symm⟩
  · rintro ⟨e, he, hk⟩
    exact ⟨e, he, by rw [beq_iff_eq] at hk ⊢; exact hk.symm⟩

theorem mem_values_of_get? {r : Resource} {k : String} {v : Value} (h : r.get? k = some v) :
    (k, v) ∈ r.values := by
  obtain ⟨l₁, l₂, hl, -⟩ := List.lookup_eq_some_iff.mp h
  rw [hl]
  simp

@[simp] theorem ns_new (ns typeName : String) (field : Option String) : (Resource.new ns typeName field).ns = ns := rfl
@[simp] theorem typeName_new (ns typeName : String) (field : Option String) :
    (Resource.new ns typeName field).typeName = typeName := rfl
@[simp] theorem identifierField_new (ns typeName : String) (field : Option String) :
    (Resource.new ns typeName field).identifierField = field := rfl
@[simp] theorem get?_new (ns typeName : String) (field : Option String) (k : String) :
    (Resource.new ns typeName field).get? k = none := rfl

theorem sortedByName_set {r : Resource} (h : SortedByName r.values) (n : String) (v : Value) :
    SortedByName (r.set n v).values := by
  rw [values_set]
  exact sortedByName_insertSorted n v h

/-- `r₁` is `r` with values added under keys that satisfy `added`: the class and
identifying field stay, and the values stay sorted. -/
structure Grows (r r₁ : Resource) (added : String → Prop) : Prop where
  ns : r₁.ns = r.ns
  typeName : r₁.typeName = r.typeName
  identifierField : r₁.identifierField = r.identifierField
  sorted : SortedByName r.values → SortedByName r₁.values
  keys : ∀ k, (r₁.get? k).isSome → (r.get? k).isSome ∨ added k

variable {r r₁ : Resource} {added : String → Prop}

theorem Grows.refl (r : Resource) (added : String → Prop) : Grows r r added :=
  ⟨rfl, rfl, rfl, id, fun _ h => .inl h⟩

theorem Grows.set (hg : Grows r r₁ added) {n : String} (hn : added n) (v : Value) :
    Grows r (r₁.set n v) added where
  ns := hg.ns
  typeName := hg.typeName
  identifierField := hg.identifierField
  sorted := fun h => sortedByName_set (hg.sorted h) n v
  keys := by
    intro k hk
    rw [get?_set] at hk
    by_cases hkn : k = n
    · exact .inr (hkn ▸ hn)
    · rw [if_neg hkn] at hk
      exact hg.keys k hk

theorem Grows.mono (hg : Grows r r₁ added) {added' : String → Prop} (h : ∀ k, added k → added' k) :
    Grows r r₁ added' :=
  ⟨hg.ns, hg.typeName, hg.identifierField, hg.sorted, fun k hk => (hg.keys k hk).imp_right (h k)⟩

theorem Grows.trans {r₂ : Resource} (h₁ : Grows r r₁ added) (h₂ : Grows r₁ r₂ added) : Grows r r₂ added where
  ns := h₂.ns.trans h₁.ns
  typeName := h₂.typeName.trans h₁.typeName
  identifierField := h₂.identifierField.trans h₁.identifierField
  sorted := fun h => h₂.sorted (h₁.sorted h)
  keys := fun k hk => (h₂.keys k hk).elim (h₁.keys k) .inr

theorem ext {r s : Resource} (hns : r.ns = s.ns) (htype : r.typeName = s.typeName)
    (hfield : r.identifierField = s.identifierField) (hvalues : r.values = s.values) : r = s := by
  cases r; cases s
  simp_all [ns, typeName, identifierField, values]

end Resource

end DomainModels
