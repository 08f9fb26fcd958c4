import Mathlib
import DomainModels.Proofs.Wire.Writer
/-! When the writer succeeds: each writer function gives JSON for a value of its declared shape at
every fuel that covers the value's size (`ResourceWritable` and its siblings). -/

namespace DomainModels

/-! ### Sizes -/

theorem Value.one_le_size (v : Value) : 1 ≤ v.size := by
  cases v <;> simp only [Value.size] <;> omega

theorem size_le_sizeOfItems {items : List Value} {v : Value} (h : v ∈ items) : v.size ≤ sizeOfItems items := by
  induction items with
  | nil => cases h
  | cons u rest ih =>
    rw [sizeOfItems]
    rcases List.mem_cons.1 h with rfl | h
    · omega
    · have := ih h
      omega

theorem size_le_sizeOfEntries {entries : List (Value × Value)} {e : Value × Value} (h : e ∈ entries) :
    e.1.size + e.2.size ≤ sizeOfEntries entries := by
  induction entries with
  | nil => cases h
  | cons u rest ih =>
    obtain ⟨k, v⟩ := u
    rw [sizeOfEntries]
    rcases List.mem_cons.1 h with rfl | h
    · exact Nat.le_add_right _ _
    · have := ih h
      omega

theorem size_le_sizeOfFields {fields : List (String × Value)} {e : String × Value} (h : e ∈ fields) :
    e.2.size ≤ sizeOfFields fields := by
  induction fields with
  | nil => cases h
  | cons u rest ih =>
    obtain ⟨n, v⟩ := u
    rw [sizeOfFields]
    rcases List.mem_cons.1 h with rfl | h
    · exact Nat.le_add_right _ _
    · have := ih h
      omega

theorem Resource.one_le_size (r : Resource) : 1 ≤ r.size := by
  cases r
  rw [Resource.size]
  omega

/-- A value of an instance is smaller than the instance. -/
theorem Resource.size_lt_of_get? {r : Resource} {k : String} {v : Value} (h : r.get? k = some v) :
    v.size < r.size := by
  have hMem := Resource.mem_values_of_get? h
  cases r with
  | mk ns typeName field vs =>
    have hLe := size_le_sizeOfFields hMem
    rw [Resource.size]
    exact Nat.lt_of_le_of_lt hLe (Nat.lt_one_add_iff.2 le_rfl)

end DomainModels

namespace DomainModels.Wire

/-! ### Computations of the writer that succeed -/

/-- A computation of the writer that gives a result from every record of identities written
so far. -/
def Writing.Succeeds {α : Type} (x : Writing α) : Prop := ∀ s, ∃ a s', x.run s = .ok (a, s')

namespace Writing.Succeeds

variable {α β : Type}

theorem pure (a : α) : (Pure.pure a : Writing α).Succeeds := fun s => ⟨a, s, rfl⟩

theorem bind {x : Writing α} {f : α → Writing β} (hx : x.Succeeds) (hf : ∀ a, (f a).Succeeds) :
    (x >>= f).Succeeds := by
  intro s
  obtain ⟨a, s₁, ha⟩ := hx s
  obtain ⟨b, s', hb⟩ := hf a s₁
  exact ⟨b, s', writing_bind_eq_ok.2 ⟨a, s₁, ha, hb⟩⟩

/-- Lifting an outcome that succeeds: what follows runs on its value. -/
theorem lift_bind {o : Outcome α} {a : α} {f : α → Writing β} (ho : o = .ok a) (hf : (f a).Succeeds) :
    (Writing.lift o >>= f).Succeeds := by
  intro s
  obtain ⟨b, s', hb⟩ := hf s
  exact ⟨b, s', writing_bind_eq_ok.2 ⟨a, s, writing_lift_eq_ok.2 ⟨ho, rfl⟩, hb⟩⟩

theorem lift {o : Outcome α} {a : α} (ho : o = .ok a) : (Writing.lift o).Succeeds :=
  fun s => ⟨a, s, writing_lift_eq_ok.2 ⟨ho, rfl⟩⟩

/-- A loop succeeds when each of its steps does, from every accumulated value. -/
theorem forIn {l : List α} {f : α → β → Writing (ForInStep β)} (hStep : ∀ a ∈ l, ∀ b, (f a b).Succeeds) :
    ∀ b, (ForIn.forIn l b f).Succeeds := by
  induction l with
  | nil => exact fun b => Succeeds.pure b
  | cons a rest ih =>
    intro b
    rw [List.forIn_cons]
    refine Succeeds.bind (hStep a List.mem_cons_self b) fun step => ?_
    cases step with
    | done b' => exact Succeeds.pure b'
    | yield b' => exact ih (fun x hx => hStep x (List.mem_cons_of_mem _ hx)) b'

/-- A map over a list succeeds when it does on each element. -/
theorem mapM {l : List α} {f : α → Writing β} (h : ∀ a ∈ l, (f a).Succeeds) : (l.mapM f).Succeeds := by
  induction l with
  | nil => exact Succeeds.pure []
  | cons a rest ih =>
    rw [List.mapM_cons]
    exact Succeeds.bind (h a List.mem_cons_self) fun b =>
      Succeeds.bind (ih fun x hx => h x (List.mem_cons_of_mem _ hx)) fun bs => Succeeds.pure (b :: bs)

end Writing.Succeeds

open Writing

/-! ### Leaves -/

/-- A value that passes its primitive check is written, unless it is a Double that is not
finite. -/
theorem encodePrimitive_of_check {field : Field} {prim : PrimitiveType} {v : Value} {path : Path}
    (hCheck : checkPrimitive field prim v path = .ok ()) (hFinite : ∀ d, v = .double d → d.isFinite = true) :
    ∃ j, encodePrimitive {} field prim v path = .ok j := by
  unfold encodePrimitive
  rw [if_pos rfl, hCheck, outcome_ok_bind]
  cases v with
  | string s | enum s => exact ⟨_, rfl⟩
  | boolean b => exact ⟨_, rfl⟩
  | integer i | long i => exact ⟨_, rfl⟩
  | double d =>
    simp only
    rw [if_pos (hFinite d rfl)]
    exact ⟨_, rfl⟩
  | dateTime t => exact ⟨_, rfl⟩
  | array _ | map _ | concept _ | relationship _ =>
    cases prim <;> simp [checkPrimitive] at hCheck

/-- The class check passes an instance of a concrete class, assignable to the declared type,
whose values are all of declared properties. -/
theorem checkInstance_of (registry : Registry) {c : ResolvedClass} {r : Resource} {declared : Option String}
    (hAbs : c.isAbstract = false)
    (hAssign : ∀ d, declared = some d → registry.index.isAssignable r.fullyQualifiedType d = true)
    (hKeys : ∀ e ∈ r.values, (c.property? e.1).isSome) (path : Path) :
    checkInstance registry c r declared path = .ok () := by
  have hFind : r.values.find? (fun e => (c.property? e.1).isNone) = none := by
    refine List.find?_eq_none.2 fun e he hNone => ?_
    have hSome := hKeys e he
    rw [Option.isNone_iff_eq_none.1 hNone] at hSome
    cases hSome
  unfold checkInstance
  dsimp only
  rw [if_neg (by simp [hAbs])]
  cases declared with
  | none =>
    dsimp only
    rw [hFind]
    rfl
  | some d =>
    dsimp only
    rw [if_neg (by simp [hAssign d rfl]), hFind]
    rfl

section Writable

variable (registry : Registry)

/-- The writer gives some JSON for the instance, as one of any type its class is assignable
to, at every fuel that covers four times its size. -/
def ResourceWritable (r : Resource) : Prop :=
  ∀ fuel declared path, 4 * r.size ≤ fuel →
    (∀ d, declared = some d → registry.index.isAssignable r.fullyQualifiedType d = true) →
    (encodeResource registry {} fuel r declared path).Succeeds

/-- The writer gives some JSON for the value of the property. -/
def PropertyWritable (p : ResolvedProperty) (v : Value) : Prop :=
  ∀ fuel path, 4 * v.size + 1 ≤ fuel → (encodeProperty registry {} fuel p v path).Succeeds

/-- The writer gives some JSON for the item of the property. -/
def ItemWritable (p : ResolvedProperty) (v : Value) : Prop :=
  ∀ fuel path, 4 * v.size ≤ fuel → (encodeItem registry {} fuel p v path).Succeeds

/-- The writer gives some JSON for the entries of a map of the declared map type. -/
def MapWritable (target : String) (entries : List (Value × Value)) : Prop :=
  ∀ fuel path, 4 * sizeOfEntries entries + 3 ≤ fuel → (encodeMap registry {} fuel target entries path).Succeeds

variable {registry} {p : ResolvedProperty} {v : Value}

theorem itemWritable_relationship {rel : Relationship} (hRel : p.isRelationship = true)
    (hAssign : registry.index.isAssignable rel.fullyQualifiedType (p.targetFqn?.getD "") = true) :
    ItemWritable registry p (.relationship rel) := by
  intro fuel path hFuel
  obtain ⟨fuel, rfl⟩ : ∃ k, fuel = k + 2 := ⟨fuel - 2, by simp only [Value.size] at hFuel; omega⟩
  rw [encodeItem_relationship hRel, encodeRelationship]
  dsimp only
  rw [if_neg (by simp [hAssign])]
  exact Succeeds.pure _

theorem itemWritable_primitive {field : Field} {prim : PrimitiveType} (hRel : p.isRelationship = false)
    (hField : p.effectiveField? = some field) (hPrim : field.primitive? = some prim)
    (hCheck : ∀ path, checkPrimitive field prim v path = .ok ()) (hFinite : ∀ d, v = .double d → d.isFinite = true) :
    ItemWritable registry p v := by
  intro fuel path hFuel
  obtain ⟨fuel, rfl⟩ : ∃ k, fuel = k + 1 := ⟨fuel - 1, by have := v.one_le_size; omega⟩
  rw [encodeItem_primitive hRel hField hPrim]
  obtain ⟨j, hj⟩ := encodePrimitive_of_check (hCheck path) hFinite
  exact Succeeds.lift hj

/-- An item of a declared type is written: an embedded instance of an assignable class that
is itself written, a declared value of an enumeration, or a map whose entries are written. -/
theorem itemWritable_declared {target : String} (hRel : p.isRelationship = false) (hPrim : p.primitive? = none)
    (hTarget : p.targetFqn? = some target)
    (hKind : (∃ cd r, registry.getType target = .ok (.cls cd) ∧ v = .concept r ∧
        registry.index.isAssignable r.fullyQualifiedType target = true ∧ ResourceWritable registry r) ∨
      (∃ e n, registry.getType target = .ok (.enum e) ∧ v = .enum n ∧ e.hasValue n = true) ∨
      (∃ md entries, registry.getType target = .ok (.map md) ∧ v = .map entries ∧ MapWritable registry target entries)) :
    ItemWritable registry p v := by
  intro fuel path hFuel
  obtain ⟨fuel, rfl⟩ : ∃ k, fuel = k + 1 := ⟨fuel - 1, by have := v.one_le_size; omega⟩
  rw [encodeItem]
  dsimp only
  rw [if_neg (by simp [hRel])]
  rcases ResolvedProperty.primitive?_eq_none hPrim with hf | ⟨field, hf, hfp⟩
  on_goal 1 => simp only [hf, hTarget]
  on_goal 2 => simp only [hf, hfp, hTarget]
  all_goals
    rcases hKind with ⟨cd, r, hType, rfl, hAssign, hr⟩ | ⟨e, n, hType, rfl, hHas⟩ | ⟨md, entries, hType, rfl, hm⟩
    · refine Succeeds.lift_bind hType ?_
      dsimp only
      rw [if_neg Bool.false_ne_true]
      simp only [Value.size] at hFuel
      exact hr fuel (some target) path (by omega) fun d hd => by cases hd; exact hAssign
    · refine Succeeds.lift_bind hType ?_
      dsimp only
      rw [pure_bind, if_neg (by simp [hHas])]
      exact Succeeds.pure _
    · refine Succeeds.lift_bind hType ?_
      dsimp only
      simp only [Value.size] at hFuel
      exact hm fuel path (by omega)

theorem propertyWritable_single (hArr : p.isArray = false) (h : ItemWritable registry p v) :
    PropertyWritable registry p v := by
  intro fuel path hFuel
  obtain ⟨fuel, rfl⟩ : ∃ k, fuel = k + 1 := ⟨fuel - 1, by omega⟩
  rw [encodeProperty.eq_def]
  dsimp only
  rw [if_pos (by simp [hArr])]
  exact h fuel path (by omega)

theorem propertyWritable_array {items : List Value} (hArr : p.isArray = true)
    (h : ∀ u ∈ items, ItemWritable registry p u) : PropertyWritable registry p (.array items) := by
  intro fuel path hFuel
  obtain ⟨fuel, rfl⟩ : ∃ k, fuel = k + 1 := ⟨fuel - 1, by omega⟩
  rw [encodeProperty.eq_def]
  dsimp only
  rw [if_neg (by simp [hArr])]
  refine Succeeds.bind (Succeeds.mapM fun e he => ?_) fun _ => Succeeds.pure _
  have hItem := List.fst_mem_of_mem_zipIdx he
  have hSize := size_le_sizeOfItems hItem
  simp only [Value.size] at hFuel
  exact h e.1 hItem fuel _ (by omega)

/-- The entries of a map are written when each key is written as a text and each value is
written as an item of the map's value type. -/
theorem mapWritable {target : String} {entries : List (Value × Value)} {m : ResolvedMap} {keyField : Field}
    {keyPrim : PrimitiveType} (hMap : registry.resolvedMap target = .ok m)
    (hKeyField : m.key.effectiveField? = some keyField) (hKeyPrim : keyField.primitive? = some keyPrim)
    (hKeys : ∀ e ∈ entries, ∀ path, ∃ t, encodePrimitive {} keyField keyPrim e.1 path = .ok (.string t))
    (hValues : ∀ e ∈ entries, ItemWritable registry m.value e.2) : MapWritable registry target entries := by
  intro fuel path hFuel
  obtain ⟨fuel, rfl⟩ : ∃ k, fuel = k + 1 := ⟨fuel - 1, by omega⟩
  rw [encodeMap]
  dsimp only
  refine Succeeds.lift_bind hMap ?_
  simp only [hKeyField, hKeyPrim]
  refine Succeeds.bind (Succeeds.forIn (fun e he out => ?_) _) fun _ => Succeeds.pure _
  obtain ⟨k, u⟩ := e
  obtain ⟨t, ht⟩ := hKeys (k, u) he path
  refine Succeeds.lift_bind ht ?_
  dsimp only
  have hSize := size_le_sizeOfEntries he
  have hKeySize := Value.one_le_size k
  exact Succeeds.bind (hValues (k, u) he fuel _ (by dsimp only at hSize ⊢; omega)) fun _ => Succeeds.pure _

/-- An instance is written when its class is concrete, its values are all of declared
properties, every required property has a value, and every value is written. -/
theorem resourceWritable {r : Resource} {c : ResolvedClass}
    (hClass : registry.resolvedClass r.fullyQualifiedType = .ok c) (hAbs : c.isAbstract = false)
    (hKeys : ∀ e ∈ r.values, (c.property? e.1).isSome)
    (hRequired : ∀ p ∈ c.properties, c.passesOver p.name = false → p.isOptional = false →
      (r.get? p.name).isSome)
    (hValues : ∀ p ∈ c.properties, c.passesOver p.name = false → ∀ v, r.get? p.name = some v →
      PropertyWritable registry p v) :
    ResourceWritable registry r := by
  intro fuel declared path hFuel hAssign
  obtain ⟨fuel, rfl⟩ : ∃ k, fuel = k + 1 := ⟨fuel - 1, by have := r.one_le_size; omega⟩
  rw [encodeResource]
  dsimp only
  refine Succeeds.lift_bind hClass ?_
  rw [if_pos rfl]
  refine Succeeds.lift_bind (checkInstance_of registry hAbs hAssign hKeys path) ?_
  split
  on_goal 1 =>
    refine Succeeds.bind (fun s => ⟨(), _, rfl⟩) fun _ => ?_
    rw [if_neg Bool.false_ne_true]
  all_goals
    refine Succeeds.bind (Succeeds.forIn (fun q hq out => ?_) _) fun _ => Succeeds.pure _
    by_cases hSkip : c.passesOver q.name = true
    · rw [if_pos (show (q.name == Names.identifierField && c.hasExplicitIdentifier) = true from hSkip)]
      split <;> exact Succeeds.pure _
    · rw [if_neg (show ¬ (q.name == Names.identifierField && c.hasExplicitIdentifier) = true from hSkip)]
      split
      · next hNone =>
        have hOpt : q.isOptional = true := by
          by_contra hOpt
          have hSome := hRequired q hq (by simpa using hSkip) (by simpa using hOpt)
          rw [hNone] at hSome
          cases hSome
        rw [if_neg (by simp [hOpt])]
        exact Succeeds.pure _
      · next u hu =>
        have hSize := Resource.size_lt_of_get? hu
        exact Succeeds.bind (hValues q hq (by simpa using hSkip) u hu fuel _ (by omega)) fun _ => Succeeds.pure _

end Writable

end DomainModels.Wire
