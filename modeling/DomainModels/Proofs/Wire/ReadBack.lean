import Mathlib
import DomainModels.Proofs.Wire.Canonical
/-! Reading back what was written, piece by piece: the writer's and reader's loops, the fields of a
JSON object, and primitive values. -/

namespace DomainModels.Wire

open Time

/-! ### Computations that succeed -/

theorem writing_bind_eq_ok {α β : Type} {x : Writing α} {f : α → Writing β} {s s' : List String} {b : β} :
    (x >>= f).run s = .ok (b, s') ↔ ∃ a s₁, x.run s = .ok (a, s₁) ∧ (f a).run s₁ = .ok (b, s') := by
  rw [StateT.run_bind]
  cases h : x.run s with
  | error e => simp [bind, Except.bind]
  | ok p =>
    obtain ⟨a, s₁⟩ := p
    simp [bind, Except.bind]

theorem writing_lift_eq_ok {α : Type} {x : Outcome α} {s s' : List String} {a : α} :
    (Writing.lift x).run s = .ok (a, s') ↔ x = .ok a ∧ s' = s := by
  cases x with
  | error e =>
    constructor
    · intro h; cases h
    · rintro ⟨h, -⟩; cases h
  | ok b =>
    constructor
    · intro h; cases h; exact ⟨rfl, rfl⟩
    · rintro ⟨h, rfl⟩; cases h; rfl

theorem outcome_ok_bind {α β : Type} (a : α) (f : α → Outcome β) : (Except.ok a >>= f : Outcome β) = f a := rfl

/-- A loop of the writer that succeeds went through every element of `l` keeping the
invariant, which may depend on the elements done so far. -/
theorem writing_forIn_inv {α β : Type} (l : List α) (f : α → β → Writing (ForInStep β))
    (inv : List α → β → Prop)
    (hStep : ∀ done a rest b s res s', done ++ a :: rest = l → inv done b →
      (f a b).run s = .ok (res, s') → ∃ b', res = .yield b' ∧ inv (done ++ [a]) b')
    {b : β} {s : List String} {out : β} {s' : List String} (hInit : inv [] b)
    (h : (forIn l b f).run s = .ok (out, s')) : inv l out := by
  suffices ∀ rest done b s, done ++ rest = l → inv done b → (forIn rest b f).run s = .ok (out, s') →
      inv l out from this l [] b s rfl hInit h
  intro rest
  induction rest with
  | nil =>
    intro done b s hl hInv h
    simp only [List.forIn_nil, StateT.run_pure] at h
    cases h
    simpa [← hl] using hInv
  | cons a rest ih =>
    intro done b s hl hInv h
    rw [List.forIn_cons, writing_bind_eq_ok] at h
    obtain ⟨res, s₁, hRes, hRest⟩ := h
    obtain ⟨b', rfl, hInv'⟩ := hStep done a rest b s res s₁ hl hInv hRes
    exact ih (done ++ [a]) b' s₁ (by simpa using hl) hInv' hRest

/-- A loop of the reader succeeds when every step keeps going and keeps the invariant. -/
theorem outcome_forIn_of_step {α β : Type} (l : List α) (f : α → β → Outcome (ForInStep β))
    (inv : List α → β → Prop)
    (hStep : ∀ done a rest b, done ++ a :: rest = l → inv done b →
      ∃ b', f a b = .ok (.yield b') ∧ inv (done ++ [a]) b')
    {b : β} (hInit : inv [] b) : ∃ out, forIn l b f = .ok out ∧ inv l out := by
  suffices ∀ rest done b, done ++ rest = l → inv done b → ∃ out, forIn rest b f = .ok out ∧ inv l out from
    this l [] b rfl hInit
  intro rest
  induction rest with
  | nil => intro done b hl hInv; exact ⟨b, rfl, by simpa [← hl] using hInv⟩
  | cons a rest ih =>
    intro done b hl hInv
    obtain ⟨b', hb', hInv'⟩ := hStep done a rest b hl hInv
    obtain ⟨out, hOut, hInvOut⟩ := ih (done ++ [a]) b' (by simpa using hl) hInv'
    refine ⟨out, ?_, hInvOut⟩
    rw [List.forIn_cons, hb']
    exact hOut

/-- A reader's loop followed by more reading succeeds when every step keeps going and keeps
the invariant, and what follows succeeds from any result with the invariant. -/
theorem outcome_forIn_bind {α β γ : Type} (l : List α) (f : α → β → Outcome (ForInStep β)) (g : β → Outcome γ)
    (inv : List α → β → Prop) {b : β} {c : γ}
    (hStep : ∀ done a rest b, done ++ a :: rest = l → inv done b →
      ∃ b', f a b = .ok (.yield b') ∧ inv (done ++ [a]) b')
    (hInit : inv [] b) (hRest : ∀ out, inv l out → g out = .ok c) : (forIn l b f >>= g) = .ok c := by
  obtain ⟨out, hOut, hInv⟩ := outcome_forIn_of_step l f inv hStep hInit
  rw [hOut, outcome_ok_bind]
  exact hRest out hInv

/-- A writer's map over a list that succeeds relates each element to its image, each written
from some state. -/
theorem writing_mapM_ok {α β : Type} {f : α → Writing β} :
    ∀ {l : List α} {s s' : List String} {out : List β}, (l.mapM f).run s = .ok (out, s') →
      List.Forall₂ (fun a b => ∃ s₁ s₂, (f a).run s₁ = .ok (b, s₂)) l out
  | [], s, s', out, h => by
    simp only [List.mapM_nil, StateT.run_pure] at h
    cases h
    exact .nil
  | a :: l, s, s', out, h => by
    rw [List.mapM_cons, writing_bind_eq_ok] at h
    obtain ⟨b, s₁, hb, h⟩ := h
    rw [writing_bind_eq_ok] at h
    obtain ⟨bs, s₂, hbs, h⟩ := h
    cases h
    exact .cons ⟨s, s₁, hb⟩ (writing_mapM_ok hbs)

/-- A reader's map over a list succeeds when each element reads as its partner. -/
theorem outcome_mapM_ok {α β : Type} {g : α → Outcome β} :
    ∀ {vs : List β} {js : List α}, List.Forall₂ (fun v j => g j = .ok v) vs js → js.mapM g = .ok vs
  | [], [], .nil => rfl
  | v :: vs, j :: js, .cons hHead hTail => by
    rw [List.mapM_cons, hHead, outcome_ok_bind, outcome_mapM_ok hTail]
    rfl

/-! ### Numbered items -/

theorem forall₂_of_zipIdx {α β : Type} {R : α × Nat → β → Prop} :
    ∀ {l : List α} {n : Nat} {out : List β}, List.Forall₂ R (l.zipIdx n) out →
      List.Forall₂ (fun a b => ∃ i, R (a, i) b) l out
  | [], _, _, h => by simpa using h
  | a :: l, n, out, h => by
    rw [List.zipIdx_cons] at h
    cases h with
    | cons hHead hTail => exact .cons ⟨n, hHead⟩ (forall₂_of_zipIdx hTail)

theorem outcome_mapM_zipIdx {α β : Type} {g : α × Nat → Outcome β} :
    ∀ {vs : List β} {js : List α} {n : Nat}, List.Forall₂ (fun v j => ∀ i, g (j, i) = .ok v) vs js →
      (js.zipIdx n).mapM g = .ok vs
  | [], [], _, .nil => rfl
  | v :: vs, j :: js, n, .cons hHead hTail => by
    rw [List.zipIdx_cons, List.mapM_cons, hHead n, outcome_ok_bind, outcome_mapM_zipIdx hTail]
    rfl

end DomainModels.Wire

namespace DomainModels.Wire

open Time

/-! ### Object fields -/

theorem fieldsGet?_eq (fs : List (String × Json)) (k : String) :
    Json.fieldsGet? fs k = (fs.find? (·.1 == k)).map (·.2) := by
  unfold Json.fieldsGet?
  cases List.find? (fun field => field.1 == k) fs <;> rfl

theorem fieldsGet?_fieldsInsert (fs : List (String × Json)) (k k' : String) (v : Json) :
    Json.fieldsGet? (Json.fieldsInsert fs k v) k' = if k' = k then some v else Json.fieldsGet? fs k' := by
  rw [fieldsGet?_eq, fieldsGet?_eq]
  unfold Json.fieldsInsert
  by_cases hAny : (fs.any fun field => field.1 == k) = true
  · rw [if_pos hAny, List.find?_map]
    by_cases hk : k' = k
    · subst hk
      have hPred : ((fun field : String × Json => field.1 == k') ∘
          fun field => if (field.1 == k') = true then (k', v) else field) = fun field => field.1 == k' := by
        funext field
        by_cases h : field.1 = k' <;> simp [h]
      rw [hPred]
      obtain ⟨y, hy, hyk⟩ := List.any_eq_true.mp hAny
      obtain ⟨x, hx⟩ := Option.isSome_iff_exists.mp
        (List.find?_isSome (p := fun field : String × Json => field.1 == k') |>.mpr ⟨y, hy, hyk⟩)
      have hxk : x.1 = k' := by simpa using List.find?_some hx
      rw [hx]
      simp [hxk]
    · have hPred : ((fun field : String × Json => field.1 == k') ∘
          fun field => if (field.1 == k) = true then (k, v) else field) = fun field => field.1 == k' := by
        funext field
        by_cases h : field.1 = k
        · simp [h]
        · simp [h]
      rw [hPred, if_neg hk]
      cases hx : List.find? (fun field => field.1 == k') fs with
      | none => rfl
      | some x =>
        have hxk : x.1 = k' := by simpa using List.find?_some hx
        have : x.1 ≠ k := by rw [hxk]; exact hk
        simp [this]
  · rw [if_neg hAny, List.find?_append]
    by_cases hk : k' = k
    · subst hk
      rw [List.find?_eq_none.mpr fun x hx hp => hAny (List.any_eq_true.mpr ⟨x, hx, hp⟩)]
      simp
    · rw [if_neg hk]
      cases List.find? (fun field => field.1 == k') fs with
      | none => simp [Ne.symm hk]
      | some x => rfl

theorem mem_fieldsInsert {fs : List (String × Json)} {k : String} {v : Json} {e : String × Json}
    (h : e ∈ Json.fieldsInsert fs k v) : e ∈ fs ∨ e = (k, v) := by
  unfold Json.fieldsInsert at h
  split at h
  · obtain ⟨e', he', rfl⟩ := List.mem_map.mp h
    split
    · exact .inr rfl
    · exact .inl he'
  · simpa using h

theorem mem_of_fieldsGet? {fs : List (String × Json)} {k : String} {j : Json}
    (h : Json.fieldsGet? fs k = some j) : (k, j) ∈ fs := by
  unfold Json.fieldsGet? at h
  split at h
  · next x hx =>
    cases h
    have hk : x.1 = k := by simpa using List.find?_some hx
    have := List.mem_of_find?_eq_some hx
    rwa [← hk]
  · cases h

theorem jsonSize_le_fieldSizes {fs : List (String × Json)} {k : String} {j : Json} (h : (k, j) ∈ fs) :
    jsonSize j ≤ jsonSize.fieldSizes fs := by
  induction fs with
  | nil => cases h
  | cons f rest ih =>
    obtain ⟨k', j'⟩ := f
    rw [jsonSize.fieldSizes]
    rcases List.mem_cons.mp h with h | h
    · cases h; omega
    · have := ih h; omega

theorem jsonSize_le_sizes {items : List Json} {j : Json} (h : j ∈ items) : jsonSize j ≤ jsonSize.sizes items := by
  induction items with
  | nil => cases h
  | cons i rest ih =>
    rw [jsonSize.sizes]
    rcases List.mem_cons.mp h with rfl | h
    · omega
    · have := ih h; omega

end DomainModels.Wire

namespace DomainModels

/-- A number passes its bounds whatever path the failure would name. -/
theorem NumberValidator.validate_path {v : NumberValidator} {path : String} {x : Float}
    (h : v.validate path x = .ok ()) (path' : String) : v.validate path' x = .ok () := by
  unfold NumberValidator.validate at h ⊢
  cases hl : v.lower <;> cases hu : v.upper <;> simp only [hl, hu] at h ⊢ <;>
    (try split_ifs at h ⊢) <;> first | rfl | (simp [bind, Except.bind, throw, throwThe] at h)

/-- A text passes its length bounds and pattern whatever path the failure would name. -/
theorem StringValidator.validate_path {v : StringValidator} {path : String} {x : String}
    (h : v.validate path x = .ok ()) (path' : String) : v.validate path' x = .ok () := by
  unfold StringValidator.validate at h ⊢
  cases hl : v.minLength <;> cases hu : v.maxLength <;> cases hr : v.regex <;>
    simp only [hl, hu, hr] at h ⊢ <;> (try split_ifs at h ⊢) <;>
    first | rfl | (simp [bind, Except.bind, throw, throwThe] at h)

end DomainModels

namespace DomainModels.Wire

open Time

/-- A value passes the checks of its field whatever path a failure would name. -/
theorem checkPrimitive_path {field : Field} {prim : PrimitiveType} {v : Value} {path : Path}
    (h : checkPrimitive field prim v path = .ok ()) (path' : Path) : checkPrimitive field prim v path' = .ok () := by
  unfold checkPrimitive at h ⊢
  cases prim <;> cases v <;> simp only at h ⊢
  all_goals first
    | rfl
    | cases h
    | (cases hv : field.validator with
        | none => rfl
        | some val =>
          cases val with
          | number nv =>
            simp only [hv] at h ⊢
            all_goals exact NumberValidator.validate_path h _
          | string sv =>
            simp only [hv] at h ⊢
            all_goals exact StringValidator.validate_path h _)

end DomainModels.Wire

namespace DomainModels.Wire

open Time

theorem integral?_ofInt {i : Int} (hLow : Number.i64Min ≤ i) (hHigh : i ≤ Number.i64Max) :
    integral? (Json.ofInt i) = some i := by
  simp [integral?, Json.ofInt, Json.i64?, Number.toI64?, hLow, hHigh]

/-- A primitive value is read back from what is written for it, its DateTime in UTC. -/
theorem decodePrimitive_encodePrimitive {field : Field} {prim : PrimitiveType} {v : Value} {path : Path}
    {j : Json} (hv : PrimitiveValue prim v) (h : encodePrimitive {} field prim v path = .ok j)
    (path' : Path) : decodePrimitive {} field prim j path' = .ok v.atUtc := by
  obtain ⟨u, hCheck, hj⟩ := Outcome.bind_eq_ok.mp h
  have hCheck' : checkPrimitive field prim v path' = .ok () := checkPrimitive_path hCheck path'
  cases hv with
  | string s =>
    cases hj
    simp [decodePrimitive, Json.str?, hCheck']
  | boolean b =>
    cases hj
    simp [decodePrimitive, Json.bool?, hCheck']
  | integer hLow hHigh =>
    cases hj
    simp [decodePrimitive, integral?_ofInt hLow hHigh, hCheck']
  | long hLow hHigh =>
    cases hj
    simp [decodePrimitive, integral?_ofInt hLow hHigh, hCheck']
  | double f =>
    simp only at hj
    split at hj
    · cases hj
      simp [decodePrimitive, Json.f64?, Json.ofFloat, Number.toFloat, hCheck']
    · cases hj
  | dateTime hExact =>
    cases hj
    simp [decodePrimitive, Json.str?, parseDateTime_formatDateTime_zero hExact, checkPrimitive]

end DomainModels.Wire
