import Mathlib
import DomainModels.Json.Decode
import DomainModels.Error
/-! Reading records and variants back from the objects they are written as, and what a record's
fields inherit from their decoders (`Ensures`). -/
namespace DomainModels.Json


variable {α β : Type}

@[simp] theorem ok_bind {ε : Type} (a : α) (f : α → Except ε β) : (Except.ok a >>= f) = f a := rfl

@[simp] theorem map_ok {ε : Type} (a : α) (f : α → β) : (f <$> (Except.ok a : Except ε α)) = .ok (f a) := rfl

theorem map_eq_ok {ε : Type} {x : Except ε α} {f : α → β} {b : β} :
    f <$> x = .ok b ↔ ∃ a, x = .ok a ∧ f a = b := by
  cases x <;> simp [Functor.map, Except.map]

@[simp] theorem failure_ok (a : α) : failure (.ok a : Decoded α) = none := rfl

@[simp] theorem getD_map_some (v : Option α) : (v.map some).getD none = v := by
  cases v <;> rfl

/-! ### Object fields -/

@[simp] theorem fieldsGet?_nil (key : String) : fieldsGet? [] key = none := rfl

@[simp] theorem fieldsGet?_cons (k key : String) (v : Json) (rest : List (String × Json)) :
    fieldsGet? ((k, v) :: rest) key = if k = key then some v else fieldsGet? rest key := by
  by_cases h : k = key <;> simp [fieldsGet?, h]

@[simp] theorem fieldsGet?_append (a b : List (String × Json)) (key : String) :
    fieldsGet? (a ++ b) key = (fieldsGet? a key).or (fieldsGet? b key) := by
  induction a with
  | nil => rfl
  | cons p rest ih =>
    obtain ⟨k, v⟩ := p
    by_cases h : k = key <;> simp [h, ih]

/-! ### Scalars and containers written back -/

@[simp] theorem decodeString_string (s : String) : decodeString (.string s) = .ok s := rfl

@[simp] theorem decodeBool_bool (b : Bool) : decodeBool (.bool b) = .ok b := rfl

@[simp] theorem decodeF64_ofFloat (f : Float) : decodeF64 (ofFloat f) = .ok f := rfl

theorem decodeU32_ofInt {n : Nat} (h : n < 2 ^ 32) : decodeU32 (ofInt n) = .ok n := by
  simp only [decodeU32, ofInt]
  rw [if_pos (by simp only [Bool.and_eq_true, decide_eq_true_eq]; omega)]
  simp

/-- A signed 64-bit integer. -/
def IsI64 (i : Int) : Prop := Number.i64Min ≤ i ∧ i ≤ Number.i64Max

theorem decodeI64_ofInt {i : Int} (h : IsI64 i) : decodeI64 (ofInt i) = .ok i := by
  simp only [decodeI64, ofInt]
  rw [if_pos (by simp only [Bool.and_eq_true, decide_eq_true_eq]; exact h)]

theorem decodeOption_of_ne_null {dec : Json → Decoded α} {j : Json} (h : j ≠ .null) :
    decodeOption dec j = some <$> dec j := by
  cases j <;> first | exact absurd rfl h | rfl

/-- An optional field written when present reads back as itself, wrapped once more by the
record's lookup. -/
theorem mapM_decodeOption {dec : Json → Decoded α} {enc : α → Json} {v : Option α}
    (hne : ∀ x, enc x ≠ .null) (h : ∀ x ∈ v, dec (enc x) = .ok x) :
    (v.map enc).mapM (decodeOption dec) = .ok (v.map some) := by
  cases v with
  | none => rfl
  | some x => simp [decodeOption_of_ne_null (hne x), h x rfl]

@[simp] theorem mapM_decodeOption_string (v : Option String) :
    (v.map Json.string).mapM (decodeOption decodeString) = .ok (v.map some) :=
  mapM_decodeOption (fun _ => nofun) (fun _ _ => rfl)

@[simp] theorem mapM_decodeOption_bool (v : Option Bool) :
    (v.map Json.bool).mapM (decodeOption decodeBool) = .ok (v.map some) :=
  mapM_decodeOption (fun _ => nofun) (fun _ _ => rfl)

@[simp] theorem mapM_decodeOption_f64 (v : Option Float) :
    (v.map ofFloat).mapM (decodeOption decodeF64) = .ok (v.map some) :=
  mapM_decodeOption (fun _ => nofun) (fun _ _ => rfl)

theorem mapM_map_of_forall {dec : Json → Decoded α} {enc : α → Json} {xs : List α}
    (h : ∀ x ∈ xs, dec (enc x) = .ok x) : (xs.map enc).mapM dec = .ok xs := by
  induction xs with
  | nil => rfl
  | cons x rest ih =>
    simp only [List.map_cons, List.mapM_cons, h x List.mem_cons_self,
      ih fun y hy => h y (List.mem_cons_of_mem x hy)]
    rfl

theorem decodeList_array {dec : Json → Decoded α} {enc : α → Json} {xs : List α}
    (h : ∀ x ∈ xs, dec (enc x) = .ok x) : decodeList dec (.array (xs.map enc)) = .ok xs :=
  mapM_map_of_forall h

/-! ### Records written as objects -/

/-- The record a reader opens on an object: the declared keys present, with the positions they
were written at. -/
def Record.ofObject (expecting : String) (declared : List String) (fields : List (String × Json)) : Record :=
  { expecting, declared, positional := false, length := fields.length,
    present := ((List.range fields.length).zip fields).filterMap fun (i, k, v) =>
      if declared.contains k then some (k, v, i) else none }

@[simp] theorem Record.open_object (expecting : String) (declared : List String) (fields : List (String × Json)) :
    Record.open expecting declared (.object fields) = .ok (Record.ofObject expecting declared fields) := rfl

@[simp] theorem Record.declared_ofObject (expecting : String) (declared : List String) (fields : List (String × Json)) :
    (Record.ofObject expecting declared fields).declared = declared := rfl

@[simp] theorem Record.finish_ofObject (expecting : String) (declared : List String) (fields : List (String × Json)) :
    (Record.ofObject expecting declared fields).finish = .ok () := rfl

@[simp] theorem Record.required_ok (r : Record) (name : String) (v : α) :
    r.required name (.ok (some v)) = .ok v := rfl

@[simp] theorem Record.withDefault_ok (read : Option α) (d : α) :
    Record.withDefault (.ok read) d = .ok (read.getD d) := rfl

/-- A field is read from the value of the first entry of its name, if there is one. -/
theorem Record.field_eq (r : Record) (name : String) (dec : Json → Decoded α) :
    r.field name dec = ((r.present.find? (·.1 == name)).map (·.2.1)).mapM dec := by
  unfold Record.field
  cases r.present.find? (·.1 == name) with
  | none => rfl
  | some entry => rfl

theorem find?_present_object (fields : List (String × Json)) (s : Nat) {declared : List String} {name : String}
    (hn : name ∈ declared) :
    ((((List.range' s fields.length).zip fields).filterMap fun (i, k, v) =>
      if declared.contains k then some (k, v, i) else none).find? (·.1 == name)).map (·.2.1) =
      fieldsGet? fields name := by
  induction fields generalizing s with
  | nil => rfl
  | cons p rest ih =>
    obtain ⟨k, v⟩ := p
    rw [List.length_cons, List.range'_succ, List.zip_cons_cons, List.filterMap_cons, fieldsGet?_cons]
    by_cases hk : k = name
    · subst hk
      simp [hn]
    · rw [if_neg hk]
      by_cases hd : declared.contains k = true
      · simp only [if_pos hd]
        rw [List.find?_cons_of_neg (by simpa using hk)]
        exact ih (s + 1)
      · simp only [if_neg hd]
        exact ih (s + 1)

/-- A declared field of a record opened on an object is read from the object's value for it. -/
theorem Record.field_ofObject {name : String} {declared : List String} (hn : name ∈ declared)
    (expecting : String) (fields : List (String × Json)) (dec : Json → Decoded α) :
    (Record.ofObject expecting declared fields).field name dec = (fieldsGet? fields name).mapM dec := by
  rw [Record.field_eq]
  unfold Record.ofObject
  rw [List.range_eq_range', find?_present_object fields 0 hn]

/-- Every entry of an opened record has a declared name, written as an object or as an array. -/
theorem Record.mem_declared_of_open {expecting : String} {declared : List String} {j : Json} {r : Record}
    (h : Record.open expecting declared j = .ok r) : ∀ e ∈ r.present, e.1 ∈ declared := by
  unfold Record.open at h
  split at h
  · cases h
    intro e he
    simp only [List.mem_filterMap] at he
    obtain ⟨⟨i, k, v⟩, -, hk⟩ := he
    split at hk
    · next hd =>
      cases hk
      simpa using hd
    · cases hk
  · cases h
    intro e he
    simp only [List.mem_map] at he
    obtain ⟨⟨i, k, v⟩, hMem, rfl⟩ := he
    exact List.of_mem_zip (List.of_mem_zip hMem).2 |>.1
  · cases h

/-- A name that is not declared reads as absent, however the record was written. -/
theorem Record.field_of_not_mem {expecting : String} {declared : List String} {j : Json} {r : Record}
    (h : Record.open expecting declared j = .ok r) {name : String} (hn : name ∉ declared)
    (dec : Json → Decoded α) : r.field name dec = .ok none := by
  have hNone : r.present.find? (·.1 == name) = none := by
    rw [List.find?_eq_none]
    intro e he hEq
    exact hn (beq_iff_eq.1 hEq ▸ Record.mem_declared_of_open h e he)
  rw [Record.field_eq, hNone]
  rfl

theorem Record.field_ofObject_of_not_mem {name : String} {declared : List String} (hn : name ∉ declared)
    (expecting : String) (fields : List (String × Json)) (dec : Json → Decoded α) :
    (Record.ofObject expecting declared fields).field name dec = .ok none :=
  Record.field_of_not_mem (Record.open_object expecting declared fields) hn dec

/-! ### Variants written with their tag first -/

/-- A variant written with its tag first opens to that tag and the other entries. -/
theorem openVariant_tagged {variants : List String} {tag : String} (h : tag ∈ variants)
    (enumName : String) (rest : List (String × Json)) :
    openVariant enumName variants (.object (("$class", .string tag) :: rest)) =
      .ok (tag, .object (rest.filter (·.1 != "$class"))) := by
  simp [openVariant, openVariant.scan, h]

/-! ### What reading guarantees -/

/-- Every value a decoder yields satisfies `P`. -/
def Ensures (dec : Json → Decoded α) (P : α → Prop) : Prop := ∀ j v, dec j = .ok v → P v

theorem Record.required_eq_ok {r : Record} {name : String} {read : Decoded (Option α)} {v : α} :
    r.required name read = .ok v ↔ read = .ok (some v) := by
  unfold Record.required
  rcases read with e | _ | w
  · simp [bind, Except.bind]
  · cases r.positional <;> simp [bind, Except.bind]
  · simp [bind, Except.bind, pure, Except.pure]

theorem Record.withDefault_eq_ok {read : Decoded (Option α)} {d v : α} :
    Record.withDefault read d = .ok v ↔ read = .ok (some v) ∨ (read = .ok none ∧ v = d) := by
  unfold Record.withDefault
  rcases read with e | _ | w
  · simp [Functor.map, Except.map]
  · simp [Functor.map, Except.map, eq_comm]
  · simp [Functor.map, Except.map]

theorem Record.field_eq_ok_some {r : Record} {name : String} {dec : Json → Decoded α} {v : α}
    (h : r.field name dec = .ok (some v)) : ∃ j, dec j = .ok v := by
  rw [Record.field_eq] at h
  cases hFind : (r.present.find? (·.1 == name)).map (·.2.1) with
  | none => simp [hFind, pure, Except.pure] at h
  | some j =>
    rw [hFind, Option.mapM_some] at h
    cases hj : dec j with
    | error e => simp [hj] at h
    | ok w =>
      simp [hj] at h
      cases h
      exact ⟨j, hj⟩

/-- A required field holds what its decoder guarantees. -/
theorem Record.required_field {P : α → Prop} {dec : Json → Decoded α} (hDec : Ensures dec P) {r : Record}
    {name : String} {v : α} (h : r.required name (r.field name dec) = .ok v) : P v := by
  obtain ⟨j, hj⟩ := Record.field_eq_ok_some (Record.required_eq_ok.1 h)
  exact hDec j v hj

/-- A field with a default holds what its decoder guarantees, when the default does. -/
theorem Record.withDefault_field {P : α → Prop} {dec : Json → Decoded α} (hDec : Ensures dec P) {d : α}
    (hd : P d) {r : Record} {name : String} {v : α} (h : Record.withDefault (r.field name dec) d = .ok v) : P v := by
  rcases Record.withDefault_eq_ok.1 h with hSome | ⟨-, rfl⟩
  · obtain ⟨j, hj⟩ := Record.field_eq_ok_some hSome
    exact hDec j v hj
  · exact hd

theorem ensures_decodeU32 : Ensures decodeU32 (· < 2 ^ 32) := by
  intro j n h
  unfold decodeU32 at h
  split at h
  · split at h
    · next hRange =>
      cases h
      simp only [Bool.and_eq_true, decide_eq_true_eq] at hRange
      omega
    · cases h
  · cases h

theorem ensures_decodeI64 : Ensures decodeI64 IsI64 := by
  intro j i h
  unfold decodeI64 at h
  split at h
  · split at h
    · next hRange =>
      cases h
      simpa only [IsI64, Bool.and_eq_true, decide_eq_true_eq] using hRange
    · cases h
  · cases h

/-- An optional value holds what the decoder of its value guarantees. -/
theorem Ensures.option {dec : Json → Decoded α} {P : α → Prop} (h : Ensures dec P) :
    Ensures (decodeOption dec) (∀ x ∈ ·, P x) := by
  intro j v hj
  unfold decodeOption at hj
  split at hj
  · cases hj
    simp
  · cases hv : dec j with
    | error e => simp [hv] at hj
    | ok w =>
      simp only [hv, map_ok, Except.ok.injEq] at hj
      subst hj
      simpa using h j w hv

/-- Every item of a list holds what the decoder of its items guarantees. -/
theorem Ensures.list {dec : Json → Decoded α} {P : α → Prop} (h : Ensures dec P) :
    Ensures (decodeList dec) (∀ x ∈ ·, P x) := by
  intro j xs hj
  unfold decodeList at hj
  split at hj
  · next items =>
    induction items generalizing xs with
    | nil =>
      cases hj
      simp
    | cons item rest ih =>
      simp only [List.mapM_cons, Outcome.bind_eq_ok, pure, Except.pure, Except.ok.injEq] at hj
      obtain ⟨x, hx, ys, hys, rfl⟩ := hj
      intro y hy
      rcases List.mem_cons.1 hy with rfl | hy
      · exact h item y hx
      · exact ih ys hys y hy
  · simp [wrongType] at hj

end DomainModels.Json
