import DomainModels.Proofs.Numeric.IntegerToFloat
import DomainModels.Wire.Encode
/-! Integer bounds are compared as doubles: every value within the bounds passes, the check is exact
up to `2^53`, and above it a value just past a bound can round onto it. -/
namespace DomainModels

namespace Metamodel.Bounds

/-- Integer bounds admit `i` as written: `lower ≤ i ≤ upper`, a missing bound no constraint. -/
def Admits (b : Bounds Int) (i : Int) : Prop :=
  (∀ l ∈ b.lower, l ≤ i) ∧ ∀ u ∈ b.upper, i ≤ u

/-- Integer bounds admit `i` once the bounds and `i` are each rounded to the nearest double. -/
def AdmitsAsDoubles (b : Bounds Int) (i : Int) : Prop :=
  (∀ l ∈ b.lower, roundToDouble l ≤ roundToDouble i) ∧ ∀ u ∈ b.upper, roundToDouble i ≤ roundToDouble u

/-- Every bound has a magnitude below `2^64`, as a 64-bit integer has. -/
def Fits64 (b : Bounds Int) : Prop :=
  (∀ l ∈ b.lower, l.natAbs < 2 ^ 64) ∧ ∀ u ∈ b.upper, u.natAbs < 2 ^ 64

/-- Rounding is monotone, so what the bounds admit they admit as doubles. -/
theorem admitsAsDoubles_of_admits {b : Bounds Int} {i : Int} (h : b.Admits i) : b.AdmitsAsDoubles i :=
  ⟨fun l hl => roundToDouble_mono (h.1 l hl), fun u hu => roundToDouble_mono (h.2 u hu)⟩

/-- Up to `2^53` in magnitude rounding changes nothing, and the two readings agree. -/
theorem admitsAsDoubles_iff_admits {b : Bounds Int} {i : Int} (hl : ∀ l ∈ b.lower, l.natAbs ≤ 2 ^ 53)
    (hu : ∀ u ∈ b.upper, u.natAbs ≤ 2 ^ 53) (hi : i.natAbs ≤ 2 ^ 53) :
    b.AdmitsAsDoubles i ↔ b.Admits i := by
  unfold AdmitsAsDoubles Admits
  rw [roundToDouble_of_natAbs_le hi]
  constructor
  · rintro ⟨hL, hU⟩
    exact ⟨fun l h => roundToDouble_of_natAbs_le (hl l h) ▸ hL l h,
      fun u h => roundToDouble_of_natAbs_le (hu u h) ▸ hU u h⟩
  · rintro ⟨hL, hU⟩
    exact ⟨fun l h => (roundToDouble_of_natAbs_le (hl l h)).symm ▸ hL l h,
      fun u h => (roundToDouble_of_natAbs_le (hu u h)).symm ▸ hU u h⟩

end Metamodel.Bounds

namespace NumberValidator

/-- A validator that `make` accepts keeps the bounds it was given. -/
theorem make_eq_ok {lower upper : Option Float} {v : NumberValidator} (h : make lower upper = .ok v) :
    v.lower = lower ∧ v.upper = upper := by
  unfold make at h
  split at h
  · cases h
  · split at h
    · cases h
    · cases h; exact ⟨rfl, rfl⟩
  · cases h; exact ⟨rfl, rfl⟩

/-- A value passes its bounds exactly when it is below no lower bound and above no upper one. -/
theorem validate_eq_ok_iff (v : NumberValidator) (path : String) (x : Float) :
    v.validate path x = .ok () ↔ (∀ l ∈ v.lower, ¬ x < l) ∧ ∀ u ∈ v.upper, ¬ u < x := by
  unfold validate
  cases v.lower with
  | none =>
    cases v.upper with
    | none => simp [pure, Except.pure]
    | some u => by_cases hu : u < x <;> simp [hu, GT.gt, throw, throwThe, pure, Except.pure]
  | some l =>
    by_cases hl : x < l
    · simp [hl, throw, throwThe, bind, Except.bind]
    · cases v.upper with
      | none => simp [hl, pure, Except.pure]
      | some u => by_cases hu : u < x <;> simp [hl, hu, GT.gt, throw, throwThe, pure, Except.pure]

/-- The validator built from 64-bit integer bounds accepts a converted 64-bit integer exactly
when the bounds admit it as doubles. -/
theorem validate_ofInt_eq_ok_iff {b : Metamodel.Bounds Int} {v : NumberValidator}
    (hv : ofBounds Float.ofInt b = .ok v) (hb : b.Fits64) {i : Int} (hi : i.natAbs < 2 ^ 64)
    (path : String) :
    v.validate path (Float.ofInt i) = .ok () ↔ b.AdmitsAsDoubles i := by
  obtain ⟨hLower, hUpper⟩ := make_eq_ok hv
  rw [validate_eq_ok_iff, hLower, hUpper]
  simp only [Metamodel.Bounds.AdmitsAsDoubles, Option.mem_map, forall_exists_index, and_imp,
    forall_apply_eq_imp_iff₂]
  constructor
  · rintro ⟨hL, hU⟩
    exact ⟨fun l hl => not_lt.1 fun h => hL l hl ((ofInt_lt_ofInt_iff hi (hb.1 l hl)).2 h),
      fun u hu => not_lt.1 fun h => hU u hu ((ofInt_lt_ofInt_iff (hb.2 u hu) hi).2 h)⟩
  · rintro ⟨hL, hU⟩
    exact ⟨fun l hl h => not_lt.2 (hL l hl) ((ofInt_lt_ofInt_iff hi (hb.1 l hl)).1 h),
      fun u hu h => not_lt.2 (hU u hu) ((ofInt_lt_ofInt_iff (hb.2 u hu) hi).1 h)⟩

end NumberValidator

/-- On the wire an Integer or Long field checks an Integer or Long value against its number
validator, converted with `Float.ofInt`. -/
theorem checkPrimitive_integer {field : Field} {v : NumberValidator} (hf : field.validator = some (.number v))
    {prim : PrimitiveType} (hp : prim = .integer ∨ prim = .long) {value : Value} {i : Int}
    (hval : value = .integer i ∨ value = .long i) (path : Wire.Path) :
    Wire.checkPrimitive field prim value path = v.validate path.render (Float.ofInt i) := by
  rcases hp with rfl | rfl <;> rcases hval with rfl | rfl <;> simp [Wire.checkPrimitive, hf]

/-- A declared default passes the model-build check exactly when the validator accepts it. -/
theorem numberValidation_default {b : Metamodel.Bounds Int} {v : NumberValidator}
    (hv : NumberValidator.ofBounds Float.ofInt b = .ok v) (s : FileScope) (what name : String) (d : Int)
    (location : Option Location) :
    numberValidation Float.ofInt s what name (some b) (some d) location = .ok (some (.number v)) ↔
      v.validate name (Float.ofInt d) = .ok () := by
  simp only [numberValidation, hv, Except.mapError, checkDefault]
  cases h : v.validate name (Float.ofInt d) with
  | ok u => simp [h, bind, Except.bind, pure, Except.pure]
  | error e => simp [h, bind, Except.bind, throw, throwThe, MonadExceptOf.throw]

/-- A validator built from 64-bit integer bounds checks a 64-bit integer through doubles: on the
wire, as an Integer or a Long value of an Integer or Long field, and as a declared default, the
value passes exactly when the bounds admit it once all three are rounded to the nearest double.
Every value within the bounds passes, and where bounds and value are at most `2^53` in
magnitude the check is the exact comparison of integers. -/
theorem integer_bounds_compare_as_doubles {b : Metamodel.Bounds Int} {v : NumberValidator}
    (hv : NumberValidator.ofBounds Float.ofInt b = .ok v) (hb : b.Fits64) {i : Int}
    (hi : i.natAbs < 2 ^ 64) :
    (∀ (field : Field) (prim : PrimitiveType) (path : Wire.Path), field.validator = some (.number v) →
      prim = .integer ∨ prim = .long →
      (Wire.checkPrimitive field prim (.integer i) path = .ok () ↔ b.AdmitsAsDoubles i) ∧
      (Wire.checkPrimitive field prim (.long i) path = .ok () ↔ b.AdmitsAsDoubles i)) ∧
    (∀ s what name location, numberValidation Float.ofInt s what name (some b) (some i) location =
      .ok (some (.number v)) ↔ b.AdmitsAsDoubles i) ∧
    (b.Admits i → b.AdmitsAsDoubles i) ∧
    ((∀ l ∈ b.lower, l.natAbs ≤ 2 ^ 53) → (∀ u ∈ b.upper, u.natAbs ≤ 2 ^ 53) → i.natAbs ≤ 2 ^ 53 →
      (b.AdmitsAsDoubles i ↔ b.Admits i)) := by
  have hCheck := NumberValidator.validate_ofInt_eq_ok_iff hv hb hi
  refine ⟨fun field prim path hf hp => ⟨?_, ?_⟩, fun s what name location => ?_,
    Metamodel.Bounds.admitsAsDoubles_of_admits, Metamodel.Bounds.admitsAsDoubles_iff_admits⟩
  · rw [checkPrimitive_integer hf hp (.inl rfl), hCheck]
  · rw [checkPrimitive_integer hf hp (.inr rfl), hCheck]
  · rw [numberValidation_default hv, hCheck]

/-- The bounds of the field `n` of `org.x@1.0.0.Holder`: at most `2^53`. -/
def holderBounds : Metamodel.Bounds Int := { upper := some (2 ^ 53) }

/-- Its validator, with the bound as a double. -/
def holderValidator : NumberValidator := { lower := none, upper := some (Float.ofInt (2 ^ 53)) }

theorem holderBounds_ofBounds : NumberValidator.ofBounds Float.ofInt holderBounds = .ok holderValidator := rfl

theorem holderBounds_fits64 : holderBounds.Fits64 := by
  simp [Metamodel.Bounds.Fits64, holderBounds]

theorem integer_bounds_at_two_pow_53 :
    NumberValidator.ofBounds Float.ofInt holderBounds = .ok holderValidator ∧ holderBounds.Fits64 ∧
    (2 ^ 53 + 1 : Int).natAbs < 2 ^ 64 ∧
    (∀ (field : Field) (prim : PrimitiveType) (path : Wire.Path), field.validator = some (.number holderValidator) →
      prim = .integer ∨ prim = .long →
      (Wire.checkPrimitive field prim (.integer (2 ^ 53 + 1)) path = .ok () ↔
        holderBounds.AdmitsAsDoubles (2 ^ 53 + 1)) ∧
      (Wire.checkPrimitive field prim (.long (2 ^ 53 + 1)) path = .ok () ↔
        holderBounds.AdmitsAsDoubles (2 ^ 53 + 1))) ∧
    (∀ s what name location, numberValidation Float.ofInt s what name (some holderBounds) (some (2 ^ 53 + 1))
      location = .ok (some (.number holderValidator)) ↔ holderBounds.AdmitsAsDoubles (2 ^ 53 + 1)) ∧
    (holderBounds.Admits (2 ^ 53 + 1) → holderBounds.AdmitsAsDoubles (2 ^ 53 + 1)) ∧
    ((∀ l ∈ holderBounds.lower, l.natAbs ≤ 2 ^ 53) → (∀ u ∈ holderBounds.upper, u.natAbs ≤ 2 ^ 53) →
      (2 ^ 53 + 1 : Int).natAbs ≤ 2 ^ 53 →
      (holderBounds.AdmitsAsDoubles (2 ^ 53 + 1) ↔ holderBounds.Admits (2 ^ 53 + 1))) :=
  ⟨holderBounds_ofBounds, holderBounds_fits64, by decide,
    integer_bounds_compare_as_doubles holderBounds_ofBounds holderBounds_fits64 (by decide)⟩

/-- Past `2^53` a value beyond its bound passes: with upper bound `2^53` the field `n` accepts
`2^53 + 1` on the wire, and a default of `2^53 + 1` is accepted at model build, because
`2^53 + 1` rounds to the double `2^53`. -/
theorem integer_check_accepts_one_past_two_pow_53 :
    ¬ holderBounds.Admits (2 ^ 53 + 1) ∧
    Wire.checkPrimitive { name := "n", typeRef := .primitive .integer, validator := some (.number holderValidator) }
      .integer (.integer (2 ^ 53 + 1)) {} = .ok () ∧
    numberValidation Float.ofInt { ns := "org.y@1.0.0" } "field" "m" (some holderBounds) (some (2 ^ 53 + 1)) none =
      .ok (some (.number holderValidator)) := by
  have hAdmits : holderBounds.AdmitsAsDoubles (2 ^ 53 + 1) := by
    refine ⟨by simp [holderBounds], fun u hu => ?_⟩
    simp only [holderBounds, Option.mem_def, Option.some.injEq] at hu
    subst hu
    decide
  have hCheck := NumberValidator.validate_ofInt_eq_ok_iff holderBounds_ofBounds holderBounds_fits64
    (i := 2 ^ 53 + 1) (by decide)
  refine ⟨fun h => absurd (h.2 _ rfl) (by decide), ?_, ?_⟩
  · rw [checkPrimitive_integer rfl (.inl rfl) (.inl rfl), hCheck]
    exact hAdmits
  · rw [numberValidation_default holderBounds_ofBounds, hCheck]
    exact hAdmits

end DomainModels
