import DomainModels.Proofs.Numeric.DoubleValue
import DomainModels.Wire.Decode
/-! Integral JSON numbers decode exactly: an Integer or Long field takes a number only when it
stands for an integer of the signed 64-bit range, and then takes that integer. -/
namespace DomainModels

namespace Number

/-- The number a JSON number stands for; an infinite or NaN double stands for none. -/
def value? : Number → Option ℚ
  | .int i => some i
  | .float f => doubleValue? f

/-- A number as a reader of JSON text makes it: an integer of the signed or the unsigned 64-bit
range, or a double. -/
def Readable : Number → Prop
  | .int i => i64Min ≤ i ∧ i ≤ u64Max
  | .float _ => True

instance : DecidablePred Readable
  | .int i => inferInstanceAs (Decidable (i64Min ≤ i ∧ i ≤ u64Max))
  | .float _ => inferInstanceAs (Decidable True)

end Number

namespace Wire

open Float.Model UnpackedFloat

/-- The double `2^63`, nearest to the greatest signed 64-bit integer. -/
theorem unpack_two_pow_63 :
    (9223372036854775808.0 : Float).toModel.unpack = .finite .positive (2 ^ 52) 11 (by decide) := rfl

/-- The double `-2^63`, the least signed 64-bit integer. -/
theorem unpack_neg_two_pow_63 :
    (-9223372036854775808.0 : Float).toModel.unpack = .finite .negative (2 ^ 52) 11 (by decide) := rfl

/-- The double zero. -/
theorem unpack_zero : (0 : Float).toModel.unpack = .zero .positive := rfl

/-- A finite double is below zero exactly when its sign is negative. -/
theorem lt_zero_iff_of_finite {f : Float} {s : Sign} {m : Nat} {e : Int} {h : 0 < m}
    (hu : f.toModel.unpack = .finite s m e h) : f < 0 ↔ s = .negative := by
  cases s <;> simp [lt_iff_unpack_lt, hu, unpack_zero, UnpackedFloat.lt, UnpackedFloat.compare]

/-- A finite double is whole when its exponent is not negative or its mantissa is a multiple of
the power of two it is divided by. -/
theorem isWhole_finite {f : Float} {s : Sign} {m : Nat} {e : Int} {h : 0 < m}
    (hu : f.toModel.unpack = .finite s m e h) : isWhole f = true ↔ 0 ≤ e ∨ 2 ^ (-e).toNat ∣ m := by
  simp only [isWhole, hu, Bool.or_eq_true, decide_eq_true_eq, beq_iff_eq, ← Nat.dvd_iff_mod_eq_zero]
  rcases le_or_gt 0 e with he | he
  · simp [he]
  · have : e.natAbs = (-e).toNat := by omega
    simp [not_le.2 he, this]

/-- The range test on a finite double, at least `-2^63` and below `2^63`, is the signed 64-bit
range of its signed whole part. -/
theorem rangeTest_finite {f : Float} {s : Sign} {m : Nat} {e : Int} {h : 0 < m}
    (hu : f.toModel.unpack = .finite s m e h) :
    (decide (f ≥ -9223372036854775808.0) && decide (f < 9223372036854775808.0)) = true ↔
      Number.i64Min ≤ s.apply (wholePart m e) ∧ s.apply (wholePart m e) ≤ Number.i64Max := by
  obtain ⟨hm, -, -, hShape⟩ := unpack_finite_shape hu
  simp only [Bool.and_eq_true, decide_eq_true_eq, ge_iff_le, le_iff_unpack_le, lt_iff_unpack_lt, hu,
    unpack_two_pow_63, unpack_neg_two_pow_63]
  cases s with
  | positive =>
    rw [lt_finite_positive, lex_lt_two_pow_63_iff hm hShape]
    simp [UnpackedFloat.le, UnpackedFloat.compare, Sign.apply, Number.i64Min, Number.i64Max]
    omega
  | negative =>
    rw [le_finite_negative, lex_le_two_pow_63_iff hm hShape]
    simp [UnpackedFloat.lt, UnpackedFloat.compare, Sign.apply, Number.i64Min, Number.i64Max]

/-- A whole double in range converts to its signed whole part: a positive one to a word, a
negative one negated to a word and back. -/
theorem truncate_of_whole {f : Float} {s : Sign} {m : Nat} {e : Int} {h : 0 < m}
    (hu : f.toModel.unpack = .finite s m e h) (hWhole : 0 ≤ e ∨ 2 ^ (-e).toNat ∣ m)
    (hRange : Number.i64Min ≤ s.apply (wholePart m e) ∧ s.apply (wholePart m e) ≤ Number.i64Max) :
    (if f < 0 then -((-f).toUInt64.toNat : Int) else (f.toUInt64.toNat : Int)) = s.apply (wholePart m e) := by
  obtain ⟨-, -, -, hShape⟩ := unpack_finite_shape hu
  cases s with
  | positive =>
    have hSmall : wholePart m e < 2 ^ 64 := by
      simp only [Sign.apply, Number.i64Max] at hRange
      omega
    rw [if_neg (by simp [lt_zero_iff_of_finite hu]), toNat_toUInt64_of_positive hu hSmall]
    rfl
  | negative =>
    have hSmall : wholePart m e < 2 ^ 64 := by
      simp only [Sign.apply, Number.i64Min] at hRange
      omega
    rw [if_pos ((lt_zero_iff_of_finite hu).2 rfl), toNat_toUInt64_of_positive (unpack_neg_of_normal hu (normal_of_whole h hShape hWhole)) hSmall]
    rfl

/-- On a double `integral?` makes the whole test and the range test. -/
theorem integral?_float (f : Float) :
    integral? (.number (.float f)) =
      if isWhole f && decide (f ≥ -9223372036854775808.0) && decide (f < 9223372036854775808.0) then
        some (if f < 0 then -((-f).toUInt64.toNat : Int) else (f.toUInt64.toNat : Int))
      else none := rfl

/-- A double decodes to `i` exactly when it stands for `i` and `i` is in the signed range. -/
theorem integral?_float_eq_some_iff (f : Float) (i : Int) :
    integral? (.number (.float f)) = some i ↔ doubleValue? f = some (i : ℚ) ∧ Number.i64Min ≤ i ∧ i ≤ Number.i64Max := by
  rw [integral?_float]
  cases hu : f.toModel.unpack with
  | notANumber => simp [isWhole, doubleValue?, hu]
  | infinity s => simp [isWhole, doubleValue?, hu]
  | zero s =>
    have hLow : f ≥ -9223372036854775808.0 := by
      simp [ge_iff_le, le_iff_unpack_le, hu, unpack_neg_two_pow_63, UnpackedFloat.le, UnpackedFloat.compare]
    have hHigh : f < 9223372036854775808.0 := by
      simp [lt_iff_unpack_lt, hu, unpack_two_pow_63, UnpackedFloat.lt, UnpackedFloat.compare]
    have hNotNeg : ¬ f < 0 := by
      simp [lt_iff_unpack_lt, hu, unpack_zero, UnpackedFloat.lt, UnpackedFloat.compare]
    have hTrunc : f.toUInt64.toNat = 0 := by
      show (UInt64.ofNatClamp ((f.toModel.unpack.toInt 0 (UInt64.size - 1)).toNat)).toNat = 0
      rw [hu]
      rfl
    simp [isWhole, doubleValue?, hu, hLow, hHigh, hNotNeg, hTrunc, Number.i64Min, Number.i64Max, eq_comm]
    rintro rfl
    decide
  | finite s m e h =>
    have hValue : doubleValue? f = some (((s.apply m : Int) : ℚ) * 2 ^ e) := by simp [doubleValue?, hu]
    rw [hValue, Option.some.injEq, apply_mul_zpow_eq_intCast_iff]
    by_cases hWhole : 0 ≤ e ∨ 2 ^ (-e).toNat ∣ m
    · rw [(isWhole_finite hu).2 hWhole, Bool.true_and]
      by_cases hRange : (decide (f ≥ -9223372036854775808.0) && decide (f < 9223372036854775808.0)) = true
      · have hIn := (rangeTest_finite hu).1 hRange
        rw [if_pos hRange, truncate_of_whole hu hWhole hIn, Option.some.injEq]
        constructor
        · rintro rfl
          exact ⟨⟨hWhole, rfl⟩, hIn⟩
        · rintro ⟨⟨-, rfl⟩, -⟩
          rfl
      · rw [if_neg hRange]
        simp only [reduceCtorEq, false_iff, not_and]
        rintro ⟨-, rfl⟩ hLow hHigh
        exact hRange ((rangeTest_finite hu).2 ⟨hLow, hHigh⟩)
    · have hNot : isWhole f = false := Bool.eq_false_iff.2 fun h' => hWhole ((isWhole_finite hu).1 h')
      simp [hNot, hWhole]

/-- An unsigned integer above the signed range is `2^63` or more as a double. -/
theorem not_toFloat_lt_two_pow_63 {k : Int} (hLow : Number.i64Max < k) (hHigh : k ≤ Number.u64Max) :
    ¬ Number.toFloat (.int k) < 9223372036854775808.0 := by
  have hk : 0 ≤ k := by unfold Number.i64Max at hLow; omega
  have hn : 2 ^ 63 ≤ k.toNat := by unfold Number.i64Max at hLow; omega
  have hn64 : k.toNat < 2 ^ 64 := by unfold Number.u64Max at hHigh; omega
  obtain ⟨h, hu⟩ := unpack_toUInt64_toFloat_binade (show 0 < k.toNat by omega) hn64
  simp only [Number.toFloat, if_pos hk]
  rw [lt_iff_unpack_lt, hu, unpack_two_pow_63, lt_finite_positive]
  have hNear : 2 ^ 63 ≤ nearestDouble k.toNat :=
    le_trans (Nat.pow_le_pow_right (by decide) ((Nat.le_log2 (by omega)).2 hn))
      (pow_log2_le_nearestDouble (by omega))
  have hLog : 63 ≤ (nearestDouble k.toNat).log2 := (Nat.le_log2 (by omega)).2 hNear
  obtain ⟨hm, -⟩ := binadeMantissa_bounds (nearestDouble_pos (show 0 < k.toNat by omega))
  unfold binadeExponent
  omega

/-- An integer as read decodes to `i` exactly when it is `i` and in the signed range. -/
theorem integral?_int_eq_some_iff {k : Int} (hk : Number.i64Min ≤ k ∧ k ≤ Number.u64Max) (i : Int) :
    integral? (.number (.int k)) = some i ↔ (k : ℚ) = i ∧ Number.i64Min ≤ i ∧ i ≤ Number.i64Max := by
  rw [Int.cast_inj]
  by_cases hMax : k ≤ Number.i64Max
  · have hSome : integral? (.number (.int k)) = some k := by
      simp [integral?, Json.i64?, Number.toI64?, hk.1, hMax]
    rw [hSome, Option.some.injEq]
    constructor
    · rintro rfl
      exact ⟨rfl, hk.1, hMax⟩
    · rintro ⟨rfl, -⟩
      rfl
  · have hNone : integral? (.number (.int k)) = none := by
      simp [integral?, Json.i64?, Number.toI64?, Json.f64?, hMax,
        not_toFloat_lt_two_pow_63 (not_le.1 hMax) hk.2]
    rw [hNone]
    simp only [reduceCtorEq, false_iff, not_and]
    rintro rfl - hLe
    exact hMax hLe

end Wire

/-- Integral decoding is exact: a JSON number as read from text decodes to the integer `i` exactly
when it stands for `i` and `i` is in the signed 64-bit range. -/
theorem integral_decoding_is_exact {n : Number} (hn : n.Readable) (i : Int) :
    Wire.integral? (.number n) = some i ↔ n.value? = some (i : ℚ) ∧ Number.i64Min ≤ i ∧ i ≤ Number.i64Max := by
  cases n with
  | int k => simpa [Number.value?] using Wire.integral?_int_eq_some_iff hn i
  | float f => exact Wire.integral?_float_eq_some_iff f i

/-- The greatest unsigned 64-bit integer is readable and stands for itself, but is no signed
64-bit integer. -/
theorem largest_unsigned_integer_is_refused :
    (Number.int Number.u64Max).Readable ∧
      (Wire.integral? (.number (.int Number.u64Max)) = some Number.u64Max ↔
        (Number.int Number.u64Max).value? = some (Number.u64Max : ℚ) ∧
          Number.i64Min ≤ Number.u64Max ∧ Number.u64Max ≤ Number.i64Max) := by
  have hReadable : (Number.int Number.u64Max).Readable := by decide
  exact ⟨hReadable, integral_decoding_is_exact hReadable _⟩

end DomainModels
