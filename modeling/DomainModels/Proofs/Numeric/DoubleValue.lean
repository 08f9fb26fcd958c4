import DomainModels.Proofs.Numeric.IntegerToFloat
/-! The number a double stands for, `±m * 2^e` in canonical form: when it is an integer, how a
64-bit word conversion cuts it, and its place against `±2^63`. -/
namespace DomainModels

open Float.Model UnpackedFloat

/-- The number a double stands for: `±m * 2^e` for a finite one, zero for either zero; the
infinities and NaN stand for no number. -/
def doubleValue? (f : Float) : Option ℚ :=
  match f.toModel.unpack with
  | .zero _ => some 0
  | .finite s m e _ => some ((s.apply m : Int) * 2 ^ e)
  | _ => none

/-- The whole part of `m * 2^e`: the mantissa with the bits below the point cut off. -/
def wholePart (m : Nat) (e : Int) : Nat := m * 2 ^ e.toNat / 2 ^ (-e).toNat

/-- Unpacking gives the canonical form: a mantissa of 53 bits, or a shorter one at the least
exponent, and an exponent within the range of the format. -/
theorem unpack_finite_shape {f : Float} {s : Sign} {m : Nat} {e : Int} {h : 0 < m}
    (hu : f.toModel.unpack = .finite s m e h) :
    m < 2 ^ 53 ∧ -1074 ≤ e ∧ e ≤ 971 ∧ (2 ^ 52 ≤ m ∨ e = -1074) := by
  unfold Float.Model.unpack UnpackedFloat.unpack at hu
  generalize f.toModel.toBits.toBitVec = b at hu
  have hMant := (@unpackMantissa .binary64 b).isLt
  have hExp := (@unpackExponent .binary64 b).isLt
  simp only [exponentBias_binary64] at hu
  split at hu
  · split at hu <;> cases hu
  · rename_i hTop
    have hTop' : (@unpackExponent .binary64 b).toNat ≠ 2047 :=
      fun h' => hTop (BitVec.eq_of_toNat_eq h')
    split at hu
    · rename_i hZero
      split at hu
      · cases hu
      · cases hu
        simp only [hZero, BitVec.toNat_ofNat] at *
        omega
    · rename_i hZero
      have hZero' : (@unpackExponent .binary64 b).toNat ≠ 0 :=
        fun h' => hZero (BitVec.eq_of_toNat_eq h')
      cases hu
      have hLead : (1#1 ++ @unpackMantissa .binary64 b).toNat =
          2 ^ 52 + (@unpackMantissa .binary64 b).toNat := by
        rw [BitVec.toNat_append, ← Nat.shiftLeft_add_eq_or_of_lt hMant]
        simp [Nat.shiftLeft_eq]
      rw [hLead]
      change (@unpackMantissa .binary64 b).toNat < 2 ^ 52 at hMant
      change (@unpackExponent .binary64 b).toNat < 2 ^ 11 at hExp
      omega

/-! ### Integers among the doubles -/

/-- A mantissa times a power of two is the integer `j` exactly when no bit lies below the point
and `j` is its whole part. -/
theorem natCast_mul_zpow_eq_intCast_iff (m : Nat) (e : Int) (j : Int) :
    (m : ℚ) * 2 ^ e = j ↔ (0 ≤ e ∨ 2 ^ (-e).toNat ∣ m) ∧ j = wholePart m e := by
  unfold wholePart
  rcases le_or_gt 0 e with he | he
  · obtain ⟨n, rfl⟩ := Int.eq_ofNat_of_zero_le he
    have hNeg : (-(n : Int)).toNat = 0 := by omega
    simp only [zpow_natCast, Int.toNat_natCast, hNeg, pow_zero, Nat.div_one, he, true_or, true_and]
    constructor
    · intro h
      exact_mod_cast h.symm
    · intro h
      rw [h]
      push_cast
      ring
  · obtain ⟨k, rfl⟩ : ∃ k : Nat, e = -(k : Int) := ⟨(-e).toNat, by omega⟩
    have hPos : (0 : ℚ) < 2 ^ k := by positivity
    have hk : (-(-(k : Int))).toNat = k := by omega
    have hk0 : (-(k : Int)).toNat = 0 := by omega
    simp only [zpow_neg, zpow_natCast, hk, hk0, pow_zero, Nat.mul_one, not_le.2 he, false_or]
    rw [← div_eq_mul_inv, div_eq_iff hPos.ne']
    constructor
    · intro h
      have hInt : (m : Int) = j * 2 ^ k := by exact_mod_cast h
      have hDvd : 2 ^ k ∣ m := by
        have : ((2 ^ k : Nat) : Int) ∣ (m : Int) := ⟨j, by push_cast; rw [hInt]; ring⟩
        exact_mod_cast this
      refine ⟨hDvd, ?_⟩
      have hTwo : (2 : Int) ^ k ≠ 0 := by positivity
      rw [Int.natCast_div, hInt]
      push_cast
      rw [Int.mul_ediv_cancel _ hTwo]
    · rintro ⟨hDvd, rfl⟩
      exact_mod_cast (Nat.div_mul_cancel hDvd).symm

/-- A signed mantissa times a power of two is the integer `i` exactly when no bit lies below the
point and `i` is its signed whole part. -/
theorem apply_mul_zpow_eq_intCast_iff (s : Sign) (m : Nat) (e : Int) (i : Int) :
    ((s.apply m : Int) : ℚ) * 2 ^ e = i ↔ (0 ≤ e ∨ 2 ^ (-e).toNat ∣ m) ∧ i = s.apply (wholePart m e) := by
  cases s with
  | negative =>
    simp only [Sign.apply, Int.cast_neg, Int.cast_natCast, neg_mul]
    rw [neg_eq_iff_eq_neg, ← Int.cast_neg, natCast_mul_zpow_eq_intCast_iff]
    constructor <;> rintro ⟨hWhole, hEq⟩ <;> exact ⟨hWhole, by omega⟩
  | positive => simpa [Sign.apply] using natCast_mul_zpow_eq_intCast_iff m e i

/-- A whole double is a normal one: a subnormal mantissa has bits below the point. -/
theorem normal_of_whole {m : Nat} {e : Int} (hm : 0 < m) (hShape : 2 ^ 52 ≤ m ∨ e = -1074)
    (hWhole : 0 ≤ e ∨ 2 ^ (-e).toNat ∣ m) : 2 ^ 52 ≤ m := by
  rcases hShape with h | rfl
  · exact h
  · rcases hWhole with h | h
    · omega
    · have hDvd : 2 ^ 52 ∣ m := Nat.dvd_trans (Nat.pow_dvd_pow 2 (by decide)) h
      exact Nat.le_of_dvd hm hDvd

/-! ### Truncating -/

/-- Truncation toward zero cuts the mantissa's bits below the point. -/
theorem roundToInt_eq (s : Sign) (m : Nat) (e : Int) : roundToInt s m e = s.apply (wholePart m e) := by
  have hShift : (0 - (e - (e.toNat : Int))).toNat = (-e).toNat := by omega
  simp only [roundToInt, decreaseExponent, shiftToExponent, ExtendedMantissa.ofMantissaAndAccuracy,
    shiftRight_exact, Int.sub_zero, Nat.shiftLeft_eq, hShift, wholePart]

/-- A positive double whose whole part fits in 64 bits converts to that whole part. -/
theorem toNat_toUInt64_of_positive {f : Float} {m : Nat} {e : Int} {h : 0 < m}
    (hu : f.toModel.unpack = .finite .positive m e h) (hSmall : wholePart m e < 2 ^ 64) :
    f.toUInt64.toNat = wholePart m e := by
  show (UInt64.ofNatClamp ((f.toModel.unpack.toInt 0 (UInt64.size - 1)).toNat)).toNat = _
  rw [hu]
  simp only [UnpackedFloat.toInt, roundToInt_eq, Sign.apply, Int.toNat_natCast, UInt64.ofNatClamp,
    dif_pos (show _ < UInt64.size from hSmall)]
  rfl

/-- Negating a normal double flips its sign and keeps its mantissa and exponent. -/
theorem unpack_neg_of_normal {f : Float} {s : Sign} {m : Nat} {e : Int} {h : 0 < m}
    (hu : f.toModel.unpack = .finite s m e h) (hNormal : 2 ^ 52 ≤ m) :
    (-f).toModel.unpack = .finite (-s) m e h := by
  obtain ⟨hm, he, he', -⟩ := unpack_finite_shape hu
  show (Float.Model.pack f.toModel.unpack.neg).unpack = _
  rw [hu, model_unpack_pack]
  exact unpack_pack_normal (-s) hNormal hm he he' h

/-! ### Comparing with `±2^63` -/

theorem le_iff_unpack_le (a b : Float) : a ≤ b ↔ a.toModel.unpack.le b.toModel.unpack = true := by
  show decide (a.toModel ≤ b.toModel) = true ↔ _
  rw [decide_eq_true_iff]
  rfl

/-- Negative doubles compare the other way round to their exponents and mantissas. -/
theorem le_finite_negative {m₁ m₂ : Nat} {e₁ e₂ : Int} (h₁ : 0 < m₁) (h₂ : 0 < m₂) :
    (UnpackedFloat.finite .negative m₁ e₁ h₁).le (.finite .negative m₂ e₂ h₂) = true ↔
      e₂ < e₁ ∨ e₂ = e₁ ∧ m₂ ≤ m₁ := by
  simp only [UnpackedFloat.le, UnpackedFloat.compare]
  rcases lt_trichotomy e₁ e₂ with h | rfl | h
  · simp [Ordering.then, compare_lt_iff_lt.2 h, not_lt.2 h.le, h.ne']
  · rcases lt_trichotomy m₁ m₂ with hm | rfl | hm
    · simp [Ordering.then, compare_lt_iff_lt.2 hm, not_le.2 hm]
    · simp [Ordering.then]
    · simp [Ordering.then, compare_gt_iff_gt.2 hm, hm.le]
  · simp [Ordering.then, compare_gt_iff_gt.2 h, h]

/-- Below `2^63` in the order doubles compare by: a lower exponent, or the same one and a lower
mantissa. For a canonical double this is its whole part being below `2^63`. -/
theorem lex_lt_two_pow_63_iff {m : Nat} {e : Int} (hm : m < 2 ^ 53) (hShape : 2 ^ 52 ≤ m ∨ e = -1074) :
    e < 11 ∨ e = 11 ∧ m < 2 ^ 52 ↔ wholePart m e < 2 ^ 63 := by
  unfold wholePart
  rcases le_or_gt 0 e with he0 | he0
  · obtain ⟨n, rfl⟩ := Int.eq_ofNat_of_zero_le he0
    have hNeg : (-(n : Int)).toNat = 0 := by omega
    simp only [Int.toNat_natCast, hNeg, pow_zero, Nat.div_one]
    constructor
    · rintro (hn | ⟨hn, hm'⟩)
      · calc m * 2 ^ n < 2 ^ 53 * 2 ^ n := Nat.mul_lt_mul_of_pos_right hm (Nat.two_pow_pos n)
          _ ≤ 2 ^ 53 * 2 ^ 10 := Nat.mul_le_mul_left _ (Nat.pow_le_pow_right (by decide) (by omega))
          _ = 2 ^ 63 := by norm_num
      · omega
    · intro hK
      by_contra hn
      have h52 : 2 ^ 52 ≤ m := by omega
      have : 2 ^ 63 ≤ m * 2 ^ n :=
        calc 2 ^ 63 = 2 ^ 52 * 2 ^ 11 := by norm_num
          _ ≤ m * 2 ^ n := Nat.mul_le_mul h52 (Nat.pow_le_pow_right (by decide) (by omega))
      omega
  · have hPos : e.toNat = 0 := by omega
    have : m / 2 ^ (-e).toNat ≤ m := Nat.div_le_self _ _
    simp only [hPos, pow_zero, Nat.mul_one]
    constructor <;> intro <;> omega

/-- At most `2^63` in the order doubles compare by, for a canonical double: its whole part is at
most `2^63`. -/
theorem lex_le_two_pow_63_iff {m : Nat} {e : Int} (hm : m < 2 ^ 53) (hShape : 2 ^ 52 ≤ m ∨ e = -1074) :
    e < 11 ∨ e = 11 ∧ m ≤ 2 ^ 52 ↔ wholePart m e ≤ 2 ^ 63 := by
  unfold wholePart
  rcases le_or_gt 0 e with he0 | he0
  · obtain ⟨n, rfl⟩ := Int.eq_ofNat_of_zero_le he0
    have hNeg : (-(n : Int)).toNat = 0 := by omega
    simp only [Int.toNat_natCast, hNeg, pow_zero, Nat.div_one]
    constructor
    · rintro (hn | ⟨hn, hm'⟩)
      · calc m * 2 ^ n ≤ 2 ^ 53 * 2 ^ n := Nat.mul_le_mul_right _ hm.le
          _ ≤ 2 ^ 53 * 2 ^ 10 := Nat.mul_le_mul_left _ (Nat.pow_le_pow_right (by decide) (by omega))
          _ ≤ 2 ^ 63 := by norm_num
      · obtain rfl : n = 11 := by omega
        calc m * 2 ^ 11 ≤ 2 ^ 52 * 2 ^ 11 := Nat.mul_le_mul_right _ hm'
          _ = 2 ^ 63 := by norm_num
    · intro hK
      have h52 : 11 ≤ n → 2 ^ 52 ≤ m := by omega
      rcases lt_trichotomy n 11 with hn | rfl | hn
      · exact .inl (by omega)
      · refine .inr ⟨rfl, ?_⟩
        have : m * 2 ^ 11 ≤ 2 ^ 52 * 2 ^ 11 := by norm_num at hK ⊢; omega
        exact Nat.le_of_mul_le_mul_right this (Nat.two_pow_pos 11)
      · exfalso
        have : 2 ^ 64 ≤ m * 2 ^ n :=
          calc 2 ^ 64 = 2 ^ 52 * 2 ^ 12 := by norm_num
            _ ≤ m * 2 ^ n := Nat.mul_le_mul (h52 hn.le) (Nat.pow_le_pow_right (by decide) hn)
        omega
  · have hPos : e.toNat = 0 := by omega
    have : m / 2 ^ (-e).toNat ≤ m := Nat.div_le_self _ _
    simp only [hPos, pow_zero, Nat.mul_one]
    constructor <;> intro <;> omega

end DomainModels
