import DomainModels.Proofs.Numeric.NearestDouble
/-! `Float.ofInt` gives the nearest double in the form `binadeMantissa`, `binadeExponent`, so
`Float.ofInt a < Float.ofInt b` exactly when `roundToDouble a < roundToDouble b`. -/
namespace DomainModels

open Float.Model UnpackedFloat

/-! ### Rounding in the float model -/

/-- The round-to-nearest-even step on residual bits: one more unit when the round bit is set and
either a sticky bit or an odd mantissa breaks the tie upward. -/
theorem roundedMantissa_eq (em : ExtendedMantissa) :
    em.roundedMantissa = em.mantissa + if em.roundBit ∧ (em.stickyBit ∨ em.mantissa % 2 = 1) then 1 else 0 := by
  rcases em with ⟨q, _ | _, _ | _⟩ <;> rcases Nat.mod_two_eq_zero_or_one q with h | h <;>
    simp [ExtendedMantissa.roundedMantissa, ExtendedMantissa.accuracy, Accuracy.roundToNearestEven, h]

/-- Shifting `k` bits out of an exact mantissa leaves its quotient by `2^k`; the round bit is the
last bit shifted out, and the sticky bit says whether any bit below it was set. -/
theorem shiftRight_exact (M k : Nat) :
    (ExtendedMantissa.mk M false false >>> k) =
      ⟨M / 2 ^ k, decide (0 < k ∧ M / 2 ^ (k - 1) % 2 = 1), decide (M % 2 ^ (k - 1) ≠ 0)⟩ := by
  induction k with
  | zero =>
    show ExtendedMantissa.mk M false false = _
    simp
    omega
  | succ k ih =>
    show ExtendedMantissa.shiftRightOne (ExtendedMantissa.mk M false false >>> k) = _
    rw [ih]
    simp only [ExtendedMantissa.shiftRightOne, ExtendedMantissa.mk.injEq, Nat.add_sub_cancel]
    refine ⟨by rw [Nat.div_div_eq_div_mul, Nat.pow_succ], ?_, ?_⟩
    · rcases Nat.mod_two_eq_zero_or_one (M / 2 ^ k) with hb | hb <;> simp [hb]
    · cases k with
      | zero => simp [Nat.mod_one]
      | succ j =>
        simp only [Nat.add_sub_cancel]
        rw [Nat.mod_pow_succ]
        rcases Nat.mod_two_eq_zero_or_one (M / 2 ^ j) with hb | hb <;> simp [hb]

/-- The float model's rounding of an exact mantissa shifted right by `k` is `roundShift`. -/
theorem roundedMantissa_shiftRight (M k : Nat) :
    (ExtendedMantissa.mk M false false >>> k).roundedMantissa = roundShift M k := by
  rw [roundedMantissa_eq, shiftRight_exact]
  cases k with
  | zero => simp [roundShift, Nat.mod_one]
  | succ j =>
    have hLow := Nat.mod_lt M (Nat.two_pow_pos j)
    have hr : M % 2 ^ (j + 1) = M % 2 ^ j + 2 ^ j * (M / 2 ^ j % 2) := Nat.mod_pow_succ
    simp only [roundShift, Nat.add_sub_cancel, decide_eq_true_eq]
    generalize M / 2 ^ (j + 1) = q
    rw [hr, Nat.pow_succ]
    congr 1
    apply if_congr _ rfl rfl
    rcases Nat.mod_two_eq_zero_or_one (M / 2 ^ j) with hb | hb <;>
      simp only [hb, Nat.mul_zero, Nat.mul_one, Nat.add_zero, and_true] <;> clear hr <;> omega

theorem targetExponent_binary64 (t : Int) : Format.binary64.targetExponent t = max (t - 53) (-1074) := rfl

/-- Above the subnormal range the first shift of rounding drops the bits below the 53 leading
ones. -/
theorem shiftToTargetExponent_binary64 {M : Nat} {E : Int} (hM : 2 ^ 52 ≤ M)
    (hE : -1074 ≤ E + (M.log2 - 52 : Nat)) :
    shiftToTargetExponent .binary64 M E .exact =
      (ExtendedMantissa.mk M false false >>> (M.log2 - 52), E + (M.log2 - 52 : Nat)) := by
  have hL : 52 ≤ M.log2 := log2_of_binade hM
  have hShift : max ((M.log2 : Int) + 1 + E - 53) (-1074) - E = ((M.log2 - 52 : Nat) : Int) := by omega
  simp only [shiftToTargetExponent, shiftToExponent, targetExponent_binary64, totalExponent,
    ExtendedMantissa.ofMantissaAndAccuracy, hShift, Int.toNat_natCast]

/-- Rounding an exact mantissa of at least 53 bits, above the subnormal range: the result is the
double nearest to it, with its 53-bit mantissa; a carry out of the 53 bits moves the exponent up. -/
theorem roundWithAccuracy_binary64 (s : Sign) {M : Nat} {E : Int} (hM : 2 ^ 52 ≤ M)
    (hE : -1074 ≤ E + (M.log2 - 52 : Nat)) :
    ∃ h, roundWithAccuracy .binary64 s M E .exact =
      .finite s (binadeMantissa (nearestDouble M)) (E + binadeExponent (nearestDouble M)) h := by
  have hL : 52 ≤ M.log2 := log2_of_binade hM
  have hLow : 2 ^ 52 ≤ roundShift M (M.log2 - 52) := by
    simpa [show M.log2 - (M.log2 - 52) = 52 by omega] using
      pow_le_roundShift (by omega) (show M.log2 - 52 ≤ M.log2 by omega)
  have hHigh : roundShift M (M.log2 - 52) ≤ 2 ^ 53 := by
    simpa [show M.log2 + 1 - (M.log2 - 52) = 53 by omega] using
      roundShift_le_pow M (show M.log2 - 52 ≤ M.log2 + 1 by omega)
  have hq : nearestDouble M = roundShift M (M.log2 - 52) * 2 ^ (M.log2 - 52) := rfl
  simp only [roundWithAccuracy, shiftToTargetExponent_binary64 hM hE, roundedMantissa_shiftRight]
  rcases Nat.lt_or_eq_of_le hHigh with hlt | heq
  · have hq52 : (roundShift M (M.log2 - 52)).log2 = 52 := (Nat.log2_eq_iff (by omega)).2 ⟨hLow, hlt⟩
    obtain ⟨hm, he⟩ := binade_mul_pow hLow hlt (M.log2 - 52)
    simp only [shiftToTargetExponent_binary64 (E := E + ((M.log2 - 52 : Nat) : Int)) hLow (by omega), hq52,
      shiftRight_exact, hq, hm, he, Nat.sub_self, Nat.pow_zero, Nat.div_one, Nat.cast_zero, Int.add_zero]
    exact ⟨by omega, dif_neg (show roundShift M (M.log2 - 52) ≠ 0 by omega)⟩
  · have hm := binade_mul_pow (q := 2 ^ 52) le_rfl (by decide) (M.log2 - 52 + 1)
    rw [show 2 ^ 52 * 2 ^ (M.log2 - 52 + 1) = 2 ^ 53 * 2 ^ (M.log2 - 52) by
      rw [← Nat.pow_add, ← Nat.pow_add]; congr 1; omega] at hm
    have h53 : (2 ^ 53 : Nat).log2 = 53 := Nat.log2_two_pow
    simp only [heq, shiftToTargetExponent_binary64 (E := E + ((M.log2 - 52 : Nat) : Int))
      (le_of_lt (by decide) : 2 ^ 52 ≤ 2 ^ 53) (by omega), hq, hm.1, hm.2, h53, shiftRight_exact]
    refine ⟨by decide, ?_⟩
    simp
    omega

/-- The float model's rounding of a positive integer gives the nearest double, in binade form. -/
theorem round_binary64_nat (s : Sign) {n : Nat} (hn : 0 < n) :
    ∃ h, UnpackedFloat.round .binary64 s n 0 =
      .finite s (binadeMantissa (nearestDouble n)) (binadeExponent (nearestDouble n)) h := by
  have hLow := Nat.log2_self_le hn.ne'
  unfold UnpackedFloat.round decreaseExponent
  simp only [targetExponent_binary64, totalExponent, Int.add_zero]
  rcases Nat.le_total n.log2 52 with hL | hL
  · have hSum : n.log2 + (52 - n.log2) = 52 := by omega
    have hM : 2 ^ 52 ≤ n * 2 ^ (52 - n.log2) := by
      calc 2 ^ 52 = 2 ^ n.log2 * 2 ^ (52 - n.log2) := by rw [← Nat.pow_add, hSum]
        _ ≤ n * 2 ^ (52 - n.log2) := Nat.mul_le_mul_right _ hLow
    have hM' : n * 2 ^ (52 - n.log2) < 2 ^ 53 := by
      calc n * 2 ^ (52 - n.log2) < 2 ^ (n.log2 + 1) * 2 ^ (52 - n.log2) :=
            Nat.mul_lt_mul_of_pos_right Nat.lt_log2_self (Nat.two_pow_pos _)
        _ = 2 ^ 53 := by rw [← Nat.pow_add]; congr 1; omega
    have hn53 : n < 2 ^ 53 := Nat.lt_of_lt_of_le Nat.lt_log2_self (Nat.pow_le_pow_right (by decide) (by omega))
    have hShift : (0 - max ((n.log2 : Int) + 1 - 53) (-1074)).toNat = 52 - n.log2 := by omega
    have hMLog : (n * 2 ^ (52 - n.log2)).log2 - 52 = 0 := by rw [log2_mul_pow hn, hSum]
    obtain ⟨hm, he⟩ := binade_of_lt hM hM'
    obtain ⟨h, hRound⟩ := roundWithAccuracy_binary64 s (E := 0 - ((52 - n.log2 : Nat) : Int)) hM
      (by rw [hMLog]; omega)
    simp only [hShift, Nat.shiftLeft_eq, hRound, nearestDouble_of_le hM'.le, hm, he,
      nearestDouble_of_le hn53.le]
    simp only [binadeMantissa, binadeExponent, show n.log2 - 52 = 0 by omega, Nat.pow_zero, Nat.div_one]
    refine ⟨by omega, ?_⟩
    congr 1
    omega
  · have hn52 : 2 ^ 52 ≤ n := Nat.le_trans (Nat.pow_le_pow_right (by decide) hL) hLow
    have hShift : (0 - max ((n.log2 : Int) + 1 - 53) (-1074)).toNat = 0 := by omega
    obtain ⟨h, hRound⟩ := roundWithAccuracy_binary64 s (E := 0) hn52 (by omega)
    simp only [hShift, Nat.shiftLeft_zero, Nat.cast_zero, Int.sub_zero, hRound, Int.zero_add]
    exact ⟨h, trivial⟩

/-! ### Packing -/

@[simp] theorem unpackSign_packComponents (spec : Format) (s : Sign) (e : BitVec spec.exponentBits)
    (m : BitVec spec.mantissaBitsWithoutImplicit) :
    unpackSign (packComponents spec s e m) = s.toBitVec := by
  apply BitVec.eq_of_getLsbD_eq
  intro i hi
  obtain rfl : i = 0 := by omega
  simp [unpackSign, packComponents, BitVec.getLsbD_append, BitVec.getElem_append]

@[simp] theorem ofBitVec_toBitVec (s : Sign) : Sign.ofBitVec s.toBitVec = s := by
  cases s <;> rfl

theorem exponentBias_binary64 : Format.binary64.exponentBias = 1023 := rfl

/-- A normal double survives packing into its 64 bits and unpacking again. -/
theorem unpack_pack_normal (s : Sign) {m : Nat} {e : Int} (hm : 2 ^ 52 ≤ m) (hm' : m < 2 ^ 53)
    (he : -1074 ≤ e) (he' : e ≤ 971) (h : 0 < m) :
    unpack .binary64 (pack .binary64 (.finite s m e h)) = .finite s m e h := by
  have hLog : m.log2 = 52 := (Nat.log2_eq_iff (by omega)).2 ⟨hm, hm'⟩
  have hBiased : ((e + 1023 + 52).toNat : Int) = e + 1075 := by
    rw [Int.toNat_of_nonneg (by omega)]; omega
  have hNoInf : ¬ 2 ^ 11 ≤ (e + 1023 + 52).toNat + 1 := by omega
  have hNormal : 52 + 1 = Format.binary64.mantissaBits := rfl
  have hExp : (BitVec.ofNat 11 (e + 1023 + 52).toNat).toNat = (e + 1023 + 52).toNat := by
    rw [BitVec.toNat_ofNat, Nat.mod_eq_of_lt (by omega)]
  have hNotTop : BitVec.ofNat 11 (e + 1023 + 52).toNat ≠ -1#11 := by
    intro hEq
    have := congrArg BitVec.toNat hEq
    rw [hExp] at this
    simp at this
    omega
  have hNotZero : BitVec.ofNat 11 (e + 1023 + 52).toNat ≠ 0#11 := by
    intro hEq
    have := congrArg BitVec.toNat hEq
    rw [hExp] at this
    simp at this
    omega
  have hMant : (1#1 ++ BitVec.ofNat 52 m).toNat = m := by
    have hDiv : m / 2 ^ 52 = 1 := Nat.div_eq_of_lt_le (by omega) (by omega)
    have := Nat.mod_add_div m (2 ^ 52)
    rw [BitVec.toNat_append, ← Nat.shiftLeft_add_eq_or_of_lt (BitVec.isLt _), BitVec.toNat_ofNat]
    simp [Nat.shiftLeft_eq]
    omega
  simp only [UnpackedFloat.pack, exponentBias_binary64, hLog, Nat.cast_ofNat, if_neg hNoInf, if_pos hNormal]
  simp only [UnpackedFloat.unpack, unpackMantissa_packComponents, unpackExponent_packComponents,
    unpackSign_packComponents, ofBitVec_toBitVec, if_neg hNotTop, if_neg hNotZero, hExp, hMant]
  congr 1
  rw [exponentBias_binary64]
  omega

theorem model_unpack_pack (u : UnpackedFloat) :
    (Float.Model.pack u).unpack = UnpackedFloat.unpack .binary64 (UnpackedFloat.pack .binary64 u) := rfl

/-! ### Converting integers -/

/-- The double one: mantissa `2^52`, exponent `-52`. -/
theorem unpack_one :
    (Float.ofBits 0x3FF0000000000000).toModel.unpack = .finite .positive (2 ^ 52) (-52) (by decide) := rfl

theorem mantissaBits_binary64 : Format.binary64.mantissaBits = 53 := rfl

theorem positive_mul_positive : Sign.positive * Sign.positive = .positive := rfl

theorem sign_mul_positive (s : Sign) : s * Sign.positive = s := by cases s <;> rfl

/-- A double times one is itself. -/
theorem mul_one_binary64 (s : Sign) {m : Nat} {e : Int} (hm : 2 ^ 52 ≤ m) (hm' : m < 2 ^ 53)
    (he : -1074 ≤ e) (h : 0 < m) (h1 : 0 < 2 ^ 52) :
    UnpackedFloat.mul .binary64 (.finite s m e h) (.finite .positive (2 ^ 52) (-52) h1) = .finite s m e h := by
  have hLog : (m * 2 ^ 52).log2 - 52 = 52 := by
    rw [log2_mul_pow h, ((Nat.log2_eq_iff (by omega)).2 ⟨hm, hm'⟩)]
  have hExact : nearestDouble (m * 2 ^ 52) = m * 2 ^ 52 := by
    rw [nearestDouble_mul_two_pow hm, nearestDouble_of_le hm'.le]
  obtain ⟨hb, he'⟩ := binade_mul_pow hm hm' 52
  obtain ⟨h', hRound⟩ := roundWithAccuracy_binary64 s (E := e + -52)
    (le_mul_of_le_of_one_le hm Nat.one_le_two_pow) (by rw [hLog]; omega)
  simp only [UnpackedFloat.mul, sign_mul_positive, hRound, hExact, hb, he']
  congr 1
  omega

theorem unpack_toUInt64_toFloat {n : Nat} (hn : 0 < n) (h64 : n < 2 ^ 64) :
    n.toUInt64.toFloat.toModel.unpack =
      UnpackedFloat.unpack .binary64 (UnpackedFloat.pack .binary64 (UnpackedFloat.round .binary64 .positive n 0)) := by
  have hNat : n.toUInt64.toNat = n := by simp [Nat.toUInt64]; omega
  have hCmp : compare (n : Int) 0 = .gt := by simp [compare_gt_iff_gt]; omega
  simp only [UInt64.toFloat, Float.Model.ofUInt64, UnpackedFloat.ofUInt64, UnpackedFloat.ofNat,
    UnpackedFloat.ofInt, UnpackedFloat.normalize, hNat, hCmp, model_unpack_pack, Int.toNat_natCast]

/-- A positive 64-bit word converts to the double nearest it, in binade form. -/
theorem unpack_toUInt64_toFloat_binade {n : Nat} (hn : 0 < n) (h64 : n < 2 ^ 64) :
    ∃ h, n.toUInt64.toFloat.toModel.unpack =
      .finite .positive (binadeMantissa (nearestDouble n)) (binadeExponent (nearestDouble n)) h := by
  obtain ⟨hmLow, hmHigh⟩ := binadeMantissa_bounds (nearestDouble_pos hn)
  have heLow : -1074 ≤ binadeExponent (nearestDouble n) := by unfold binadeExponent; omega
  have heHigh : binadeExponent (nearestDouble n) ≤ 971 := by
    have := binadeExponent_nearestDouble_le h64
    omega
  obtain ⟨h, hRound⟩ := round_binary64_nat .positive hn
  exact ⟨h, by rw [unpack_toUInt64_toFloat hn h64, hRound, unpack_pack_normal .positive hmLow hmHigh heLow heHigh]⟩

theorem unpack_ofNat_zero : (Float.ofNat 0).toModel.unpack = .zero .positive := rfl

/-- A positive 64-bit magnitude converts to the nearest double, ties to the even mantissa; both
ways the conversion may take, through a 64-bit word or through the float model's own rounding,
give that double. -/
theorem unpack_ofNat {n : Nat} (hn : 0 < n) (hn' : n < 2 ^ 64) :
    ∃ h, (Float.ofNat n).toModel.unpack =
      .finite .positive (binadeMantissa (nearestDouble n)) (binadeExponent (nearestDouble n)) h := by
  obtain ⟨hmLow, hmHigh⟩ := binadeMantissa_bounds (nearestDouble_pos hn)
  have heLow : -1074 ≤ binadeExponent (nearestDouble n) := by unfold binadeExponent; omega
  have heHigh : binadeExponent (nearestDouble n) ≤ 971 := by
    have := binadeExponent_nearestDouble_le hn'
    omega
  refine ⟨by omega, ?_⟩
  by_cases h53 : n < 2 ^ 53
  · have hFast : n < 2 ^ 53 ∧ (0 : Nat) ≤ 22 := ⟨h53, by decide⟩
    obtain ⟨h, hWord⟩ := unpack_toUInt64_toFloat_binade hn hn'
    simp only [Float.ofNat, OfScientific.ofScientific, Float.ofScientific, dif_pos hFast,
      Bool.false_eq_true, if_false]
    change (Float.Model.pack (UnpackedFloat.mul .binary64 n.toUInt64.toFloat.toModel.unpack
      (Float.ofBits 0x3FF0000000000000).toModel.unpack)).unpack = _
    rw [hWord, unpack_one, mul_one_binary64 .positive hmLow hmHigh heLow, model_unpack_pack,
      unpack_pack_normal .positive hmLow hmHigh heLow heHigh]
  · have hSlow : ¬ (n < 2 ^ 53 ∧ (0 : Nat) ≤ 22) := fun h => h53 h.1
    have hn52 : 2 ^ 52 ≤ n := by omega
    simp only [Float.ofNat, OfScientific.ofScientific, Float.ofScientific, dif_neg hSlow]
    have hBig : ¬ ((0 : Int) > 2 ^ 11) := by decide
    have hSmall : ¬ ((0 : Int) < -(2 ^ 11 + (n.log2 : Int))) := by omega
    simp only [Float.Model.ofScientific, model_unpack_pack, UnpackedFloat.ofScientific, Bool.false_eq_true,
      if_false, Int.ofNat_eq_natCast, Nat.cast_zero, dif_neg hn.ne', if_neg hBig, if_neg hSmall, le_refl,
      if_true, mantissaBits_binary64, UnpackedFloat.mul, positive_mul_positive, Int.toNat_zero, Nat.pow_zero,
      Nat.mul_one, Nat.shiftLeft_eq, Int.add_zero]
    have hLog : (n * 2 ^ 53).log2 - 52 = n.log2 + 1 := by rw [log2_mul_pow hn]; omega
    obtain ⟨h', hRound⟩ := roundWithAccuracy_binary64 .positive (E := -((53 : Nat) : Int))
      (le_mul_of_le_of_one_le hn52 Nat.one_le_two_pow) (by rw [hLog]; omega)
    have hExp : -((53 : Nat) : Int) + (binadeExponent (nearestDouble n) + ((53 : Nat) : Int)) =
        binadeExponent (nearestDouble n) := by omega
    simp only [hRound, nearestDouble_mul_two_pow hn52, binadeMantissa_mul_two_pow (nearestDouble_of_binade hn52),
      binadeExponent_mul_two_pow (nearestDouble_of_binade hn52), hExp]
    exact unpack_pack_normal .positive hmLow hmHigh heLow heHigh _

theorem ofInt_ofNat (n : Nat) : Float.ofInt (Int.ofNat n) = Float.ofNat n := rfl

/-- A negative integer converts to the nearest double of its magnitude, with the sign set. -/
theorem unpack_ofInt_negSucc {n : Nat} (hn : n + 1 < 2 ^ 64) :
    ∃ h, (Float.ofInt (Int.negSucc n)).toModel.unpack =
      .finite .negative (binadeMantissa (nearestDouble (n + 1))) (binadeExponent (nearestDouble (n + 1))) h := by
  obtain ⟨h, hPos⟩ := unpack_ofNat (by omega) hn
  obtain ⟨hmLow, hmHigh⟩ := binadeMantissa_bounds (nearestDouble_pos (show 0 < n + 1 by omega))
  have heHigh := binadeExponent_nearestDouble_le hn
  refine ⟨h, ?_⟩
  show (Float.Model.pack (Float.ofNat (n + 1)).toModel.unpack.neg).unpack = _
  rw [hPos, model_unpack_pack]
  exact unpack_pack_normal .negative hmLow hmHigh (by unfold binadeExponent; omega) (by omega) h

/-! ### Comparing -/

theorem lt_iff_unpack_lt (a b : Float) : a < b ↔ a.toModel.unpack.lt b.toModel.unpack = true := by
  show decide (a.toModel < b.toModel) = true ↔ _
  rw [decide_eq_true_iff]
  rfl

/-- Positive doubles compare by exponent, then by mantissa. -/
theorem lt_finite_positive {m₁ m₂ : Nat} {e₁ e₂ : Int} (h₁ : 0 < m₁) (h₂ : 0 < m₂) :
    (UnpackedFloat.finite .positive m₁ e₁ h₁).lt (.finite .positive m₂ e₂ h₂) = true ↔
      e₁ < e₂ ∨ e₁ = e₂ ∧ m₁ < m₂ := by
  simp only [UnpackedFloat.lt, UnpackedFloat.compare]
  rcases lt_trichotomy e₁ e₂ with h | rfl | h
  · simp [h, Ordering.then, compare_lt_iff_lt.2 h]
  · simp [Ordering.then, compare_lt_iff_lt]
  · simp [Ordering.then, compare_gt_iff_gt.2 h, not_lt.2 h.le, h.ne']

/-- Negative doubles compare as their magnitudes the other way round. -/
theorem lt_finite_negative {m₁ m₂ : Nat} {e₁ e₂ : Int} (h₁ : 0 < m₁) (h₂ : 0 < m₂) :
    (UnpackedFloat.finite .negative m₁ e₁ h₁).lt (.finite .negative m₂ e₂ h₂) =
      (UnpackedFloat.finite .positive m₂ e₂ h₂).lt (.finite .positive m₁ e₁ h₁) := by
  simp only [UnpackedFloat.lt, UnpackedFloat.compare]
  rcases lt_trichotomy e₁ e₂ with h | rfl | h
  · simp [Ordering.then, compare_lt_iff_lt.2 h, compare_gt_iff_gt.2 h]
  · rcases lt_trichotomy m₁ m₂ with hm | rfl | hm
    · simp [Ordering.then, compare_lt_iff_lt.2 hm, compare_gt_iff_gt.2 hm]
    · simp [Ordering.then]
    · simp [Ordering.then, compare_lt_iff_lt.2 hm, compare_gt_iff_gt.2 hm]
  · simp [Ordering.then, compare_lt_iff_lt.2 h, compare_gt_iff_gt.2 h]

/-- A 53-bit mantissa at a lower position is below any 53-bit mantissa at a higher one. -/
theorem mul_pow_lt_of_lt {m₁ m₂ t₁ t₂ : Nat} (hm₁ : m₁ < 2 ^ 53) (hm₂ : 2 ^ 52 ≤ m₂) (ht : t₁ < t₂) :
    m₁ * 2 ^ t₁ < m₂ * 2 ^ t₂ :=
  calc m₁ * 2 ^ t₁ < 2 ^ 53 * 2 ^ t₁ := Nat.mul_lt_mul_of_pos_right hm₁ (Nat.two_pow_pos _)
    _ = 2 ^ 52 * 2 ^ (t₁ + 1) := by rw [← Nat.pow_add, ← Nat.pow_add]; congr 1; omega
    _ ≤ m₂ * 2 ^ t₂ := Nat.mul_le_mul hm₂ (Nat.pow_le_pow_right (by decide) ht)

/-- For 53-bit mantissas the lexicographic order on position and mantissa is the order of the
values. -/
theorem lex_lt_iff_mul_pow_lt {m₁ m₂ t₁ t₂ : Nat} (h₁ : 2 ^ 52 ≤ m₁) (h₁' : m₁ < 2 ^ 53)
    (h₂ : 2 ^ 52 ≤ m₂) (h₂' : m₂ < 2 ^ 53) :
    t₁ < t₂ ∨ t₁ = t₂ ∧ m₁ < m₂ ↔ m₁ * 2 ^ t₁ < m₂ * 2 ^ t₂ := by
  rcases lt_trichotomy t₁ t₂ with ht | rfl | ht
  · exact iff_of_true (.inl ht) (mul_pow_lt_of_lt h₁' h₂ ht)
  · simp [Nat.mul_lt_mul_right (Nat.two_pow_pos t₁)]
  · exact iff_of_false (by omega) (Nat.not_lt.2 (mul_pow_lt_of_lt h₂' h₁ ht).le)

/-- Two positive doubles compare by value. -/
theorem lt_binade {v w : Nat} (hv : 0 < v) (hw : 0 < w) (hv' : IsDouble v) (hw' : IsDouble w)
    (h₁ : 0 < binadeMantissa v) (h₂ : 0 < binadeMantissa w) :
    (UnpackedFloat.finite .positive (binadeMantissa v) (binadeExponent v) h₁).lt
      (.finite .positive (binadeMantissa w) (binadeExponent w) h₂) = true ↔ v < w := by
  obtain ⟨hv₁, hv₂⟩ := binadeMantissa_bounds hv
  obtain ⟨hw₁, hw₂⟩ := binadeMantissa_bounds hw
  have hExp : binadeExponent v < binadeExponent w ∨ binadeExponent v = binadeExponent w ∧
      binadeMantissa v < binadeMantissa w ↔
      v.log2 < w.log2 ∨ v.log2 = w.log2 ∧ binadeMantissa v < binadeMantissa w := by
    unfold binadeExponent; omega
  rw [lt_finite_positive, hExp, lex_lt_iff_mul_pow_lt hv₁ hv₂ hw₁ hw₂, binadeMantissa_mul_pow_log2 hv',
    binadeMantissa_mul_pow_log2 hw']
  exact Nat.mul_lt_mul_right (Nat.two_pow_pos 52)

/-- Integers of 64-bit magnitude, once converted to doubles, compare as their nearest doubles:
the conversion and the comparison of floats together are the comparison of `roundToDouble`. -/
theorem ofInt_lt_ofInt_iff {a b : Int} (ha : a.natAbs < 2 ^ 64) (hb : b.natAbs < 2 ^ 64) :
    Float.ofInt a < Float.ofInt b ↔ roundToDouble a < roundToDouble b := by
  rw [lt_iff_unpack_lt]
  rcases a with (_ | a) | a <;> rcases b with (_ | b) | b <;>
    simp only [ofInt_ofNat, roundToDouble, nearestDouble_zero, Int.natAbs_ofNat', Int.natAbs_negSucc,
      Nat.succ_eq_add_one] at ha hb ⊢
  · simp [unpack_ofNat_zero, UnpackedFloat.lt, UnpackedFloat.compare]
  · obtain ⟨hB, eB⟩ := unpack_ofNat (n := b + 1) (by omega) hb
    have := nearestDouble_pos (show 0 < b + 1 by omega)
    simp [unpack_ofNat_zero, eB, UnpackedFloat.lt, UnpackedFloat.compare]
    omega
  · obtain ⟨hB, eB⟩ := unpack_ofInt_negSucc hb
    simp [unpack_ofNat_zero, eB, UnpackedFloat.lt, UnpackedFloat.compare]
  · obtain ⟨hA, eA⟩ := unpack_ofNat (n := a + 1) (by omega) ha
    simp [unpack_ofNat_zero, eA, UnpackedFloat.lt, UnpackedFloat.compare]
  · obtain ⟨hA, eA⟩ := unpack_ofNat (n := a + 1) (by omega) ha
    obtain ⟨hB, eB⟩ := unpack_ofNat (n := b + 1) (by omega) hb
    rw [eA, eB, lt_binade (nearestDouble_pos (by omega)) (nearestDouble_pos (by omega))
      (isDouble_nearestDouble _) (isDouble_nearestDouble _), Int.ofNat_lt]
  · obtain ⟨hA, eA⟩ := unpack_ofNat (n := a + 1) (by omega) ha
    obtain ⟨hB, eB⟩ := unpack_ofInt_negSucc hb
    simp [eA, eB, UnpackedFloat.lt, UnpackedFloat.compare]
  · obtain ⟨hA, eA⟩ := unpack_ofInt_negSucc ha
    have := nearestDouble_pos (show 0 < a + 1 by omega)
    simp [unpack_ofNat_zero, eA, UnpackedFloat.lt, UnpackedFloat.compare]
    omega
  · obtain ⟨hA, eA⟩ := unpack_ofInt_negSucc ha
    obtain ⟨hB, eB⟩ := unpack_ofNat (n := b + 1) (by omega) hb
    have := nearestDouble_pos (show 0 < a + 1 by omega)
    simp [eA, eB, UnpackedFloat.lt, UnpackedFloat.compare]
    omega
  · obtain ⟨hA, eA⟩ := unpack_ofInt_negSucc ha
    obtain ⟨hB, eB⟩ := unpack_ofInt_negSucc hb
    rw [eA, eB, lt_finite_negative, lt_binade (nearestDouble_pos (by omega)) (nearestDouble_pos (by omega))
      (isDouble_nearestDouble _) (isDouble_nearestDouble _)]
    omega

end DomainModels
