import Mathlib
/-! Rounding integers to 53 leading bits, ties to even (`nearestDouble`, `roundToDouble`): monotone,
exact up to `2^53`, and the mantissa and exponent of the result. -/
namespace DomainModels

/-! ### Rounding away low bits -/

/-- `m / 2^k` rounded to the nearest natural number, a tie to the even one. -/
def roundShift (m k : Nat) : Nat :=
  m / 2 ^ k + if 2 ^ k < 2 * (m % 2 ^ k) ∨ (2 * (m % 2 ^ k) = 2 ^ k ∧ m / 2 ^ k % 2 = 1) then 1 else 0

theorem div_le_roundShift (m k : Nat) : m / 2 ^ k ≤ roundShift m k := Nat.le_add_right _ _

theorem roundShift_le_succ (m k : Nat) : roundShift m k ≤ m / 2 ^ k + 1 := by
  unfold roundShift
  split <;> omega

/-- Rounding is monotone: a tie goes up only when the quotient is odd, and then so does any larger
remainder over the same quotient. -/
theorem roundShift_mono {a b : Nat} (hab : a ≤ b) (k : Nat) : roundShift a k ≤ roundShift b k := by
  have hq : a / 2 ^ k ≤ b / 2 ^ k := Nat.div_le_div_right hab
  rcases Nat.lt_or_eq_of_le hq with hlt | heq
  · calc roundShift a k ≤ a / 2 ^ k + 1 := roundShift_le_succ a k
      _ ≤ b / 2 ^ k := hlt
      _ ≤ roundShift b k := div_le_roundShift b k
  · have hr : a % 2 ^ k ≤ b % 2 ^ k := by
      have ha := Nat.div_add_mod a (2 ^ k)
      have hb := Nat.div_add_mod b (2 ^ k)
      rw [heq] at ha
      omega
    unfold roundShift
    rw [heq]
    split
    · next hUp =>
      rw [if_pos]
      rcases hUp with hUp | ⟨hTie, hOdd⟩
      · exact .inl (by omega)
      · rcases Nat.lt_or_eq_of_le (show 2 * (a % 2 ^ k) ≤ 2 * (b % 2 ^ k) by omega) with h | h
        · exact .inl (by omega)
        · exact .inr ⟨by omega, heq ▸ hOdd⟩
    · omega

/-- Rounding a multiple of `2^k` drops nothing. -/
theorem roundShift_mul_pow (q k : Nat) : roundShift (q * 2 ^ k) k = q := by
  have := Nat.two_pow_pos k
  unfold roundShift
  simp [Nat.mul_div_cancel _ this, Nat.mul_mod_left]
  omega

/-- Bits appended below the ones rounded away change nothing. -/
theorem roundShift_mul_pow_add (m k j : Nat) : roundShift (m * 2 ^ j) (k + j) = roundShift m k := by
  have hj := Nat.two_pow_pos j
  have hDiv : m * 2 ^ j / 2 ^ (k + j) = m / 2 ^ k := by
    rw [Nat.pow_add, Nat.mul_div_mul_right _ _ hj]
  have hMod : m * 2 ^ j % 2 ^ (k + j) = m % 2 ^ k * 2 ^ j := by
    rw [Nat.pow_add, Nat.mul_mod_mul_right]
  have hLt : 2 ^ k * 2 ^ j < 2 * (m % 2 ^ k * 2 ^ j) ↔ 2 ^ k < 2 * (m % 2 ^ k) := by
    rw [← Nat.mul_assoc]; exact Nat.mul_lt_mul_right hj
  have hEq : 2 * (m % 2 ^ k * 2 ^ j) = 2 ^ k * 2 ^ j ↔ 2 * (m % 2 ^ k) = 2 ^ k := by
    rw [← Nat.mul_assoc]; exact Nat.mul_left_inj hj.ne'
  unfold roundShift
  rw [hDiv, hMod, Nat.pow_add]
  simp only [hLt, hEq]

/-- Rounding keeps the leading bit of `n`. -/
theorem pow_le_roundShift {n k : Nat} (hn : 0 < n) (hk : k ≤ n.log2) :
    2 ^ (n.log2 - k) ≤ roundShift n k := by
  have hq : 2 ^ (n.log2 - k) ≤ n / 2 ^ k := by
    rw [Nat.le_div_iff_mul_le (Nat.two_pow_pos _), ← Nat.pow_add, Nat.sub_add_cancel hk]
    exact Nat.log2_self_le hn.ne'
  exact hq.trans (div_le_roundShift _ _)

/-- Rounding up carries at most into the bit above the leading one. -/
theorem roundShift_le_pow (n : Nat) {k : Nat} (hk : k ≤ n.log2 + 1) :
    roundShift n k ≤ 2 ^ (n.log2 + 1 - k) := by
  have hq : n / 2 ^ k < 2 ^ (n.log2 + 1 - k) := by
    rw [Nat.div_lt_iff_lt_mul (Nat.two_pow_pos _), ← Nat.pow_add, Nat.sub_add_cancel hk]
    exact Nat.lt_log2_self
  exact (roundShift_le_succ _ _).trans hq

theorem log2_mono {a b : Nat} (h : a ≤ b) : a.log2 ≤ b.log2 := by
  rw [Nat.log2_eq_log_two, Nat.log2_eq_log_two]
  exact Nat.log_mono_right h

theorem log2_mul_pow {q : Nat} (hq : 0 < q) (k : Nat) : (q * 2 ^ k).log2 = q.log2 + k := by
  have hLow := Nat.log2_self_le hq.ne'
  have hHigh : q < 2 ^ (q.log2 + 1) := Nat.lt_log2_self
  rw [Nat.log2_eq_iff (Nat.mul_ne_zero hq.ne' (Nat.two_pow_pos k).ne')]
  constructor
  · rw [Nat.pow_add]; exact Nat.mul_le_mul_right _ hLow
  · rw [show q.log2 + k + 1 = q.log2 + 1 + k by omega, Nat.pow_add]
    exact Nat.mul_lt_mul_of_pos_right hHigh (Nat.two_pow_pos k)

/-! ### The nearest double -/

/-- The double nearest to `n`, a tie going to the even mantissa: `n` keeps its 53 leading bits,
rounded. -/
def nearestDouble (n : Nat) : Nat := roundShift n (n.log2 - 52) * 2 ^ (n.log2 - 52)

/-- Up to `2^53` every natural number is a double. -/
theorem nearestDouble_of_le {n : Nat} (h : n ≤ 2 ^ 53) : nearestDouble n = n := by
  rcases Nat.lt_or_eq_of_le h with hlt | rfl
  · have hLog : n.log2 - 52 = 0 := by
      rcases Nat.eq_zero_or_pos n with rfl | hn
      · simp
      · have := (Nat.log2_lt hn.ne').2 hlt
        omega
    simpa [nearestDouble, hLog] using roundShift_mul_pow n 0
  · have hSplit : (2 : Nat) ^ 53 = 2 ^ 52 * 2 ^ 1 := by rw [← Nat.pow_add]
    rw [nearestDouble, Nat.log2_two_pow]
    show roundShift (2 ^ 53) 1 * 2 ^ 1 = 2 ^ 53
    rw [hSplit, roundShift_mul_pow]

example : nearestDouble (2 ^ 53 + 1) = 2 ^ 53 := by decide

example : nearestDouble (2 ^ 53 + 3) = 2 ^ 53 + 4 := by decide

theorem nearestDouble_zero : nearestDouble 0 = 0 := nearestDouble_of_le (by decide)

theorem pow_log2_le_nearestDouble {n : Nat} (hn : 0 < n) : 2 ^ n.log2 ≤ nearestDouble n := by
  have hk : n.log2 - 52 ≤ n.log2 := Nat.sub_le _ _
  calc 2 ^ n.log2 = 2 ^ (n.log2 - (n.log2 - 52)) * 2 ^ (n.log2 - 52) := by
        rw [← Nat.pow_add, Nat.sub_add_cancel hk]
    _ ≤ nearestDouble n := Nat.mul_le_mul_right _ (pow_le_roundShift hn hk)

theorem nearestDouble_le_pow_succ_log2 (n : Nat) : nearestDouble n ≤ 2 ^ (n.log2 + 1) := by
  have hk : n.log2 - 52 ≤ n.log2 + 1 := by omega
  calc nearestDouble n ≤ 2 ^ (n.log2 + 1 - (n.log2 - 52)) * 2 ^ (n.log2 - 52) :=
        Nat.mul_le_mul_right _ (roundShift_le_pow n hk)
    _ = 2 ^ (n.log2 + 1) := by rw [← Nat.pow_add, Nat.sub_add_cancel hk]

theorem nearestDouble_pos {n : Nat} (hn : 0 < n) : 0 < nearestDouble n :=
  Nat.lt_of_lt_of_le (Nat.two_pow_pos _) (pow_log2_le_nearestDouble hn)

/-- Rounding to a double is monotone: within one binade it is `roundShift` at one shift, and
across binades the power of two between them separates the results. -/
theorem nearestDouble_mono {a b : Nat} (hab : a ≤ b) : nearestDouble a ≤ nearestDouble b := by
  rcases Nat.lt_or_eq_of_le (log2_mono hab) with hlt | heq
  · have hb : 0 < b := by
      rcases Nat.eq_zero_or_pos b with rfl | hb
      · simp at hlt
      · exact hb
    calc nearestDouble a ≤ 2 ^ (a.log2 + 1) := nearestDouble_le_pow_succ_log2 a
      _ ≤ 2 ^ b.log2 := Nat.pow_le_pow_right (by decide) hlt
      _ ≤ nearestDouble b := pow_log2_le_nearestDouble hb
  · unfold nearestDouble
    rw [heq]
    exact Nat.mul_le_mul_right _ (roundShift_mono hab _)

theorem log2_of_binade {v : Nat} (hv : 2 ^ 52 ≤ v) : 52 ≤ v.log2 := (Nat.le_log2 (by omega)).2 hv

/-- A number of at least 53 bits keeps them when rounded. -/
theorem nearestDouble_of_binade {n : Nat} (hn : 2 ^ 52 ≤ n) : 2 ^ 52 ≤ nearestDouble n := by
  have h := nearestDouble_mono hn
  rwa [nearestDouble_of_le (show (2 : Nat) ^ 52 ≤ 2 ^ 53 by decide)] at h

/-- Bits appended below a number of at least 53 bits are rounded away again. -/
theorem nearestDouble_mul_two_pow {n : Nat} (hn : 2 ^ 52 ≤ n) (j : Nat) :
    nearestDouble (n * 2 ^ j) = nearestDouble n * 2 ^ j := by
  have hL := log2_of_binade hn
  have hLog : (n * 2 ^ j).log2 - 52 = (n.log2 - 52) + j := by rw [log2_mul_pow (by omega)]; omega
  rw [nearestDouble, nearestDouble, hLog, roundShift_mul_pow_add, Nat.pow_add, Nat.mul_assoc]

/-! ### Integers -/

/-- The integer a double holds once `i` is converted to one: the nearest double, a tie going to
the even mantissa, with the sign of `i`. -/
def roundToDouble : Int → Int
  | .ofNat n => nearestDouble n
  | .negSucc n => -(nearestDouble (n + 1) : Int)

theorem roundToDouble_of_natAbs_le {i : Int} (h : i.natAbs ≤ 2 ^ 53) : roundToDouble i = i := by
  cases i with
  | ofNat n => simp [roundToDouble, nearestDouble_of_le (by simpa using h)]
  | negSucc n =>
    simp only [roundToDouble, nearestDouble_of_le (show n + 1 ≤ 2 ^ 53 by simpa using h)]
    rfl

theorem roundToDouble_mono {a b : Int} (hab : a ≤ b) : roundToDouble a ≤ roundToDouble b := by
  cases a with
  | ofNat a =>
    cases b with
    | ofNat b => exact Int.ofNat_le.2 (nearestDouble_mono (Int.ofNat_le.1 hab))
    | negSucc b =>
      simp only [Int.ofNat_eq_natCast, Int.negSucc_eq] at hab
      omega
  | negSucc a =>
    cases b with
    | ofNat b => simp only [roundToDouble]; omega
    | negSucc b =>
      have : b + 1 ≤ a + 1 := by rw [Int.negSucc_eq, Int.negSucc_eq] at hab; omega
      simpa [roundToDouble] using nearestDouble_mono this

example : roundToDouble (-(2 ^ 53 + 3)) = -(2 ^ 53 + 4) := by decide

/-! ### Mantissa and exponent -/

/-- A double holds `v` exactly: its bits below the 53 leading ones are zero. -/
def IsDouble (v : Nat) : Prop := 2 ^ (v.log2 - 52) ∣ v

/-- The exponent the float model gives a double of integer value `v ≥ 1`, so that its mantissa
has 53 bits. -/
def binadeExponent (v : Nat) : Int := (v.log2 : Int) - 52

/-- The 53-bit mantissa of a double of integer value `v ≥ 1`. -/
def binadeMantissa (v : Nat) : Nat := v * 2 ^ (52 - v.log2) / 2 ^ (v.log2 - 52)

theorem binadeMantissa_mul_two_pow {v : Nat} (hv : 2 ^ 52 ≤ v) (j : Nat) :
    binadeMantissa (v * 2 ^ j) = binadeMantissa v := by
  have hL := log2_of_binade hv
  have hLog : (v * 2 ^ j).log2 = v.log2 + j := log2_mul_pow (by omega) j
  rw [binadeMantissa, binadeMantissa, hLog, show 52 - (v.log2 + j) = 0 by omega,
    show 52 - v.log2 = 0 by omega, show v.log2 + j - 52 = (v.log2 - 52) + j by omega, Nat.pow_add]
  simp [Nat.mul_div_mul_right _ _ (Nat.two_pow_pos j)]

theorem binadeExponent_mul_two_pow {v : Nat} (hv : 2 ^ 52 ≤ v) (j : Nat) :
    binadeExponent (v * 2 ^ j) = binadeExponent v + j := by
  rw [binadeExponent, binadeExponent, log2_mul_pow (by omega) j]
  omega

/-- A 53-bit number is its own mantissa, with exponent zero. -/
theorem binade_of_lt {q : Nat} (hLow : 2 ^ 52 ≤ q) (hHigh : q < 2 ^ 53) :
    binadeMantissa q = q ∧ binadeExponent q = 0 := by
  have hq : q.log2 = 52 := (Nat.log2_eq_iff (by omega)).2 ⟨hLow, hHigh⟩
  simp [binadeMantissa, binadeExponent, hq]

/-- A 53-bit mantissa shifted up by `k` has itself as mantissa and `k` as exponent. -/
theorem binade_mul_pow {q : Nat} (hLow : 2 ^ 52 ≤ q) (hHigh : q < 2 ^ 53) (k : Nat) :
    binadeMantissa (q * 2 ^ k) = q ∧ binadeExponent (q * 2 ^ k) = k := by
  obtain ⟨hm, he⟩ := binade_of_lt hLow hHigh
  rw [binadeMantissa_mul_two_pow hLow, binadeExponent_mul_two_pow hLow, hm, he, Int.zero_add]
  exact ⟨rfl, rfl⟩

/-- The mantissa of a double is a 53-bit number. -/
theorem binadeMantissa_bounds {v : Nat} (hv : 0 < v) :
    2 ^ 52 ≤ binadeMantissa v ∧ binadeMantissa v < 2 ^ 53 := by
  have hLow := Nat.log2_self_le hv.ne'
  have hHigh : v < 2 ^ (v.log2 + 1) := Nat.lt_log2_self
  unfold binadeMantissa
  rcases Nat.le_total v.log2 52 with hL | hL
  · rw [show v.log2 - 52 = 0 by omega, Nat.pow_zero, Nat.div_one]
    have hSum : v.log2 + (52 - v.log2) = 52 := by omega
    constructor
    · calc 2 ^ 52 = 2 ^ v.log2 * 2 ^ (52 - v.log2) := by rw [← Nat.pow_add, hSum]
        _ ≤ v * 2 ^ (52 - v.log2) := Nat.mul_le_mul_right _ hLow
    · calc v * 2 ^ (52 - v.log2) < 2 ^ (v.log2 + 1) * 2 ^ (52 - v.log2) :=
            Nat.mul_lt_mul_of_pos_right hHigh (Nat.two_pow_pos _)
        _ = 2 ^ 53 := by rw [← Nat.pow_add]; congr 1; omega
  · rw [show 52 - v.log2 = 0 by omega, Nat.pow_zero, Nat.mul_one]
    constructor
    · rw [Nat.le_div_iff_mul_le (Nat.two_pow_pos _), ← Nat.pow_add, show 52 + (v.log2 - 52) = v.log2 by omega]
      exact hLow
    · rw [Nat.div_lt_iff_lt_mul (Nat.two_pow_pos _), ← Nat.pow_add, show 53 + (v.log2 - 52) = v.log2 + 1 by omega]
      exact hHigh

/-- A 64-bit magnitude rounds to a double of exponent at most `12`, far from overflow. -/
theorem binadeExponent_nearestDouble_le {n : Nat} (hn : n < 2 ^ 64) :
    binadeExponent (nearestDouble n) ≤ 12 := by
  have hLog : n.log2 < 64 := by
    rcases Nat.eq_zero_or_pos n with rfl | hpos
    · rw [Nat.log2_zero]; omega
    · exact (Nat.log2_lt hpos.ne').2 hn
  have hTop : nearestDouble n < 2 ^ 65 :=
    Nat.lt_of_le_of_lt (nearestDouble_le_pow_succ_log2 n) (Nat.pow_lt_pow_right (by decide) (by omega))
  have hLog' : (nearestDouble n).log2 < 65 := by
    rcases Nat.eq_zero_or_pos (nearestDouble n) with h0 | hpos
    · simp [h0]
    · exact (Nat.log2_lt hpos.ne').2 hTop
  unfold binadeExponent
  omega

/-- Every rounded value is a double. -/
theorem isDouble_nearestDouble (n : Nat) : IsDouble (nearestDouble n) := by
  unfold IsDouble
  have hq : roundShift n (n.log2 - 52) ≤ 2 ^ 53 :=
    (roundShift_le_pow n (by omega)).trans (Nat.pow_le_pow_right (by decide) (by omega))
  rcases Nat.eq_zero_or_pos (roundShift n (n.log2 - 52)) with h0 | hpos
  · simp [nearestDouble, h0]
  · rcases Nat.lt_or_eq_of_le hq with hlt | heq
    · have hq52 : (roundShift n (n.log2 - 52)).log2 ≤ 52 := by
        have := (Nat.log2_lt hpos.ne').2 hlt
        omega
      have hLog : (nearestDouble n).log2 - 52 ≤ n.log2 - 52 := by
        rw [nearestDouble, log2_mul_pow hpos]
        omega
      exact Dvd.dvd.mul_left (Nat.pow_dvd_pow 2 hLog) _
    · rw [nearestDouble, heq, ← Nat.pow_add]
      exact Nat.pow_dvd_pow 2 (by rw [Nat.log2_two_pow]; omega)

/-- The mantissa of a double, put back at the position of its leading bit, is the double itself
shifted by the 52 fraction bits. -/
theorem binadeMantissa_mul_pow_log2 {v : Nat} (hv : IsDouble v) :
    binadeMantissa v * 2 ^ v.log2 = v * 2 ^ 52 := by
  unfold binadeMantissa
  rcases Nat.le_total v.log2 52 with hL | hL
  · rw [show v.log2 - 52 = 0 by omega, Nat.pow_zero, Nat.div_one, Nat.mul_assoc, ← Nat.pow_add]
    congr 2
    omega
  · rw [show 52 - v.log2 = 0 by omega, Nat.pow_zero, Nat.mul_one]
    calc v / 2 ^ (v.log2 - 52) * 2 ^ v.log2 = v / 2 ^ (v.log2 - 52) * 2 ^ (v.log2 - 52) * 2 ^ 52 := by
          rw [Nat.mul_assoc, ← Nat.pow_add, Nat.sub_add_cancel hL]
      _ = v * 2 ^ 52 := by rw [Nat.div_mul_cancel hv]

end DomainModels
