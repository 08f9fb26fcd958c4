import Mathlib
import DomainModels.Time.DateTime
/-! `civilFromDays` gives a valid date, and `daysFromCivil` takes it back to the same day count. -/
namespace DomainModels.Time

/-- The day of an era, counted from 1 March of its year 0, on which its year `y` starts. -/
def yearStart (y : Int) : Int := 365 * y + y / 4 - y / 100

/-- The year of an era holding its day `doe`, as `civilFromDays` computes it. -/
def yearOfEra (doe : Int) : Int := (doe - doe / 1460 + doe / 36524 - doe / 146096) / 365

/-- A later day of an era is in the same year or a later one. -/
theorem yearOfEra_mono {a b : Int} (ha : 0 ≤ a) (hab : a ≤ b) (hb : b ≤ 146096) :
    yearOfEra a ≤ yearOfEra b := by
  have hDays : a - a / 1460 + a / 36524 - a / 146096 ≤ b - b / 1460 + b / 36524 - b / 146096 := by
    rcases lt_or_eq_of_le hb with hLt | rfl
    · rw [Int.ediv_eq_zero_of_lt ha (lt_of_le_of_lt hab hLt), Int.ediv_eq_zero_of_lt (le_trans ha hab) hLt]
      omega
    · omega
  exact Int.ediv_le_ediv (by norm_num) hDays

/-- The first and the last day of every year of an era lie in that year. -/
theorem yearOfEra_table : ∀ y : Nat, y < 400 →
    yearOfEra (yearStart y) = y ∧ yearOfEra (yearStart (y + 1) - 1) = y := by
  decide +kernel

/-- The year of a day of an era is one of its 400 years. -/
theorem yearOfEra_bounds {doe : Int} (h0 : 0 ≤ doe) (h1 : doe ≤ 146096) :
    0 ≤ yearOfEra doe ∧ yearOfEra doe ≤ 399 := by
  unfold yearOfEra
  omega

/-- A day is not before the start of its year. -/
theorem yearStart_le_yearOfEra {doe : Int} (h0 : 0 ≤ doe) (h1 : doe ≤ 146096) :
    yearStart (yearOfEra doe) ≤ doe := by
  obtain ⟨hYear0, hYear1⟩ := yearOfEra_bounds h0 h1
  refine Int.not_lt.mp fun hBefore => ?_
  have hPos : yearOfEra doe ≠ 0 := by
    intro hZero
    rw [hZero] at hBefore
    simp [yearStart] at hBefore
    omega
  obtain ⟨k, hk⟩ : ∃ k : Nat, yearOfEra doe = k + 1 := ⟨(yearOfEra doe - 1).toNat, by omega⟩
  have hLast := (yearOfEra_table k (by omega)).2
  have hMono := yearOfEra_mono h0 (b := yearStart (k + 1) - 1) (by rw [hk] at hBefore; omega)
    (by simp only [yearStart]; omega)
  omega

/-- Before the last year of an era, a day comes before the start of the next year. -/
theorem lt_yearStart_succ {doe : Int} (h0 : 0 ≤ doe) (h1 : doe ≤ 146096)
    (hYear : yearOfEra doe < 399) : doe < yearStart (yearOfEra doe + 1) := by
  obtain ⟨hYear0, -⟩ := yearOfEra_bounds h0 h1
  refine Int.not_le.mp fun hAfter => ?_
  obtain ⟨k, hk⟩ : ∃ k : Nat, yearOfEra doe = k := ⟨(yearOfEra doe).toNat, by omega⟩
  have hFirst := (yearOfEra_table (k + 1) (by omega)).1
  have hMono := yearOfEra_mono (a := yearStart ((k + 1 : Nat) : Int)) (b := doe)
    (by simp only [yearStart]; omega) (by rw [hk] at hAfter; push_cast; omega) h1
  omega

/-- A day is at most 365 days into its year, and the 366th day only falls in a year whose
next January starts a leap year. -/
theorem dayOfYear_le {doe : Int} (h0 : 0 ≤ doe) (h1 : doe ≤ 146096) :
    doe - yearStart (yearOfEra doe) ≤ 365 ∧
      (doe - yearStart (yearOfEra doe) = 365 →
        (yearOfEra doe + 1) % 4 = 0 ∧ ((yearOfEra doe + 1) % 100 ≠ 0 ∨ yearOfEra doe = 399)) := by
  have hStart := yearStart_le_yearOfEra h0 h1
  obtain ⟨hYear0, hYear1⟩ := yearOfEra_bounds h0 h1
  rcases Int.lt_or_le (yearOfEra doe) 399 with hYear | hYear
  · have hNext := lt_yearStart_succ h0 h1 hYear
    simp only [yearStart] at hStart hNext ⊢
    have hFour : (yearOfEra doe + 1) / 4 ≤ yearOfEra doe / 4 + 1 := by omega
    have hCentury : yearOfEra doe / 100 ≤ (yearOfEra doe + 1) / 100 := by omega
    refine ⟨by omega, fun hLast => ⟨by omega, by omega⟩⟩
  · have hLastYear : yearOfEra doe = 399 := by omega
    have hStart399 : yearStart 399 = 145731 := by decide
    rw [hLastYear, hStart399] at hStart ⊢
    omega

/-- The date of day `doy`, counted from 1 March, of year `yoe` of era `era`. -/
def dateOfYearDay (era yoe doy : Int) : Int × Nat × Nat :=
  let mp := (5 * doy + 2) / 153
  let d := doy - (153 * mp + 2) / 5 + 1
  let m := if mp < 10 then mp + 3 else mp - 9
  ((if m ≤ 2 then yoe + era * 400 + 1 else yoe + era * 400), m.toNat, d.toNat)

/-- `civilFromDays` finds the era, the year of the era and the day of the year, then the date. -/
theorem civilFromDays_eq (z : Int) :
    civilFromDays z =
      let doe := z + 719468 - (z + 719468) / 146097 * 146097
      dateOfYearDay ((z + 719468) / 146097) (yearOfEra doe) (doe - yearStart (yearOfEra doe)) :=
  rfl

/-- Counting the days of a date given by its era, year and day of the year. -/
theorem daysFromCivil_dateOfYearDay {era yoe doy : Int} (hYear0 : 0 ≤ yoe) (hYear1 : yoe ≤ 399)
    (hDay0 : 0 ≤ doy) (hDay1 : doy ≤ 365) :
    daysFromCivil (dateOfYearDay era yoe doy).1 (dateOfYearDay era yoe doy).2.1
      (dateOfYearDay era yoe doy).2.2 = era * 146097 + yearStart yoe + doy - 719468 := by
  have hStart : yearStart yoe = 365 * yoe + yoe / 4 - yoe / 100 := rfl
  simp only [dateOfYearDay, daysFromCivil]
  split_ifs <;> omega

/-- The date of a day of a year exists; the 366th day is a 29 February of a leap year. -/
theorem isValidDate_dateOfYearDay {era yoe doy : Int} (hDay0 : 0 ≤ doy) (hDay1 : doy ≤ 365)
    (hLeap : doy = 365 → (yoe + 1) % 4 = 0 ∧ ((yoe + 1) % 100 ≠ 0 ∨ yoe = 399)) :
    isValidDate (dateOfYearDay era yoe doy).1 (dateOfYearDay era yoe doy).2.1
      (dateOfYearDay era yoe doy).2.2 = true := by
  obtain ⟨mp, hMonth⟩ : ∃ mp, (5 * doy + 2) / 153 = mp := ⟨_, rfl⟩
  have hMonth0 : 0 ≤ mp := by omega
  have hMonth1 : mp ≤ 11 := by omega
  simp only [dateOfYearDay, hMonth, isValidDate, Bool.and_eq_true, decide_eq_true_eq]
  interval_cases mp <;> simp [daysInMonth, isLeapYear] <;> omega

/-- The era, year of the era and day of the year of a day count are in range. -/
theorem dayOfEra_bounds (z : Int) :
    let doe := z + 719468 - (z + 719468) / 146097 * 146097
    0 ≤ doe ∧ doe ≤ 146096 := by
  intro doe
  omega

/-- Counting the days of the date of a day count gives the count back. -/
theorem daysFromCivil_civilFromDays (z : Int) :
    daysFromCivil (civilFromDays z).1 (civilFromDays z).2.1 (civilFromDays z).2.2 = z := by
  obtain ⟨h0, h1⟩ := dayOfEra_bounds z
  obtain ⟨hYear0, hYear1⟩ := yearOfEra_bounds h0 h1
  have hStart := yearStart_le_yearOfEra h0 h1
  have hDay := (dayOfYear_le h0 h1).1
  rw [civilFromDays_eq, daysFromCivil_dateOfYearDay hYear0 hYear1 (by omega) hDay]
  omega

/-- The date of every day count exists. -/
theorem isValidDate_civilFromDays (z : Int) :
    isValidDate (civilFromDays z).1 (civilFromDays z).2.1 (civilFromDays z).2.2 = true := by
  obtain ⟨h0, h1⟩ := dayOfEra_bounds z
  have hStart := yearStart_le_yearOfEra h0 h1
  obtain ⟨hDay, hLeap⟩ := dayOfYear_le h0 h1
  rw [civilFromDays_eq]
  exact isValidDate_dateOfYearDay (by omega) hDay hLeap

/-- No month has more than 31 days. -/
theorem daysInMonth_le (y : Int) (m : Nat) : daysInMonth y m ≤ 31 := by
  unfold daysInMonth
  split
  all_goals (try split) <;> omega

/-- The fields of an existing date are in range. -/
theorem isValidDate_bounds {y : Int} {m d : Nat} (h : isValidDate y m d = true) :
    1 ≤ m ∧ m ≤ 12 ∧ 1 ≤ d ∧ d ≤ 31 := by
  simp only [isValidDate, Bool.and_eq_true, decide_eq_true_eq] at h
  have hDays := daysInMonth_le y m
  omega

namespace Civil

/-- The local date and time of a count of seconds counts back to it. -/
theorem toSeconds_ofSeconds (s : Int) : (ofSeconds s).toSeconds = s := by
  have hDays := daysFromCivil_civilFromDays (s / secondsPerDay)
  simp only [ofSeconds, toSeconds]
  generalize civilFromDays (s / secondsPerDay) = date at hDays ⊢
  obtain ⟨y, m, d⟩ := date
  simp only [secondsPerDay] at hDays ⊢
  omega

/-- The clock fields of a count of seconds are in range. -/
theorem ofSeconds_clock (s : Int) :
    (ofSeconds s).hour < 24 ∧ (ofSeconds s).minute < 60 ∧ (ofSeconds s).second < 60 := by
  simp only [ofSeconds, secondsPerDay]
  generalize civilFromDays (s / 86400) = date
  obtain ⟨y, m, d⟩ := date
  omega

/-- The date of a count of seconds exists. -/
theorem isValidDate_ofSeconds (s : Int) :
    isValidDate (ofSeconds s).year (ofSeconds s).month (ofSeconds s).day = true := by
  have hValid := isValidDate_civilFromDays (s / secondsPerDay)
  simp only [ofSeconds]
  generalize civilFromDays (s / secondsPerDay) = date at hValid ⊢
  obtain ⟨y, m, d⟩ := date
  exact hValid

end Civil

end DomainModels.Time
