import Mathlib
import DomainModels.Proofs.Time.Calendar
import DomainModels.Wire.DateTime
/-! DateTimes written on the wire read back as the same instant, cut to the millisecond and in the
offset written, and are written again as the same text. -/
namespace DomainModels.Time

theorem isAsciiDigit_eq_isDigit (c : Char) : isAsciiDigit c = c.isDigit := by
  simp [isAsciiDigit, Char.isDigit, Char.le_def]

theorem toList_padded (w n : Nat) :
    (padded w n).toList =
      List.replicate (w - (Nat.toDigits 10 n).length) '0' ++ Nat.toDigits 10 n := by
  simp [padded, String.length]

/-- The digit fold of the readers is the decimal value of the digits. -/
theorem foldl_digits (l : List Char) (init : Nat) :
    l.foldl (fun acc c => acc * 10 + (c.toNat - '0'.toNat)) init = Nat.ofDigitChars 10 l init := by
  simp only [Nat.ofDigitChars_eq_foldl, Nat.mul_comm]

/-- Leading zeros do not change the value of a padded number. -/
theorem foldl_padded (w n : Nat) :
    (padded w n).toList.foldl (fun acc c => acc * 10 + (c.toNat - '0'.toNat)) 0 = n := by
  rw [foldl_digits, toList_padded, Nat.ofDigitChars_append, Nat.ofDigitChars_replicate_zero,
    Nat.mul_zero, Nat.ofDigitChars_ten_toDigits]

/-- A number with fewer than `w` digits is padded to exactly `w` characters. -/
theorem length_padded {w n : Nat} (hw : 0 < w) (hn : n < 10 ^ w) :
    (padded w n).toList.length = w := by
  have hDigits := (Nat.length_toDigits_le_iff (by decide) hw).2 hn
  rw [toList_padded]
  simp
  omega

theorem isAsciiDigit_of_mem_padded {w n : Nat} {c : Char} (hc : c ∈ (padded w n).toList) :
    isAsciiDigit c = true := by
  rw [toList_padded] at hc
  rw [isAsciiDigit_eq_isDigit]
  rcases List.mem_append.1 hc with hZero | hDigit
  · rw [(List.mem_replicate.1 hZero).2]
    rfl
  · exact Nat.isDigit_of_mem_toDigits (by decide) (by decide) hDigit

/-- A field of exactly `w` digits reads back the padded number, whatever follows it. -/
theorem digitsBetween_padded {w n : Nat} (hw : 0 < w) (hn : n < 10 ^ w) (rest : List Char) :
    digitsBetween w w ((padded w n).toList ++ rest) = some (n, rest) := by
  have hLen := length_padded hw hn
  have hAll : ((padded w n).toList).takeWhile isAsciiDigit = (padded w n).toList := by
    simpa using @List.takeWhile_append_of_pos Char isAsciiDigit (padded w n).toList []
      fun c hc => isAsciiDigit_of_mem_padded hc
  simp only [digitsBetween, List.take_left' hLen, hAll, hLen, Nat.lt_irrefl, if_false,
    foldl_padded, List.drop_left' hLen]

/-- Three digits of milliseconds, ended by a character that is no digit, read as nanoseconds. -/
theorem readFraction_padded {ms : Nat} (hms : ms < 1000) {c : Char} (hc : isAsciiDigit c = false)
    (rest : List Char) :
    readFraction ((padded 3 ms).toList ++ c :: rest) = some (ms * 1000000, c :: rest) := by
  have hLen := length_padded (w := 3) (by decide) hms
  have hAll : ((padded 3 ms).toList ++ c :: rest).takeWhile isAsciiDigit = (padded 3 ms).toList := by
    rw [List.takeWhile_append_of_pos fun c hc => isAsciiDigit_of_mem_padded (w := 3) (n := ms) hc]
    simp [hc]
  have hEmpty : (padded 3 ms).toList.isEmpty = false := by
    rw [List.isEmpty_eq_false_iff]
    intro hNil
    simp [hNil] at hLen
  have hTake : (padded 3 ms).toList.take 9 = (padded 3 ms).toList :=
    List.take_of_length_le (by omega)
  simp only [readFraction, hAll, hEmpty, hTake, hLen, foldl_padded, List.drop_left' hLen]
  rfl

/-- A field of exactly `w` ASCII digits. -/
def DigitField (w : Nat) (l : List Char) : Prop := l.length = w ∧ ∀ c ∈ l, isAsciiDigit c = true

theorem digitField_padded {w n : Nat} (hw : 0 < w) (hn : n < 10 ^ w) :
    DigitField w (padded w n).toList :=
  ⟨length_padded hw hn, fun _ hc => isAsciiDigit_of_mem_padded hc⟩

theorem DigitField.two {l : List Char} (h : DigitField 2 l) :
    ∃ a b, l = [a, b] ∧ isAsciiDigit a ∧ isAsciiDigit b :=
  match l, h with
  | [a, b], ⟨_, hd⟩ => ⟨a, b, rfl, hd a (by simp), hd b (by simp)⟩

theorem DigitField.three {l : List Char} (h : DigitField 3 l) :
    ∃ a b c, l = [a, b, c] ∧ isAsciiDigit a ∧ isAsciiDigit b ∧ isAsciiDigit c :=
  match l, h with
  | [a, b, c], ⟨_, hd⟩ => ⟨a, b, c, rfl, hd a (by simp), hd b (by simp), hd c (by simp)⟩

theorem DigitField.four {l : List Char} (h : DigitField 4 l) :
    ∃ a b c d, l = [a, b, c, d] ∧ isAsciiDigit a ∧ isAsciiDigit b ∧ isAsciiDigit c ∧
      isAsciiDigit d :=
  match l, h with
  | [a, b, c, d], ⟨_, hd⟩ =>
      ⟨a, b, c, d, rfl, hd a (by simp), hd b (by simp), hd c (by simp), hd d (by simp)⟩

/-- The wire text of a date and time to the millisecond, from its fields, before the offset. -/
def fieldsText (y mo d h mi sec ms : Nat) : String :=
  padded 4 y ++ "-" ++ padded 2 mo ++ "-" ++ padded 2 d ++ "T" ++ padded 2 h ++ ":" ++ padded 2 mi ++
    ":" ++ padded 2 sec ++ "." ++ padded 3 ms

/-- The UTC wire text of a date and time to the millisecond, from its fields. -/
def utcText (y mo d h mi sec ms : Nat) : String :=
  padded 4 y ++ "-" ++ padded 2 mo ++ "-" ++ padded 2 d ++ "T" ++ padded 2 h ++ ":" ++ padded 2 mi ++
    ":" ++ padded 2 sec ++ "." ++ padded 3 ms ++ "Z"

/-- The characters of the fields' text, field by field. -/
theorem toList_fieldsText (y mo d h mi sec ms : Nat) :
    (fieldsText y mo d h mi sec ms).toList =
      (padded 4 y).toList ++ '-' :: ((padded 2 mo).toList ++ '-' :: ((padded 2 d).toList ++
        'T' :: ((padded 2 h).toList ++ ':' :: ((padded 2 mi).toList ++ ':' :: ((padded 2 sec).toList ++
        '.' :: (padded 3 ms).toList))))) := by
  have hDash : "-".toList = ['-'] := rfl
  have hT : "T".toList = ['T'] := rfl
  have hColon : ":".toList = [':'] := rfl
  have hDot : ".".toList = ['.'] := rfl
  simp only [fieldsText, String.toList_append, List.append_assoc, List.cons_append, List.nil_append,
    hDash, hT, hColon, hDot]

/-- The UTC text is the fields' text followed by `Z`. -/
theorem utcText_eq (y mo d h mi sec ms : Nat) :
    utcText y mo d h mi sec ms = String.ofList ((fieldsText y mo d h mi sec ms).toList ++ ['Z']) := by
  have hZ : "Z".toList = ['Z'] := rfl
  rw [← hZ, ← String.toList_append, String.ofList_toList]
  rfl

theorem expectChar_cons_self (c : Char) (rest : List Char) : expectChar c (c :: rest) = some rest := by
  simp [expectChar]

theorem offsetField_utc (rest : List Char) : offsetField ('Z' :: rest) = some (0, rest) := by
  simp [offsetField]

/-- Every field of a wire text is read back by the RFC 3339 reader, and its offset, whatever it is. -/
theorem rfc3339?_fieldsText {y mo d h mi sec ms : Nat} (hy : y < 10000) (hmo : mo < 100)
    (hd : d < 100) (hh : h < 100) (hmi : mi < 100) (hsec : sec < 100) (hms : ms < 1000)
    {c : Char} {rest : List Char} {offset : Int} (hc : isAsciiDigit c = false)
    (hOffset : offsetField (c :: rest) = some (offset, [])) (hRange : offset.natAbs ≤ maxRfc3339Offset.natAbs) :
    rfc3339? (String.ofList ((fieldsText y mo d h mi sec ms).toList ++ c :: rest)) =
      (({ year := some (y : Int), month := some mo, day := some d, hour := some h, minute := some mi,
          second := some sec, nanos := some (ms * 1000000) } : Fields).toLocal?).map
        fun (c, n) => DateTime.ofLocal c n offset := by
  have hChars : (fieldsText y mo d h mi sec ms).toList ++ c :: rest =
      (padded 4 y).toList ++ '-' :: ((padded 2 mo).toList ++ '-' :: ((padded 2 d).toList ++
        'T' :: ((padded 2 h).toList ++ ':' :: ((padded 2 mi).toList ++ ':' :: ((padded 2 sec).toList ++
        '.' :: ((padded 3 ms).toList ++ c :: rest)))))) := by
    simp only [toList_fieldsText, List.append_assoc, List.cons_append]
  dsimp only [rfc3339?]
  rw [String.toList_ofList, hChars, digitsBetween_padded (w := 4) (by decide) hy]
  dsimp only [Option.bind_eq_bind, Option.bind_some]
  rw [expectChar_cons_self, Option.bind_some, digitsBetween_padded (w := 2) (by decide) hmo,
    Option.bind_some]
  dsimp only
  rw [expectChar_cons_self, Option.bind_some, digitsBetween_padded (w := 2) (by decide) hd,
    Option.bind_some]
  dsimp only
  rw [if_pos (by decide), digitsBetween_padded (w := 2) (by decide) hh, Option.bind_some]
  dsimp only
  rw [expectChar_cons_self, Option.bind_some, digitsBetween_padded (w := 2) (by decide) hmi,
    Option.bind_some]
  dsimp only
  rw [expectChar_cons_self, Option.bind_some, digitsBetween_padded (w := 2) (by decide) hsec,
    Option.bind_some]
  dsimp only
  split
  next more hList =>
    obtain rfl := (List.cons.inj hList).2
    rw [readFraction_padded hms hc, Option.map_some, Option.bind_some]
    dsimp only
    rw [hOffset, Option.bind_some]
    dsimp only
    rw [if_neg (by simpa using hRange), Option.map_eq_bind]
    rfl
  next hNot => exact absurd rfl (hNot _)

/-- Every field of the UTC text is read back by the RFC 3339 reader. -/
theorem rfc3339?_utcText {y mo d h mi sec ms : Nat} (hy : y < 10000) (hmo : mo < 100)
    (hd : d < 100) (hh : h < 100) (hmi : mi < 100) (hsec : sec < 100) (hms : ms < 1000) :
    rfc3339? (utcText y mo d h mi sec ms) =
      (({ year := some (y : Int), month := some mo, day := some d, hour := some h, minute := some mi,
          second := some sec, nanos := some (ms * 1000000) } : Fields).toLocal?).map
        fun (c, n) => DateTime.ofLocal c n 0 := by
  rw [utcText_eq]
  exact rfc3339?_fieldsText hy hmo hd hh hmi hsec hms rfl (offsetField_utc []) (by decide)

/-! ### Offsets -/

theorem isAsciiDigit_toNat {c : Char} (h : isAsciiDigit c = true) : 48 ≤ c.toNat ∧ c.toNat ≤ 57 := by
  simp only [isAsciiDigit, Bool.and_eq_true, decide_eq_true_eq, Char.le_def, UInt32.le_iff_toNat_le] at h
  exact h

/-- The two digits of a padded number below 100, with their values. -/
theorem padded_two {n : Nat} (hn : n < 100) :
    ∃ a b, (padded 2 n).toList = [a, b] ∧ isAsciiDigit a = true ∧ isAsciiDigit b = true ∧
      a.toNat - 48 = n / 10 ∧ b.toNat - 48 = n % 10 := by
  obtain ⟨a, b, hab, ha, hb⟩ := (digitField_padded (w := 2) (by decide) hn).two
  have hValue := foldl_padded 2 n
  rw [hab] at hValue
  simp only [List.foldl_cons, List.foldl_nil, Nat.zero_mul, Nat.zero_add] at hValue
  have hZero : '0'.toNat = 48 := rfl
  have hA := isAsciiDigit_toNat ha
  have hB := isAsciiDigit_toNat hb
  refine ⟨a, b, hab, ha, hb, ?_, ?_⟩ <;> omega

/-- The offset text reads back as the offset, for a whole number of minutes less than a day. -/
theorem offsetField_offsetText {zone : Int} (hDay : zone.natAbs < 86400) (hMinutes : zone % 60 = 0) :
    offsetField (offsetText zone).toList = some (zone, []) := by
  obtain ⟨h1, h2, hHours, hh1, hh2, hv1, hv2⟩ := padded_two (n := zone.natAbs / 60 / 60) (by omega)
  obtain ⟨m1, m2, hMins, hm1, hm2, hw1, hw2⟩ := padded_two (n := zone.natAbs / 60 % 60) (by omega)
  have hFive : m1 ≤ '5' := by
    rw [Char.le_def, UInt32.le_iff_toNat_le]
    show m1.toNat ≤ 53
    have := isAsciiDigit_toNat hm1
    omega
  have hText : (offsetText zone).toList =
      (if zone < 0 then '-' else '+') :: h1 :: h2 :: ':' :: m1 :: m2 :: [] := by
    simp only [offsetText, String.toList_append, hHours, hMins]
    split <;> rfl
  rw [hText]
  have hSeconds : ((h1.toNat - 48) * 10 + (h2.toNat - 48)) * 3600 + ((m1.toNat - 48) * 10 + (m2.toNat - 48)) * 60
      = zone.natAbs := by omega
  by_cases hNeg : zone < 0
  · rw [if_pos hNeg]
    simp [offsetField, hh1, hh2, hm1, hm2, hFive]
    omega
  · rw [if_neg hNeg]
    simp [offsetField, hh1, hh2, hm1, hm2, hFive]
    omega

/-- The offset at the end of a wire text: `Z`, or a sign, two digits, a colon and two digits. -/
def OffsetSuffix (l : List Char) : Prop :=
  l = ['Z'] ∨ ∃ sign a b c e, l = [sign, a, b, ':', c, e] ∧ (sign = '+' ∨ sign = '-') ∧
    isAsciiDigit a = true ∧ isAsciiDigit b = true ∧ isAsciiDigit c = true ∧ isAsciiDigit e = true

theorem offsetSuffix_offsetText {zone : Int} (hDay : zone.natAbs < 86400) :
    OffsetSuffix (offsetText zone).toList := by
  obtain ⟨h1, h2, hHours, hh1, hh2, -, -⟩ := padded_two (n := zone.natAbs / 60 / 60) (by omega)
  obtain ⟨m1, m2, hMins, hm1, hm2, -, -⟩ := padded_two (n := zone.natAbs / 60 % 60) (by omega)
  refine .inr ⟨if zone < 0 then '-' else '+', h1, h2, m1, m2, ?_, ?_, hh1, hh2, hm1, hm2⟩
  · simp only [offsetText, String.toList_append, hHours, hMins]
    split <;> rfl
  · split
    · exact .inr rfl
    · exact .inl rfl

/-- The fields read from a text make a local time when they are in range; a second of 60 is a
leap second, held as a second nanosecond count in the 59th second. -/
theorem toLocal?_eq {y : Int} {m d h mi s n : Nat} (hDate : isValidDate y m d = true)
    (hHour : h ≤ 23) (hMinute : mi ≤ 59) (hSecond : s ≤ 60) (hNanos : n ≤ 999999999) :
    ({ year := some y, month := some m, day := some d, hour := some h, minute := some mi,
        second := some s, nanos := some n } : Fields).toLocal? =
      some (if s = 60 then (⟨y, m, d, h, mi, 59⟩, n + 1000000000) else (⟨y, m, d, h, mi, s⟩, n)) := by
  have hHour' : ¬h > 23 := by omega
  have hMinute' : ¬mi > 59 := by omega
  have hSecond' : ¬s > 60 := by omega
  have hNanos' : ¬n > 999999999 := by omega
  by_cases hLeap : s = 60
  · subst hLeap
    simp [Fields.toLocal?, hDate, hHour', hMinute', hNanos']
  · simp [Fields.toLocal?, hDate, hHour', hMinute', hSecond', hNanos', hLeap]

namespace DateTime

/-- An instant the UTC wire text writes exactly: whole milliseconds, a leap second only in the
last second of a UTC minute (as a nanosecond count of a second or more), and a UTC year of
four digits. -/
structure WireExact (t : DateTime) : Prop where
  millis : t.nanos % 1000000 = 0
  nanos_lt : t.nanos < 2000000000
  leap : 1000000000 ≤ t.nanos → (Civil.ofSeconds t.seconds).second = 59
  year_nonneg : 0 ≤ (Civil.ofSeconds t.seconds).year
  year_le : (Civil.ofSeconds t.seconds).year ≤ 9999

/-- The wire text in UTC is the UTC text of the instant's UTC fields. -/
theorem formatDateTime_zero {t : DateTime} (hYear0 : 0 ≤ (Civil.ofSeconds t.seconds).year)
    (hYear1 : (Civil.ofSeconds t.seconds).year ≤ 9999) :
    Wire.formatDateTime t 0 =
      utcText (Civil.ofSeconds t.seconds).year.toNat (Civil.ofSeconds t.seconds).month
        (Civil.ofSeconds t.seconds).day (Civil.ofSeconds t.seconds).hour
        (Civil.ofSeconds t.seconds).minute (t.withOffset 0).displaySecond
        (t.nanos % 1000000000 / 1000000) := by
  have hZone : Wire.offsetOfMinutes 0 = 0 := by decide
  simp only [Wire.formatDateTime, hZone, millisText, baseText, localTime, withOffset,
    Int.add_zero, yearText, hYear0, hYear1, and_self, if_true, beq_self_eq_true, displayNanos,
    utcText]

/-- The text to the millisecond of an instant whose local year has four digits, from its fields. -/
theorem millisText_eq {seconds : Int} {nanos : Nat} {zone : Int}
    (hYear0 : 0 ≤ (Civil.ofSeconds (seconds + zone)).year) (hYear1 : (Civil.ofSeconds (seconds + zone)).year ≤ 9999) :
    (mk seconds nanos zone).millisText =
      fieldsText (Civil.ofSeconds (seconds + zone)).year.toNat (Civil.ofSeconds (seconds + zone)).month
        (Civil.ofSeconds (seconds + zone)).day (Civil.ofSeconds (seconds + zone)).hour
        (Civil.ofSeconds (seconds + zone)).minute (mk seconds nanos zone).displaySecond
        ((mk seconds nanos zone).displayNanos / 1000000) := by
  simp only [millisText, baseText, localTime, yearText, hYear0, hYear1, and_self,
    if_true, fieldsText]

end DateTime

/-- The fields of a local time with a year of four digits, with a number of milliseconds, read back
as that local time. -/
theorem toLocal?_ofSeconds {s : Int} (hYear0 : 0 ≤ (Civil.ofSeconds s).year) {ms : Nat} (hms : ms < 1000) :
    Fields.toLocal? ⟨some ((Civil.ofSeconds s).year.toNat : Int), some (Civil.ofSeconds s).month,
      some (Civil.ofSeconds s).day, some (Civil.ofSeconds s).hour, some (Civil.ofSeconds s).minute,
      some (Civil.ofSeconds s).second, some (ms * 1000000)⟩ = some (Civil.ofSeconds s, ms * 1000000) := by
  obtain ⟨hHour, hMinute, hSecond⟩ := Civil.ofSeconds_clock s
  have hYear : (((Civil.ofSeconds s).year.toNat : Nat) : Int) = (Civil.ofSeconds s).year :=
    Int.toNat_of_nonneg hYear0
  rw [hYear, toLocal?_eq (Civil.isValidDate_ofSeconds s) (by omega) (by omega) (by omega) (by omega),
    if_neg (by omega)]

end DomainModels.Time

namespace DomainModels.Wire

open Time

/-- A wire text has the strict shape whatever its offset. -/
theorem hasQualifiedShape_fieldsText {y mo d h mi sec ms : Nat} (hy : y < 10000) (hmo : mo < 100)
    (hd : d < 100) (hh : h < 100) (hmi : mi < 100) (hsec : sec < 100) (hms : ms < 1000)
    {suffix : List Char} (hSuffix : OffsetSuffix suffix) :
    hasQualifiedShape (String.ofList ((fieldsText y mo d h mi sec ms).toList ++ suffix)) = true := by
  obtain ⟨y1, y2, y3, y4, hYear, hy1, hy2, hy3, hy4⟩ :=
    (digitField_padded (w := 4) (by decide) hy).four
  obtain ⟨m1, m2, hMonth, hm1, hm2⟩ := (digitField_padded (w := 2) (by decide) hmo).two
  obtain ⟨d1, d2, hDay, hd1, hd2⟩ := (digitField_padded (w := 2) (by decide) hd).two
  obtain ⟨h1, h2, hHour, hh1, hh2⟩ := (digitField_padded (w := 2) (by decide) hh).two
  obtain ⟨i1, i2, hMinute, hi1, hi2⟩ := (digitField_padded (w := 2) (by decide) hmi).two
  obtain ⟨s1, s2, hSecond, hs1, hs2⟩ := (digitField_padded (w := 2) (by decide) hsec).two
  obtain ⟨f1, f2, f3, hMillis, hf1, hf2, hf3⟩ := (digitField_padded (w := 3) (by decide) hms).three
  simp only [hasQualifiedShape, String.toList_ofList, toList_fieldsText, hYear, hMonth, hDay, hHour,
    hMinute, hSecond, hMillis]
  rcases hSuffix with rfl | ⟨sign, a, b, c, e, rfl, hSign, ha, hb, hc, he⟩
  · have hZ : isAsciiDigit 'Z' = false := rfl
    simp [hy1, hy2, hy3, hy4, hm1, hm2, hd1, hd2, hh1, hh2, hi1, hi2, hs1, hs2, hf1, hf2, hf3, hZ]
  · have hSignDigit : isAsciiDigit sign = false := by rcases hSign with rfl | rfl <;> rfl
    simp [hy1, hy2, hy3, hy4, hm1, hm2, hd1, hd2, hh1, hh2, hi1, hi2, hs1, hs2, hf1, hf2, hf3,
      hSignDigit, ha, hb, hc, he]
    rcases hSign with rfl | rfl <;> simp

/-- The UTC text has the strict shape. -/
theorem hasQualifiedShape_utcText {y mo d h mi sec ms : Nat} (hy : y < 10000) (hmo : mo < 100)
    (hd : d < 100) (hh : h < 100) (hmi : mi < 100) (hsec : sec < 100) (hms : ms < 1000) :
    hasQualifiedShape (utcText y mo d h mi sec ms) = true := by
  rw [utcText_eq]
  exact hasQualifiedShape_fieldsText hy hmo hd hh hmi hsec hms (.inl rfl)

/-- Strict reading of a UTC text reads its fields. -/
theorem parseDateTime_utcText {y mo d h mi sec ms : Nat} (hy : y < 10000) (hmo : mo < 100)
    (hd : d < 100) (hh : h < 100) (hmi : mi < 100) (hsec : sec < 100) (hms : ms < 1000) :
    parseDateTime (utcText y mo d h mi sec ms) true 0 =
      (({ year := some (y : Int), month := some mo, day := some d, hour := some h, minute := some mi,
          second := some sec, nanos := some (ms * 1000000) } : Fields).toLocal?).map
        fun (c, n) => DateTime.ofLocal c n 0 := by
  rw [parseDateTime, if_pos rfl, if_pos (hasQualifiedShape_utcText hy hmo hd hh hmi hsec hms),
    rfc3339?_utcText hy hmo hd hh hmi hsec hms]

/-- Strict reading of a DateTime written in UTC gives the instant back, in UTC. -/
theorem parseDateTime_formatDateTime_zero {t : DateTime} (hExact : t.WireExact) :
    parseDateTime (formatDateTime t 0) true 0 = some (t.withOffset 0) := by
  obtain ⟨hMillis, hNanos, hLeap, hYear0, hYear1⟩ := hExact
  obtain ⟨hHour, hMinute, hSecond⟩ := Civil.ofSeconds_clock t.seconds
  have hDate := Civil.isValidDate_ofSeconds t.seconds
  obtain ⟨-, hMonth, -, hDay⟩ := isValidDate_bounds hDate
  have hSeconds := Civil.toSeconds_ofSeconds t.seconds
  have hDisplay : (t.withOffset 0).displaySecond =
      (Civil.ofSeconds t.seconds).second + (if t.nanos ≥ 1000000000 then 1 else 0) := by
    simp [DateTime.displaySecond, DateTime.localTime, DateTime.withOffset]
  have hShown : (t.withOffset 0).displaySecond ≤ 60 := by
    rw [hDisplay]
    split <;> omega
  rw [DateTime.formatDateTime_zero hYear0 hYear1,
    parseDateTime_utcText (by omega) (by omega) (by omega) (by omega) (by omega) (by omega) (by omega),
    Int.toNat_of_nonneg hYear0]
  have hCut : t.nanos % 1000000000 / 1000000 * 1000000 = t.nanos % 1000000000 := by
    have hMod : t.nanos % 1000000000 % 1000000 = 0 := by
      rw [Nat.mod_mod_of_dvd t.nanos (by norm_num)]
      exact hMillis
    exact Nat.div_mul_cancel (Nat.dvd_of_mod_eq_zero hMod)
  rw [toLocal?_eq hDate (by omega) (by omega) hShown (by omega), Option.map_some, hDisplay, hCut]
  obtain ⟨seconds, nanos, offset⟩ := t
  simp only [DateTime.withOffset, DateTime.ofLocal, Option.some.injEq] at *
  generalize Civil.ofSeconds seconds = c at *
  obtain ⟨year, month, day, hour, minute, second⟩ := c
  simp only at *
  by_cases hL : 1000000000 ≤ nanos
  · have h59 := hLeap hL
    subst h59
    simp only [ge_iff_le, hL, if_true, Nat.reduceAdd, DateTime.mk.injEq, and_true]
    exact ⟨by omega, by omega⟩
  · have hNoLeap : (if nanos ≥ 1000000000 then 1 else 0) = 0 := if_neg (by omega)
    rw [hNoLeap, Nat.add_zero, if_neg (by omega)]
    simp only [DateTime.mk.injEq, and_true]
    exact ⟨by omega, by omega⟩

/-! ### Any offset -/

/-- The offset a number of minutes is shown in is less than a day and a whole number of minutes. -/
theorem offsetOfMinutes_bounds (minutes : Int) :
    (offsetOfMinutes minutes).natAbs < 86400 ∧ offsetOfMinutes minutes % 60 = 0 := by
  unfold offsetOfMinutes
  dsimp only
  split
  · next hDay =>
    have hSeconds : max (-2147483648) (min 2147483647 (minutes * 60)) = minutes * 60 := by omega
    rw [hSeconds] at hDay ⊢
    exact ⟨hDay, Int.mul_emod_left minutes 60⟩
  · exact ⟨by decide, by decide⟩

theorem formatDateTime_eq (t : DateTime) (utcOffset : Int) :
    formatDateTime t utcOffset = (DateTime.mk t.seconds t.nanos (offsetOfMinutes utcOffset)).millisText ++
      (if offsetOfMinutes utcOffset == 0 then "Z" else offsetText (offsetOfMinutes utcOffset)) := rfl

/-- The offset written after the fields, `Z` or `±HH:MM`, reads back as the offset. -/
theorem zoneText_reads_back {zone : Int} (hDay : zone.natAbs < 86400) (hWhole : zone % 60 = 0) :
    ∃ c rest, (if zone == 0 then "Z" else offsetText zone).toList = c :: rest ∧ isAsciiDigit c = false ∧
      offsetField (c :: rest) = some (zone, []) ∧ OffsetSuffix (c :: rest) := by
  split
  · next hZero =>
    obtain rfl : zone = 0 := by simpa using hZero
    exact ⟨'Z', [], rfl, rfl, by simp [offsetField], .inl rfl⟩
  · obtain hSuffix := offsetSuffix_offsetText hDay
    rcases hSuffix with hZ | ⟨sign, a, b, c, e, hText, hSign, -⟩
    · exact ⟨'Z', [], hZ, rfl, hZ ▸ offsetField_offsetText hDay hWhole, .inl rfl⟩
    · refine ⟨sign, [a, b, ':', c, e], hText, by rcases hSign with rfl | rfl <;> rfl, ?_, ?_⟩
      · rw [← hText]
        exact offsetField_offsetText hDay hWhole
      · rw [← hText]
        exact offsetSuffix_offsetText hDay

/-- Reading a wire text, strictly or not, gives the local time of its fields in its offset. -/
theorem parseDateTime_wireText {y mo d h mi sec ms : Nat} (hy : y < 10000) (hmo : mo < 100)
    (hd : d < 100) (hh : h < 100) (hmi : mi < 100) (hsec : sec < 100) (hms : ms < 1000)
    {zone : Int} (hDay : zone.natAbs < 86400) (hWhole : zone % 60 = 0) {civil : Civil} {n : Nat}
    (hLocal : Fields.toLocal? ⟨some (y : Int), some mo, some d, some h, some mi, some sec,
      some (ms * 1000000)⟩ = some (civil, n))
    (strict : Bool) (defaultOffset : Int) :
    parseDateTime (fieldsText y mo d h mi sec ms ++ (if zone == 0 then "Z" else offsetText zone)) strict
      defaultOffset = some (DateTime.ofLocal civil n zone) := by
  obtain ⟨c, rest, hSuffix, hc, hOffset, hShape⟩ := zoneText_reads_back hDay hWhole
  have hString : fieldsText y mo d h mi sec ms ++ (if zone == 0 then "Z" else offsetText zone) =
      String.ofList ((fieldsText y mo d h mi sec ms).toList ++ c :: rest) := by
    rw [← hSuffix, ← String.toList_append, String.ofList_toList]
  have hRange : zone.natAbs ≤ maxRfc3339Offset.natAbs := by
    have hMax : maxRfc3339Offset.natAbs = 86340 := by decide
    omega
  have hRead := rfc3339?_fieldsText hy hmo hd hh hmi hsec hms hc hOffset hRange
  rw [hLocal, Option.map_some] at hRead
  rw [hString]
  cases strict with
  | true => rw [parseDateTime, if_pos rfl, if_pos (hasQualifiedShape_fieldsText hy hmo hd hh hmi hsec hms hShape), hRead]
  | false => simp only [parseDateTime, Bool.false_eq_true, if_false, hRead]

/-- Outside a leap second, the wire text of an instant whose local year has four digits is the text
of its local fields, to the millisecond, and of its offset. -/
theorem formatDateTime_eq_fieldsText {t : DateTime} {utcOffset : Int} (hLeap : t.nanos < 1000000000)
    (hYear0 : 0 ≤ (Civil.ofSeconds (t.seconds + offsetOfMinutes utcOffset)).year)
    (hYear1 : (Civil.ofSeconds (t.seconds + offsetOfMinutes utcOffset)).year ≤ 9999) :
    formatDateTime t utcOffset =
      fieldsText (Civil.ofSeconds (t.seconds + offsetOfMinutes utcOffset)).year.toNat
        (Civil.ofSeconds (t.seconds + offsetOfMinutes utcOffset)).month
        (Civil.ofSeconds (t.seconds + offsetOfMinutes utcOffset)).day
        (Civil.ofSeconds (t.seconds + offsetOfMinutes utcOffset)).hour
        (Civil.ofSeconds (t.seconds + offsetOfMinutes utcOffset)).minute
        (Civil.ofSeconds (t.seconds + offsetOfMinutes utcOffset)).second (t.nanos / 1000000) ++
      (if offsetOfMinutes utcOffset == 0 then "Z" else offsetText (offsetOfMinutes utcOffset)) := by
  have hSecond : (DateTime.mk t.seconds t.nanos (offsetOfMinutes utcOffset)).displaySecond =
      (Civil.ofSeconds (t.seconds + offsetOfMinutes utcOffset)).second := by
    simp [DateTime.displaySecond, DateTime.localTime, hLeap]
  have hNanos : (DateTime.mk t.seconds t.nanos (offsetOfMinutes utcOffset)).displayNanos = t.nanos :=
    Nat.mod_eq_of_lt hLeap
  rw [formatDateTime_eq, DateTime.millisText_eq hYear0 hYear1, hSecond, hNanos]

/-- A DateTime outside a leap second, written in an offset given in minutes where its local year
has four digits, reads back strictly or leniently, whatever the default offset, as the same instant
cut to the millisecond and shown in that offset; and that instant is written as the same text. -/
theorem wire_datetime_round_trip (t : DateTime) (utcOffset defaultOffset : Int) (strict : Bool)
    (hLeap : t.nanos < 1000000000)
    (hYear0 : 0 ≤ (t.withOffset (offsetOfMinutes utcOffset)).localTime.year)
    (hYear1 : (t.withOffset (offsetOfMinutes utcOffset)).localTime.year ≤ 9999) :
    parseDateTime (formatDateTime t utcOffset) strict defaultOffset =
        some ⟨t.seconds, t.nanos / 1000000 * 1000000, offsetOfMinutes utcOffset⟩ ∧
      formatDateTime ⟨t.seconds, t.nanos / 1000000 * 1000000, offsetOfMinutes utcOffset⟩ utcOffset =
        formatDateTime t utcOffset := by
  obtain ⟨hDay, hWhole⟩ := offsetOfMinutes_bounds utcOffset
  replace hYear0 : 0 ≤ (Civil.ofSeconds (t.seconds + offsetOfMinutes utcOffset)).year := hYear0
  replace hYear1 : (Civil.ofSeconds (t.seconds + offsetOfMinutes utcOffset)).year ≤ 9999 := hYear1
  have hCut : t.nanos / 1000000 * 1000000 < 1000000000 := by omega
  have hMillis : t.nanos / 1000000 * 1000000 / 1000000 = t.nanos / 1000000 := Nat.mul_div_cancel _ (by decide)
  have hSame : formatDateTime ⟨t.seconds, t.nanos / 1000000 * 1000000, offsetOfMinutes utcOffset⟩ utcOffset =
      formatDateTime t utcOffset := by
    rw [formatDateTime_eq_fieldsText (t := ⟨t.seconds, t.nanos / 1000000 * 1000000, offsetOfMinutes utcOffset⟩)
      hCut hYear0 hYear1, formatDateTime_eq_fieldsText hLeap hYear0 hYear1, hMillis]
  refine ⟨?_, hSame⟩
  have hLocal := toLocal?_ofSeconds hYear0 (by omega : t.nanos / 1000000 < 1000)
  obtain ⟨hHour, hMinute, hSecond⟩ := Civil.ofSeconds_clock (t.seconds + offsetOfMinutes utcOffset)
  obtain ⟨-, hMonth, -, hDayOfMonth⟩ := isValidDate_bounds (Civil.isValidDate_ofSeconds
    (t.seconds + offsetOfMinutes utcOffset))
  rw [formatDateTime_eq_fieldsText hLeap hYear0 hYear1, parseDateTime_wireText (by omega) (by omega)
    (by omega) (by omega) (by omega) (by omega) (by omega) hDay hWhole hLocal]
  simp only [DateTime.ofLocal, Civil.toSeconds_ofSeconds, Option.some.injEq, DateTime.mk.injEq, and_true]
  omega

/-- The last evening of February in a leap year, shown two hours east, is written on the next day
and read back, cut to the millisecond, in that offset. -/
theorem leap_day_evening_reads_back_two_hours_east :
    (⟨1709249400, 123456789, 3600⟩ : DateTime).nanos < 1000000000 ∧
      0 ≤ ((⟨1709249400, 123456789, 3600⟩ : DateTime).withOffset (offsetOfMinutes 120)).localTime.year ∧
      ((⟨1709249400, 123456789, 3600⟩ : DateTime).withOffset (offsetOfMinutes 120)).localTime.year ≤ 9999 ∧
      parseDateTime (formatDateTime ⟨1709249400, 123456789, 3600⟩ 120) true 0 =
        some ⟨1709249400, 123456789 / 1000000 * 1000000, offsetOfMinutes 120⟩ ∧
      formatDateTime ⟨1709249400, 123456789 / 1000000 * 1000000, offsetOfMinutes 120⟩ 120 =
        formatDateTime ⟨1709249400, 123456789, 3600⟩ 120 := by
  have hLeap : (⟨1709249400, 123456789, 3600⟩ : DateTime).nanos < 1000000000 := by decide
  have hYear0 : 0 ≤ ((⟨1709249400, 123456789, 3600⟩ : DateTime).withOffset (offsetOfMinutes 120)).localTime.year := by
    decide
  have hYear1 : ((⟨1709249400, 123456789, 3600⟩ : DateTime).withOffset (offsetOfMinutes 120)).localTime.year ≤ 9999 := by
    decide
  exact ⟨hLeap, hYear0, hYear1, wire_datetime_round_trip _ 120 0 true hLeap hYear0 hYear1⟩

end DomainModels.Wire
