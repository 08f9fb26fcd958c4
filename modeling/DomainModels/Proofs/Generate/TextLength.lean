import Mathlib
import DomainModels.Generate.Source
/-! Generated texts meet their length bounds: padding stops at the least length and cutting at the
greatest keeps it, so a validator without a pattern passes every text either mode gives. -/
namespace DomainModels

namespace StringValidator

/-- A length lies within a validator's bounds, where they are set. -/
def AdmitsLength (v : StringValidator) (n : Nat) : Prop :=
  (∀ lo ∈ v.minLength, lo ≤ n) ∧ ∀ hi ∈ v.maxLength, n ≤ hi

/-- The least length of a validator is at most its greatest, when both are set. -/
def BoundsOrdered (v : StringValidator) : Prop :=
  ∀ lo ∈ v.minLength, ∀ hi ∈ v.maxLength, lo ≤ hi

/-- A text passes a validator exactly when its length is within the bounds and it matches the
pattern, if there is one. -/
theorem validate_eq_ok_iff (v : StringValidator) (path value : String) :
    v.validate path value = .ok () ↔ v.AdmitsLength value.length ∧ ∀ r ∈ v.regex, r.isMatch value = true := by
  unfold validate AdmitsLength
  rcases v.minLength with _ | lo <;> rcases v.maxLength with _ | hi <;> rcases v.regex with _ | r <;>
    simp only [bind, Except.bind, throw, throwThe, pure, Except.pure, Option.mem_def, reduceCtorEq,
      IsEmpty.forall_iff, implies_true, forall_eq', Option.some.injEq] <;>
    (try split_ifs) <;> simp_all

end StringValidator

namespace Generate

open DomainModels.Random

/-- Padding reaches the least length. -/
theorem le_length_pad (min i : Nat) (text : String) : min ≤ (pad min i text).length := by
  fun_induction pad min i text with
  | case1 i text hLong => exact hLong
  | case2 i text hShort ih => exact ih

/-- Cutting a text at `hi` characters leaves the shorter of the two lengths. -/
theorem length_cut (text : String) (hi : Nat) :
    (if text.length > hi then String.ofList (text.toList.take hi) else text).length = min text.length hi := by
  split
  · simp only [String.length_ofList, List.length_take, String.length_toList]
    omega
  · omega

/-- A fitted text is within the bounds of a validator whose bounds are in order. -/
theorem admitsLength_fitLength {v : StringValidator} (hv : v.BoundsOrdered) (text : String) :
    v.AdmitsLength (fitLength text (some v)).length := by
  unfold StringValidator.AdmitsLength
  cases hLo : v.minLength with
  | none =>
    cases hHi : v.maxLength with
    | none => simp
    | some hi => simp [fitLength, hLo, hHi, length_cut]
  | some lo =>
    have hPad := le_length_pad lo 0 text
    cases hHi : v.maxLength with
    | none => simpa [fitLength, hLo, hHi] using hPad
    | some hi =>
      have hOrder : lo ≤ hi := hv lo hLo hi hHi
      simp only [fitLength, hLo, hHi, length_cut, Option.mem_def, Option.some.injEq, forall_eq']
      omega

/-- A validator without a pattern gives no pattern text to draw from. -/
theorem patternText_of_pattern_eq_none {v : StringValidator} (h : v.pattern = none) :
    patternText (some v) = pure none := by
  simp [patternText, patternPlan, StringValidator.inlinePattern, h]

/-- Without a pattern, the text a source gives for a validator is a fitted one: the empty text
in the empty mode, random words in the sample mode. -/
theorem string_run_of_pattern_eq_none {v : StringValidator} (h : v.pattern = none) (src : Source) (g : ChaCha) :
    ∃ text, ((src.string (some v)).run g).1 = fitLength text (some v) := by
  rcases src with ⟨_ | _, now⟩
  · exact ⟨"", by simp [Source.string, patternText_of_pattern_eq_none h]; rfl⟩
  · exact ⟨(words.run g).1, by simp [Source.string, patternText_of_pattern_eq_none h]; rfl⟩

/-- Without a pattern, the identifier a source gives for a validator is a fitted one: `0000` in
the empty mode, four random digits in the sample mode. -/
theorem identifier_run_of_pattern_eq_none {v : StringValidator} (h : v.pattern = none) (src : Source)
    (g : ChaCha) : ∃ text, ((src.identifier (some v)).run g).1 = fitLength text (some v) := by
  rcases src with ⟨_ | _, now⟩
  · exact ⟨"0000", by simp [Source.identifier, patternText_of_pattern_eq_none h]; rfl⟩
  · exact ⟨Time.padded 4 ((intInclusive 32 0 9999).run g).1.toNat,
      by simp [Source.identifier, patternText_of_pattern_eq_none h]; rfl⟩

/-- Fitting meets a validator's length bounds whenever they are in order; so, for a validator
without a pattern, every text and identifier that a source of either mode draws from any
random state passes the validator. -/
theorem generated_texts_meet_length_bounds {v : StringValidator} (hv : v.BoundsOrdered) :
    (∀ text, v.AdmitsLength (fitLength text (some v)).length) ∧
    (v.pattern = none → v.regex = none → ∀ (src : Source) (g : ChaCha) (path : String),
      v.validate path ((src.string (some v)).run g).1 = .ok () ∧
      v.validate path ((src.identifier (some v)).run g).1 = .ok ()) := by
  refine ⟨admitsLength_fitLength hv, fun hPattern hRegex src g path => ?_⟩
  have hPasses : ∀ text, v.validate path (fitLength text (some v)) = .ok () := fun text =>
    (StringValidator.validate_eq_ok_iff v path _).2 ⟨admitsLength_fitLength hv text, by simp [hRegex]⟩
  obtain ⟨text, hText⟩ := string_run_of_pattern_eq_none hPattern src g
  obtain ⟨ident, hIdent⟩ := identifier_run_of_pattern_eq_none hPattern src g
  exact ⟨hText ▸ hPasses text, hIdent ▸ hPasses ident⟩

/-- Names of three to five characters, with no pattern. -/
def shortNames : StringValidator :=
  { pattern := none, flags := "", regex := none, minLength := some 3, maxLength := some 5 }

/-- The short-name validator has its bounds in order, and every text and identifier drawn for
it fits. -/
theorem short_names_are_generated_within_bounds :
    shortNames.BoundsOrdered ∧ (∀ text, shortNames.AdmitsLength (fitLength text (some shortNames)).length) ∧
      ∀ (src : Source) (g : ChaCha) (path : String),
        shortNames.validate path ((src.string (some shortNames)).run g).1 = .ok () ∧
        shortNames.validate path ((src.identifier (some shortNames)).run g).1 = .ok () := by
  have hOrdered : shortNames.BoundsOrdered := by
    simp [StringValidator.BoundsOrdered, shortNames]
  exact ⟨hOrdered, (generated_texts_meet_length_bounds hOrdered).1,
    (generated_texts_meet_length_bounds hOrdered).2 rfl rfl⟩

end Generate

end DomainModels
