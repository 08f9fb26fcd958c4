import Mathlib
import DomainModels.Namespace
import DomainModels.Names
/-! The characters of an accepted namespace: none that a URI gives a meaning to, and a qualified
name built on it cuts back at the dot before the short name. -/
namespace DomainModels

open Outcome

/-! ### Versions -/

namespace Version

/-- Whether a character may stand in the text of a version. -/
def isVersionChar (c : Char) : Bool := isIdentChar c || c == '.' || c == '+'

/-- A reader that left `rest` of `s` consumed only version characters. -/
def Consumed (s rest : List Char) : Prop := ∃ pre, s = pre ++ rest ∧ ∀ c ∈ pre, isVersionChar c = true

theorem Consumed.refl (s : List Char) : Consumed s s := ⟨[], rfl, by simp⟩

theorem Consumed.trans {s t u : List Char} (h₁ : Consumed s t) (h₂ : Consumed t u) : Consumed s u := by
  obtain ⟨p, rfl, hp⟩ := h₁
  obtain ⟨q, rfl, hq⟩ := h₂
  refine ⟨p ++ q, (List.append_assoc p q u).symm, fun c hc => ?_⟩
  rcases List.mem_append.1 hc with hc | hc
  · exact hp c hc
  · exact hq c hc

theorem Consumed.cons {c : Char} (hc : isVersionChar c = true) (s : List Char) : Consumed (c :: s) s :=
  ⟨[c], rfl, by simpa using hc⟩

/-- Taking the longest run of characters of a kind consumes them. -/
theorem consumed_takeWhile {p : Char → Bool} (hp : ∀ c, p c = true → isVersionChar c = true)
    (s : List Char) : Consumed s (s.drop (s.takeWhile p).length) := by
  have hSplit := List.takeWhile_append_dropWhile (p := p) (l := s)
  have hDrop : s.drop (s.takeWhile p).length = s.dropWhile p :=
    calc s.drop (s.takeWhile p).length
        = (s.takeWhile p ++ s.dropWhile p).drop (s.takeWhile p).length := by rw [hSplit]
      _ = s.dropWhile p := List.drop_left
  rw [hDrop]
  exact ⟨s.takeWhile p, hSplit.symm, fun c hc => hp c (List.mem_takeWhile_imp hc)⟩

theorem numeric_consumed {part : Part} {s rest : List Char} {v : Nat} (h : numeric part s = .ok (v, rest)) :
    Consumed s rest := by
  unfold numeric at h
  dsimp only at h
  split at h
  · split at h <;> cases h
  · split at h
    · cases h
      exact consumed_takeWhile (fun c hc => by simp [isVersionChar, isIdentChar, hc]) s
    · cases h

theorem dot_eq_ok {part : Part} {s rest : List Char} (h : dot part s = .ok rest) : s = '.' :: rest := by
  unfold dot at h
  split at h
  · cases h
    rfl
  · cases h
  · cases h

theorem identifiers_go_consumed {part : Part} :
    ∀ (fuel : Nat) {acc s ids rest : List Char}, identifiers.go part fuel acc s = .ok (ids, rest) →
      Consumed s rest
  | 0, acc, s, ids, rest, h => by
    cases h
    exact Consumed.refl s
  | fuel + 1, acc, s, ids, rest, h => by
    have hSeg := consumed_takeWhile (p := isIdentChar) (fun c hc => by simp [isVersionChar, hc]) s
    unfold identifiers.go at h
    dsimp only at h
    split at h
    · split at h
      · cases h
        exact Consumed.refl s
      · cases h
    · split at h
      · cases h
      · split at h
        · next more hAfter =>
          rw [hAfter] at hSeg
          exact hSeg.trans ((Consumed.cons (by decide) more).trans (identifiers_go_consumed fuel h))
        · cases h
          exact hSeg

theorem identifiers_consumed {part : Part} {s ids rest : List Char}
    (h : identifiers part s = .ok (ids, rest)) : Consumed s rest :=
  identifiers_go_consumed s.length h

/-- A version the reader accepts is made of version characters. -/
theorem Semver.parse_chars {text : String} {v : Semver} (h : Semver.parse text = .ok v) :
    ∀ c ∈ text.toList, isVersionChar c = true := by
  unfold Semver.parse at h
  split at h
  · cases h
  obtain ⟨⟨major, s₁⟩, h₁, h⟩ := bind_eq_ok.1 h
  obtain ⟨s₂, h₂, h⟩ := bind_eq_ok.1 h
  obtain ⟨⟨minor, s₃⟩, h₃, h⟩ := bind_eq_ok.1 h
  obtain ⟨s₄, h₄, h⟩ := bind_eq_ok.1 h
  obtain ⟨⟨patch, s₅⟩, h₅, h⟩ := bind_eq_ok.1 h
  dsimp only at h
  have hTail : Consumed s₅ [] := by
    split at h
    on_goal 1 =>
      obtain ⟨⟨pre, r₁⟩, hPre, h⟩ := bind_eq_ok.1 h
      dsimp only at h
      split at h
      · cases h
      refine (Consumed.cons (by decide) _).trans ((identifiers_consumed hPre).trans ?_)
    all_goals simp only [pure_bind] at h
    all_goals
      split at h
      · obtain ⟨⟨build, r₂⟩, hBuild, h⟩ := bind_eq_ok.1 h
        dsimp only at h
        split at h
        · cases h
        refine (Consumed.cons (by decide) _).trans ((identifiers_consumed hBuild).trans ?_)
        split at h
        · cases h
        · exact Consumed.refl []
      · split at h
        · cases h
        · exact Consumed.refl []
  obtain ⟨pre, hText, hChars⟩ := (numeric_consumed h₁).trans <|
    (dot_eq_ok h₂ ▸ Consumed.cons (by decide) s₂).trans <| (numeric_consumed h₃).trans <|
    (dot_eq_ok h₄ ▸ Consumed.cons (by decide) s₄).trans <| (numeric_consumed h₅).trans hTail
  rw [hText, List.append_nil]
  exact hChars

end Version

/-! ### Cutting texts -/

theorem Text.splitFirst?_eq_some {s : String} {ch : Char} {a b : String}
    (h : Text.splitFirst? s ch = some (a, b)) : s.toList = a.toList ++ ch :: b.toList := by
  unfold Text.splitFirst? at h
  dsimp only at h
  split at h
  · next i hi =>
    cases h
    obtain ⟨hlt, hch, -⟩ := List.idxOf?_eq_some_iff.1 hi
    rw [String.toList_ofList, String.toList_ofList, ← hch, List.getElem_cons_drop, List.take_append_drop]
  · cases h

/-- Every character of a text is a separator or lies in one of its pieces. -/
theorem Text.mem_pieces_go (sep : Char) {d : Char} :
    ∀ {l : List Char}, d ∈ l → d = sep ∨ ∃ p ∈ Text.pieces.go sep l, d ∈ p
  | [], h => absurd h List.not_mem_nil
  | e :: rest, h => by
    have ih : d ∈ rest → d = sep ∨ ∃ p ∈ Text.pieces.go sep rest, d ∈ p := Text.mem_pieces_go sep
    unfold Text.pieces.go
    split
    · next hSep =>
      rcases List.mem_cons.1 h with rfl | hRest
      · exact .inl (by simpa using hSep)
      · rcases ih hRest with hd | ⟨p, hp, hdp⟩
        · exact .inl hd
        · exact .inr ⟨p, List.mem_cons_of_mem _ hp, hdp⟩
    · split
      · next p ps hGo =>
        rcases List.mem_cons.1 h with rfl | hRest
        · exact .inr ⟨d :: p, List.mem_cons_self, List.mem_cons_self⟩
        · rcases ih hRest with hd | ⟨q, hq, hdq⟩
          · exact .inl hd
          · rw [hGo] at hq
            rcases List.mem_cons.1 hq with rfl | hq
            · exact .inr ⟨e :: q, List.mem_cons_self, List.mem_cons_of_mem _ hdq⟩
            · exact .inr ⟨q, List.mem_cons_of_mem _ hq, hdq⟩
      · next hGo =>
        rcases List.mem_cons.1 h with rfl | hRest
        · exact .inr ⟨[d], List.mem_cons_self, List.mem_cons_self⟩
        · rcases ih hRest with hd | ⟨q, hq, -⟩
          · exact .inl hd
          · rw [hGo] at hq
            exact absurd hq List.not_mem_nil

/-- A qualified name cuts back at the dot before its short name when the short name has no dot. -/
theorem Names.split?_qualify {ns name : String} (hns : ns ≠ "") (hName : name ≠ "")
    (hDot : '.' ∉ name.toList) : Names.split? (Names.qualify ns name) = some (ns, name) := by
  have hChars : (Names.qualify ns name).toList.reverse = name.toList.reverse ++ '.' :: ns.toList.reverse := by
    simp [Names.qualify, String.toList_append]
  have hIdx : (name.toList.reverse ++ '.' :: ns.toList.reverse).idxOf? '.' = some name.toList.length := by
    rw [List.idxOf?_eq_some_iff]
    refine ⟨by simp, by simp, fun j hj => ?_⟩
    rw [List.getElem_append_left (by simpa using hj)]
    exact fun hj' => hDot (List.mem_reverse.1 (hj' ▸ List.getElem_mem _))
  have hLen : name.toList.reverse.length = name.toList.length := List.length_reverse
  have hSplit : Text.splitLast? (Names.qualify ns name) '.' = some (ns, name) := by
    unfold Text.splitLast?
    dsimp only
    rw [hChars, hIdx]
    simp only [Option.some.injEq, Prod.mk.injEq]
    constructor
    · rw [← hLen, List.drop_append]
      simp
    · rw [← hLen, List.take_left' rfl]
      simp
  unfold Names.split?
  rw [hSplit]
  simp [String.isEmpty_iff, hns, hName]

/-! ### Namespaces -/

namespace Namespace

/-- Whether a character may stand in a namespace: the letters, numbers, `_` and `$` of the
segments of its name, the dots between them, `@`, and the hyphens, dots and plus signs of its
version. -/
def isTextChar (c : Char) : Bool :=
  isLetter c || isNumberChar c || c == '_' || c == '$' || c == '.' || c == '@' || c == '-' || c == '+'

theorem isSegment_chars {s : String} (h : isSegment s = true) :
    ∀ c ∈ s.toList, isLetter c || isNumberChar c || c == '_' || c == '$' := by
  unfold isSegment at h
  split at h
  · cases h
  · next first rest hList =>
    rw [hList]
    intro c hc
    simp only [Bool.and_eq_true, List.all_eq_true] at h
    rcases List.mem_cons.1 hc with rfl | hc
    · simp only [Bool.or_eq_true] at h ⊢
      rcases h.1 with (hLetter | hUnderscore) | hDollar
      · exact .inl (.inl (.inl hLetter))
      · exact .inl (.inr hUnderscore)
      · exact .inr hDollar
    · exact h.2 c hc

/-- A character of a segment may stand in a namespace. -/
theorem isTextChar_of_segmentChar {c : Char}
    (h : (isLetter c || isNumberChar c || c == '_' || c == '$') = true) : isTextChar c = true := by
  simp only [Bool.or_eq_true] at h
  rcases h with ((hLetter | hNumber) | hUnderscore) | hDollar
  · simp [isTextChar, hLetter]
  · simp [isTextChar, hNumber]
  · simp [isTextChar, hUnderscore]
  · simp [isTextChar, hDollar]

theorem isVersionChar_isTextChar {c : Char} (h : Version.isVersionChar c = true) : isTextChar c = true := by
  simp only [Version.isVersionChar, Version.isIdentChar, Version.isDigitChar, Bool.or_eq_true,
    Bool.and_eq_true, decide_eq_true_eq, beq_iff_eq] at h
  have hAscii : ∀ d : Char, c ≤ d → d.toNat < 128 → c.toNat < 128 :=
    fun d hd hd' => lt_of_le_of_lt (UInt32.le_iff_toNat_le.1 hd) hd'
  have hLetter : c.toNat < 128 → c.isAlpha = true → isTextChar c = true := fun hc hAlpha => by
    simp [isTextChar, isLetter, hc, hAlpha]
  rcases h with ((((hUpper | hLower) | rfl) | hDigit) | rfl) | rfl
  · refine hLetter (hAscii 'Z' hUpper.2 (by decide)) ?_
    simp only [Char.isAlpha, Char.isUpper, Bool.or_eq_true, decide_eq_true_eq]
    exact .inl hUpper
  · refine hLetter (hAscii 'z' hLower.2 (by decide)) ?_
    simp only [Char.isAlpha, Char.isLower, Bool.or_eq_true, Bool.and_eq_true, decide_eq_true_eq]
    exact .inr hLower
  · decide
  · have hNumber : isNumberChar c = true := by
      simp only [isNumberChar, hAscii '9' hDigit.2 (by decide), if_true, Char.isDigit, Bool.and_eq_true,
        decide_eq_true_eq]
      exact hDigit
    simp [isTextChar, hNumber]
  · decide
  · decide

/-- A versioned namespace the reader accepts is a name of segments, `@` and a version. -/
theorem parseVersioned_eq_ok {text : String} {ns : Namespace} (h : parseVersioned text = .ok ns) :
    ∃ name v sv, text.toList = name.toList ++ '@' :: v.toList ∧ Version.Semver.parse v = .ok sv ∧
      name ≠ "" ∧ (Text.pieces name '.').all isSegment = true := by
  obtain ⟨parsed, hParse, h⟩ := bind_eq_ok.1 h
  have hVersioned : parsed.version ≠ none := by
    split at h
    · next hNone =>
      simp at hNone
      cases h
    · next hSome => simpa using hSome
  unfold parse at hParse
  dsimp only at hParse
  split at hParse
  · next name v hFirst =>
    split at hParse
    · next sv hVersion =>
      simp only [pure_bind] at hParse
      split at hParse
      · cases hParse
      · next hName =>
        simp only [Bool.or_eq_true, Bool.not_eq_true', not_or, Bool.not_eq_false] at hName
        exact ⟨name, v, sv, Text.splitFirst?_eq_some hFirst, hVersion,
          by simpa [String.isEmpty_iff] using hName.1, hName.2⟩
    · cases hParse
  · simp only [pure_bind] at hParse
    split at hParse
    · cases hParse
    · cases hParse
      exact absurd rfl hVersioned

/-- A versioned namespace the reader accepts is not empty, and every character of it is a
letter, a number, `_`, `$`, `.`, `@`, `-` or `+`. -/
theorem parseVersioned_chars {text : String} {ns : Namespace} (h : parseVersioned text = .ok ns) :
    text ≠ "" ∧ ∀ c ∈ text.toList, isTextChar c = true := by
  obtain ⟨name, v, sv, hText, hVersion, -, hSegments⟩ := parseVersioned_eq_ok h
  constructor
  · intro hEmpty
    rw [hEmpty] at hText
    simp at hText
  intro c hc
  rw [hText] at hc
  rcases List.mem_append.1 hc with hc | hc
  · rcases Text.mem_pieces_go '.' hc with rfl | ⟨p, hp, hcp⟩
    · decide
    · have hSegment : isSegment (String.ofList p) = true :=
        List.all_eq_true.1 hSegments _ (List.mem_map_of_mem hp)
      exact isTextChar_of_segmentChar (isSegment_chars hSegment c (by simpa using hcp))
  · rcases List.mem_cons.1 hc with rfl | hc
    · decide
    · exact isVersionChar_isTextChar (Version.Semver.parse_chars hVersion c hc)

end Namespace

end DomainModels
