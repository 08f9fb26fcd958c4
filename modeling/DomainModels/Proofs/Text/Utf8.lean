import Mathlib
import DomainModels.Text.Utf8
/-! The lossy decoder returns every text from its encoded bytes unchanged. -/

namespace DomainModels.Text.Utf8

theorem byteArray_toList_loop (bs : ByteArray) (i : Nat) (r : List UInt8) :
    ByteArray.toList.loop bs i r = r.reverse ++ bs.data.toList.drop i := by
  fun_induction ByteArray.toList.loop bs i r with
  | case1 i r hi ih =>
    have hi' : i < bs.data.toList.length := by simpa using hi
    rw [ih, List.drop_eq_getElem_cons hi']
    simp [ByteArray.get!, hi]
  | case2 i r hi =>
    have : bs.data.toList.length ≤ i := by simp at hi ⊢; omega
    simp [List.drop_eq_nil_of_le this]

theorem byteArray_toList (bs : ByteArray) : bs.toList = bs.data.toList := by
  simp [ByteArray.toList, byteArray_toList_loop]

/-- The bytes of a text are the bytes of its characters in order. -/
theorem encode_eq_flatMap (s : String) : encode s = s.toList.flatMap String.utf8EncodeChar := by
  rw [encode, byteArray_toList, String.toUTF8_eq_toByteArray, ← String.ofList_toList (s := s),
    String.toByteArray_ofList, String.toList_ofList]
  simp [List.utf8Encode]

theorem toNat_ofNat_lt {n : Nat} (h : n < 256) : (UInt8.ofNat n).toNat = n := by
  rw [UInt8.toNat_ofNat']; omega

/-! ### One character

A lead byte decides how many continuation bytes follow and the range of the first of
them; the ranges rule out overlong forms and surrogates, and the bytes of a valid
character always fall inside them. -/

theorem leadShape_two {b : Nat} (h : 0xC2 ≤ b ∧ b ≤ 0xDF) : leadShape b = some (0x80, 0xBF, 1) := by
  unfold leadShape
  rw [if_neg (by omega), if_pos (by omega)]

theorem leadShape_three {b : Nat} (h : 0xE0 ≤ b ∧ b ≤ 0xEF) :
    leadShape b = some (if b = 0xE0 then 0xA0 else 0x80, if b = 0xED then 0x9F else 0xBF, 2) := by
  unfold leadShape
  rw [if_neg (by omega), if_neg (by omega)]
  by_cases h0 : b = 0xE0
  · subst h0; rfl
  · by_cases hD : b = 0xED
    · subst hD; rfl
    · simp [h0, hD]; omega

theorem leadShape_four {b : Nat} (h : 0xF0 ≤ b ∧ b ≤ 0xF4) :
    leadShape b = some (if b = 0xF0 then 0x90 else 0x80, if b = 0xF4 then 0x8F else 0xBF, 3) := by
  unfold leadShape
  rw [if_neg (by omega), if_neg (by omega), if_neg (by simp; omega), if_neg (by simp; omega),
    if_neg (by omega)]
  by_cases h0 : b = 0xF0
  · subst h0; rfl
  · by_cases h4 : b = 0xF4
    · subst h4; rfl
    · simp [h0, h4]; omega

theorem decodeOne_two {b₁ b₂ : Nat} (h₁ : 0xC2 ≤ b₁ ∧ b₁ ≤ 0xDF) (h₂ : 0x80 ≤ b₂ ∧ b₂ ≤ 0xBF)
    (rest : List UInt8) :
    decodeOne (UInt8.ofNat b₁ :: UInt8.ofNat b₂ :: rest) =
      some (some (Char.ofNat (b₁ % 0x20 * 64 + b₂ % 64)), rest) := by
  simp only [decodeOne, toNat_ofNat_lt (by omega : b₁ < 256), if_neg (by omega : ¬ b₁ < 128),
    leadShape_two h₁, leadBits, decodeOne.go, toNat_ofNat_lt (by omega : b₂ < 256)]
  simp [h₂]

theorem decodeOne_three {b₁ b₂ b₃ : Nat} (h₁ : 0xE0 ≤ b₁ ∧ b₁ ≤ 0xEF)
    (h₂ : (if b₁ = 0xE0 then 0xA0 else 0x80) ≤ b₂ ∧ b₂ ≤ (if b₁ = 0xED then 0x9F else 0xBF))
    (h₃ : 0x80 ≤ b₃ ∧ b₃ ≤ 0xBF) (rest : List UInt8) :
    decodeOne (UInt8.ofNat b₁ :: UInt8.ofNat b₂ :: UInt8.ofNat b₃ :: rest) =
      some (some (Char.ofNat ((b₁ % 0x10 * 64 + b₂ % 64) * 64 + b₃ % 64)), rest) := by
  have hb₂ : b₂ < 256 := by split_ifs at h₂ <;> omega
  simp only [decodeOne, toNat_ofNat_lt (by omega : b₁ < 256), if_neg (by omega : ¬ b₁ < 128),
    leadShape_three h₁, leadBits, decodeOne.go, toNat_ofNat_lt hb₂, toNat_ofNat_lt (by omega : b₃ < 256)]
  simp [h₂, h₃]

theorem decodeOne_four {b₁ b₂ b₃ b₄ : Nat} (h₁ : 0xF0 ≤ b₁ ∧ b₁ ≤ 0xF4)
    (h₂ : (if b₁ = 0xF0 then 0x90 else 0x80) ≤ b₂ ∧ b₂ ≤ (if b₁ = 0xF4 then 0x8F else 0xBF))
    (h₃ : 0x80 ≤ b₃ ∧ b₃ ≤ 0xBF) (h₄ : 0x80 ≤ b₄ ∧ b₄ ≤ 0xBF) (rest : List UInt8) :
    decodeOne (UInt8.ofNat b₁ :: UInt8.ofNat b₂ :: UInt8.ofNat b₃ :: UInt8.ofNat b₄ :: rest) =
      some (some (Char.ofNat (((b₁ % 0x08 * 64 + b₂ % 64) * 64 + b₃ % 64) * 64 + b₄ % 64)), rest) := by
  have hb₂ : b₂ < 256 := by split_ifs at h₂ <;> omega
  simp only [decodeOne, toNat_ofNat_lt (by omega : b₁ < 256), if_neg (by omega : ¬ b₁ < 128),
    leadShape_four h₁, leadBits, decodeOne.go, toNat_ofNat_lt hb₂, toNat_ofNat_lt (by omega : b₃ < 256),
    toNat_ofNat_lt (by omega : b₄ < 256)]
  simp [h₂, h₃, h₄]

/-- The bytes of a character decode to it, whatever follows them. -/
theorem decodeOne_utf8EncodeChar (c : Char) (rest : List UInt8) :
    decodeOne (String.utf8EncodeChar c ++ rest) = some (some c, rest) := by
  have hValid := c.valid
  simp only [UInt32.isValidChar, Nat.isValidChar, UInt32.toNat] at hValid
  rw [show c.val.toBitVec.toNat = c.toNat from rfl] at hValid
  have hc := Char.ofNat_toNat c
  unfold String.utf8EncodeChar
  rw [show c.val.toNat = c.toNat from rfl]
  generalize c.toNat = v at hValid hc
  subst hc
  dsimp only
  split_ifs with h₁ h₂ h₃
  · simp only [List.cons_append, List.nil_append, decodeOne, toNat_ofNat_lt (by omega : v < 256),
      if_pos (by omega : v < 128)]
  · rw [List.cons_append, List.cons_append, List.nil_append, decodeOne_two (by omega) (by omega)]
    congr 4
    omega
  · rw [List.cons_append, List.cons_append, List.cons_append, List.nil_append,
      decodeOne_three (by omega) (by split_ifs <;> omega) (by omega)]
    congr 4
    omega
  · rw [List.cons_append, List.cons_append, List.cons_append, List.cons_append, List.nil_append,
      decodeOne_four (by omega) (by split_ifs <;> omega) (by omega) (by omega)]
    congr 4
    omega

/-! ### Texts -/

theorem length_le_length_flatMap (l : List Char) :
    l.length ≤ (l.flatMap String.utf8EncodeChar).length := by
  induction l with
  | nil => simp
  | cons c l ih =>
    have hc : 0 < (String.utf8EncodeChar c).length :=
      List.length_pos_of_ne_nil String.utf8EncodeChar_ne_nil
    rw [List.flatMap_cons, List.length_append, List.length_cons]
    omega

theorem decodeLossy_go_flatMap (l : List Char) (fuel : Nat) (acc : String) (h : l.length ≤ fuel) :
    decodeLossy.go fuel (l.flatMap String.utf8EncodeChar) acc = acc ++ String.ofList l := by
  induction l generalizing fuel acc with
  | nil =>
    cases fuel <;> simp [decodeLossy.go, decodeOne]
  | cons c l ih =>
    obtain ⟨fuel, rfl⟩ : ∃ f, fuel = f + 1 := ⟨fuel - 1, by simp at h; omega⟩
    rw [List.flatMap_cons, decodeLossy.go, decodeOne_utf8EncodeChar]
    dsimp only
    rw [ih fuel _ (by simpa using h)]
    rw [String.ofList_cons, String.push_eq_append, String.append_assoc]

/-- Decoding the bytes of a text gives the text back. -/
theorem decodeLossy_encode (s : String) : decodeLossy (encode s) = s := by
  rw [decodeLossy, encode_eq_flatMap, decodeLossy_go_flatMap _ _ _ (length_le_length_flatMap _)]
  simp

end DomainModels.Text.Utf8
