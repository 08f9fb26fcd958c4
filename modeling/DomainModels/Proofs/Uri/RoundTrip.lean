import Mathlib
import DomainModels.Instance.Relationship
import DomainModels.Proofs.Text.Utf8
import DomainModels.Proofs.Names.NamespaceText
/-! Relationship URIs read back as the relationship they were written from. -/

namespace DomainModels.Uri

open Text.Utf8

/-! ### Percent-encoding, character by character -/

/-- The characters a character is written as by `percentEncode`. -/
def encodedChars (inSet : Char → Bool) (c : Char) : List Char :=
  if c.toNat < 0x80 && !inSet c then [c]
  else (String.utf8EncodeChar c).flatMap fun b => (escapeByte b).toList

theorem toList_escapeByte (b : UInt8) :
    (escapeByte b).toList = ['%', hexUpper (b.toNat / 16), hexUpper (b.toNat % 16)] := by
  simp [escapeByte]

theorem toList_foldl_escapeByte (bytes : List UInt8) (acc : String) :
    (bytes.foldl (fun a b => a ++ escapeByte b) acc).toList =
      acc.toList ++ bytes.flatMap fun b => (escapeByte b).toList := by
  induction bytes generalizing acc with
  | nil => simp
  | cons b bytes ih => rw [List.foldl_cons, ih, String.toList_append, List.flatMap_cons, List.append_assoc]

theorem toList_percentEncode (inSet : Char → Bool) (s : String) :
    (percentEncode inSet s).toList = s.toList.flatMap (encodedChars inSet) := by
  suffices h : ∀ (l : List Char) (acc : String), (l.foldl (fun acc c =>
      if c.toNat < 0x80 && !inSet c then acc.push c
      else (encode (String.singleton c)).foldl (fun a b => a ++ escapeByte b) acc) acc).toList =
        acc.toList ++ l.flatMap (encodedChars inSet) by
    rw [percentEncode, String.foldl_eq_foldl_toList, h]
    simp
  intro l
  induction l with
  | nil => simp
  | cons c l ih =>
    intro acc
    rw [List.foldl_cons, ih, List.flatMap_cons, ← List.append_assoc]
    congr 1
    unfold encodedChars
    split
    · simp
    · rw [toList_foldl_escapeByte, encode_eq_flatMap, String.toList_singleton, List.flatMap_singleton]

/-- A text of ASCII characters outside the set is written as it is. -/
theorem percentEncode_of_forall (inSet : Char → Bool) (s : String)
    (h : ∀ c ∈ s.toList, c.toNat < 0x80 ∧ inSet c = false) : percentEncode inSet s = s := by
  apply String.toList_injective
  rw [toList_percentEncode]
  generalize s.toList = l at h
  induction l with
  | nil => rfl
  | cons c l ih =>
    have hc := h c List.mem_cons_self
    rw [List.flatMap_cons, ih (fun d hd => h d (List.mem_cons_of_mem _ hd))]
    simp [encodedChars, hc.1, hc.2]

/-! ### Decoding -/

theorem hexUpper_safe : ∀ n < 16, 0x20 < (hexUpper n).toNat ∧ (hexUpper n).toNat < 0x7F ∧
    fragmentSet (hexUpper n) = false := by
  decide

theorem hexDigitValue?_hexUpper : ∀ n < 16, hexDigitValue? (hexUpper n) = some n := by
  decide

theorem utf8EncodeChar_of_lt {c : Char} (h : c.toNat < 0x80) :
    String.utf8EncodeChar c = [UInt8.ofNat c.toNat] := by
  simp [String.utf8EncodeChar, show c.val.toNat = c.toNat from rfl, show c.toNat ≤ 127 by omega]

theorem percentDecodeBytes_go_cons {b : UInt8} (h : b ≠ 37) (rest : List UInt8) :
    percentDecodeBytes.go (b :: rest) = b :: percentDecodeBytes.go rest := by
  match rest with
  | [] => rfl
  | [_] => rfl
  | _ :: _ :: more => simp [percentDecodeBytes.go, h]

theorem flatMap_escapeByte (b : UInt8) :
    (escapeByte b).toList.flatMap String.utf8EncodeChar =
      [37, UInt8.ofNat (hexUpper (b.toNat / 16)).toNat, UInt8.ofNat (hexUpper (b.toNat % 16)).toNat] := by
  have hb : b.toNat < 256 := b.toNat_lt
  have hHi := (hexUpper_safe (b.toNat / 16) (by omega)).2.1
  have hLo := (hexUpper_safe (b.toNat % 16) (by omega)).2.1
  rw [toList_escapeByte]
  simp [utf8EncodeChar_of_lt (show (hexUpper (b.toNat / 16)).toNat < 0x80 by omega),
    utf8EncodeChar_of_lt (show (hexUpper (b.toNat % 16)).toNat < 0x80 by omega),
    utf8EncodeChar_of_lt (show '%'.toNat < 0x80 by decide)]

theorem percentDecodeBytes_go_escape (b : UInt8) (rest : List UInt8) :
    percentDecodeBytes.go ((escapeByte b).toList.flatMap String.utf8EncodeChar ++ rest) =
      b :: percentDecodeBytes.go rest := by
  have hb : b.toNat < 256 := b.toNat_lt
  have hHi := (hexUpper_safe (b.toNat / 16) (by omega)).2.1
  have hLo := (hexUpper_safe (b.toNat % 16) (by omega)).2.1
  rw [flatMap_escapeByte, List.cons_append, List.cons_append, List.cons_append, List.nil_append,
    percentDecodeBytes.go]
  simp only [toNat_ofNat_lt (by omega : (hexUpper (b.toNat / 16)).toNat < 256),
    toNat_ofNat_lt (by omega : (hexUpper (b.toNat % 16)).toNat < 256), Char.ofNat_toNat,
    hexDigitValue?_hexUpper (b.toNat / 16) (by omega), hexDigitValue?_hexUpper (b.toNat % 16) (by omega)]
  rw [if_pos (show ((37 : UInt8) == 37) = true from rfl),
    show b.toNat / 16 * 16 + b.toNat % 16 = b.toNat by omega]
  simp

theorem percentDecodeBytes_go_escapes (bytes rest : List UInt8) :
    percentDecodeBytes.go
        ((bytes.flatMap fun b => (escapeByte b).toList.flatMap String.utf8EncodeChar) ++ rest) =
      bytes ++ percentDecodeBytes.go rest := by
  induction bytes with
  | nil => rfl
  | cons b bytes ih =>
    rw [List.flatMap_cons, List.append_assoc, percentDecodeBytes_go_escape, ih, List.cons_append]

theorem percentDecodeBytes_go_encodedChars (inSet : Char → Bool) {c : Char}
    (hc : c = '%' → inSet c = true) (rest : List UInt8) :
    percentDecodeBytes.go ((encodedChars inSet c).flatMap String.utf8EncodeChar ++ rest) =
      String.utf8EncodeChar c ++ percentDecodeBytes.go rest := by
  unfold encodedChars
  split
  next hKept =>
    simp only [Bool.and_eq_true, decide_eq_true_eq, Bool.not_eq_true'] at hKept
    have hByte : UInt8.ofNat c.toNat ≠ 37 := by
      intro h37
      have hNat := congrArg UInt8.toNat h37
      rw [toNat_ofNat_lt (by omega)] at hNat
      have : c = '%' := by rw [← Char.ofNat_toNat c, hNat]; rfl
      simp [hc this] at hKept
    rw [List.flatMap_singleton, utf8EncodeChar_of_lt hKept.1, List.cons_append, List.nil_append,
      percentDecodeBytes_go_cons hByte, List.cons_append, List.nil_append]
  next =>
    rw [List.flatMap_assoc, percentDecodeBytes_go_escapes]

/-- Decoding undoes encoding with any set that escapes `%` wherever the text has one. -/
theorem percentDecode_percentEncode (inSet : Char → Bool) (s : String)
    (hPercent : ∀ c ∈ s.toList, c = '%' → inSet c = true) :
    percentDecode (percentEncode inSet s) = s := by
  have hBytes : ∀ (l : List Char), (∀ c ∈ l, c = '%' → inSet c = true) →
      percentDecodeBytes.go ((l.flatMap (encodedChars inSet)).flatMap String.utf8EncodeChar) =
        l.flatMap String.utf8EncodeChar := by
    intro l hl
    induction l with
    | nil => rfl
    | cons c l ih =>
      rw [List.flatMap_cons, List.flatMap_append, percentDecodeBytes_go_encodedChars inSet
        (hl c List.mem_cons_self), ih (fun d hd => hl d (List.mem_cons_of_mem _ hd)), List.flatMap_cons]
  rw [percentDecode, percentDecodeBytes, encode_eq_flatMap, toList_percentEncode, hBytes _ hPercent,
    ← encode_eq_flatMap, decodeLossy_encode]

/-! ### The characters of an escaped identifier -/

theorem ascii_safe_of_componentSet : ∀ n < 0x80, componentSet (Char.ofNat n) = false →
    0x20 < n ∧ n < 0x7F ∧ fragmentSet (Char.ofNat n) = false := by
  decide

/-- An escaped identifier holds printable ASCII characters that fragments keep as they are. -/
theorem safe_of_mem_percentEncode_componentSet {s : String} {c : Char}
    (hc : c ∈ (percentEncode componentSet s).toList) :
    0x20 < c.toNat ∧ c.toNat < 0x80 ∧ fragmentSet c = false := by
  rw [toList_percentEncode, List.mem_flatMap] at hc
  obtain ⟨d, -, hd⟩ := hc
  unfold encodedChars at hd
  split at hd
  next hKept =>
    simp only [Bool.and_eq_true, decide_eq_true_eq, Bool.not_eq_true'] at hKept
    rw [List.mem_singleton] at hd
    subst hd
    have h := ascii_safe_of_componentSet c.toNat hKept.1 (by rw [Char.ofNat_toNat]; exact hKept.2)
    rw [Char.ofNat_toNat] at h
    exact ⟨h.1, by omega, h.2.2⟩
  next =>
    obtain ⟨b, -, hb⟩ := List.mem_flatMap.mp hd
    have hb' : b.toNat < 256 := b.toNat_lt
    rw [toList_escapeByte] at hb
    rcases List.mem_cons.mp hb with rfl | hb
    · decide
    rcases List.mem_cons.mp hb with rfl | hb
    · have h := hexUpper_safe (b.toNat / 16) (by omega)
      exact ⟨h.1, by omega, h.2.2⟩
    rcases List.mem_singleton.mp hb with rfl
    have h := hexUpper_safe (b.toNat % 16) (by omega)
    exact ⟨h.1, by omega, h.2.2⟩

/-! ### Reading a relationship URI -/

theorem dropWhile_of_head {p : Char → Bool} {l : List Char} (h : ∀ x, l.head? = some x → p x = false) :
    l.dropWhile p = l := by
  cases l with
  | nil => rfl
  | cons x l => simp [h x rfl]

theorem breakAt_of_forall {p : Char → Bool} {l : List Char} (h : ∀ c ∈ l, p c = false) :
    breakAt p l = (l, []) := by
  simp only [breakAt, List.takeWhile_eq_self_iff, List.dropWhile_eq_nil_iff, Bool.not_eq_true',
    Prod.mk.injEq, and_self]
  exact h

theorem breakAt_append_cons {p : Char → Bool} {l : List Char} (h : ∀ c ∈ l, p c = false) {c : Char}
    (hc : p c = true) (rest : List Char) : breakAt p (l ++ c :: rest) = (l, c :: rest) := by
  simp [breakAt, List.takeWhile_append_of_pos (p := fun c => !p c) (by simpa using h),
    List.dropWhile_append_of_pos (p := fun c => !p c) (by simpa using h), hc]

/-- A `resource:` URL whose path holds no `#`, `?` or line break and does not start with `/`
has an opaque path, escaped only in its controls, and a fragment of safe characters kept
as they are. -/
theorem parse_resource (F E : List Char)
    (hF : ∀ c ∈ F, c ≠ '#' ∧ c ≠ '?' ∧ c ≠ '\t' ∧ c ≠ '\n' ∧ c ≠ '\r') (hSlash : F.head? ≠ some '/')
    (hE : ∀ c ∈ E, 0x20 < c.toNat ∧ c.toNat < 0x80 ∧ fragmentSet c = false) :
    Url.parse (String.ofList ("resource:".toList ++ F ++ '#' :: E)) =
      .ok { scheme := "resource", path := encodeChars controlSet F, fragment := some (String.ofList E) } := by
  have hScheme : "resource:".toList = ['r', 'e', 's', 'o', 'u', 'r', 'c', 'e', ':'] := rfl
  have hCs : List.filter (fun c => c != '\t' && c != '\n' && c != '\r')
      (List.dropWhile (fun x => decide (x.toNat ≤ 32))
        (List.dropWhile (fun x => decide (x.toNat ≤ 32)) ("resource:".toList ++ F ++ '#' :: E)).reverse).reverse =
      'r' :: 'e' :: 's' :: 'o' :: 'u' :: 'r' :: 'c' :: 'e' :: ':' :: (F ++ '#' :: E) := by
    have hFront : List.dropWhile (fun x => decide (x.toNat ≤ 32)) ("resource:".toList ++ F ++ '#' :: E) =
        "resource:".toList ++ F ++ '#' :: E := by
      rw [hScheme]; rfl
    have hBack : List.dropWhile (fun x => decide (x.toNat ≤ 32)) ("resource:".toList ++ F ++ '#' :: E).reverse =
        ("resource:".toList ++ F ++ '#' :: E).reverse := by
      apply dropWhile_of_head
      intro x hx
      rw [List.head?_reverse, List.getLast?_append, List.getLast?_cons] at hx
      simp only [Option.some_or, Option.some.injEq] at hx
      subst hx
      cases hE' : E.getLast? with
      | none => decide
      | some y => simpa using (hE y (List.mem_of_getLast? hE')).1
    have hKept : ∀ c ∈ "resource:".toList ++ F ++ '#' :: E, (c != '\t' && c != '\n' && c != '\r') = true := by
      intro c hc
      simp only [List.mem_append, List.mem_cons] at hc
      rcases hc with (hc | hc) | rfl | hc
      · rw [hScheme] at hc
        exact List.all_eq_true.mp (by decide : ['r', 'e', 's', 'o', 'u', 'r', 'c', 'e', ':'].all
          (fun c => c != '\t' && c != '\n' && c != '\r') = true) c hc
      · obtain ⟨-, -, h₁, h₂, h₃⟩ := hF c hc
        simp [h₁, h₂, h₃]
      · decide
      · have := (hE c hc).1
        have h₁ : c ≠ '\t' := fun h => by subst h; simp at this
        have h₂ : c ≠ '\n' := fun h => by subst h; simp at this
        have h₃ : c ≠ '\r' := fun h => by subst h; simp at this
        simp [h₁, h₂, h₃]
    rw [hFront, hBack, List.reverse_reverse, List.filter_eq_self.mpr hKept, hScheme]
    rfl
  have hName : List.takeWhile (fun d => d.isAlphanum || d == '+' || d == '-' || d == '.')
      ('r' :: 'e' :: 's' :: 'o' :: 'u' :: 'r' :: 'c' :: 'e' :: ':' :: (F ++ '#' :: E)) =
      ['r', 'e', 's', 'o', 'u', 'r', 'c', 'e'] := by
    simp [List.takeWhile]
  have hLower : (String.ofList ['r', 'e', 's', 'o', 'u', 'r', 'c', 'e']).toLower = "resource" := by
    rw [String.toLower, String.map_eq_internal]; rfl
  have hSpecial : isSpecial "resource" = false := by decide
  have hFragment : encodeChars fragmentSet E = String.ofList E :=
    percentEncode_of_forall _ _ fun c hc => by
      rw [String.toList_ofList] at hc
      exact ⟨(hE c hc).2.1, (hE c hc).2.2⟩
  unfold Url.parse
  dsimp only
  rw [String.toList_ofList, hCs]
  dsimp only
  rw [if_neg (by decide), hName]
  dsimp only [List.length_cons, List.length_nil]
  rw [show List.drop (0 + 1 + 1 + 1 + 1 + 1 + 1 + 1 + 1)
      ('r' :: 'e' :: 's' :: 'o' :: 'u' :: 'r' :: 'c' :: 'e' :: ':' :: (F ++ '#' :: E)) =
      ':' :: (F ++ '#' :: E) from rfl]
  simp only
  rw [pure_bind, hLower]
  dsimp only
  rw [hSpecial, Bool.false_and, if_neg (by decide), if_neg (by decide),
    breakAt_append_cons (fun c hc => by simpa using (hF c hc).1) (by decide),
    breakAt_of_forall (fun c hc => by simpa using (hF c hc).2.1)]
  dsimp only
  split
  next more => simp at hSlash
  next p => simp at hSlash
  next => rw [hFragment]; rfl

end DomainModels.Uri

namespace DomainModels.Relationship

open Uri

theorem toList_toUri (rel : Relationship) :
    rel.toUri.toList = "resource:".toList ++ rel.fullyQualifiedType.toList ++
      '#' :: (percentEncode componentSet rel.identifier).toList := by
  simp [toUri, scheme, String.toList_append]

/-- A relationship reads back from its URI when its identifier is not empty, its qualified
type name cuts back into its namespace and type, and that name holds no character a URI
gives a meaning to (`#`, `?`, `%`) or drops (tab, line feed, carriage return) and does not
start with `/`. -/
theorem fromUri_toUri (rel : Relationship) (defaultNs defaultType : String)
    (hId : rel.identifier ≠ "")
    (hSplit : Names.split? rel.fullyQualifiedType = some (rel.ns, rel.typeName))
    (hChars : ∀ c ∈ rel.fullyQualifiedType.toList, c ∉ ['#', '?', '%', '\t', '\n', '\r'])
    (hSlash : rel.fullyQualifiedType.toList.head? ≠ some '/') :
    fromUri rel.toUri defaultNs defaultType = .ok rel := by
  have hParse : Url.parse rel.toUri =
      .ok { scheme := "resource", path := encodeChars controlSet rel.fullyQualifiedType.toList,
            fragment := some (percentEncode componentSet rel.identifier) } := by
    rw [← String.ofList_toList (s := rel.toUri), toList_toUri, parse_resource _ _ _ hSlash
      (fun c hc => safe_of_mem_percentEncode_componentSet hc), String.ofList_toList]
    intro c hc
    have h := hChars c hc
    simp only [List.mem_cons, List.not_mem_nil, or_false, not_or] at h
    exact ⟨h.1, h.2.1, h.2.2.2.1, h.2.2.2.2.1, h.2.2.2.2.2⟩
  have hPath : percentDecode (encodeChars controlSet rel.fullyQualifiedType.toList) =
      rel.fullyQualifiedType := by
    rw [encodeChars, String.ofList_toList, percentDecode_percentEncode]
    intro c hc hPercent
    exact absurd (by simp [hPercent]) (hChars c hc)
  have hIdentifier : percentDecode (percentEncode componentSet rel.identifier) = rel.identifier :=
    percentDecode_percentEncode _ _ fun c _ hc => by subst hc; decide
  rw [fromUri, hParse]
  dsimp only
  rw [if_neg (by decide), if_neg (by decide), hPath, hSplit]
  dsimp only
  rw [Option.map_some, hIdentifier]
  dsimp only
  rw [if_neg (by simpa using hId)]

/-- No character that may stand in a namespace is one a URI gives a meaning to or drops, or `/`. -/
theorem not_special_of_isTextChar {c : Char} (h : Namespace.isTextChar c = true) :
    c ∉ ['#', '?', '%', '\t', '\n', '\r', '/'] := by
  intro hSpecial
  simp only [List.mem_cons, List.not_mem_nil, or_false] at hSpecial
  rcases hSpecial with rfl | rfl | rfl | rfl | rfl | rfl | rfl <;> exact absurd h (by decide)

/-- The qualified type name of a relationship on a versioned namespace, with a type name of
letters, numbers, `_` and `$`, is made of characters that may stand in a namespace. -/
theorem isTextChar_of_mem_fullyQualifiedType {rel : Relationship} {v : Namespace}
    (hNs : Namespace.parseVersioned rel.ns = .ok v)
    (hTypeChars : ∀ c ∈ rel.typeName.toList,
      Namespace.isLetter c || Namespace.isNumberChar c || c == '_' || c == '$') :
    ∀ c ∈ rel.fullyQualifiedType.toList, Namespace.isTextChar c = true := by
  intro c hc
  simp only [fullyQualifiedType, Names.qualify, String.toList_append, List.mem_append] at hc
  rcases hc with (hc | hDot) | hc
  · exact (Namespace.parseVersioned_chars hNs).2 c hc
  · obtain rfl : c = '.' := by simpa using hDot
    decide
  · exact Namespace.isTextChar_of_segmentChar (hTypeChars c hc)

/-- A relationship reads back from its URI, whatever the defaults, when its namespace is a
versioned one, its type name a non-empty name of letters, numbers, `_` and `$`, and its
identifier any text but the empty one: every character of the identifier is escaped or kept, and
the qualified type name, split at its last dot, gives the namespace and the type back. -/
theorem uri_round_trip (rel : Relationship) (defaultNs defaultType : String)
    (hNs : ∃ v, Namespace.parseVersioned rel.ns = .ok v) (hType : rel.typeName ≠ "")
    (hTypeChars : ∀ c ∈ rel.typeName.toList,
      Namespace.isLetter c || Namespace.isNumberChar c || c == '_' || c == '$')
    (hId : rel.identifier ≠ "") :
    fromUri rel.toUri defaultNs defaultType = .ok rel := by
  obtain ⟨v, hv⟩ := hNs
  have hPlain := isTextChar_of_mem_fullyQualifiedType hv hTypeChars
  have hNoDot : '.' ∉ rel.typeName.toList := fun hDot => absurd (hTypeChars '.' hDot) (by decide)
  have hSplit : Names.split? rel.fullyQualifiedType = some (rel.ns, rel.typeName) :=
    Names.split?_qualify (Namespace.parseVersioned_chars hv).1 hType hNoDot
  refine fromUri_toUri rel defaultNs defaultType hId hSplit (fun c hc hSpecial => ?_) ?_
  · exact not_special_of_isTextChar (hPlain c hc) (List.mem_append_left _ hSpecial)
  · intro hHead
    exact not_special_of_isTextChar (hPlain '/' (List.mem_of_mem_head? hHead)) (by simp)

theorem escaped_identifier_reads_back :
    (∃ v, Namespace.parseVersioned "org.acme@1.0.0-rc.1+build.5" = .ok v) ∧ "Car_$2" ≠ "" ∧
      (∀ c ∈ "Car_$2".toList, Namespace.isLetter c || Namespace.isNumberChar c || c == '_' || c == '$') ∧
      "a/b#c d%é" ≠ "" ∧
      fromUri (toUri ⟨"org.acme@1.0.0-rc.1+build.5", "Car_$2", "a/b#c d%é"⟩) "x@1.0.0" "Y" =
        .ok ⟨"org.acme@1.0.0-rc.1+build.5", "Car_$2", "a/b#c d%é"⟩ := by
  have hParsed : (Namespace.parseVersioned "org.acme@1.0.0-rc.1+build.5").toBool = true := by decide +kernel
  have hNs : ∃ v, Namespace.parseVersioned "org.acme@1.0.0-rc.1+build.5" = .ok v := by
    cases h : Namespace.parseVersioned "org.acme@1.0.0-rc.1+build.5" with
    | error e =>
      rw [h] at hParsed
      cases hParsed
    | ok v => exact ⟨v, rfl⟩
  have hType : "Car_$2" ≠ "" := by simp
  have hTypeChars : ∀ c ∈ "Car_$2".toList,
      Namespace.isLetter c || Namespace.isNumberChar c || c == '_' || c == '$' := by
    simp [Namespace.isLetter, Namespace.isNumberChar]
  have hId : "a/b#c d%é" ≠ "" := by simp
  exact ⟨hNs, hType, hTypeChars, hId, uri_round_trip ⟨_, _, _⟩ "x@1.0.0" "Y" hNs hType hTypeChars hId⟩

end DomainModels.Relationship
