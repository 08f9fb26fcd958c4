import DomainModels.Proofs.Json.Records
import DomainModels.Metamodel.Read
/-! Every model read holds numbers in their decoders' ranges and enumeration values without flags
(`Readable`), the values writing gives back unchanged. -/
namespace DomainModels

/-- A position as read: its line, column and offset are 32-bit words. -/
def Position.Readable (p : Position) : Prop := p.line < 2 ^ 32 ∧ p.column < 2 ^ 32 ∧ p.offset < 2 ^ 32

/-- A location as read: both its ends are readable positions. -/
def Location.Readable (l : Location) : Prop := l.start.Readable ∧ l.finish.Readable

end DomainModels

namespace DomainModels.Metamodel

open Json

variable {α : Type}

/-- A position as read has 32-bit coordinates. -/
theorem ensures_readPosition : Ensures readPosition Position.Readable := by
  intro j p h
  simp only [readPosition, Outcome.bind_eq_ok, pure, Except.pure, Except.ok.injEq] at h
  obtain ⟨r, -, -, -, line, hLine, column, hColumn, offset, hOffset, -, -, rfl⟩ := h
  exact ⟨Record.required_field ensures_decodeU32 hLine, Record.required_field ensures_decodeU32 hColumn,
    Record.withDefault_field ensures_decodeU32 (by decide) hOffset⟩

/-- A location as read has readable ends. -/
theorem ensures_readLocation : Ensures readLocation Location.Readable := by
  intro j l h
  simp only [readLocation, Outcome.bind_eq_ok, pure, Except.pure, Except.ok.injEq] at h
  obtain ⟨r, -, -, -, start, hStart, finish, hFinish, source, -, -, -, rfl⟩ := h
  exact ⟨Record.required_field ensures_readPosition hStart, Record.required_field ensures_readPosition hFinish⟩

/-- A decorator as read: its location, if any, is readable. -/
def Decorator.Readable (d : Decorator) : Prop := ∀ l ∈ d.location, l.Readable

/-- A decorator as read has a readable location. -/
theorem ensures_readDecorator : Ensures readDecorator Decorator.Readable := by
  intro j d h
  simp only [readDecorator, Outcome.bind_eq_ok, pure, Except.pure, Except.ok.injEq] at h
  obtain ⟨r, -, -, -, name, -, arguments, -, location, hLocation, -, -, rfl⟩ := h
  exact Record.withDefault_field ensures_readLocation.option (by simp) hLocation

/-- A length validator as read: its bounds are signed 64-bit integers. -/
def LengthValidator.Readable (v : LengthValidator) : Prop :=
  (∀ i ∈ v.minLength, IsI64 i) ∧ ∀ i ∈ v.maxLength, IsI64 i

/-- A length validator as read has 64-bit bounds. -/
theorem ensures_readLengthValidator : Ensures readLengthValidator LengthValidator.Readable := by
  intro j v h
  simp only [readLengthValidator, Outcome.bind_eq_ok, pure, Except.pure, Except.ok.injEq] at h
  obtain ⟨r, -, -, -, minLength, hMin, maxLength, hMax, -, -, rfl⟩ := h
  exact ⟨Record.withDefault_field ensures_decodeI64.option (by simp) hMin,
    Record.withDefault_field ensures_decodeI64.option (by simp) hMax⟩

/-- Bounds as read: each bound that is set satisfies what the decoder of bounds guarantees. -/
def Bounds.Readable (P : α → Prop) (b : Bounds α) : Prop := (∀ x ∈ b.lower, P x) ∧ ∀ x ∈ b.upper, P x

/-- Bounds as read hold what the decoder of a bound guarantees. -/
theorem ensures_readBounds {dec : Json → Decoded α} {P : α → Prop} (hDec : Ensures dec P) :
    Ensures (readBounds dec) (Bounds.Readable P) := by
  intro j b h
  simp only [readBounds, Outcome.bind_eq_ok, pure, Except.pure, Except.ok.injEq] at h
  obtain ⟨r, -, -, -, lower, hLower, upper, hUpper, -, -, rfl⟩ := h
  exact ⟨Record.withDefault_field hDec.option (by simp) hLower, Record.withDefault_field hDec.option (by simp) hUpper⟩

/-- An integer kind's default and bounds, read with the 64-bit decoder, are in range. -/
theorem readable_integerFields {r : Record} {d : Option Int} {v : Option (Bounds Int)}
    (hd : Record.withDefault (r.field "defaultValue" (decodeOption decodeI64)) none = .ok d)
    (hv : Record.withDefault (r.field "validator" (decodeOption (readBounds decodeI64))) none = .ok v) :
    (∀ i ∈ d, IsI64 i) ∧ ∀ b ∈ v, b.Readable IsI64 :=
  ⟨Record.withDefault_field ensures_decodeI64.option (by simp) hd,
    Record.withDefault_field (ensures_readBounds ensures_decodeI64).option (by simp) hv⟩

/-- The decorators and location that nodes end with, as read: each readable. -/
def TailReadable (decorators : List Decorator) (location : Option Location) : Prop :=
  (∀ d ∈ decorators, d.Readable) ∧ ∀ l ∈ location, l.Readable

/-- What only some kinds of property have, as read: string lengths and integer bounds and
defaults in range. -/
def PropertyKind.Readable : PropertyKind → Prop
  | .string _ _ length => ∀ v ∈ length, v.Readable
  | .integer d v | .long d v => (∀ i ∈ d, IsI64 i) ∧ ∀ b ∈ v, b.Readable IsI64
  | _ => True

/-- A property as read: its kind and tail readable, and an enumeration value never a list or
optional. -/
def Property.Readable (p : Property) : Prop :=
  p.kind.Readable ∧ (p.kind = .enumValue → p.isArray = false ∧ p.isOptional = false) ∧
    TailReadable p.decorators p.location

/-- The kind read for a property holds what its reader guarantees. -/
theorem ensures_readPropertyKind {variant : String} {r : Record} {type : Option TypeIdentifier} {kind : PropertyKind}
    (h : readPropertyKind variant r type = .ok kind) : kind.Readable := by
  unfold readPropertyKind at h
  split at h
  · simp only [Outcome.bind_eq_ok, pure, Except.pure, Except.ok.injEq] at h
    obtain ⟨-, -, -, -, length, hLength, rfl⟩ := h
    exact Record.withDefault_field ensures_readLengthValidator.option (by simp) hLength
  · simp only [Outcome.bind_eq_ok, pure, Except.pure, Except.ok.injEq] at h
    obtain ⟨d, hd, v, hv, rfl⟩ := h
    exact readable_integerFields hd hv
  · simp only [Outcome.bind_eq_ok, pure, Except.pure, Except.ok.injEq] at h
    obtain ⟨d, hd, v, hv, rfl⟩ := h
    exact readable_integerFields hd hv
  · simp only [Outcome.bind_eq_ok, pure, Except.pure, Except.ok.injEq] at h
    obtain ⟨-, -, -, -, rfl⟩ := h
    trivial
  · simp only [Outcome.bind_eq_ok, pure, Except.pure, Except.ok.injEq] at h
    obtain ⟨-, -, rfl⟩ := h
    trivial
  · cases h
    trivial
  · simp only [Outcome.bind_eq_ok, pure, Except.pure, Except.ok.injEq] at h
    obtain ⟨-, -, rfl⟩ := h
    trivial
  · cases h
    trivial
  · cases h
    trivial

/-- A property's kind is an enumeration value only for a variant none of whose fields is a flag. -/
theorem propertyFields_of_enumValue {variant : String} {r : Record} {type : Option TypeIdentifier}
    (h : readPropertyKind variant r type = .ok .enumValue) : propertyFields variant = ["name", "decorators", "location"] := by
  unfold readPropertyKind at h
  split at h
  any_goals simp [Outcome.bind_eq_ok, pure, Except.pure] at h
  next _ hString hInteger hLong hDouble hBoolean hDateTime hObject hRelationship =>
    simp only [imp_false] at hString hInteger hLong hDouble hBoolean hDateTime hObject hRelationship
    simp [propertyFields, hString, hInteger, hLong, hDouble, hBoolean, hDateTime, hObject, hRelationship]

/-- A property as read is readable. -/
theorem ensures_readProperty : Ensures readProperty Property.Readable := by
  intro j p h
  simp only [readProperty, Outcome.bind_eq_ok] at h
  obtain ⟨⟨tag, body⟩, -, h⟩ := h
  simp only [pure, Except.pure, Except.ok.injEq] at h
  obtain ⟨r, hOpen, -, -, name, -, type, -, isArray, hArray, isOptional, hOptional, decorators, hDecorators,
    location, hLocation, -, -, kind, hKind, rfl⟩ := h
  refine ⟨ensures_readPropertyKind hKind, fun hEnum => ?_,
    Record.withDefault_field ensures_readDecorator.list (by simp) hDecorators,
    Record.withDefault_field ensures_readLocation.option (by simp) hLocation⟩
  dsimp only at hEnum
  subst hEnum
  rw [propertyFields_of_enumValue hKind] at hOpen
  rw [Record.field_of_not_mem hOpen (by simp)] at hArray hOptional
  simp only [Record.withDefault_ok, Option.getD_none, Except.ok.injEq] at hArray hOptional
  exact ⟨hArray.symm, hOptional.symm⟩

/-- A class declaration as read: its properties and tail readable. -/
def ClassDeclaration.Readable (c : ClassDeclaration) : Prop :=
  (∀ p ∈ c.properties, p.Readable) ∧ TailReadable c.decorators c.location

/-- What a scalar declaration wraps, as read: string lengths and integer bounds and defaults in
range. -/
def ScalarKind.Readable : ScalarKind → Prop
  | .string _ _ length => ∀ v ∈ length, v.Readable
  | .integer d v | .long d v => (∀ i ∈ d, IsI64 i) ∧ ∀ b ∈ v, b.Readable IsI64
  | _ => True

/-- A declaration as read: its properties, scalar kind and tail readable. -/
def Declaration.Readable : Declaration → Prop
  | .cls _ c => c.Readable
  | .enum _ properties decorators location => (∀ p ∈ properties, p.Readable) ∧ TailReadable decorators location
  | .map _ _ _ decorators location => TailReadable decorators location
  | .scalar _ kind decorators location => kind.Readable ∧ TailReadable decorators location

/-- A model as read: its declarations and decorators readable. -/
def Model.Readable (m : Model) : Prop := (∀ d ∈ m.declarations, d.Readable) ∧ ∀ d ∈ m.decorators, d.Readable

/-- A class declaration as read is readable. -/
theorem ensures_readClass : Ensures readClass ClassDeclaration.Readable := by
  intro j c h
  simp only [readClass, Outcome.bind_eq_ok, pure, Except.pure, Except.ok.injEq] at h
  obtain ⟨r, -, -, -, name, -, isAbstract, -, superType, -, identified, -, properties, hProperties, decorators,
    hDecorators, location, hLocation, -, -, rfl⟩ := h
  exact ⟨Record.withDefault_field ensures_readProperty.list (by simp) hProperties,
    Record.withDefault_field ensures_readDecorator.list (by simp) hDecorators,
    Record.withDefault_field ensures_readLocation.option (by simp) hLocation⟩

/-- An enumeration as read is readable. -/
theorem ensures_readEnum : Ensures readEnum Declaration.Readable := by
  intro j d h
  simp only [readEnum, Outcome.bind_eq_ok, pure, Except.pure, Except.ok.injEq] at h
  obtain ⟨r, -, -, -, name, -, properties, hProperties, decorators, hDecorators, location, hLocation, -, -, rfl⟩ := h
  exact ⟨Record.withDefault_field ensures_readProperty.list (by simp) hProperties,
    Record.withDefault_field ensures_readDecorator.list (by simp) hDecorators,
    Record.withDefault_field ensures_readLocation.option (by simp) hLocation⟩

/-- A map declaration as read is readable. -/
theorem ensures_readMap : Ensures readMap Declaration.Readable := by
  intro j d h
  simp only [readMap, Outcome.bind_eq_ok, pure, Except.pure, Except.ok.injEq] at h
  obtain ⟨r, -, -, -, name, -, key, -, value, -, decorators, hDecorators, location, hLocation, -, -, rfl⟩ := h
  exact ⟨Record.withDefault_field ensures_readDecorator.list (by simp) hDecorators,
    Record.withDefault_field ensures_readLocation.option (by simp) hLocation⟩

/-- The kind read for a scalar holds what its reader guarantees. -/
theorem ensures_readScalarKind {variant : String} {r : Record} {kind : ScalarKind}
    (h : readScalarKind variant r = .ok kind) : kind.Readable := by
  unfold readScalarKind at h
  split at h
  · simp only [Outcome.bind_eq_ok, pure, Except.pure, Except.ok.injEq] at h
    obtain ⟨-, -, -, -, length, hLength, rfl⟩ := h
    exact Record.withDefault_field ensures_readLengthValidator.option (by simp) hLength
  · simp only [Outcome.bind_eq_ok, pure, Except.pure, Except.ok.injEq] at h
    obtain ⟨d, hd, v, hv, rfl⟩ := h
    exact readable_integerFields hd hv
  · simp only [Outcome.bind_eq_ok, pure, Except.pure, Except.ok.injEq] at h
    obtain ⟨d, hd, v, hv, rfl⟩ := h
    exact readable_integerFields hd hv
  · simp only [Outcome.bind_eq_ok, pure, Except.pure, Except.ok.injEq] at h
    obtain ⟨-, -, -, -, rfl⟩ := h
    trivial
  · simp only [Outcome.bind_eq_ok, pure, Except.pure, Except.ok.injEq] at h
    obtain ⟨-, -, rfl⟩ := h
    trivial
  · simp only [Outcome.bind_eq_ok, pure, Except.pure, Except.ok.injEq] at h
    obtain ⟨-, -, rfl⟩ := h
    trivial

/-- A scalar declaration as read is readable. -/
theorem ensures_readScalar (variant : String) : Ensures (readScalar variant) Declaration.Readable := by
  intro j d h
  simp only [readScalar, Outcome.bind_eq_ok, pure, Except.pure, Except.ok.injEq] at h
  obtain ⟨r, -, -, -, name, -, decorators, hDecorators, location, hLocation, -, -, kind, hKind, rfl⟩ := h
  exact ⟨ensures_readScalarKind hKind, Record.withDefault_field ensures_readDecorator.list (by simp) hDecorators,
    Record.withDefault_field ensures_readLocation.option (by simp) hLocation⟩

/-- A declaration as read, of any variant, is readable. -/
theorem ensures_readDeclaration : Ensures readDeclaration Declaration.Readable := by
  intro j d h
  simp only [readDeclaration, Outcome.bind_eq_ok] at h
  obtain ⟨⟨tag, body⟩, -, h⟩ := h
  dsimp only at h
  split at h
  · obtain ⟨c, hc, rfl⟩ := map_eq_ok.1 h
    exact ensures_readClass body c hc
  · split at h
    · exact ensures_readEnum body d h
    · split at h
      · exact ensures_readMap body d h
      · exact ensures_readScalar _ body d h

/-- A model as read is readable. -/
theorem ensures_readModel : Ensures readModel Model.Readable := by
  intro j m h
  simp only [readModel, Outcome.bind_eq_ok, pure, Except.pure, Except.ok.injEq] at h
  obtain ⟨r, -, -, -, cls, -, ns, -, sourceUri, -, imports, -, declarations, hDeclarations, decorators,
    hDecorators, -, -, rfl⟩ := h
  exact ⟨Record.withDefault_field ensures_readDeclaration.list (by simp) hDeclarations,
    Record.withDefault_field ensures_readDecorator.list (by simp) hDecorators⟩

/-! ### Models as parsed -/

/-- A decoding failure is kept as a failure. -/
theorem liftDecoded_eq_ok {d : Decoded α} {v : α} : liftDecoded d = .ok v ↔ d = .ok v := by
  cases d <;> simp [liftDecoded, metamodelError]

/-- What parsing can have done: read a bundle, whose `$class` ends in `.Models`, or one model. -/
theorem parseModels_eq_ok {j : Json} {ms : List Model} (h : parseModels j = .ok ms) :
    (∃ c, classOf j = .ok c ∧ c.endsWith ".Models" = true ∧ readModels j = .ok ms) ∨
      ∃ m, ms = [m] ∧ Model.fromJson j = .ok m := by
  simp only [parseModels, Outcome.bind_eq_ok] at h
  obtain ⟨c, hc, h⟩ := h
  split at h
  · next hBundle =>
    obtain ⟨-, -, hRead⟩ := Outcome.bind_eq_ok.1 h
    exact .inl ⟨c, hc, hBundle, liftDecoded_eq_ok.1 hRead⟩
  · obtain ⟨m, hm, hPure⟩ := Outcome.bind_eq_ok.1 h
    simp only [pure, Except.pure, Except.ok.injEq] at hPure
    exact .inr ⟨m, hPure.symm, hm⟩

/-- Every model that parsing yields, alone or in a bundle, is readable. -/
theorem readable_of_parseModels {j : Json} {ms : List Model} (h : parseModels j = .ok ms) : ∀ m ∈ ms, m.Readable := by
  rcases parseModels_eq_ok h with ⟨-, -, -, hBundle⟩ | ⟨m, rfl, hm⟩
  · simp only [readModels, Outcome.bind_eq_ok, pure, Except.pure, Except.ok.injEq] at hBundle
    obtain ⟨r, -, -, -, cls, -, models, hModels, -, -, rfl⟩ := hBundle
    exact Record.withDefault_field ensures_readModel.list (by simp) hModels
  · simp only [Model.fromJson, Outcome.bind_eq_ok] at hm
    obtain ⟨-, -, hRead⟩ := hm
    intro m' hm'
    rw [List.mem_singleton.1 hm']
    exact ensures_readModel j m (liftDecoded_eq_ok.1 hRead)

end DomainModels.Metamodel
