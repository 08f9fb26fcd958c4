import DomainModels.Proofs.Metamodel.Readable
import DomainModels.Metamodel.Write
import DomainModels.Proofs.Graph.Resolution
/-! The metamodel tree written as JSON reads back as itself, for every model that parsing yields;
a bundle member of another metamodel version then fails the single-model check. -/
namespace DomainModels.Metamodel

open Json

variable {α : Type}

/-- An optional field is found under its key when it is present. -/
@[simp] theorem fieldsGet?_optField (k key : String) (enc : α → Json) (v : Option α) :
    fieldsGet? (optField k enc v) key = if k = key then v.map enc else none := by
  cases v <;> by_cases h : k = key <;> simp [optField, h]

/-- A list field is not found under another key. -/
@[simp] theorem fieldsGet?_listField_of_ne {k key : String} (h : k ≠ key) (enc : α → Json) (xs : List α) :
    fieldsGet? (listField k enc xs) key = none := by
  cases xs <;> simp [listField, h]

/-- A list field, left out when empty, reads back as itself; the lookup finds it when it is not
empty. -/
theorem mapM_decodeList_listField {dec : Json → Decoded α} {enc : α → Json} {xs : List α}
    (h : ∀ x ∈ xs, dec (enc x) = .ok x) (k : String) :
    (fieldsGet? (listField k enc xs) k).mapM (decodeList dec) = .ok (if xs = [] then none else some xs) := by
  cases xs with
  | nil => rfl
  | cons x rest =>
    simp only [listField, fieldsGet?_cons, if_true, fieldsGet?_nil, Option.mapM_some, reduceCtorEq, if_false]
    rw [decodeList_array h]
    rfl

/-- An absent list field reads as the empty list. -/
@[simp] theorem getD_ite_nil (xs : List α) : (if xs = [] then none else some xs).getD [] = xs := by
  cases xs <;> simp

/-- Dropping the tag leaves the optional fields. -/
@[simp] theorem filter_optField {k : String} (hk : k ≠ "$class") (enc : α → Json) (v : Option α) :
    (optField k enc v).filter (·.1 != "$class") = optField k enc v := by
  cases v <;> simp [optField, hk]

/-- Dropping the tag leaves the list fields. -/
@[simp] theorem filter_listField {k : String} (hk : k ≠ "$class") (enc : α → Json) (xs : List α) :
    (listField k enc xs).filter (·.1 != "$class") = listField k enc xs := by
  cases xs <;> simp [listField, hk]

/-- Node classes of different names differ. -/
@[simp] theorem nodeClass_inj {a b : String} : nodeClass a = nodeClass b ↔ a = b := by
  constructor
  · intro h
    have hList := congrArg String.toList h
    simp only [nodeClass, String.toList_append, List.append_cancel_left_eq] at hList
    exact String.toList_injective hList
  · rintro rfl
    rfl

/-- The variant name of a node class is the name it was made from. -/
@[simp] theorem variant_nodeClass (n : String) : ((nodeClass n).drop (metamodelNamespace.length + 1)).copy = n := by
  apply String.toList_injective
  rw [String.toList_copy_drop]
  have hLen : metamodelNamespace.length = metamodelNamespace.toList.length := rfl
  simp [nodeClass, hLen]

/-! ### Leaves and small nodes -/

/-- A readable position reads back from its JSON form. -/
theorem readPosition_toJson {p : Position} (h : p.Readable) : readPosition (Position.toJson p) = .ok p := by
  obtain ⟨h1, h2, h3⟩ := h
  simp [readPosition, Position.toJson, Record.field_ofObject, decodeU32_ofInt h1, decodeU32_ofInt h2,
    decodeU32_ofInt h3, Record.check]

/-- A readable location reads back from its JSON form. -/
theorem readLocation_toJson {l : Location} (h : l.Readable) : readLocation (Location.toJson l) = .ok l := by
  obtain ⟨hStart, hFinish⟩ := h
  simp [readLocation, Location.toJson, Record.field_ofObject, readPosition_toJson hStart,
    readPosition_toJson hFinish,  Record.check]

/-- A type reference reads back from its JSON form. -/
theorem readTypeIdentifier_toJson (t : TypeIdentifier) : readTypeIdentifier t.toJson = .ok t := by
  simp [readTypeIdentifier, TypeIdentifier.toJson, Record.field_ofObject,
     Record.check]

/-- An import reads back from its JSON form. -/
theorem readImport_toJson (i : Import) : readImport i.toJson = .ok i := by
  cases i <;>
    simp [readImport, Import.toJson, openVariant_tagged, importVariants, Record.field_ofObject, Record.check,
      decodeList_array (fun _ _ => decodeString_string _)]

/-- A decorator argument reads back from its JSON form. -/
theorem readArgument_toJson (a : DecoratorArgument) : readArgument a.toJson = .ok a := by
  cases a <;>
    simp [readArgument, DecoratorArgument.toJson, openVariant_tagged, argumentVariants, Record.field_ofObject,
      Record.check, readTypeIdentifier_toJson]

/-- A readable decorator reads back from its JSON form. -/
theorem readDecorator_toJson {d : Decorator} (h : d.Readable) : readDecorator d.toJson = .ok d := by
  have hLocation : (d.location.map Location.toJson).mapM (decodeOption readLocation) = .ok (d.location.map some) :=
    mapM_decodeOption (fun _ => nofun) fun l hl => readLocation_toJson (h l hl)
  simp [readDecorator, Decorator.toJson, Record.field_ofObject, Record.check, hLocation,
    decodeList_array fun a _ => readArgument_toJson a]

/-- A pattern validator reads back from its JSON form. -/
theorem readRegexValidator_toJson (v : RegexValidator) : readRegexValidator v.toJson = .ok v := by
  simp [readRegexValidator, RegexValidator.toJson, Record.field_ofObject, Record.check]

/-- A readable length validator reads back from its JSON form. -/
theorem readLengthValidator_toJson {v : LengthValidator} (h : v.Readable) :
    readLengthValidator v.toJson = .ok v := by
  have hMin : (v.minLength.map ofInt).mapM (decodeOption decodeI64) = .ok (v.minLength.map some) :=
    mapM_decodeOption (fun _ => nofun) fun i hi => decodeI64_ofInt (h.1 i hi)
  have hMax : (v.maxLength.map ofInt).mapM (decodeOption decodeI64) = .ok (v.maxLength.map some) :=
    mapM_decodeOption (fun _ => nofun) fun i hi => decodeI64_ofInt (h.2 i hi)
  simp [readLengthValidator, LengthValidator.toJson, Record.field_ofObject, Record.check, hMin, hMax]

/-- Bounds read back from their JSON form when each bound does. -/
theorem readBounds_toJson {dec : Json → Decoded α} {enc : α → Json} {P : α → Prop} (hne : ∀ x, enc x ≠ .null)
    (hDec : ∀ x, P x → dec (enc x) = .ok x) {b : Bounds α} (h : b.Readable P) :
    readBounds dec (b.toJson enc) = .ok b := by
  have hLower : (b.lower.map enc).mapM (decodeOption dec) = .ok (b.lower.map some) :=
    mapM_decodeOption hne fun x hx => hDec x (h.1 x hx)
  have hUpper : (b.upper.map enc).mapM (decodeOption dec) = .ok (b.upper.map some) :=
    mapM_decodeOption hne fun x hx => hDec x (h.2 x hx)
  simp [readBounds, Bounds.toJson, Record.field_ofObject, Record.check, hLower, hUpper]

/-- An identification reads back from its JSON form. -/
theorem readIdentified_toJson (i : Identified) : readIdentified i.toJson = .ok i := by
  cases i with
  | system => simp [readIdentified, Identified.toJson, openVariant_tagged, identifiedVariants, pure, Except.pure]
  | byField name =>
    simp [readIdentified, Identified.toJson, openVariant_tagged, identifiedVariants, Record.field_ofObject,
      Record.check]

/-- The type of a map key or value reads back from its field. -/
theorem readTypeField_toJson (record : String) (t : TypeIdentifier) :
    readTypeField record (.object [("type", t.toJson)]) = .ok t := by
  simp [readTypeField, Record.field_ofObject, Record.check, readTypeIdentifier_toJson]

/-- A map key type reads back from its JSON form. -/
theorem readMapKey_toJson (k : MapKey) : readMapKey k.toJson = .ok k := by
  cases k <;> simp [readMapKey, MapKey.toJson, openVariant_tagged, mapKeyVariants, readTypeField_toJson, pure,
    Except.pure]

/-- A map value type reads back from its JSON form. -/
theorem readMapValue_toJson (v : MapValue) : readMapValue v.toJson = .ok v := by
  cases v <;> simp [readMapValue, MapValue.toJson, openVariant_tagged, mapValueVariants, readTypeField_toJson,
    pure, Except.pure]

/-! ### Properties -/

theorem mapM_readDecorators {ds : List Decorator} (h : ∀ d ∈ ds, d.Readable) :
    (fieldsGet? (listField "decorators" Decorator.toJson ds) "decorators").mapM (decodeList readDecorator) =
      .ok (if ds = [] then none else some ds) :=
  mapM_decodeList_listField (fun d hd => readDecorator_toJson (h d hd)) "decorators"

theorem mapM_readLocation {l : Option Location} (h : ∀ x ∈ l, x.Readable) :
    (l.map Location.toJson).mapM (decodeOption readLocation) = .ok (l.map some) :=
  mapM_decodeOption (fun _ => nofun) fun x hx => readLocation_toJson (h x hx)

@[simp] theorem mapM_readRegexValidator (v : Option RegexValidator) :
    (v.map RegexValidator.toJson).mapM (decodeOption readRegexValidator) = .ok (v.map some) :=
  mapM_decodeOption (fun _ => nofun) fun x _ => readRegexValidator_toJson x

@[simp] theorem mapM_readFloatBounds (v : Option (Bounds Float)) :
    (v.map (Bounds.toJson ofFloat)).mapM (decodeOption (readBounds decodeF64)) = .ok (v.map some) :=
  mapM_decodeOption (by intro _; nofun) fun b _ =>
    readBounds_toJson (by intro _; nofun) (fun x (_ : True) => decodeF64_ofFloat x) ⟨fun _ _ => trivial, fun _ _ => trivial⟩

theorem mapM_readLengthValidator {l : Option LengthValidator} (h : ∀ x ∈ l, x.Readable) :
    (l.map LengthValidator.toJson).mapM (decodeOption readLengthValidator) = .ok (l.map some) :=
  mapM_decodeOption (fun _ => nofun) fun x hx => readLengthValidator_toJson (h x hx)

theorem mapM_decodeI64 {d : Option Int} (h : ∀ i ∈ d, IsI64 i) :
    (d.map ofInt).mapM (decodeOption decodeI64) = .ok (d.map some) :=
  mapM_decodeOption (fun _ => nofun) fun i hi => decodeI64_ofInt (h i hi)

theorem mapM_readIntBounds {v : Option (Bounds Int)} (h : ∀ b ∈ v, b.Readable IsI64) :
    (v.map (Bounds.toJson ofInt)).mapM (decodeOption (readBounds decodeI64)) = .ok (v.map some) :=
  mapM_decodeOption (by intro _; nofun) fun b hb =>
    readBounds_toJson (by intro _; nofun) (fun _ hi => decodeI64_ofInt hi) (h b hb)

/-- A readable property reads back from its JSON form. -/
theorem readProperty_toJson {p : Property} (h : p.Readable) : readProperty p.toJson = .ok p := by
  rcases p with ⟨name, kind, isArray, isOptional, decorators, location⟩
  obtain ⟨hKind, hEnum, hDecorators, hLocation⟩ := h
  dsimp only at hKind hEnum hDecorators hLocation
  have hReadDecorators := mapM_readDecorators hDecorators
  have hReadLocation := mapM_readLocation hLocation
  cases kind with
  | string d v l =>
    simp [readProperty, readPropertyType, readPropertyKind, Property.toJson, tail, openVariant_tagged,
      propertyVariants, propertyRecord, propertyFields, Record.field_ofObject, Record.field_ofObject_of_not_mem,
      Record.check, readDecorators, hReadDecorators, hReadLocation, mapM_readLengthValidator hKind]
  | integer d v | long d v =>
    simp [readProperty, readPropertyType, readPropertyKind, Property.toJson, tail, openVariant_tagged,
      propertyVariants, propertyRecord, propertyFields, Record.field_ofObject, Record.field_ofObject_of_not_mem,
      Record.check, readDecorators, hReadDecorators, hReadLocation, mapM_decodeI64 hKind.1,
      mapM_readIntBounds hKind.2]
  | double d v | boolean d | dateTime | object t d | relationship t =>
    simp [readProperty, readPropertyType, readPropertyKind, Property.toJson, tail, openVariant_tagged,
      propertyVariants, propertyRecord, propertyFields, Record.field_ofObject, Record.field_ofObject_of_not_mem,
      Record.check, readDecorators, hReadDecorators, hReadLocation, readTypeIdentifier_toJson, pure, Except.pure]
  | enumValue =>
    obtain ⟨rfl, rfl⟩ := hEnum rfl
    simp [readProperty, readPropertyType, readPropertyKind, Property.toJson, tail, openVariant_tagged,
      propertyVariants, propertyRecord, propertyFields, Record.field_ofObject, Record.field_ofObject_of_not_mem,
      Record.check, readDecorators, hReadDecorators, hReadLocation, pure, Except.pure]

/-! ### Declarations and models -/

@[simp] theorem mapM_readIdentified (v : Option Identified) :
    (v.map Identified.toJson).mapM (decodeOption readIdentified) = .ok (v.map some) :=
  mapM_decodeOption (by intro x; cases x <;> nofun) fun x _ => readIdentified_toJson x

@[simp] theorem mapM_readTypeIdentifier (v : Option TypeIdentifier) :
    (v.map TypeIdentifier.toJson).mapM (decodeOption readTypeIdentifier) = .ok (v.map some) :=
  mapM_decodeOption (fun _ => nofun) fun x _ => readTypeIdentifier_toJson x

/-- A readable declaration reads back from its JSON form. -/
theorem readDeclaration_toJson {d : Declaration} (h : d.Readable) : readDeclaration d.toJson = .ok d := by
  cases d with
  | cls kind c =>
    obtain ⟨hProperties, hDecorators, hLocation⟩ := h
    have hReadProperties := decodeList_array fun p hp => readProperty_toJson (hProperties p hp)
    have hReadDecorators := mapM_readDecorators hDecorators
    have hReadLocation := mapM_readLocation hLocation
    cases kind <;>
      simp [readDeclaration, readClass, Declaration.toJson, ClassKind.variant, classKindOf, tail, openVariant_tagged,
        declarationVariants, Record.field_ofObject, Record.check, readDecorators, hReadProperties,
        hReadDecorators, hReadLocation]
  | enum name properties decorators location =>
    obtain ⟨hProperties, hDecorators, hLocation⟩ := h
    have hReadProperties := decodeList_array fun p hp => readProperty_toJson (hProperties p hp)
    have hReadDecorators := mapM_readDecorators hDecorators
    have hReadLocation := mapM_readLocation hLocation
    simp [readDeclaration, readEnum, Declaration.toJson, classKindOf, tail, openVariant_tagged,
      declarationVariants, Record.field_ofObject, Record.check, readDecorators, hReadProperties,
      hReadDecorators, hReadLocation]
  | map name key value decorators location =>
    obtain ⟨hDecorators, hLocation⟩ := h
    have hReadDecorators := mapM_readDecorators hDecorators
    have hReadLocation := mapM_readLocation hLocation
    simp [readDeclaration, readMap, Declaration.toJson, classKindOf, tail, openVariant_tagged,
      declarationVariants, Record.field_ofObject, Record.check, readDecorators, readMapKey_toJson,
      readMapValue_toJson, hReadDecorators, hReadLocation]
  | scalar name kind decorators location =>
    obtain ⟨hKind, hDecorators, hLocation⟩ := h
    have hReadDecorators := mapM_readDecorators hDecorators
    have hReadLocation := mapM_readLocation hLocation
    cases kind with
    | string d v l =>
      simp [readDeclaration, readScalar, readScalarKind, Declaration.toJson, classKindOf, tail, openVariant_tagged,
        declarationVariants, Record.field_ofObject, Record.check, readDecorators, hReadDecorators, hReadLocation,
        mapM_readLengthValidator hKind]
    | integer d v | long d v =>
      simp [readDeclaration, readScalar, readScalarKind, Declaration.toJson, classKindOf, tail, openVariant_tagged,
        declarationVariants, Record.field_ofObject, Record.field_ofObject_of_not_mem, Record.check, readDecorators,
        hReadDecorators, hReadLocation, mapM_decodeI64 hKind.1, mapM_readIntBounds hKind.2]
    | double d v | boolean d | dateTime d =>
      simp [readDeclaration, readScalar, readScalarKind, Declaration.toJson, classKindOf, tail, openVariant_tagged,
        declarationVariants, Record.field_ofObject, Record.field_ofObject_of_not_mem, Record.check, readDecorators,
        hReadDecorators, hReadLocation]

theorem mapM_readImports (imports : List Import) :
    (fieldsGet? (listField "imports" Import.toJson imports) "imports").mapM (decodeList readImport) =
      .ok (if imports = [] then none else some imports) :=
  mapM_decodeList_listField (fun i _ => readImport_toJson i) "imports"

/-- A readable model reads back from its JSON form. -/
theorem readModel_toJson {m : Model} (h : m.Readable) : readModel m.toJson = .ok m := by
  obtain ⟨hDeclarations, hDecorators⟩ := h
  have hReadDeclarations := decodeList_array fun d hd => readDeclaration_toJson (hDeclarations d hd)
  have hReadDecorators := mapM_readDecorators hDecorators
  have hReadImports := mapM_readImports m.imports
  simp [readModel, Model.toJson, Record.field_ofObject, Record.check, readDecorators, hReadDeclarations,
    hReadDecorators, hReadImports]

/-! ### Models as parsed -/

/-- The JSON form of a model names its class first. -/
theorem classOf_toJson (m : Model) : classOf m.toJson = .ok m.cls := by
  simp [classOf, Model.toJson, Json.get?]

/-- A node passes the check for a model exactly when its `$class` is the model class of this
metamodel. -/
theorem checkNodeClass_model_eq_ok {j : Json} : checkNodeClass j "Model" = .ok () ↔ classOf j = .ok (nodeClass "Model") := by
  constructor
  · intro h
    simp only [checkNodeClass, Outcome.bind_eq_ok] at h
    obtain ⟨cls, hCls, h⟩ := h
    split at h
    · simp [metamodelError] at h
    · next ns name hSplit =>
      split at h
      · split at h <;> simp [metamodelError] at h
      · next hNs =>
        split at h
        · simp [metamodelError] at h
        · next hName =>
          simp only [bne_iff_ne, ne_eq, Decidable.not_not] at hNs hName
          have hJoin := Text.splitLast?_eq_some hSplit
          rw [hCls, ← hJoin, hNs, hName]
          rfl
  · intro h
    have hSplit : Text.splitLast? (nodeClass "Model") '.' = some (metamodelNamespace, "Model") := by decide
    simp only [checkNodeClass, h, ok_bind, hSplit, bne_self_eq_false, Bool.false_eq_true, if_false]
    rfl

/-- A model read from a node has the `$class` that the node names. -/
theorem cls_of_readModel {j : Json} {m : Model} {c : String} (h : readModel j = .ok m) (hc : classOf j = .ok c) :
    m.cls = c := by
  obtain ⟨fields, rfl, hField⟩ : ∃ fields, j = .object fields ∧ fieldsGet? fields "$class" = some (.string c) := by
    unfold classOf at hc
    split at hc
    · next s hGet =>
      cases hc
      cases j with
      | object fields => exact ⟨fields, rfl, hGet⟩
      | _ => simp [Json.get?] at hGet
    · simp [metamodelError] at hc
  simp only [readModel, Record.open_object, ok_bind, Outcome.bind_eq_ok] at h
  obtain ⟨-, -, cls, hCls, _, -, _, -, _, -, _, -, _, -, -, -, hm⟩ := h
  rw [Record.required_eq_ok, Record.field_ofObject (by simp), hField] at hCls
  simp only [Option.mapM_some, decodeString_string, map_ok, Except.ok.injEq, Option.some.injEq] at hCls
  simp only [pure, Except.pure, Except.ok.injEq] at hm
  rw [← hm, hCls]

/-- A model passes the single-model reading only with the model class of this metamodel. -/
theorem cls_of_fromJson {j : Json} {m : Model} (h : Model.fromJson j = .ok m) : m.cls = nodeClass "Model" := by
  simp only [Model.fromJson, Outcome.bind_eq_ok] at h
  obtain ⟨_, hCheck, hRead⟩ := h
  exact cls_of_readModel (liftDecoded_eq_ok.1 hRead) (checkNodeClass_model_eq_ok.1 hCheck)

/-- The JSON form of a readable model passes the single-model reading exactly when the model has
the model class of this metamodel. -/
theorem fromJson_toJson_eq_ok_iff {m : Model} (h : m.Readable) :
    Model.fromJson m.toJson = .ok m ↔ m.cls = nodeClass "Model" := by
  constructor
  · exact cls_of_fromJson
  · intro hCls
    simp only [Model.fromJson, checkNodeClass_model_eq_ok.2 (by rw [classOf_toJson, hCls]), ok_bind,
      readModel_toJson h]
    rfl

/-- Submitting the JSON form of a readable model of the model class yields that model again. -/
theorem parseModels_toJson {m : Model} (h : m.Readable) (hCls : m.cls = nodeClass "Model") :
    parseModels m.toJson = .ok [m] := by
  have hSingle : (nodeClass "Model").endsWith ".Models" = false := by decide +kernel
  simp only [parseModels, classOf_toJson, hCls, ok_bind, hSingle, Bool.false_eq_true, if_false,
    (fromJson_toJson_eq_ok_iff h).2 hCls]
  rfl

/-- Every model that parsing yields, whether alone or in a bundle, writes to a JSON form that reads
back as itself; that form passes the single-model check exactly when the model has the model class
of this metamodel, and then submitting it again yields that model again (so a file built from it
has the same checksum). A model of any other class can only have come in a bundle, whose members'
classes are not checked. -/
theorem parsed_models_round_trip {j : Json} {ms : List Model} (h : parseModels j = .ok ms) :
    ∀ m ∈ ms, readModel m.toJson = .ok m ∧
      (Model.fromJson m.toJson = .ok m ↔ m.cls = nodeClass "Model") ∧
      (m.cls = nodeClass "Model" → parseModels m.toJson = .ok [m]) ∧
      (m.cls ≠ nodeClass "Model" → ∃ c, classOf j = .ok c ∧ c.endsWith ".Models" = true) := by
  intro m hm
  have hReadable := readable_of_parseModels h m hm
  refine ⟨readModel_toJson hReadable, fromJson_toJson_eq_ok_iff hReadable, parseModels_toJson hReadable,
    fun hCls => ?_⟩
  rcases parseModels_eq_ok h with ⟨c, hc, hBundle, -⟩ | ⟨m', rfl, hm'⟩
  · exact ⟨c, hc, hBundle⟩
  · rw [List.mem_singleton.1 hm] at hCls
    exact absurd (cls_of_fromJson hm') hCls

/-- A bundle of the current metamodel holding a model of an older one. -/
def olderMemberBundle : Json :=
  .object [("$class", .string (nodeClass "Models")),
    ("models", .array [.object [("$class", .string "concerto.metamodel@0.9.0.Model"),
      ("namespace", .string "org.x@1.0.0"), ("declarations", .array [])]])]

/-- The model of the older metamodel that the bundle holds. -/
def olderMember : Model := { cls := "concerto.metamodel@0.9.0.Model", ns := "org.x@1.0.0" }

/-- The bundle is parsed with its member of the older metamodel, whose JSON form reads back but
fails the single-model check. -/
theorem older_bundle_member_reads_back_but_fails_the_model_check :
    parseModels olderMemberBundle = .ok [olderMember] ∧ readModel olderMember.toJson = .ok olderMember ∧
      Model.fromJson olderMember.toJson ≠ .ok olderMember := by
  have hBundle : (nodeClass "Models").endsWith ".Models" = true := by decide +kernel
  have hParse : parseModels olderMemberBundle = .ok [olderMember] := by
    simp only [parseModels, olderMemberBundle, classOf, Json.get?, fieldsGet?_cons, if_true, ok_bind, hBundle]
    rfl
  obtain ⟨hRead, hCheck, -, -⟩ := parsed_models_round_trip hParse olderMember (List.mem_singleton_self _)
  refine ⟨hParse, hRead, fun hOk => ?_⟩
  have hOlder : olderMember.cls ≠ nodeClass "Model" := by decide
  exact hOlder (hCheck.1 hOk)

end DomainModels.Metamodel
