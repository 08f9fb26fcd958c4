import DomainModels.Json.Decode
/-! The settings of writing and reading instances, and their JSON form: an object with a
field per setting, where a missing field keeps its default. -/
namespace DomainModels.Wire

open Json

/-- Settings of the writer. -/
structure EncodeOptions where
  /-- Check required fields, shapes, validators, enumeration values and subtypes. -/
  validate : Bool := true
  /-- Embed instances found where a relationship is declared. -/
  permitResourcesForRelationships : Bool := false
  /-- Write instances found where a relationship is declared as their URI. -/
  convertResourcesToRelationships : Bool := false
  /-- The first occurrence of an identified instance carries `$id`; later ones are its URI. -/
  deduplicateResources : Bool := false
  /-- Write relationships as their bare identifier instead of their URI. -/
  convertResourcesToId : Bool := false
  /-- The offset, in minutes, DateTimes are written in. -/
  utcOffset : Int := 0
  deriving Repr, DecidableEq

/-- Settings of the reader. -/
structure DecodeOptions where
  validate : Bool := true
  /-- Accept embedded objects where a relationship is declared. -/
  acceptResourcesForRelationships : Bool := false
  /-- Require DateTimes to carry `Z` or an explicit offset. -/
  strictQualifiedDateTimes : Bool := true
  /-- The offset, in minutes, of DateTimes written without one, when reading leniently. -/
  utcOffset : Int := 0
  deriving Repr, DecidableEq

/-- The field names of the writer's settings. -/
def encodeFields : List String :=
  ["validate", "permit_resources_for_relationships", "convert_resources_to_relationships",
   "deduplicate_resources", "convert_resources_to_id", "utc_offset"]

/-- The field names of the reader's settings. -/
def decodeFields : List String :=
  ["validate", "accept_resources_for_relationships", "strict_qualified_date_times", "utc_offset"]

/-- The JSON form of the writer's settings. -/
def EncodeOptions.toJson (o : EncodeOptions) : Json :=
  .object (encodeFields.zip [.bool o.validate, .bool o.permitResourcesForRelationships,
    .bool o.convertResourcesToRelationships, .bool o.deduplicateResources, .bool o.convertResourcesToId,
    Json.ofInt o.utcOffset])

/-- The JSON form of the reader's settings. -/
def DecodeOptions.toJson (o : DecodeOptions) : Json :=
  .object (decodeFields.zip [.bool o.validate, .bool o.acceptResourcesForRelationships,
    .bool o.strictQualifiedDateTimes, Json.ofInt o.utcOffset])

/-- Read the writer's settings; missing fields keep their defaults. -/
def EncodeOptions.ofJson (j : Json) : Decoded EncodeOptions := do
  let r ← Record.open "struct EncodeOptions" encodeFields j
  let validate := r.field "validate" decodeBool
  let permit := r.field "permit_resources_for_relationships" decodeBool
  let convert := r.field "convert_resources_to_relationships" decodeBool
  let dedupe := r.field "deduplicate_resources" decodeBool
  let toId := r.field "convert_resources_to_id" decodeBool
  let offset := r.field "utc_offset" decodeI32
  r.check [("validate", failure validate), ("permit_resources_for_relationships", failure permit),
    ("convert_resources_to_relationships", failure convert), ("deduplicate_resources", failure dedupe),
    ("convert_resources_to_id", failure toId), ("utc_offset", failure offset)]
  let d : EncodeOptions := {}
  let o : EncodeOptions :=
    { validate := ← Record.withDefault validate d.validate
      permitResourcesForRelationships := ← Record.withDefault permit d.permitResourcesForRelationships
      convertResourcesToRelationships := ← Record.withDefault convert d.convertResourcesToRelationships
      deduplicateResources := ← Record.withDefault dedupe d.deduplicateResources
      convertResourcesToId := ← Record.withDefault toId d.convertResourcesToId
      utcOffset := ← Record.withDefault offset d.utcOffset }
  r.finish
  pure o

/-- Read the reader's settings; missing fields keep their defaults. -/
def DecodeOptions.ofJson (j : Json) : Decoded DecodeOptions := do
  let r ← Record.open "struct DecodeOptions" decodeFields j
  let validate := r.field "validate" decodeBool
  let accept := r.field "accept_resources_for_relationships" decodeBool
  let strict := r.field "strict_qualified_date_times" decodeBool
  let offset := r.field "utc_offset" decodeI32
  r.check [("validate", failure validate), ("accept_resources_for_relationships", failure accept),
    ("strict_qualified_date_times", failure strict), ("utc_offset", failure offset)]
  let d : DecodeOptions := {}
  let o : DecodeOptions :=
    { validate := ← Record.withDefault validate d.validate
      acceptResourcesForRelationships := ← Record.withDefault accept d.acceptResourcesForRelationships
      strictQualifiedDateTimes := ← Record.withDefault strict d.strictQualifiedDateTimes
      utcOffset := ← Record.withDefault offset d.utcOffset }
  r.finish
  pure o

end DomainModels.Wire
