import DomainModels.Settings.Read
import DomainModels.Files.Load
import DomainModels.Wire.Options
import DomainModels.Generate.Options
import DomainModels.Toml.Write
/-! The configuration of the tools: where model files come from and how they are checked,
the defaults of writing and reading instances, and the defaults of generating them. Every
part has defaults, so settings only name what differs from them. The configuration has a
JSON form and a TOML form with the same keys. -/
namespace DomainModels.Settings

open Json

/-- Where model files come from and how they are checked. -/
structure RegistrySettings where
  /-- The directory scanned for model files. -/
  modelDir : String := "models"
  /-- Files whose paths start with one of these are skipped. -/
  skipPrefixes : List String := ({} : Files.LoadConfig).skipPrefixes
  /-- When not empty, only files whose paths start with one of these are loaded. -/
  includePrefixes : List String := []
  /-- Leave out declarations that fail validation instead of refusing the load. -/
  disableValidation : Bool := false
  deriving Repr, DecidableEq

/-- The defaults of writing and reading instances. -/
structure SerializerSettings where
  encode : Wire.EncodeOptions := {}
  decode : Wire.DecodeOptions := {}
  deriving Repr, DecidableEq

/-- The configuration. -/
structure Configuration where
  registry : RegistrySettings := {}
  serializer : SerializerSettings := {}
  generator : Generate.Options := {}
  deriving Repr, DecidableEq

/-- Which files of the model directory are loaded. -/
def RegistrySettings.loadConfig (r : RegistrySettings) : Files.LoadConfig :=
  { skipPrefixes := r.skipPrefixes, includePrefixes := r.includePrefixes }

/-- The model directory: an absolute directory as it is, a relative one below the
working directory. -/
def Configuration.modelDirPath (c : Configuration) (cwd : String) : String :=
  if c.registry.modelDir.startsWith "/" then c.registry.modelDir else Files.joinPath cwd c.registry.modelDir

/-! ### Reading -/

/-- The field names of the registry settings. -/
def registryFields : List String := ["model_dir", "skip_prefixes", "include_prefixes", "disable_validation"]

/-- Read the registry settings. -/
def RegistrySettings.ofSetting (s : Setting) : Reading RegistrySettings := do
  let fs ← s.toFields "RegistryConfig"
  let d : RegistrySettings := {}
  let modelDir := fs.get registryFields "model_dir" Setting.toText d.modelDir
  let skip := fs.get registryFields "skip_prefixes" Setting.toTexts d.skipPrefixes
  let included := fs.get registryFields "include_prefixes" Setting.toTexts d.includePrefixes
  let disable := fs.get registryFields "disable_validation" Setting.toBool d.disableValidation
  fs.check registryFields [("model_dir", Fields.failure modelDir), ("skip_prefixes", Fields.failure skip),
    ("include_prefixes", Fields.failure included), ("disable_validation", Fields.failure disable)]
  pure { modelDir := ← modelDir, skipPrefixes := ← skip, includePrefixes := ← included,
         disableValidation := ← disable }

/-- Read the writer's settings. -/
def encodeOfSetting (s : Setting) : Reading Wire.EncodeOptions := do
  let fs ← s.toFields "EncodeOptions"
  let d : Wire.EncodeOptions := {}
  let names := Wire.encodeFields
  let validate := fs.get names "validate" Setting.toBool d.validate
  let permit := fs.get names "permit_resources_for_relationships" Setting.toBool d.permitResourcesForRelationships
  let convert := fs.get names "convert_resources_to_relationships" Setting.toBool d.convertResourcesToRelationships
  let dedupe := fs.get names "deduplicate_resources" Setting.toBool d.deduplicateResources
  let toId := fs.get names "convert_resources_to_id" Setting.toBool d.convertResourcesToId
  let offset := fs.get names "utc_offset" Setting.toInt32 d.utcOffset
  fs.check names [("validate", Fields.failure validate), ("permit_resources_for_relationships", Fields.failure permit),
    ("convert_resources_to_relationships", Fields.failure convert),
    ("deduplicate_resources", Fields.failure dedupe), ("convert_resources_to_id", Fields.failure toId),
    ("utc_offset", Fields.failure offset)]
  pure { validate := ← validate, permitResourcesForRelationships := ← permit,
         convertResourcesToRelationships := ← convert, deduplicateResources := ← dedupe,
         convertResourcesToId := ← toId, utcOffset := ← offset }

/-- Read the reader's settings. -/
def decodeOfSetting (s : Setting) : Reading Wire.DecodeOptions := do
  let fs ← s.toFields "DecodeOptions"
  let d : Wire.DecodeOptions := {}
  let names := Wire.decodeFields
  let validate := fs.get names "validate" Setting.toBool d.validate
  let accept := fs.get names "accept_resources_for_relationships" Setting.toBool d.acceptResourcesForRelationships
  let strict := fs.get names "strict_qualified_date_times" Setting.toBool d.strictQualifiedDateTimes
  let offset := fs.get names "utc_offset" Setting.toInt32 d.utcOffset
  fs.check names [("validate", Fields.failure validate), ("accept_resources_for_relationships", Fields.failure accept),
    ("strict_qualified_date_times", Fields.failure strict), ("utc_offset", Fields.failure offset)]
  pure { validate := ← validate, acceptResourcesForRelationships := ← accept,
         strictQualifiedDateTimes := ← strict, utcOffset := ← offset }

/-- The field names of the serializer settings. -/
def serializerFields : List String := ["encode", "decode"]

/-- Read the serializer settings. -/
def SerializerSettings.ofSetting (s : Setting) : Reading SerializerSettings := do
  let fs ← s.toFields "SerializerConfig"
  let encode := fs.get serializerFields "encode" encodeOfSetting {}
  let decode := fs.get serializerFields "decode" decodeOfSetting {}
  fs.check serializerFields [("encode", Fields.failure encode), ("decode", Fields.failure decode)]
  pure { encode := ← encode, decode := ← decode }

/-- Read a generation mode by its name. -/
def modeOfSetting (s : Setting) : Reading Generate.Mode := do
  let name ← s.toVariant "GeneratorMode" ["empty", "sample"]
  pure (if name == "sample" then .sample else .empty)

/-- Read the generation settings. -/
def generatorOfSetting (s : Setting) : Reading Generate.Options := do
  let fs ← s.toFields "GenerateOptions"
  let names := Generate.optionFields
  let mode := fs.get names "mode" modeOfSetting .empty
  let includeOptional := fs.get names "include_optional_fields" Setting.toBool false
  let seed := fs.get names "seed" (Setting.toOption Setting.toUnsigned) none
  fs.check names [("mode", Fields.failure mode), ("include_optional_fields", Fields.failure includeOptional),
    ("seed", Fields.failure seed)]
  pure { mode := ← mode, includeOptionalFields := ← includeOptional, seed := ← seed }

/-- The field names of the configuration. -/
def configurationFields : List String := ["registry", "serializer", "generator"]

/-- Read the configuration. -/
def Configuration.ofSetting (s : Setting) : Reading Configuration := do
  let fs ← s.toFields "ModelsConfig"
  let registry := fs.get configurationFields "registry" RegistrySettings.ofSetting {}
  let serializer := fs.get configurationFields "serializer" SerializerSettings.ofSetting {}
  let generator := fs.get configurationFields "generator" generatorOfSetting {}
  fs.check configurationFields [("registry", Fields.failure registry),
    ("serializer", Fields.failure serializer), ("generator", Fields.failure generator)]
  pure { registry := ← registry, serializer := ← serializer, generator := ← generator }

/-! ### Writing -/

/-- The JSON form of the registry settings. -/
def RegistrySettings.toJson (r : RegistrySettings) : Json :=
  .object [("model_dir", .string r.modelDir), ("skip_prefixes", .array (r.skipPrefixes.map .string)),
    ("include_prefixes", .array (r.includePrefixes.map .string)), ("disable_validation", .bool r.disableValidation)]

/-- The JSON form of the configuration. -/
def Configuration.toJson (c : Configuration) : Json :=
  .object [("registry", c.registry.toJson),
    ("serializer", .object [("encode", c.serializer.encode.toJson), ("decode", c.serializer.decode.toJson)]),
    ("generator", c.generator.toJson)]

/-- The greatest integer TOML holds. -/
def tomlIntMax : Nat := 9223372036854775807

/-- The TOML value of a JSON form: objects are tables, whole numbers integers. A number
beyond the integers of TOML has no TOML value. -/
def tomlOf : Json → Except String Toml.Value
  | .null => .error "unsupported unit type"
  | .bool b => .ok (.boolean b)
  | .number (.int i) => if i > tomlIntMax then .error "out-of-range value for u64 type" else .ok (.integer i)
  | .number (.float f) => .ok (.float f)
  | .string s => .ok (.string s)
  | .array items => do
    let vs ← items.attach.mapM fun ⟨v, _⟩ => tomlOf v
    pure (.array vs)
  | .object fields => do
    let es ← fields.attach.mapM fun ⟨(k, v), _⟩ => do pure (k, ← tomlOf v)
    pure (.table es)
decreasing_by
  all_goals simp_wf
  all_goals
    first
    | (have h := List.sizeOf_lt_of_mem ‹_ ∈ items›; omega)
    | (have h := List.sizeOf_lt_of_mem ‹_ ∈ fields›; simp at h; omega)

/-- The TOML document of the configuration, or why it has none. -/
def Configuration.toToml (c : Configuration) : Except String String := do
  match ← tomlOf c.toJson with
  | .table entries => pure (Toml.render entries)
  | _ => pure ""

end DomainModels.Settings
