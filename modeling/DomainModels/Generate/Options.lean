import DomainModels.Generate.Instance
import DomainModels.Json.Decode
/-! The settings of generation and their JSON form: the mode by name, whether optional
properties get values, and the seed of the sample mode, left out when there is none. A
missing field keeps its default. The empty mode draws pattern texts from the stream of seed
zero, the sample mode from the stream of its seed. -/
namespace DomainModels.Generate

open Json

/-- Settings of generation. -/
structure Options where
  mode : Mode := .empty
  /-- Give optional properties values too. -/
  includeOptionalFields : Bool := false
  /-- The seed of the sample mode's random stream. -/
  seed : Option Nat := none
  deriving Repr, DecidableEq

/-- The field names of the settings. -/
def optionFields : List String := ["mode", "include_optional_fields", "seed"]

/-- The JSON form of the settings. -/
def Options.toJson (o : Options) : Json :=
  .object ([("mode", .string o.mode.name), ("include_optional_fields", .bool o.includeOptionalFields)] ++
    (o.seed.map fun n => [("seed", Json.ofInt n)]).getD [])

/-- A mode written as its name. -/
def decodeMode : Json → Decoded Mode
  | .string s =>
    match Mode.ofName s with
    | .ok m => .ok m
    | .error _ => .error (.unknownVariant s ["empty", "sample"])
  | j => wrongType j "string or map"

/-- Read the settings; missing fields keep their defaults. -/
def Options.ofJson (j : Json) : Decoded Options := do
  let r ← Record.open "struct GenerateOptions" optionFields j
  let mode := r.field "mode" decodeMode
  let includeOptional := r.field "include_optional_fields" decodeBool
  let seed := r.field "seed" (decodeOption decodeU64)
  r.check [("mode", failure mode), ("include_optional_fields", failure includeOptional),
    ("seed", failure seed)]
  let o : Options :=
    { mode := ← Record.withDefault mode .empty
      includeOptionalFields := ← Record.withDefault includeOptional false
      seed := (← Record.withDefault seed none) }
  r.finish
  pure o

/-- A new instance of a type, generated with these settings and the factory's clock. -/
def Options.generate (o : Options) (factory : Factory) (ns typeName : String) : Outcome Resource :=
  let seed := match o.mode with
    | .empty => 0
    | .sample => o.seed.getD 0
  let gen : Generator :=
    { factory, source := { mode := o.mode, now := factory.now }, includeOptional := o.includeOptionalFields }
  gen.generate ns typeName (Random.ChaCha.ofSeed seed.toUInt64)

end DomainModels.Generate
