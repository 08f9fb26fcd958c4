import DomainModels.Cli.Parse
import DomainModels.Settings.Load
import DomainModels.Wire.Decode
import DomainModels.Wire.Encode
import DomainModels.Json.Write
/-! The `model-validator` command: load the configuration and the model directory, then

* `check`: validate every model file strictly and list them;
* `decode INSTANCE`: read an instance from a JSON file, decode it and write it back;
* `sample FQN`: generate an instance of a type and write it.

The option `--models` replaces the configured model directory and `--config` adds a
configuration file over the usual ones. An error of the run is printed as `Error: ` and its
chain of causes, with status one; an instance that does not decode is reported on standard
output, with its path when it has one, also with status one. -/
namespace DomainModels.Cli

open Settings

/-- The program's name. -/
def programName : String := "model-validator"

/-- Why a seed is refused: it must be the decimal digits of an unsigned 64-bit integer,
with an optional `+`. -/
def seedRefusal (text : String) : Option String :=
  let digits := match text.toList with
    | '+' :: rest => rest
    | cs => cs
  if text.isEmpty then some "cannot parse integer from empty string"
  else if digits.isEmpty then some "invalid digit found in string"
  else
    let step (acc : Option Nat) (ch : Char) : Except String Nat :=
      match acc with
      | none => .error "invalid digit found in string"
      | some n =>
        if !ch.isDigit then .error "invalid digit found in string"
        else
          let n' := n * 10 + (ch.toNat - '0'.toNat)
          if n' > 18446744073709551615 then .error "number too large to fit in target type" else .ok n'
    let result := digits.foldl (fun (acc : Except String Nat) ch =>
      match acc with
      | .error e => .error e
      | .ok n => step (some n) ch) (.ok 0)
    match result with
    | .error e => some e
    | .ok _ => none

/-- Why a generation mode is refused. -/
def modeRefusal (text : String) : Option String :=
  match Generate.Mode.ofName text with
  | .ok _ => none
  | .error e => some e

/-- The command line of the validator. -/
def validator : Program :=
  { root :=
      { name := programName, usageName := programName,
        about := "Validate models and the instances written against them",
        switches := [
          { id := "models", short := some 'm', long := "models", takes := .value "MODELS",
            help := "Directory of model AST files (overrides the configured model_dir)" },
          { id := "config", short := some 'c', long := "config", takes := .value "CONFIG",
            help := "Extra config file layered over models.toml" },
          helpSwitch] }
    commands := [
      { name := "check", usageName := programName ++ " check",
        about := "Load and strictly validate every model file", switches := [helpSwitch] },
      { name := "decode", usageName := programName ++ " decode", about := "Decode an instance and re-encode it",
        switches := [
          { id := "lenient_dates", long := "lenient-dates", help := "Accept DateTimes without an explicit offset" },
          helpSwitch],
        positionals := [{ id := "instance", valueName := "INSTANCE", help := "Instance JSON file" }] },
      { name := "sample", usageName := programName ++ " sample", about := "Generate an instance of a type",
        switches := [
          { id := "mode", long := "mode", takes := .value "MODE", help := "empty or sample", refuses := modeRefusal },
          { id := "seed", long := "seed", takes := .value "SEED", refuses := seedRefusal },
          { id := "include_optional", long := "include-optional" },
          helpSwitch],
        positionals := [{ id := "fqn", valueName := "FQN",
                          help := "Fully-qualified type name, e.g. org.acme@1.0.0.Car" }] }] }

/-- An error with its causes, as the run reports it: an input or output error names its
cause once more. -/
def causeChain (e : ModelError) : String :=
  match e with
  | .io m => e.message ++ ": " ++ m
  | _ => e.message

/-- A failed run. -/
def failure (out err : String) : Exit := { code := 1, out, err := "Error: " ++ err ++ "\n" }

/-- The lines of `check`: every model file with its declarations and file name. -/
def checkLines (r : Registry) : String :=
  String.join (r.modelFiles.map fun f =>
    "  ✅ " ++ f.ns ++ " (" ++ toString f.declarations.length ++ " declarations) " ++ f.fileName.getD "" ++ "\n")

section

variable {m : Type → Type} [Monad m] [Files.FileAccess m]

/-- Decode an instance file and write it back. -/
def decodeInstance (ctx : Context) (now : Time.DateTime) (config : Configuration) (registry : Registry)
    (instancePath : String) (lenient : Bool) : m Exit := do
  match ← Files.readText (Files.joinPath ctx.cwd instancePath) with
  | .error e => pure (failure "" ("Failed to read " ++ instancePath ++ ": " ++ e.message))
  | .ok text =>
    match Json.parse text with
    | .error f => pure (failure "" f.message)
    | .ok j =>
      let decodeOptions := if lenient then { config.serializer.decode with strictQualifiedDateTimes := false }
        else config.serializer.decode
      match Wire.decode { registry, now } decodeOptions j with
      | .error e =>
        let located := match e with
          | .validation _ (some path) => "   └─ at " ++ path ++ "\n"
          | _ => ""
        pure { code := 1, out := "❌ " ++ e.message ++ "\n" ++ located }
      | .ok resource =>
        let valid := "✅ " ++ resource.fullyQualifiedType ++ " is valid\n"
        match Wire.encode registry config.serializer.encode resource with
        | .error e => pure (failure valid (causeChain e))
        | .ok out => pure { code := 0, out := valid ++ out.prettyText ++ "\n" }

/-- Generate an instance of a type. The seed comes from the command line, the
configuration, or else `entropy`. -/
def sampleInstance (now : Time.DateTime) (entropy : Nat) (config : Configuration) (registry : Registry)
    (args : Given) : Exit :=
  let fqn := (args.value? "fqn").getD ""
  match Names.split? fqn with
  | none => failure "" (fqn ++ " is not a fully qualified type name")
  | some (ns, typeName) =>
    let mode := match (args.value? "mode").map Generate.Mode.ofName with
      | some (.ok m) => m
      | _ => config.generator.mode
    let seed := match (args.value? "seed").bind fun t => (if t.startsWith "+" then (t.drop 1).toString else t).toNat? with
      | some s => some s
      | none => config.generator.seed
    let options : Generate.Options :=
      { mode, includeOptionalFields := args.flag "include_optional" || config.generator.includeOptionalFields,
        seed := some (seed.getD entropy) }
    match options.generate { registry, now } ns typeName with
    | .error e => failure "" (causeChain e)
    | .ok resource =>
      match Wire.encode registry {} resource with
      | .error e => failure "" (causeChain e)
      | .ok out => { code := 0, out := out.prettyText ++ "\n" }

/-- Run the validator with the words of its command line, in a working directory and an
environment, with the time `now` and a seed for unseeded sampling. -/
def runValidator (ctx : Context) (now : Time.DateTime) (entropy : Nat) (words : List String) : m Exit := do
  match validator.read words with
  | .error stop => pure stop
  | .ok call =>
    match ← Configuration.load ctx (call.root.value? "config") with
    | .error e => pure (failure "" ("Failed to load configuration: " ++ e.text))
    | .ok config =>
      let config := match call.root.value? "models" with
        | some dir => { config with registry := { config.registry with modelDir := dir } }
        | none => config
      let dir := config.modelDirPath ctx.cwd
      match ← Registry.ofDirectory dir config.registry.loadConfig config.registry.disableValidation with
      | .error e => pure (failure "" ("Failed to load models from " ++ dir ++ ": " ++ causeChain e))
      | .ok registry =>
        match call.command with
        | "check" =>
          let head := "🔍 Validating models in " ++ dir ++ "\n"
          match registry.validate with
          | .error e => pure (failure head (causeChain e))
          | .ok () =>
            pure { code := 0, out := head ++ checkLines registry ++ "✅ " ++ toString registry.modelFiles.length ++
              " namespace(s) valid\n" }
        | "decode" =>
          decodeInstance ctx now config registry ((call.args.value? "instance").getD "") (call.args.flag "lenient_dates")
        | _ => pure (sampleInstance now entropy config registry call.args)

end

end DomainModels.Cli
