import DomainModels.Settings.Config
import DomainModels.Toml.Parse
import DomainModels.Json.Read
/-! Loading the configuration from its sources, each laid over the ones before it:

* the files `models.toml`, `.models.toml` and `config/models.toml` of the working
  directory, when they exist;
* the file `models/models.toml` of the user's configuration directory, when it exists;
* the file named by the caller, which must exist;
* the environment variables named `MODELS__…`.

A file is named with or without its extension. A name that is a file is read in the
format of its extension; otherwise the name is tried with each known extension added. A
file that cannot be found, has no known extension or cannot be read is passed over when
it is optional, and is an error when it is required. A file that does not parse is
always an error, named by its path relative to the working directory. -/
namespace DomainModels.Settings

open Files

/-- The formats settings files are read in. -/
inductive Format where
  | toml
  | json
  deriving DecidableEq

/-- The known extensions, in the order they are tried, and the format each is read in. The
extensions of JSON5 and YAML, which extend JSON, and of INI and RON are known as well;
their files are read as JSON. -/
def extensions : List (String × Format) :=
  [("toml", .toml), ("json", .json), ("yaml", .json), ("yml", .json), ("ini", .json), ("ron", .json),
   ("json5", .json)]

/-- What settings are loaded against: the working directory and the environment. -/
structure Context where
  /-- The working directory, an absolute path. -/
  cwd : String
  /-- The environment variables, by name. -/
  vars : List (String × String)

/-- The value of an environment variable. -/
def Context.var? (ctx : Context) (name : String) : Option String :=
  (ctx.vars.find? (·.1 == name)).map Prod.snd

/-- The user's configuration directory: `XDG_CONFIG_HOME` when it is absolute, else
`.config` in the home directory. There is none without a home directory. -/
def Context.configHome? (ctx : Context) : Option String :=
  match (ctx.var? "HOME").filter (!·.isEmpty) with
  | none => none
  | some home =>
    match ctx.var? "XDG_CONFIG_HOME" with
    | some x => if x.startsWith "/" then some x else some (joinPath home ".config")
    | none => some (joinPath home ".config")

/-- The components of a path as written: empty and `.` components dropped, `..` kept. -/
def literalComponents (p : String) : List String :=
  (p.splitOn "/").filter fun c => c != "" && c != "."

/-- The path of `target` relative to `base`, both absolute: up from `base` past their
common components, then down to `target`. -/
def pathFrom (base target : String) : String :=
  let b := literalComponents base
  let t := literalComponents target
  let common := ((b.zip t).takeWhile fun (x, y) => x == y).length
  "/".intercalate (List.replicate (b.length - common) ".." ++ t.drop common)

/-- A path with a further extension: `name.ext` for a path naming `name`. -/
def withExtension (path ext : String) : String :=
  let trimmed := String.ofList ((path.toList.reverse.dropWhile (· == '/')).reverse)
  trimmed ++ "." ++ ext

/-- A settings file found: its path and format. -/
structure Found where
  path : String
  format : Format

section

variable {m : Type → Type} [Monad m] [FileAccess m]

/-- The first of the paths that is a file, with its format. -/
def firstFile : List (String × Format) → m (Option Found)
  | [] => pure none
  | (p, f) :: rest => do if ← isFile p then pure (some ⟨p, f⟩) else firstFile rest

/-- Find the file a name names, from the working directory. -/
def findFile (ctx : Context) (name : String) : m (Except SettingsError Found) := do
  let full := joinPath ctx.cwd name
  if ← isFile full then
    let ext := ((fileName? full).bind extension?).getD ""
    match (extensions.find? (·.1 == ext)).map Prod.snd with
    | some f => pure (.ok ⟨full, f⟩)
    | none => pure (.error (.unknownFormat full))
  else
    let candidates := if (fileName? full).isNone then []
      else extensions.map fun (ext, f) => (withExtension full ext, f)
    match ← firstFile candidates with
    | some found => pure (.ok found)
    | none => pure (.error (.notFound name))

/-- The settings of a file's text. -/
def parseFile (uri : String) (format : Format) (text : String) : Except SettingsError (List (String × Setting)) :=
  match format with
  | .toml =>
    match Toml.parse text with
    | .ok entries => .ok (entries.map fun (k, v) => (k, Setting.ofToml (some uri) v))
    | .error f => .error (.fileParse (some uri) (f.render text))
  | .json =>
    match Json.parse text with
    | .error f => .error (.fileParse (some uri) f.message)
    | .ok j =>
      match Setting.ofJson (some uri) j with
      | .table _ es => .ok es
      | other => .error (.fileParse (some uri) (SettingsError.mismatch (some uri) other.unexpected "a map" none).text)

/-- The settings of a file source. A file that cannot be found or read gives nothing when
it is optional. -/
def fileSource (ctx : Context) (name : String) (required : Bool) :
    m (Except SettingsError (List (String × Setting))) := do
  let resolved : Except SettingsError (Found × String) ← do
    match ← findFile ctx name with
    | .error e => pure (.error e)
    | .ok found =>
      match ← readText found.path with
      | .error e => pure (.error (SettingsError.unreadable e.message))
      | .ok text => pure (.ok (found, text))
  match resolved with
  | .error e => pure (if required then .error e else .ok [])
  | .ok (found, text) => pure (parseFile (pathFrom ctx.cwd found.path) found.format text)

/-- The files of the working directory that settings are read from. -/
def localFiles : List String := ["models.toml", ".models.toml", "config/models.toml"]

/-- The settings of all sources, laid in order. -/
def gather (ctx : Context) (path : Option String) : m (Except SettingsError Setting) := do
  let mut root := Setting.emptyTable
  for name in localFiles do
    match ← fileSource ctx name false with
    | .error e => return .error e
    | .ok source => root := root.laySource source
  if let some home := ctx.configHome? then
    let user := joinPath (joinPath home "models") "models.toml"
    if (← FileAccess.kind user).isSome then
      match ← fileSource ctx user false with
      | .error e => return .error e
      | .ok source => root := root.laySource source
  if let some p := path then
    match ← fileSource ctx p true with
    | .error e => return .error e
    | .ok source => root := root.laySource source
  pure (.ok (root.laySource (environmentSettings "MODELS" ctx.vars)))

/-- Load the configuration from its sources, with an extra required file when one is
named. -/
def Configuration.load (ctx : Context) (path : Option String) : m (Except SettingsError Configuration) := do
  match ← gather ctx path with
  | .error e => pure (.error e)
  | .ok root => pure (Configuration.ofSetting root)

/-- Write the configuration's TOML document to a file, and give the text written. -/
def Configuration.save (c : Configuration) (path : String) : m (Except String String) := do
  match c.toToml with
  | .error e => pure (.error e)
  | .ok text =>
    match ← FileAccess.write path text.toUTF8 with
    | .error e => pure (.error e.message)
    | .ok () => pure (.ok text)

end

end DomainModels.Settings
