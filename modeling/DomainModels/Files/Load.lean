import DomainModels.Files.Tree
import DomainModels.Json.Read
import DomainModels.Registry
/-! Loading model files. A file holds one model or a bundle of models as JSON; its models
are named after the file. A directory is walked depth first with the names in each
directory in order, and the files whose names end in `.json` are loaded, named by their
path below the directory. A file is skipped when include prefixes are given and its path
starts with none of them, or when its path starts with a skip prefix. -/
namespace DomainModels.Files

/-- Which files of a directory are loaded. -/
structure LoadConfig where
  /-- Paths starting with one of these are skipped. -/
  skipPrefixes : List String := ["target/", ".git/", "node_modules/", ".cargo/"]
  /-- When not empty, only paths starting with one of these are loaded. -/
  includePrefixes : List String := []
  deriving Repr, DecidableEq, Inhabited

/-- Whether a path below the directory is loaded. -/
def LoadConfig.admits (c : LoadConfig) (rel : String) : Bool :=
  (c.includePrefixes.isEmpty || c.includePrefixes.any (fun p => rel.startsWith p)) &&
    !c.skipPrefixes.any (fun p => rel.startsWith p)

/-- The deepest directory walked. -/
def walkDepth : Nat := 256

section

variable {m : Type → Type} [Monad m] [FileAccess m]

/-- The models of a file, named `name`. -/
def readModels (path name : String) : m (Outcome (List ModelInput)) := do
  match ← readText path with
  | .error e => pure (.error (.io e.message))
  | .ok text =>
    match Json.parse text with
    | .error f => pure (.error (ModelError.illegalAt ("Failed to parse JSON: " ++ f.message) (some name) none))
    | .ok j => pure (ModelInput.ofJson j (some name))

/-- The models of the files under a directory, in walking order. -/
def loadDirectory (dir : String) (config : LoadConfig) : m (Outcome (List ModelInput)) := do
  let files ← walkFiles dir walkDepth []
  let mut out := []
  for (path, rel) in files do
    let name := (fileName? path).getD ""
    if extension? name != some "json" then continue
    let relText := "/".intercalate rel
    if !config.admits relText then continue
    match ← readModels path relText with
    | .ok models => out := out ++ models
    | .error e => return .error e
  pure (.ok out)

/-- The models of one file, named by its file name. -/
def loadFile (path : String) : m (Outcome (List ModelInput)) :=
  readModels path ((fileName? path).getD "")

end

end DomainModels.Files

namespace DomainModels

open Files

/-- A registry of the models of a directory's files, validated strictly or, with
validation disabled, leniently. -/
def Registry.ofDirectory {m : Type → Type} [Monad m] [FileAccess m] (dir : String) (config : LoadConfig)
    (disableValidation : Bool) : m (Outcome Registry) := do
  match ← loadDirectory dir config with
  | .error e => pure (.error e)
  | .ok inputs => pure (do
      let r ← Registry.create
      let (r, _) ← r.addModelFiles inputs disableValidation
      pure r)

end DomainModels
