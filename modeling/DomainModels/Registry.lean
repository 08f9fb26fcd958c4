import DomainModels.Graph.Index
import DomainModels.Metamodel.Read
import DomainModels.Text.Fuzzy
import DomainModels.Text.Quote
/-! The registry of model files: the loaded files by namespace with the type index built
from them. A change is a computation over the registry that may fail (`Mutation`); it
builds the next set of files and its index off to the side and assigns them only when the
index builds, so a failed change leaves the registry as it was. The root namespace
`concerto@1.0.0`, which declares the five abstract root classes, is always present and can
be neither replaced nor removed. -/
namespace DomainModels

open Metamodel (ClassKind)

/-- A model to be added, with the name of the file it was read from. -/
structure ModelInput where
  ast : Metamodel.Model
  fileName : Option String := none

/-- The models of a JSON model or bundle, all from the same file. -/
def ModelInput.ofJson (j : Json) (fileName : Option String) : Outcome (List ModelInput) := do
  let models ← Metamodel.parseModels j
  pure (models.map fun ast => { ast, fileName })

/-- An imported namespace that is not loaded, with the source its first import names. -/
structure ExternalImport where
  ns : String
  uri : Option String
  deriving DecidableEq, Repr

/-- The metamodel of the root namespace: the abstract root classes, of which assets and
participants are identified by the system. -/
def rootModel : Metamodel.Model :=
  let root (kind : ClassKind) (identified : Bool) : Metamodel.Declaration :=
    .cls kind { name := kind.rootName, isAbstract := true, identified := if identified then some .system else none }
  { ns := Names.rootNamespace,
    declarations := [root .concept false, root .asset true, root .participant true, root .transaction false,
      root .event false] }

/-- The files of a registry holding the root namespace only. -/
def rootFiles : Outcome ModelFiles := do
  let root ← ModelFile.ofMetamodel rootModel (some "concerto.cto") []
  pure (({} : ModelFiles).insert root)

/-- Loaded model files with their type index, and the decorator factories for files added
later. -/
structure Registry where
  files : ModelFiles
  index : TypeIndex
  factories : List DecoratorFactory := []

/-- The namespace of the root model cannot be changed. -/
def checkNotSystem (ns : String) : Outcome Unit :=
  if ns == Names.rootNamespace then
    .error (ModelError.illegal ("The system namespace " ++ Names.rootNamespace ++ " cannot be modified"))
  else .ok ()

/-- A namespace to be added must be new. -/
def checkNewNamespace (files : ModelFiles) (ns : String) : Outcome Unit := do
  checkNotSystem ns
  if files.contains ns then throw (ModelError.illegal ("Namespace " ++ ns ++ " is already declared"))

/-- An imported namespace joins the missing ones unless it is loaded; a source named for it
replaces none, and the first one named stays. -/
def addMissing (files : ModelFiles) :
    List (String × Option String) → String × Option String → List (String × Option String)
  | acc, (ns, uri) =>
    if files.contains ns then acc
    else match acc.lookup ns with
      | none => acc ++ [(ns, uri)]
      | some none => acc.map fun (n, u) => if n == ns then (n, uri) else (n, u)
      | some (some _) => acc

/-- The namespaces imported by some file and not loaded, sorted, each with the first
source named for it. -/
def missingImports (files : ModelFiles) : List ExternalImport :=
  let missing := (files.files.flatMap ModelFile.importedNamespaces).foldl (addMissing files) []
  (missing.mergeSort fun a b => !(b.1 < a.1)).map fun (ns, uri) => { ns, uri }

namespace Registry

/-- A registry holding the root namespace only. -/
def create : Outcome Registry := do
  let files ← rootFiles
  let index ← TypeIndex.build files .strict
  pure { files, index }

/-- Register a decorator factory for files added later. -/
def addDecoratorFactory (r : Registry) (f : DecoratorFactory) : Registry :=
  { r with factories := r.factories ++ [f] }

end Registry

/-- A change of a registry. It may fail, and the registry it leaves is observed either way, as
that of a mutable receiver is: a failure keeps whatever was assigned before it. A source of
external models runs in `m`. -/
abbrev Mutation (m : Type → Type) := ExceptT ModelError (StateT Registry m)

namespace Mutation

variable {m : Type → Type} [Monad m]

/-- A plain outcome as a change that assigns nothing. -/
def lift {α : Type} : Outcome α → Mutation m α
  | .ok a => pure a
  | .error e => throw e

/-- Build a model file with the registry's decorator factories. -/
def buildFile (input : ModelInput) : Mutation m ModelFile := do
  lift (ModelFile.ofMetamodel input.ast input.fileName (← get).factories)

/-- Take a new set of files once its index builds: files and index are assigned together, and
only then. -/
def commit (files : ModelFiles) (mode : BuildMode) : Mutation m Unit := do
  let index ← lift (TypeIndex.build files mode)
  modify fun r => { r with files, index }

/-- Add the file of a new namespace; all files must then validate strictly. -/
def addModelFile (input : ModelInput) : Mutation m ModelFile := do
  let file ← buildFile input
  let files := (← get).files
  lift (checkNewNamespace files file.ns)
  commit (files.insert file) .strict
  pure file

/-- One input of a batch: its file, which must be of a new namespace, joins the batch. -/
def addToBatch (batch : ModelFiles × List ModelFile) (input : ModelInput) :
    Mutation m (ModelFiles × List ModelFile) := do
  let file ← buildFile input
  lift (checkNewNamespace batch.1 file.ns)
  pure (batch.1.insert file, batch.2 ++ [file])

/-- Add several new files at once. Without validation, declarations that fail to resolve
are left out of the index instead of failing the whole batch. -/
def addModelFiles (inputs : List ModelInput) (disableValidation : Bool) : Mutation m (List ModelFile) := do
  let (files, added) ← inputs.foldlM addToBatch ((← get).files, [])
  commit files (if disableValidation then .lenient else .strict)
  pure added

/-- Replace the file of a loaded namespace. A file with the same checksum changes nothing;
the answer then says so and gives the file already loaded. -/
def updateModelFile (input : ModelInput) : Mutation m (ModelFile × Bool) := do
  let file ← buildFile input
  lift (checkNotSystem file.ns)
  let files := (← get).files
  let some existing := files.get? file.ns
    | throw (.typeNotFound ("Model file for namespace " ++ file.ns ++ " has not been added") file.ns)
  if existing.checksum == file.checksum then return (existing, true)
  commit (files.insert file) .strict
  pure (file, false)

/-- Remove a namespace. Files importing it stay; their classes that depended on it drop out
of the index. -/
def deleteModelFile (ns : String) : Mutation m Unit := do
  lift (checkNotSystem ns)
  let files := (← get).files
  if !files.contains ns then
    throw (.typeNotFound ("Model file for namespace " ++ ns ++ " has not been added") ns)
  commit (files.erase ns) .lenient

/-- Back to the root namespace only. -/
def clear : Mutation m Unit := do
  commit (← lift rootFiles) .strict

/-- A fetched input joins the files of a refresh; the round makes progress when its
namespace was missing. -/
def addFetched (missing : List ExternalImport) (acc : ModelFiles × List String × Bool)
    (input : ModelInput) : Mutation m (ModelFiles × List String × Bool) := do
  let (files, fetched, progress) := acc
  let file ← buildFile input
  lift (checkNotSystem file.ns)
  let progress := progress || missing.any (·.ns == file.ns)
  let fetched := if fetched.contains file.ns then fetched else fetched ++ [file.ns]
  pure (files.insert file, fetched, progress)

/-- One round of fetching: the files fetched are built and put in. -/
def fetchRound (fetch : List ExternalImport → m (Outcome (List ModelInput))) (missing : List ExternalImport)
    (files : ModelFiles) (fetched : List String) : Mutation m (ModelFiles × List String × Bool) := do
  let inputs ← lift (← (fetch missing : m _))
  inputs.foldlM (addFetched missing) (files, fetched, false)

/-- Rounds of fetching until no imported namespace is missing, at most `rounds` of them: the
files so far and the namespaces fetched so far. A round that brings none of the missing
namespaces fails. -/
def refresh (fetch : List ExternalImport → m (Outcome (List ModelInput))) :
    Nat → ModelFiles → List String → Mutation m (ModelFiles × List String)
  | 0, files, fetched => pure (files, fetched)
  | n + 1, files, fetched => do
    let missing := missingImports files
    if missing.isEmpty then return (files, fetched)
    let (files, fetched, progress) ← fetchRound fetch missing files fetched
    if !progress then
      let names := ", ".intercalate (missing.map (·.ns))
      throw (.typeNotFound ("Failed to load external models for namespaces: " ++ names) names)
    refresh fetch n files fetched

/-- Fetch imported namespaces that are not loaded until none are missing, and validate the
result strictly. The answer lists the namespaces added or replaced. -/
def updateExternalModels (fetch : List ExternalImport → m (Outcome (List ModelInput))) (rounds : Nat) :
    Mutation m (List String) := do
  let (files, fetched) ← refresh fetch rounds (← get).files []
  if fetched.isEmpty then return fetched
  commit files .strict
  pure fetched

end Mutation

namespace Registry

/-- Run a change on a registry: the registry it leaves with its answer, or its failure. -/
def change {α : Type} (r : Registry) (x : Mutation Id α) : Outcome (Registry × α) :=
  match x.run.run r with
  | (.ok a, r') => .ok (r', a)
  | (.error e, _) => .error e

/-- Add the file of a new namespace. -/
def addModelFile (r : Registry) (input : ModelInput) : Outcome (Registry × ModelFile) :=
  r.change (Mutation.addModelFile input)

/-- Add several new files at once, leniently when validation is disabled. -/
def addModelFiles (r : Registry) (inputs : List ModelInput) (disableValidation : Bool) :
    Outcome (Registry × List ModelFile) :=
  r.change (Mutation.addModelFiles inputs disableValidation)

/-- Replace the file of a loaded namespace, answering whether it was unchanged. -/
def updateModelFile (r : Registry) (input : ModelInput) : Outcome (Registry × ModelFile × Bool) :=
  r.change (Mutation.updateModelFile input)

/-- Remove a namespace. -/
def deleteModelFile (r : Registry) (ns : String) : Outcome Registry :=
  Prod.fst <$> r.change (Mutation.deleteModelFile ns)

/-- Back to the root namespace only. -/
def clear (r : Registry) : Outcome Registry :=
  Prod.fst <$> r.change Mutation.clear

/-- Validate the loaded files strictly. -/
def validate (r : Registry) : Outcome Unit := do
  let _ ← TypeIndex.build r.files .strict

/-- Refresh the external models from a source whose failures are thrown in `m`, at most
`rounds` times. -/
def updateExternalModels {m : Type → Type} [Monad m] [MonadExcept ModelError m] (r : Registry)
    (fetch : List ExternalImport → m (List ModelInput)) (rounds : Nat) : m (Registry × List String) := do
  let source (missing : List ExternalImport) : m (Outcome (List ModelInput)) :=
    tryCatch (Except.ok <$> fetch missing) fun e => pure (.error e)
  match ← (Mutation.updateExternalModels source rounds).run.run r with
  | (.ok fetched, r') => pure (r', fetched)
  | (.error e, _) => throw e

/-- A declaration by qualified name. When the namespace is loaded but does not declare the
name, the failure suggests the closest declared name. -/
def getType (r : Registry) (fqn : String) : Outcome Declaration := do
  if [PrimitiveType.string, .boolean, .dateTime, .double, .integer, .long].any (·.name == fqn) then
    throw (.typeNotFound (fqn ++ " is a primitive type and is not declared in a model file") fqn)
  let some (ns, name) := Names.split? fqn
    | throw (.typeNotFound ("Type " ++ fqn ++ " is not a fully qualified name") fqn)
  let some file := r.files.get? ns
    | throw (.typeNotFound ("Namespace " ++ ns ++ " for type " ++ name ++ " is not registered") fqn)
  match file.declaration? name with
  | some d => pure d
  | none =>
    let hint := match Text.Fuzzy.bestMatch? name (file.declarations.map (·.name)) with
      | some s => ". Did you mean " ++ s ++ "?"
      | none => ""
    throw (.typeNotFound ("Type " ++ name ++ " is not declared in namespace " ++ ns ++ hint) fqn)

/-- A resolved class; a class left out of the index failed validation. -/
def resolvedClass (r : Registry) (fqn : String) : Outcome ResolvedClass := do
  if let some c := r.index.class? fqn then return c
  match ← r.getType fqn with
  | .cls _ => throw (.typeNotFound ("Class " ++ fqn ++ " failed validation and is not available") fqn)
  | other => throw (.typeNotFound ("Type " ++ fqn ++ " is a " ++ other.kind.render ++ ", not a class") fqn)

/-- A resolved map; a map left out of the index failed validation. -/
def resolvedMap (r : Registry) (fqn : String) : Outcome ResolvedMap := do
  if let some m := r.index.map? fqn then return m
  match ← r.getType fqn with
  | .map _ => throw (.typeNotFound ("Map " ++ fqn ++ " failed validation and is not available") fqn)
  | other => throw (.typeNotFound ("Type " ++ fqn ++ " is a " ++ other.kind.render ++ ", not a map") fqn)

/-- The file of a namespace. -/
def modelFile? (r : Registry) (ns : String) : Option ModelFile := r.files.get? ns

/-- The files of the user namespaces, sorted by namespace. -/
def modelFiles (r : Registry) : List ModelFile := r.files.files.filter (·.ns != Names.rootNamespace)

/-- The user namespaces, sorted. -/
def namespaces (r : Registry) : List String := r.modelFiles.map (·.ns)

/-- A summary of the registry: every namespace and the number of decorator factories. -/
def describe (r : Registry) : String :=
  "ModelRegistry \x7b namespaces: [" ++ ", ".intercalate (r.files.files.map fun f => Text.quoteStr f.ns) ++
    "], decorator_factories: " ++ toString r.factories.length ++ " \x7d"

end Registry

end DomainModels
