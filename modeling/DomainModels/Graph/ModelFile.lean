import DomainModels.Namespace
import DomainModels.Digest.Sha256
import DomainModels.Json.Write
import DomainModels.Metamodel.Write
import DomainModels.Graph.Declaration
/-! A model file: the declarations of one versioned namespace with its import table.
Building one checks what the file alone decides: its namespace and every imported one
carry a version, no short name is imported from two places, no name is declared twice
or both declared and imported, and every declaration is sound on its own. The checksum
is the SHA-256 of the compact JSON of the metamodel. -/
namespace DomainModels

/-- A checked model file. -/
structure ModelFile where
  ns : String
  version : Namespace
  fileName : Option String
  checksum : String
  ast : Metamodel.Model
  declarations : List Declaration
  /-- Short name and qualified name of each type imported by name, by short name. -/
  explicitImports : List (String × String)
  /-- Namespaces imported whole, in import order, each once. -/
  wildcardImports : List String
  decorators : List Metamodel.Decorator
  deriving Inhabited

/-- Insert a key into an association list sorted by key, replacing its value. -/
def insertSorted (k v : String) : List (String × String) → List (String × String)
  | [] => [(k, v)]
  | (k', v') :: rest =>
    if k == k' then (k, v) :: rest
    else if k < k' then (k, v) :: (k', v') :: rest
    else (k', v') :: insertSorted k v rest

/-- The names an import brings in by name. -/
def Metamodel.Import.names : Metamodel.Import → List String
  | .all .. => []
  | .single _ n _ => [n]
  | .several _ ns _ => ns

/-- The import tables of a file: types by short name, and whole namespaces. -/
structure ImportTable where
  explicit : List (String × String) := []
  wildcard : List String := []

/-- Add one import to the tables, refusing a short name bound to two types. -/
def ImportTable.add (s : FileScope) (t : ImportTable) (i : Metamodel.Import) : Outcome ImportTable := do
  if (Namespace.parseVersioned i.ns).toOption.isNone then
    throw (s.illegal ("Import of namespace \"" ++ i.ns ++ "\" in \"" ++ s.ns ++ "\" must specify a version") none)
  let wildcard := match i with
    | .all ns _ => if t.wildcard.contains ns then t.wildcard else t.wildcard ++ [ns]
    | _ => t.wildcard
  let explicit ← i.names.foldlM (fun (table : List (String × String)) name => do
    let fqn := Names.qualify i.ns name
    if let some existing := table.lookup name then
      if existing != fqn then
        throw (s.illegal ("Import of " ++ fqn ++ " conflicts with the import of " ++ existing) none)
    pure (insertSorted name fqn table)) t.explicit
  pure { explicit, wildcard }

/-- Build the declarations of a file in order, refusing a name declared twice or also
imported. -/
def buildDeclarations (s : FileScope) (imports : List (String × String)) :
    List Declaration → List Metamodel.Declaration → Outcome (List Declaration)
  | built, [] => pure built.reverse
  | built, node :: rest => do
    let d ← Declaration.ofMetamodel s node
    if built.any (·.name == d.name) then
      throw (s.illegal ("Duplicate class name " ++ d.name) d.location)
    if let some imported := imports.lookup d.name then
      throw (s.illegal ("Type " ++ d.name ++ " is declared locally and also imported as " ++ imported) d.location)
    buildDeclarations s imports (d :: built) rest

namespace ModelFile

/-- Build a model file from its metamodel, checking the rules of a single file. -/
def ofMetamodel (ast : Metamodel.Model) (fileName : Option String) (factories : List DecoratorFactory) :
    Outcome ModelFile := do
  let version ← (Namespace.parseVersioned ast.ns).mapError (ModelError.inFile fileName)
  let s : FileScope := { ns := ast.ns, file := fileName, factories }
  let table ← ast.imports.foldlM (ImportTable.add s) {}
  let declarations ← buildDeclarations s table.explicit [] ast.declarations
  let decorators ← s.decorators ast.decorators { ns := ast.ns }
  pure
    { ns := ast.ns, version, fileName, checksum := Digest.sha256Hex (Json.compact ast.toJson), ast,
      declarations, explicitImports := table.explicit, wildcardImports := table.wildcard, decorators }

/-- A declaration of the file, by short name. -/
def declaration? (f : ModelFile) (name : String) : Option Declaration :=
  f.declarations.find? (·.name == name)

/-- The qualified name a short name is imported as. -/
def explicitImport? (f : ModelFile) (name : String) : Option String := f.explicitImports.lookup name

/-- The imports as written. -/
def imports (f : ModelFile) : List Metamodel.Import := f.ast.imports

/-- An import is noted with its source unless its namespace was seen before. -/
def noteImport (seen : List (String × Option String)) (i : Metamodel.Import) : List (String × Option String) :=
  if seen.any (·.1 == i.ns) then seen else seen ++ [(i.ns, i.uri)]

/-- Every imported namespace once, with the source of its first import. -/
def importedNamespaces (f : ModelFile) : List (String × Option String) :=
  f.ast.imports.foldl noteImport []

end ModelFile

end DomainModels
