/-! Files and directories, and the access to them that loading and configuration need.
Paths are texts joined the way the platform joins them: a path starting with `/` stands on
its own, any other is put under its base with one `/` between. A path names the
components left after dropping empty and `.` components and letting `..` remove the one
before it.

`FileAccess` is the interface of a file system: the kind of a path, the names in a
directory, reading and writing bytes. `FileTree` is a file system held as a value, where
a directory is any path listed as one or lying above a listed path; it is what the
operations are run against when no disk is involved. -/
namespace DomainModels.Files

/-- Why a file operation failed, as the operating system reports it. -/
inductive IoError where
  | notFound
  | isDirectory
  | notDirectory
  | invalidUtf8
  /-- Any other failure: the system's error number and its description. -/
  | other (code : Nat) (description : String)
  deriving Repr, DecidableEq, Inhabited

/-- The report of a failed file operation. -/
def IoError.message : IoError → String
  | .notFound => "No such file or directory (os error 2)"
  | .isDirectory => "Is a directory (os error 21)"
  | .notDirectory => "Not a directory (os error 20)"
  | .invalidUtf8 => "stream did not contain valid UTF-8"
  | .other code description => description ++ " (os error " ++ toString code ++ ")"

/-- What a path holds. -/
inductive Kind where
  | file
  | directory
  deriving Repr, DecidableEq, Inhabited

/-- A path under a base: `rel` itself when it starts with `/`. -/
def joinPath (base rel : String) : String :=
  if rel.startsWith "/" then rel
  else if base.endsWith "/" || base.isEmpty then base ++ rel
  else base ++ "/" ++ rel

/-- The components a path names. -/
def components (p : String) : List String :=
  (p.splitOn "/").foldl (fun acc c =>
    if c == "" || c == "." then acc
    else if c == ".." then acc.dropLast
    else acc ++ [c]) []

/-- The last component of a path as written, unless it is `..` or there is none. -/
def fileName? (p : String) : Option String :=
  match ((p.splitOn "/").filter fun c => c != "" && c != ".").getLast? with
  | some ".." => none
  | other => other

/-- The extension of a file name: the text after its last dot, unless that dot starts
the name. -/
def extension? (name : String) : Option String :=
  if name == ".." then none
  else
    match (name.splitOn ".").reverse with
    | [] | [_] => none
    | ext :: rest => if String.intercalate "." rest.reverse == "" then none else some ext

/-- The relative path from `base` to `target`, both absolute: up from `base` to their
common part, then down to `target`. -/
def relativePath (base target : String) : String :=
  let b := components base
  let t := components target
  let common := ((b.zip t).takeWhile fun (x, y) => x == y).length
  let parts := List.replicate (b.length - common) ".." ++ t.drop common
  "/".intercalate parts

/-- Access to a file system. -/
class FileAccess (m : Type → Type) where
  /-- What a path holds, if anything. -/
  kind : String → m (Option Kind)
  /-- The names in a directory, in no particular order. -/
  children : String → m (List String)
  /-- The bytes of a file. -/
  read : String → m (Except IoError ByteArray)
  /-- Create or replace a file. -/
  write : String → ByteArray → m (Except IoError Unit)

section

variable {m : Type → Type} [Monad m] [FileAccess m]

/-- The text of a file, which must be UTF-8. -/
def readText (path : String) : m (Except IoError String) := do
  match ← FileAccess.read path with
  | .error e => pure (.error e)
  | .ok bytes =>
    match String.fromUTF8? bytes with
    | some s => pure (.ok s)
    | none => pure (.error .invalidUtf8)

/-- Whether a path is a file. -/
def isFile (path : String) : m Bool := do
  pure ((← FileAccess.kind path) == some Kind.file)

/-- The files at and under a path, depth first with the names in each directory in
order, each with its components below the path. A path that is a file is its own only
entry, with no components; a missing path has none. The fuel bounds the depth. -/
def walkFiles (path : String) : Nat → List String → m (List (String × List String))
  | 0, _ => pure []
  | fuel + 1, rel => do
    match ← FileAccess.kind path with
    | some .file => pure [(path, rel)]
    | some .directory =>
      let names := (← FileAccess.children path).mergeSort (fun a b => decide (a ≤ b))
      let mut out := []
      for name in names do
        out := out ++ (← walkFiles (joinPath path name) fuel (rel ++ [name]))
      pure out
    | none => pure []

end

/-- What a file system holds at a path. -/
inductive Node where
  | file (bytes : ByteArray)
  | directory
  deriving Inhabited

/-- A file system as a value: nodes by their components. -/
structure FileTree where
  nodes : List (List String × Node) := []
  deriving Inhabited

namespace FileTree

/-- The node listed at exactly these components. -/
def listed? (t : FileTree) (cs : List String) : Option Node :=
  (t.nodes.find? (·.1 == cs)).map Prod.snd

/-- What the components name: a listed node, or a directory for the root and for any
path above a listed one. -/
def kindAt? (t : FileTree) (cs : List String) : Option Kind :=
  match t.listed? cs with
  | some (.file _) => some .file
  | some .directory => some .directory
  | none =>
    if cs.isEmpty || t.nodes.any (fun (p, _) => cs.length < p.length && cs.isPrefixOf p) then some .directory
    else none

/-- Whether a proper part of the path above it is a file. -/
def throughFile (t : FileTree) (cs : List String) : Bool :=
  (List.range cs.length).any fun n => t.kindAt? (cs.take n) == some .file

/-- The kind of a path. -/
def kind? (t : FileTree) (path : String) : Option Kind :=
  let cs := components path
  if t.throughFile cs then none else t.kindAt? cs

/-- The names in a directory. -/
def childNames (t : FileTree) (path : String) : List String :=
  let cs := components path
  (t.nodes.filterMap fun (p, _) =>
    if cs.length < p.length && cs.isPrefixOf p then p[cs.length]? else none).eraseDups

/-- The bytes of a file. -/
def readBytes (t : FileTree) (path : String) : Except IoError ByteArray :=
  let cs := components path
  if t.throughFile cs then .error .notDirectory
  else
    match t.listed? cs with
    | some (.file bytes) => .ok bytes
    | _ =>
      match t.kindAt? cs with
      | some _ => .error .isDirectory
      | none => .error .notFound

/-- Create or replace a file; its directory must exist. -/
def writeBytes (t : FileTree) (path : String) (bytes : ByteArray) : Except IoError FileTree :=
  let cs := components path
  if t.throughFile cs then .error .notDirectory
  else if t.kindAt? cs.dropLast != some .directory then .error .notFound
  else if t.kindAt? cs == some .directory then .error .isDirectory
  else .ok { nodes := (t.nodes.filter (·.1 != cs)) ++ [(cs, .file bytes)] }

/-- Add a node at a path. -/
def insert (t : FileTree) (path : String) (node : Node) : FileTree :=
  let cs := components path
  { nodes := (t.nodes.filter (·.1 != cs)) ++ [(cs, node)] }

end FileTree

instance : FileAccess (StateM FileTree) where
  kind path := do pure ((← get).kind? path)
  children path := do pure ((← get).childNames path)
  read path := do pure ((← get).readBytes path)
  write path bytes := do
    match (← get).writeBytes path bytes with
    | .ok t => set t; pure (.ok ())
    | .error e => pure (.error e)

end DomainModels.Files
