/-! What can go wrong while reading, checking and using models. Each kind of failure is a
constructor; its text is `ModelError.message`. A failure of a model may name the file it
was read from and the place in the model, written ` File 'f' line L column C`. -/
namespace DomainModels

/-- A place in the text of a model. -/
structure Position where
  line : Nat
  column : Nat
  offset : Nat := 0
  deriving Repr, DecidableEq, Inhabited

/-- The span of a model element in its text. -/
structure Location where
  start : Position
  finish : Position
  source : Option String := none
  deriving Repr, DecidableEq, Inhabited

/-- `line L column C`, from the start of the span. -/
def Location.text (l : Location) : String :=
  "line " ++ toString l.start.line ++ " column " ++ toString l.start.column

/-- A failure, by kind. -/
inductive ModelError where
  /-- A model breaks a rule of the metamodel or of the type system. -/
  | illegalModel (message : String) (file : Option String) (location : Option Location)
  /-- JSON that is no metamodel node of the expected kind. -/
  | metamodel (message : String)
  /-- A type or namespace that is not declared; `typeName` names it. -/
  | typeNotFound (message : String) (typeName : String)
  /-- An instance that does not fit its model; `path` is the wire path when known. -/
  | validation (message : String) (path : Option String)
  /-- No instance can be generated. -/
  | instanceGeneration (message : String)
  /-- A file cannot be read. -/
  | io (message : String)
  /-- JSON that cannot be written. -/
  | json (message : String)
  /-- A configuration that cannot be loaded. -/
  | config (message : String)
  deriving Repr, Inhabited

namespace ModelError

/-- The suffix naming the file and the place of an illegal model. -/
def contextSuffix (file : Option String) (location : Option Location) : String :=
  match file, location with
  | some f, some l => " File '" ++ f ++ "' " ++ l.text
  | some f, none => " File '" ++ f ++ "'"
  | none, some l => " (" ++ l.text ++ ")"
  | none, none => ""

/-- The text of a failure. -/
def message : ModelError → String
  | .illegalModel m file location => m ++ contextSuffix file location
  | .metamodel m => "Metamodel error: " ++ m
  | .typeNotFound m _ => m
  | .validation m _ => m
  | .instanceGeneration m => m
  | .io m => "IO error: " ++ m
  | .json m => "JSON error: " ++ m
  | .config m => "Configuration error: " ++ m

/-- An illegal model with no file and no place yet. -/
def illegal (m : String) : ModelError := .illegalModel m none none

/-- An illegal model found in a file, at a place when one is known. -/
def illegalAt (m : String) (file : Option String) (location : Option Location) : ModelError :=
  .illegalModel m file location

/-- Give an illegal model that names no file the file it came from. -/
def inFile (file : Option String) : ModelError → ModelError
  | .illegalModel m none location => .illegalModel m file location
  | e => e

/-- Give an illegal model that names neither file nor place both. -/
def locate (file : Option String) (location : Option Location) : ModelError → ModelError
  | .illegalModel m none none => .illegalModel m file location
  | e => e

end ModelError

/-- A computation that may fail with a `ModelError`. -/
abbrev Outcome (α : Type) := Except ModelError α

/-- A sequence of computations succeeds when its first part does and the rest succeeds on
its value; so for any kind of failure, not only a `ModelError`. -/
theorem Outcome.bind_eq_ok {ε α β : Type} {a : Except ε α} {f : α → Except ε β} {y : β} :
    a >>= f = .ok y ↔ ∃ x, a = .ok x ∧ f x = .ok y := by
  cases a <;> simp [bind, Except.bind]

end DomainModels
