import DomainModels.Regex.Hir
import DomainModels.Regex.Property
/-! Matching by a nondeterministic automaton. An expression is compiled into numbered states
that either read one character of a class, branch, check a look, or accept; repetitions are
unrolled up to their bounds, with a loop for an unbounded tail. A text matches when some
run from some position reaches the accepting state: all runs are followed at once, one
character at a time, so matching takes time proportional to the text times the states. -/
namespace DomainModels.Regex

/-- A state of the automaton. -/
inductive State where
  | read (set : CharSet) (next : Nat)
  | branch (first second : Nat)
  | check (look : Look) (next : Nat)
  | accept
  deriving Repr, Inhabited

/-- An automaton: its states and where runs begin. -/
structure Automaton where
  states : Array State
  start : Nat
  deriving Repr, Inhabited

/-- The number of states beyond which a compiled pattern is refused as too big. -/
def stateLimit : Nat := 327680

/-- Add a state; its number. -/
def addState (st : State) : StateM (Array State) Nat := do
  let states ← get
  set (states.push st)
  pure states.size

/-- Branch to each of several starts. -/
def compileBranches : List Nat → StateM (Array State) Nat
  | [] => addState (.read CharSet.empty 0)
  | [s] => pure s
  | s :: rest => do
    let r ← compileBranches rest
    addState (.branch s r)

/-- Compile the characters of a literal, given last first. -/
def compileLiteral (next : Nat) : List Char → StateM (Array State) Nat
  | [] => pure next
  | c :: rest => do
    let s ← addState (.read (CharSet.single c.toNat) next)
    compileLiteral s rest

/-- Compile `count` optional copies of a body, each leading to the next. -/
def optionalCopies (body : Nat → StateM (Array State) Nat) (next : Nat) :
    Nat → StateM (Array State) Nat
  | 0 => pure next
  | n + 1 => do
    let rest ← optionalCopies body next n
    let first ← body rest
    addState (.branch first next)

/-- Compile `count` required copies of a body in front of `next`. -/
def requiredCopies (body : Nat → StateM (Array State) Nat) (next : Nat) :
    Nat → StateM (Array State) Nat
  | 0 => pure next
  | n + 1 => do
    let s ← body next
    requiredCopies body s n

mutual
/-- Compile an expression to run before the state `next`; the state where it starts. -/
def compileHir (next : Nat) : Hir → StateM (Array State) Nat
  | .empty => pure next
  | .literal cs => compileLiteral next cs.reverse
  | .cls s => addState (.read s next)
  | .look l => addState (.check l next)
  | .repetition min max _ sub => do
    let tail ← match max with
      | some n => optionalCopies (fun k => compileHir k sub) next (n - min)
      | none => do
        let loop ← addState (.branch next next)
        let body ← compileHir loop sub
        modify fun states => states.set! loop (.branch body next)
        pure loop
    requiredCopies (fun k => compileHir k sub) tail min
  | .capture _ _ sub => compileHir next sub
  | .concat subs => compileSequence next subs
  | .alternation subs => do
    let starts ← compileChoices next subs
    compileBranches starts

/-- Compile a sequence, its last expression first. -/
def compileSequence (next : Nat) : List Hir → StateM (Array State) Nat
  | [] => pure next
  | h :: rest => do
    let s ← compileSequence next rest
    compileHir s h

/-- Compile each alternative to run before `next`. -/
def compileChoices (next : Nat) : List Hir → StateM (Array State) (List Nat)
  | [] => pure []
  | h :: rest => do
    let s ← compileHir next h
    let ss ← compileChoices next rest
    pure (s :: ss)
end

/-- A rough count of the states an expression compiles to, to refuse huge patterns before
building them. -/
def stateCount : Hir → Nat
  | .empty => 0
  | .literal cs => cs.length
  | .cls _ => 1
  | .look _ => 1
  | .repetition min max _ sub =>
    let n := stateCount sub
    match max with
    | some m => m * (n + 1) + 1
    | none => (min + 1) * (n + 1) + 1
  | .capture _ _ sub => stateCount sub
  | .concat subs => (subs.attach.map fun ⟨h, _⟩ => stateCount h).foldr (· + ·) 0
  | .alternation subs => (subs.attach.map fun ⟨h, _⟩ => stateCount h + 1).foldr (· + ·) 0

/-- Compile an expression. -/
def Automaton.compile (h : Hir) : Automaton :=
  let (start, states) := (compileHir 0 h).run #[State.accept]
  { states, start }

/-- Whether a character is a word character, by Unicode or by ASCII. -/
def isWordChar (unicode : Bool) : Option Char → Bool
  | none => false
  | some c =>
    if unicode then perlWord.contains c.toNat
    else c.isAlphanum || c == '_'

/-- Whether a look holds between two characters (`none` at either end of the text). -/
def Look.holds (l : Look) (before after : Option Char) : Bool :=
  match l with
  | .start => before.isNone
  | .stop => after.isNone
  | .startLF => before.isNone || before == some '\n'
  | .stopLF => after.isNone || after == some '\n'
  | .startCRLF => before.isNone || before == some '\n' || (before == some '\r' && after != some '\n')
  | .stopCRLF => after.isNone || after == some '\r' || (after == some '\n' && before != some '\r')
  | .wordAscii => isWordChar false before != isWordChar false after
  | .wordAsciiNegate => isWordChar false before == isWordChar false after
  | .wordUnicode => isWordChar true before != isWordChar true after
  | .wordUnicodeNegate => isWordChar true before == isWordChar true after
  | .wordStartAscii => !isWordChar false before && isWordChar false after
  | .wordEndAscii => isWordChar false before && !isWordChar false after
  | .wordStartUnicode => !isWordChar true before && isWordChar true after
  | .wordEndUnicode => isWordChar true before && !isWordChar true after
  | .wordStartHalfAscii => !isWordChar false before
  | .wordEndHalfAscii => !isWordChar false after
  | .wordStartHalfUnicode => !isWordChar true before
  | .wordEndHalfUnicode => !isWordChar true after

/-- The states reachable without reading, from a work list: those that read or accept.
Each state is visited once. -/
def Automaton.closure (a : Automaton) (before after : Option Char) :
    Nat → List Nat → Array Bool → List Nat → List Nat
  | 0, _, _, found => found
  | _ + 1, [], _, found => found
  | fuel + 1, s :: rest, seen, found =>
    if seen.getD s true then a.closure before after fuel rest seen found
    else
      let seen := seen.set! s true
      match a.states[s]? with
      | some (.branch x y) => a.closure before after fuel (x :: y :: rest) seen found
      | some (.check l n) =>
        if l.holds before after then a.closure before after fuel (n :: rest) seen found
        else a.closure before after fuel rest seen found
      | some (.read _ _) | some .accept => a.closure before after fuel rest seen (s :: found)
      | none => a.closure before after fuel rest seen found

/-- Follow all runs over the rest of a text, starting new runs at every position. -/
def Automaton.run (a : Automaton) (before : Option Char) : List Char → List Nat → Bool
  | text, active =>
    let after := text.head?
    let fuel := 3 * a.states.size + active.length + 2
    let found := a.closure before after fuel (a.start :: active) (Array.replicate a.states.size false) []
    if found.any (fun s => match a.states[s]? with | some .accept => true | _ => false) then true
    else
      match text with
      | [] => false
      | c :: rest =>
        let next := found.filterMap fun (s : Nat) =>
          match (a.states[s]? : Option State) with
          | some (.read cls n) => if cls.contains c.toNat then some n else none
          | _ => none
        a.run (some c) rest next

/-- Whether some part of a text matches. -/
def Automaton.matches (a : Automaton) (text : String) : Bool := a.run none text.toList []

end DomainModels.Regex
