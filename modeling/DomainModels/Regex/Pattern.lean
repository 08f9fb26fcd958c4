import DomainModels.Regex.Translate
import DomainModels.Regex.Automaton
/-! Compiled patterns: read, translated in the mode the caller asks for, and compiled to an
automaton, or refused with the message that shows the error in the pattern. -/
namespace DomainModels.Regex

/-- Why a pattern does not compile. -/
inductive BuildError where
  | invalid (e : PatternError)
  | tooBig
  deriving Repr

/-- The message of a build error for a pattern. -/
def BuildError.render (pattern : String) : BuildError → String
  | .invalid e => e.render pattern
  | .tooBig => "Compiled regex exceeds size limit of 10485760 bytes."

/-- A compiled pattern. -/
structure Compiled where
  hir : Hir
  automaton : Automaton
  deriving Inhabited

/-- Compile a pattern in a mode. -/
def Compiled.build (pattern : String) (mode : Mode) : Except BuildError Compiled := do
  let ast ← (parsePattern pattern).mapError BuildError.invalid
  let (hir, _) ← (translate mode ast).mapError BuildError.invalid
  if stateCount hir > stateLimit then throw BuildError.tooBig
  pure { hir, automaton := Automaton.compile hir }

/-- Whether some part of a text matches. -/
def Compiled.isMatch (r : Compiled) (text : String) : Bool := r.automaton.matches text

end DomainModels.Regex
