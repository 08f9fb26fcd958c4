import DomainModels.Error
import DomainModels.Version.Semver
import DomainModels.Text.Split
/-! Namespaces `name@version`. The name is one or more dot-separated segments, each a
letter, `_` or `$` followed by letters, numbers, `_` or `$` (letters and numbers in the
Unicode sense); the version, after the first `@`, is a semantic version. Two namespaces
are compatible when their names agree and, if both carry versions, their major numbers
do. -/
namespace DomainModels

open Version Text.Unicode

/-- A parsed namespace. -/
structure Namespace where
  name : String
  version : Option Semver
  deriving Repr, DecidableEq, Inhabited

namespace Namespace

/-- Whether a character is a letter. The ASCII letters are the Latin ones. -/
def isLetter (c : Char) : Bool :=
  if c.toNat < 128 then c.isAlpha
  else match generalCategory? c.toNat with
    | some .Lu | some .Ll | some .Lt | some .Lm | some .Lo => true
    | _ => false

/-- Whether a character is a number. The ASCII numbers are the decimal digits. -/
def isNumberChar (c : Char) : Bool :=
  if c.toNat < 128 then c.isDigit
  else match generalCategory? c.toNat with
    | some .Nd | some .Nl | some .No => true
    | _ => false

/-- Whether a text is one segment of a namespace name. -/
def isSegment (s : String) : Bool :=
  match s.toList with
  | [] => false
  | c :: rest =>
    (isLetter c || c == '_' || c == '$') &&
      rest.all fun d => isLetter d || isNumberChar d || d == '_' || d == '$'

/-- Read a namespace; the version is optional. -/
def parse (text : String) : Outcome Namespace := do
  let (name, version) ← match Text.splitFirst? text '@' with
    | some (name, v) =>
      match Semver.parse v with
      | .ok version => pure (name, some version)
      | .error fault =>
        throw (ModelError.illegal ("Invalid namespace version \"" ++ v ++ "\" in \"" ++ text ++
          "\": " ++ fault.text))
    | none => pure (text, none)
  if name.isEmpty || !(Text.pieces name '.').all isSegment then
    throw (ModelError.illegal ("Invalid namespace \"" ++ text ++ "\""))
  pure { name, version }

/-- Read a namespace that must carry a version. -/
def parseVersioned (text : String) : Outcome Namespace := do
  let ns ← parse text
  if ns.version.isNone then
    throw (ModelError.illegal ("Namespace \"" ++ text ++ "\" is not versioned; expected \"" ++
      text ++ "@<major>.<minor>.<patch>\""))
  pure ns

/-- The version as text. -/
def versionText (ns : Namespace) : Option String := ns.version.map Semver.render

/-- `name@version`, or the name alone. -/
def render (ns : Namespace) : String :=
  match ns.version with
  | some v => ns.name ++ "@" ++ v.render
  | none => ns.name

/-- Same name, and the same major version when both are versioned. -/
def isCompatibleWith (a b : Namespace) : Bool :=
  match a.version, b.version with
  | some va, some vb => a.name == b.name && va.major == vb.major
  | _, _ => a.name == b.name

end Namespace

end DomainModels
