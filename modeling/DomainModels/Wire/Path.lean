/-! Places inside a wire tree, written from the root `$` as `.field` and `[index]` steps:
`$.owner.addresses[0].city`. -/
namespace DomainModels.Wire

/-- One step into a wire tree. -/
inductive Segment where
  | field (name : String)
  | index (i : Nat)
  deriving Repr, DecidableEq, Inhabited

/-- `.name` or `[i]`. -/
def Segment.render : Segment → String
  | .field name => "." ++ name
  | .index i => "[" ++ toString i ++ "]"

/-- A path from the root, its steps in order. -/
structure Path where
  segments : List Segment := []
  deriving Repr, DecidableEq, Inhabited

namespace Path

/-- The root. -/
def root : Path := {}

/-- One field deeper. -/
def field (p : Path) (name : String) : Path := ⟨p.segments ++ [.field name]⟩

/-- One item deeper. -/
def index (p : Path) (i : Nat) : Path := ⟨p.segments ++ [.index i]⟩

/-- `$` and the steps. -/
def render (p : Path) : String := p.segments.foldl (fun acc s => acc ++ s.render) "$"

end Path

end DomainModels.Wire
