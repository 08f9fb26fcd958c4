import DomainModels.Error
import DomainModels.Names
import DomainModels.Uri.Url
/-! Relationships: typed pointers to identified instances, written as
`resource:<namespace>.<Type>#<id>` with the identifier escaped as a URI component. A text
without a scheme is a bare identifier, whose namespace and type are the declared ones. -/
namespace DomainModels

/-- A pointer to an identified instance. -/
structure Relationship where
  ns : String
  typeName : String
  identifier : String
  deriving Repr, DecidableEq, Inhabited

namespace Relationship

/-- The URI scheme of relationships. -/
def scheme : String := "resource"

/-- `namespace.Type`. -/
def fullyQualifiedType (r : Relationship) : String := Names.qualify r.ns r.typeName

/-- `namespace.Type#id`. -/
def fullyQualifiedIdentifier (r : Relationship) : String :=
  r.fullyQualifiedType ++ "#" ++ r.identifier

/-- `resource:namespace.Type#id`, the identifier escaped as a URI component. -/
def toUri (r : Relationship) : String :=
  scheme ++ ":" ++ r.fullyQualifiedType ++ "#" ++ Uri.percentEncode Uri.componentSet r.identifier

/-- Read a relationship URI. A text without a scheme is a bare identifier of the default
type; otherwise the scheme must be `resource`, there may be no user, password, port or
query, the path names the type (a bare name is in the default namespace) and the fragment is
the identifier. -/
def fromUri (uri defaultNs defaultType : String) : Outcome Relationship :=
  match Uri.Url.parse uri with
  | .error .relativeWithoutBase =>
    if uri.isEmpty then .error (.validation "Invalid resource URI: identifier is empty" none)
    else .ok { ns := defaultNs, typeName := defaultType, identifier := uri }
  | .error e => .error (.validation ("Invalid URI: " ++ uri ++ ": " ++ e.text) none)
  | .ok url =>
    if url.scheme != scheme then .error (.validation ("Invalid URI scheme: " ++ uri) none)
    else if !url.username.isEmpty || url.password.isSome || url.port.isSome || url.query.isSome then
      .error (.validation ("Invalid resource URI format: " ++ uri) none)
    else
      let fqn := Uri.percentDecode url.path
      let (ns, typeName) := match Names.split? fqn with
        | some pair => pair
        | none => if fqn.isEmpty then (defaultNs, defaultType) else (defaultNs, fqn)
      match url.fragment.map Uri.percentDecode with
      | some identifier =>
        if identifier.isEmpty then
          .error (.validation ("Invalid resource URI format: " ++ uri ++ " has no identifier") none)
        else .ok { ns, typeName, identifier }
      | none => .error (.validation ("Invalid resource URI format: " ++ uri ++ " has no identifier") none)

end Relationship

end DomainModels
