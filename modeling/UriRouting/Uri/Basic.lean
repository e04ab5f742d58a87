import UriRouting.Uri.Parts
import UriRouting.Query
import UriRouting.Value.Printer

/-!
# URIs

A URI is handed over as a text or in parts, with or without the path parameters set apart. What is
asked for is its path and its query; the other parts only show in messages.

## Main Definitions

- `Uri`: what stands for a URI.
- `Target`: the path and the query that a URI asks for.
- `Uri.target?`: the target of a URI, or why there is none.
- `Uri.render`: a URI in messages.
-/

namespace UriRouting

/-- What a caller hands over as a URI. -/
inductive Uri where
  | text (t : Text)
  | split (parts : Parts)
  | parsed (parts : Parts) (parameters : Text)
  /-- Something that is neither a text nor parts. -/
  | other (v : Value)

/-- Why something has no target. -/
inductive UriError where
  | authority (e : AuthorityError)
  | notUri (kind : Value.Kind)
  deriving DecidableEq, Repr

/-- The wording of an error. -/
def UriError.message : UriError → Text
  | .authority e => e.message
  | .notUri kind => '\'' :: kind.name ++ "' object has no attribute 'path'".toList

/-- What a URI asks for. -/
structure Target where
  path : Text
  query : Table (List Text)
  deriving DecidableEq

namespace Uri

/-- The parts of a URI. -/
def parts? : Uri → Except UriError Parts
  | .text t => (Parts.ofText? t).mapError .authority
  | .split p => .ok p
  | .parsed p _ => .ok p
  | .other v => .error (.notUri v.kind)

/-- The path and the query of a URI. -/
def target? (u : Uri) : Except UriError Target :=
  match u.parts? with
  | .ok p => .ok ⟨p.path, Query.table p.query⟩
  | .error e => .error e

/-- A named field in messages. -/
def renderField (name : String) (value : Text) : Text := name.toList ++ '=' :: Quoted.encode value

/-- A URI in messages: a text as it is, parts by their names. -/
def render : Uri → Text
  | .text t => t
  | .split p =>
    "SplitResult(".toList ++ Value.commaSeparated [
      renderField "scheme" p.scheme, renderField "netloc" p.authority, renderField "path" p.path,
      renderField "query" p.query, renderField "fragment" p.fragment] ++ [')']
  | .parsed p parameters =>
    "ParseResult(".toList ++ Value.commaSeparated [
      renderField "scheme" p.scheme, renderField "netloc" p.authority, renderField "path" p.path,
      renderField "params" parameters, renderField "query" p.query,
      renderField "fragment" p.fragment] ++ [')']
  | .other v => v.render

end Uri

end UriRouting
