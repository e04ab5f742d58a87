import UriRouting.Uri.Authority

/-!
# The parts of a URI

A text is cut into scheme, authority, path, query and fragment. Leading blanks and control
characters are dropped, and so is every tab and line end; any text is accepted but for its
authority.

## Main Definitions

- `Parts`: the five parts.
- `Parts.ofText?`: the parts of a text.
- `Parts.schemesWithParameters`: the schemes whose paths may end in parameters.
- `Parts.withoutParameters`: the parts without the parameters of the last path segment, and these.

## Design Notes

The schemes with parameters are those of the release named in `UriRouting.Uri.Authority`.
-/

namespace UriRouting

/-- The parts of a URI, each without the delimiter that introduces it. -/
structure Parts where
  scheme : Text
  authority : Text
  path : Text
  query : Text
  fragment : Text
  deriving DecidableEq, Repr

namespace Parts

/-- A text without its leading blanks and control characters and without tabs and line ends. -/
def clean (t : Text) : Text :=
  (t.dropWhile (·.toNat ≤ 0x20)).filter fun c => c != '\t' && c != '\n' && c != '\r'

/-- The characters that a scheme consists of. -/
def isSchemeChar (c : Char) : Bool := c.isAlphanum || c = '+' || c = '-' || c = '.'

/-- The scheme in lower case, or nothing, and what follows it. A scheme starts with a letter and
ends at the first colon. -/
def cutScheme (t : Text) : Text × Text :=
  let (name, rest) := Text.cut ':' t
  if t.contains ':' && name.head?.any Char.isAlpha && name.all isSchemeChar then
    (name.map Char.toLower, rest)
  else ([], t)

/-- The characters at which an authority ends. -/
def endsAuthority (c : Char) : Bool := c = '/' || c = '?' || c = '#'

/-- The authority after two slashes, or nothing, and what follows it. -/
def cutAuthority : Text → Text × Text
  | '/' :: '/' :: rest => (rest.takeWhile (!endsAuthority ·), rest.dropWhile (!endsAuthority ·))
  | t => ([], t)

/-- The parts of a text, unless its authority is refused. -/
def ofText? (t : Text) : Except AuthorityError Parts :=
  let (scheme, afterScheme) := cutScheme (clean t)
  let (authority, afterAuthority) := cutAuthority afterScheme
  let (hierarchy, fragment) := Text.cut '#' afterAuthority
  let (path, query) := Text.cut '?' hierarchy
  match Authority.fault? authority with
  | none => .ok ⟨scheme, authority, path, query, fragment⟩
  | some e => .error e

/-- The schemes whose paths may end in parameters; a URI without a scheme counts among them. -/
def schemesWithParameters : List Text :=
  ["", "ftp", "hdl", "prospero", "http", "imap", "https", "shttp", "rtsp", "rtsps", "rtspu", "sip",
    "sips", "mms", "sftp", "tel"].map String.toList

/-- The parts without the parameters of the last path segment, and the parameters: what follows the
first semicolon of that segment. -/
def withoutParameters (p : Parts) : Parts × Text :=
  if schemesWithParameters.contains p.scheme then
    let segments := p.path.splitOn '/'
    let (last, parameters) := Text.cut ';' ((segments.getLast?).getD [])
    ({ p with path := ['/'].intercalate (segments.dropLast ++ [last]) }, parameters)
  else (p, [])

end Parts

end UriRouting
