import UriRouting.Uri.HostLiteral
import UriRouting.Text.Quoted

/-!
# Authorities

The authority of a URI is refused when its brackets do not enclose a host literal, and when it holds
a character that a compatibility decomposition would turn into a delimiter.

## Main Definitions

- `AuthorityError`: why an authority is refused, and `AuthorityError.message`.
- `Authority.fault?`: the fault that an authority is refused for; brackets come first.

## Design Notes

What counts as a URI is taken from one release of the standard library whose splitting is modelled:
the 3.11 series from patch level 12 on, which splits as the 3.12 series does from patch level 9 on.
There nothing may stand beside the brackets but a port; earlier patch levels let any text stand
there. The schemes with path parameters are those of the same release, and its tables of characters,
for printing, case folding and decomposition, are those of Unicode 14.
-/

namespace UriRouting

/-- Why an authority is refused. -/
inductive AuthorityError where
  /-- A bracket without its partner, or text beside the brackets. -/
  | brackets
  /-- A host of a later version that does not have the form of one. -/
  | laterVersion
  /-- An address of version 4 between brackets. -/
  | bracketedIPv4
  /-- Some other host between brackets. -/
  | notAnAddress (host : Text)
  /-- A character that decomposes into a delimiter. -/
  | hiddenDelimiter (authority : Text)
  deriving DecidableEq, Repr

/-- The wording of a refusal. -/
def AuthorityError.message : AuthorityError → Text
  | .brackets => "Invalid IPv6 URL".toList
  | .laterVersion => "IPvFuture address is invalid".toList
  | .bracketedIPv4 => "An IPv4 address cannot be in brackets".toList
  | .notAnAddress host =>
    Quoted.encode host ++ " does not appear to be an IPv4 or IPv6 address".toList
  | .hiddenDelimiter authority =>
    "netloc '".toList ++ authority ++
      "' contains invalid characters under NFKC normalization".toList

namespace Authority

/-- What follows the last at sign: the host and the port. -/
def hostAndPort (authority : Text) : Text := ((authority.splitOn '@').getLast?).getD []

/-- The host of an authority with brackets, unless text stands beside the brackets. -/
def host? (authority : Text) : Option Text :=
  let place := hostAndPort authority
  if place.contains '[' then
    let (before, bracketed) := Text.cut '[' place
    let (host, after) := Text.cut ']' bracketed
    if before.isEmpty && (after.isEmpty || after.head? = some ':') then some host else none
  else some (Text.cut ':' place).1

/-- The fault of a host between brackets. -/
def hostFault? (host : Text) : Option AuthorityError :=
  if host.head? = some 'v' then
    if HostLiteral.isLater host then none else some .laterVersion
  else if HostLiteral.isIPv4 host then some .bracketedIPv4
  else if HostLiteral.isIPv6 host then none
  else some (.notAnAddress host)

/-- The fault of the brackets of an authority. -/
def bracketFault? (authority : Text) : Option AuthorityError :=
  match authority.contains '[', authority.contains ']' with
  | false, false => none
  | true, true =>
    match host? authority with
    | some host => hostFault? host
    | none => some .brackets
  | _, _ => some .brackets

/-- The characters outside ASCII whose compatibility decomposition holds one of `/ ? # @ :`. -/
def hiddenDelimiters : List Char := [
  '\u2047', '\u2048', '\u2049', '\u2100', '\u2101', '\u2105', '\u2106', '\u2A74', '\uFE13',
  '\uFE16', '\uFE55', '\uFE56', '\uFE5F', '\uFE6B', '\uFF03', '\uFF0F', '\uFF1A', '\uFF1F',
  '\uFF20']

/-- The fault that an authority is refused for, if there is one. -/
def fault? (authority : Text) : Option AuthorityError :=
  (bracketFault? authority).or
    (if authority.any hiddenDelimiters.contains then some (.hiddenDelimiter authority) else none)

end Authority

end UriRouting
