import UriRouting.Text.Percent

/-!
# Host literals

The hosts that an authority may hold between brackets: addresses of version 6, which may end in an
address of version 4 and may carry a zone, and literals of later versions.

## Main Definitions

- `HostLiteral.isIPv4`: four decimal numbers separated by points.
- `HostLiteral.isIPv6`: eight groups of hexadecimal digits, or fewer with one elision.
- `HostLiteral.isLater`: a version number after `v`, a point and some text.
-/

namespace UriRouting.HostLiteral

/-- A number from 0 to 255 in decimal digits, without a leading zero. -/
def isQuadPart (t : Text) : Bool :=
  !t.isEmpty && t.length ≤ 3 && t.all Char.isDigit && (t = ['0'] || t.head? != some '0') &&
    t.foldl (fun n c => 10 * n + (c.toNat - '0'.toNat)) 0 ≤ 255

/-- An address of version 4. -/
def isIPv4 (t : Text) : Bool :=
  (t.splitOn '.').length = 4 && (t.splitOn '.').all isQuadPart

/-- One group of an address of version 6: one to four hexadecimal digits. -/
def isGroup (t : Text) : Bool :=
  !t.isEmpty && t.length ≤ 4 && t.all fun c => (Percent.hexValue? c).isSome

/-- How many groups the pieces between colons write; the last piece may be an address of version 4,
which writes two. -/
def groupCount? : List Text → Option Nat
  | [] => some 0
  | [last] => if isGroup last then some 1 else if isIPv4 last then some 2 else none
  | group :: rest => if isGroup group then (groupCount? rest).map (· + 1) else none

/-- The pieces between the colons of a text; an empty text has none. -/
def colonPieces (t : Text) : List Text := if t.isEmpty then [] else t.splitOn ':'

/-- What stands before and after the first double colon. -/
def elision? : Text → Option (Text × Text)
  | ':' :: ':' :: rest => some ([], rest)
  | c :: rest => (elision? rest).map fun (before, after) => (c :: before, after)
  | [] => none

/-- An address of version 6 without a zone. An elision stands for one group or more. -/
def isIPv6Address (t : Text) : Bool :=
  match elision? t with
  | none => groupCount? (t.splitOn ':') = some 8
  | some (before, after) =>
    (colonPieces before).all isGroup &&
      (groupCount? (colonPieces after)).any fun n => (colonPieces before).length + n ≤ 7

/-- An address of version 6; a zone after a percent sign is not empty and holds no second one. -/
def isIPv6 (t : Text) : Bool :=
  let (address, zone) := Text.cut '%' t
  isIPv6Address address && (!t.contains '%' || (!zone.isEmpty && !zone.contains '%'))

/-- A literal of a later version. -/
def isLater : Text → Bool
  | 'v' :: rest =>
    let isHex := fun c => (Percent.hexValue? c).isSome
    !(rest.takeWhile isHex).isEmpty &&
      match rest.dropWhile isHex with
      | '.' :: _ :: _ => true
      | _ => false
  | _ => false

end UriRouting.HostLiteral
