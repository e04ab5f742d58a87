import UriRouting.Text.Utf8

/-!
# Percent escapes

An escape is a percent sign and two hexadecimal digits, in either case, and stands for one octet.
Octets are read as UTF-8 with replacement; an incomplete escape is ordinary text. Form fields write
a space as `+`.

## Main Definitions

- `Percent.unescape`: the text that an escaped text stands for.
- `Percent.unescapeField`: the same for a form field.
- `Percent.escape`: a text with every octet but those of unreserved characters escaped.

## Design Notes

An ASCII character is its own octet, so it takes part in reading UTF-8: it ends an unfinished
sequence. A character outside ASCII is already decoded and ends one too.
-/

namespace UriRouting.Percent

/-- The value of a hexadecimal digit, in either case. -/
def hexValue? (c : Char) : Option Nat :=
  if '0' ≤ c ∧ c ≤ '9' then some (c.toNat - '0'.toNat)
  else if 'a' ≤ c ∧ c ≤ 'f' then some (c.toNat - 'a'.toNat + 10)
  else if 'A' ≤ c ∧ c ≤ 'F' then some (c.toNat - 'A'.toNat + 10)
  else none

/-- The octet that two hexadecimal digits write. -/
def octet? (high low : Char) : Option UInt8 :=
  match hexValue? high, hexValue? low with
  | some h, some l => some (UInt8.ofNat (16 * h + l))
  | _, _ => none

/-- A character that stands for itself: an octet within ASCII. -/
def unitOf (c : Char) : Utf8.Unit :=
  if c.toNat < 0x80 then .octet (UInt8.ofNat c.toNat) else .plain c

/-- The units of an escaped text. -/
def units : Text → List Utf8.Unit
  | '%' :: a :: b :: rest =>
    match octet? a b with
    | some o => .octet o :: units rest
    | none => unitOf '%' :: units (a :: b :: rest)
  | c :: rest => unitOf c :: units rest
  | [] => []

/-- The text that an escaped text stands for. -/
def unescape (t : Text) : Text := Utf8.read .between (units t)

/-- The text that an escaped form field stands for: `+` is a space. -/
def unescapeField (t : Text) : Text := unescape (t.map fun c => if c = '+' then ' ' else c)

/-- The characters that an escaped text may always hold as they are. -/
def isUnreserved (c : Char) : Bool :=
  c.isAlphanum || c = '-' || c = '.' || c = '_' || c = '~'

/-- The hexadecimal digit of a number below sixteen, in upper case. -/
def hexDigit (n : Nat) : Char := if n < 10 then Char.ofNat (n + 0x30) else Char.ofNat (n + 0x37)

/-- The escape of one octet. -/
def escapeOctet (b : UInt8) : Text := ['%', hexDigit (b.toNat / 16), hexDigit (b.toNat % 16)]

/-- An unreserved character as it is, any other one as the escapes of its octets. -/
def escapeChar (c : Char) : Text :=
  if isUnreserved c then [c] else (String.utf8EncodeChar c).flatMap escapeOctet

/-- The text with every octet escaped but those of unreserved characters. -/
def escape (t : Text) : Text := t.flatMap escapeChar

end UriRouting.Percent
