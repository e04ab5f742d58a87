import UriRouting.Text.Printable

/-!
# Quoted texts

A text in a message stands between quotes. The quote is a single one, unless the text holds a single
quote and no double one. The quote in use and the backslash are escaped by a backslash, and so are
characters that are not printable: line feed, carriage return and tab by a letter, the others by
their number in two, four or eight hexadecimal digits, whichever fits first.

## Main Definitions

- `Quoted.delimiter`: the quote that a text is written with.
- `Quoted.encode`: the quoted form of a text.
-/

namespace UriRouting.Quoted

/-- The quote that a text is written with. -/
def delimiter (t : Text) : Char :=
  if '\'' ∈ t ∧ '"' ∉ t then '"' else '\''

/-- A number in `width` hexadecimal digits, in lower case. -/
def hex : (width : Nat) → Nat → Text
  | 0, _ => []
  | width + 1, n => hex width (n / 16) ++ [Nat.digitChar (n % 16)]

/-- How one character is written between quotes `quote`. -/
def encodeChar (quote c : Char) : Text :=
  if c = quote ∨ c = '\\' then ['\\', c]
  else if c = '\n' then ['\\', 'n']
  else if c = '\r' then ['\\', 'r']
  else if c = '\t' then ['\\', 't']
  else if isPrintable c then [c]
  else if c.toNat < 0x100 then '\\' :: 'x' :: hex 2 c.toNat
  else if c.toNat < 0x10000 then '\\' :: 'u' :: hex 4 c.toNat
  else '\\' :: 'U' :: hex 8 c.toNat

/-- The quoted form of a text. -/
def encode (t : Text) : Text :=
  delimiter t :: t.flatMap (encodeChar (delimiter t)) ++ [delimiter t]

end UriRouting.Quoted
