import UriRouting.Value.Basic
import UriRouting.Text.Quoted

/-!
# Values in messages

How a value is written in a message. Texts are quoted; the items of a list stand between square
brackets and the entries of a mapping between braces, separated by a comma and a space.

## Main Definitions

- `Value.render`: the written form of a value.
- `Value.decimalFormat`: the decisions about floating-point numbers.
-/

namespace UriRouting.Value

/-- The decisions about how a decimal is written. -/
structure DecimalFormat where
  /-- The least power of ten of a leading digit that is written in full. -/
  leastPlain : Int
  /-- The least power of ten of a leading digit that needs an exponent. -/
  leastScaled : Int
  /-- The least number of digits of an exponent. -/
  exponentDigits : Nat

/-- Floating-point numbers are written in full from 0.0001 to below 10^16, and exponents have two
digits or more. -/
def decimalFormat : DecimalFormat := ⟨-4, 16, 2⟩

/-- The decimal digits of a number. -/
def digits (n : Nat) : Text := Nat.toDigits 10 n

/-- A number in at least `width` digits. -/
def padded (width n : Nat) : Text := List.replicate (width - (digits n).length) '0' ++ digits n

/-- The digits of a decimal in full, with a point; a whole number ends in `.0`. -/
def plain (ds : Text) (exponent : Int) : Text :=
  if 0 ≤ exponent then ds ++ List.replicate exponent.toNat '0' ++ ['.', '0']
  else
    let places := (-exponent).toNat
    let all := List.replicate (places + 1 - ds.length) '0' ++ ds
    all.take (all.length - places) ++ '.' :: all.drop (all.length - places)

/-- The digits of a decimal with the point after the first one, and the power of ten. -/
def scaled (ds : Text) (power : Int) : Text :=
  ds.take 1 ++ (if ds.length = 1 then [] else '.' :: ds.drop 1) ++
    'e' :: (if power < 0 then '-' else '+') :: padded decimalFormat.exponentDigits power.natAbs

/-- A floating-point number in the fewest digits that read back as it. -/
def renderFloat (x : Float) : Text :=
  match Binary.ofFloat? x with
  | Option.none => if x.isNaN then "nan".toList else if x < 0 then "-inf".toList else "inf".toList
  | some b =>
    let unsigned :=
      if b.mantissa = 0 then "0.0".toList
      else
        let d := Decimal.shortest b
        let ds := digits d.coefficient
        let power := d.exponent + ds.length - 1
        if decimalFormat.leastPlain ≤ power ∧ power < decimalFormat.leastScaled then
          plain ds d.exponent
        else scaled ds power
    if b.negative then '-' :: unsigned else unsigned

/-- An integer in decimal digits. -/
def renderInt (n : Int) : Text :=
  if n < 0 then '-' :: digits n.natAbs else digits n.natAbs

/-- How one octet is written between quotes `quote`. -/
def renderByte (quote : Char) (b : UInt8) : Text :=
  let c := Char.ofNat b.toNat
  if b.toNat < 0x80 then Quoted.encodeChar quote c else '\\' :: 'x' :: Quoted.hex 2 b.toNat

/-- Octets between quotes, with the mark that tells them from a text. -/
def renderBytes (bs : List UInt8) : Text :=
  let quote := Quoted.delimiter (bs.map fun b => Char.ofNat b.toNat)
  'b' :: quote :: bs.flatMap (renderByte quote) ++ [quote]

/-- Written forms separated by a comma and a space. -/
def commaSeparated (forms : List Text) : Text := [',', ' '].intercalate forms

mutual

/-- The written form of a value. -/
def render : Value → Text
  | .none => "None".toList
  | .bool true => "True".toList
  | .bool false => "False".toList
  | .int n => renderInt n
  | .float x => renderFloat x
  | .text t => Quoted.encode t
  | .bytes bs => renderBytes bs
  | .list items => '[' :: commaSeparated (renderItems items) ++ [']']
  | .mapping entries => '{' :: commaSeparated (renderEntries entries) ++ ['}']

/-- The written forms of the items of a list. -/
def renderItems : List Value → List Text
  | [] => []
  | v :: items => render v :: renderItems items

/-- The written forms of the entries of a mapping. -/
def renderEntries : List (Text × Value) → List Text
  | [] => []
  | (k, v) :: entries => (Quoted.encode k ++ ':' :: ' ' :: render v) :: renderEntries entries

end

end UriRouting.Value
