/-!
# Shortest decimals

The shortest decimal that reads back as a given binary number. A decimal reads back when it lies in
the interval of reals that round to the number; the ends belong to the interval exactly when the
mantissa is even. Among the decimals of one grid of powers of ten only the two neighbours of the
number matter.

## Main Definitions

- `Binary`: a finite binary number, `Binary.ofFloat?` its fields.
- `Decimal.onGrid?`: the multiple of a power of ten that reads back, if there is one.
- `Decimal.shortest`: the first hit among ever finer grids.

## Design Notes

All comparisons are between natural numbers: both sides are scaled by the powers of two and ten in
the denominators.
-/

namespace UriRouting

/-- A finite binary number: `mantissa * 2 ^ exponent`, with a sign. -/
structure Binary where
  negative : Bool
  mantissa : Nat
  exponent : Int
  deriving DecidableEq, Repr

/-- The fields of a finite double-precision number; infinities and not-a-number have none. -/
def Binary.ofFloat? (x : Float) : Option Binary :=
  let bits := x.toBits.toNat
  let negative : Bool := bits / Nat.pow 2 63 = 1
  let biased : Nat := bits / Nat.pow 2 52 % Nat.pow 2 11
  let fraction : Nat := bits % Nat.pow 2 52
  if biased = 0x7FF then none
  else if biased = 0 then some ⟨negative, fraction, -1074⟩
  else some ⟨negative, fraction + Nat.pow 2 52, (biased : Int) - 1075⟩

/-- Whether the number is the given integer. Zero is one with either sign. -/
def Binary.isInt (b : Binary) (n : Int) : Bool :=
  (if b.negative then n ≤ 0 else 0 ≤ n) &&
    b.mantissa * Nat.pow 2 b.exponent.toNat = n.natAbs * Nat.pow 2 (-b.exponent).toNat

namespace Decimal

/-- A decimal without sign: `coefficient * 10 ^ exponent`. -/
structure Digits where
  coefficient : Nat
  exponent : Int
  deriving DecidableEq, Repr

/-- The nearer of the two neighbours of `b` among the multiples of `10 ^ k`, if it reads back as
`b`; else the other one, if that does. Of two equally near neighbours the even multiple counts as
nearer. -/
def onGrid? (b : Binary) (k : Int) : Option Nat :=
  let halfGap := if b.mantissa = Nat.pow 2 52 ∧ -1074 < b.exponent then 1 else 2
  let below := 4 * b.mantissa - halfGap
  let above := 4 * b.mantissa + 2
  let scale := Nat.pow 2 (b.exponent - 2).toNat * Nat.pow 10 (-k).toNat
  let unit := Nat.pow 2 (2 - b.exponent).toNat * Nat.pow 10 k.toNat
  let readsBack (c : Nat) : Bool :=
    if b.mantissa % 2 = 0 then below * scale ≤ c * unit ∧ c * unit ≤ above * scale
    else below * scale < c * unit ∧ c * unit < above * scale
  let exact := 4 * b.mantissa * scale
  let lower := exact / unit
  let upper := lower + 1
  let twice := 2 * (exact % unit)
  let (near, far) :=
    if twice < unit ∨ (twice = unit ∧ lower % 2 = 0) then (lower, upper) else (upper, lower)
  if readsBack near then some near else if readsBack far then some far else none

/-- The first of the grids `10 ^ k`, `10 ^ (k - 1)`, … that holds a decimal for `b`, and that
decimal. -/
def search (b : Binary) : (steps : Nat) → (k : Int) → Digits
  | 0, k => ⟨0, k⟩
  | steps + 1, k =>
    match onGrid? b k with
    | some c => ⟨c, k⟩
    | none => search b steps (k - 1)

/-- The shortest decimal that reads back as a nonzero `b`. The grids start above the greatest number
and end below the least. -/
def shortest (b : Binary) : Digits := search b 700 310

end Decimal

end UriRouting
