import UriRouting.Text.Basic

/-!
# UTF-8 with replacement

A percent-decoded text is a sequence of units: octets, which must be read as UTF-8, and characters
that were never encoded and stand for themselves. Reading goes unit by unit. Each maximal stretch of
octets that starts a well-formed sequence and cannot be continued becomes one replacement character,
and so does each octet that starts none.

## Main Definitions

- `Utf8.Unit`: an octet or a plain character.
- `Utf8.State`: what has been read of the sequence under way.
- `Utf8.step`: the text that one unit completes, and the state after it.
- `Utf8.read`: the text of a whole sequence of units.

## Design Notes

The state keeps the interval that the next octet must lie in, so overlong forms, surrogates and
values above U+10FFFF are refused at their second octet. Writing a character is
`String.utf8EncodeChar`.
-/

namespace UriRouting.Utf8

/-- One element of a partly encoded text. -/
inductive Unit where
  /-- A part of an encoded character. -/
  | octet (b : UInt8)
  /-- A character outside ASCII that was written as it is. -/
  | plain (c : Char)
  deriving DecidableEq, Repr

/-- What has been read of the encoded character under way. -/
inductive State where
  /-- Between characters. -/
  | between
  /-- Inside a character: the value so far, how many octets follow the next one, and the interval of
  the next one. -/
  | inside (value later low high : Nat)
  deriving DecidableEq, Repr

/-- U+FFFD, which stands for octets that are not UTF-8. -/
def replacement : Char := '\uFFFD'

/-- An octet read between characters: the text it completes and the state it leaves. -/
def start (b : Nat) : Text × State :=
  if b < 0x80 then ([Char.ofNat b], .between)
  else if 0xC2 ≤ b ∧ b ≤ 0xDF then ([], .inside (b - 0xC0) 0 0x80 0xBF)
  else if b = 0xE0 then ([], .inside 0 1 0xA0 0xBF)
  else if b = 0xED then ([], .inside 0xD 1 0x80 0x9F)
  else if 0xE1 ≤ b ∧ b ≤ 0xEF then ([], .inside (b - 0xE0) 1 0x80 0xBF)
  else if b = 0xF0 then ([], .inside 0 2 0x90 0xBF)
  else if 0xF1 ≤ b ∧ b ≤ 0xF3 then ([], .inside (b - 0xF0) 2 0x80 0xBF)
  else if b = 0xF4 then ([], .inside 4 2 0x80 0x8F)
  else ([replacement], .between)

/-- One unit. A unit that cannot continue the character under way ends it as a replacement and is
read afresh. -/
def step : State → Unit → Text × State
  | .between, .plain c => ([c], .between)
  | .inside .., .plain c => ([replacement, c], .between)
  | .between, .octet b => start b.toNat
  | .inside value later low high, .octet b =>
    if low ≤ b.toNat ∧ b.toNat ≤ high then
      let value := value * 0x40 + (b.toNat - 0x80)
      match later with
      | 0 => ([Char.ofNat value], .between)
      | later + 1 => ([], .inside value later 0x80 0xBF)
    else
      let (text, state) := start b.toNat
      (replacement :: text, state)

/-- The text of the units that follow a state; a character left unfinished at the end is
replaced. -/
def read : State → List Unit → Text
  | .between, [] => []
  | .inside .., [] => [replacement]
  | state, u :: rest => (step state u).1 ++ read (step state u).2 rest

end UriRouting.Utf8
