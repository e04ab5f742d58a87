import UriRouting.Text.CaseFold.Table

/-!
# Case folding

Two texts are the same but for case when they fold to the same text. Folding goes character by
character and does not compose or decompose anything.

## Main Definitions

- `CaseFold.foldChar`: the text that one character folds to.
- `CaseFold.fold`: the text that a text folds to.
-/

namespace UriRouting.CaseFold

/-- The number that a run assigns to a code point of it. -/
def Run.image? (r : Run) (n : Nat) : Option Nat :=
  if r.first ≤ n ∧ n ≤ r.last ∧ (n - r.first) % r.stride = 0 then some (n + r.distance).toNat
  else none

/-- The text that one character folds to: itself where the tables say nothing. -/
def foldChar (c : Char) : Text :=
  if c.toNat < 0x80 then [if 'A' ≤ c ∧ c ≤ 'Z' then Char.ofNat (c.toNat + 0x20) else c]
  else match expansions.find? (·.source = c.toNat) with
    | some e => Char.ofNat e.head :: e.tail.map Char.ofNat
    | none => [((runs.findSome? (·.image? c.toNat)).map Char.ofNat).getD c]

/-- The text that a text folds to. -/
def fold (t : Text) : Text := t.flatMap foldChar

/-- No character folds to nothing. -/
theorem foldChar_ne_nil (c : Char) : foldChar c ≠ [] := by
  unfold foldChar
  split
  · simp
  · split <;> simp

/-- Folding goes piece by piece. -/
@[simp] theorem fold_append (s t : Text) : fold (s ++ t) = fold s ++ fold t := by
  simp [fold]

/-- Only the empty text folds to the empty text. -/
@[simp] theorem fold_eq_nil_iff {t : Text} : fold t = [] ↔ t = [] := by
  cases t with
  | nil => simp [fold]
  | cons c t => simp [fold, foldChar_ne_nil]

end UriRouting.CaseFold
