/-!
# Texts

A text is the list of its characters. Cutting a text at a separator and trimming a list at both ends
are the two operations that paths, queries and addresses are read with; splitting and joining are
the list operations `List.splitOn` and `List.intercalate`.

## Main Definitions

- `Text`: a list of characters.
- `Text.cut`: what stands before the first separator, and what stands after it.
- `trimWhile`: a list without the elements at either end that satisfy a test.

## Main Statements

- `Text.cut_of_not_mem` and `Text.cut_append_cons` say what a cut yields.
- `trimWhile_trimWhile`: trimming a second time changes nothing.
-/

namespace UriRouting

/-- A text is its characters in order. -/
abbrev Text := List Char

/-- The list without its leading and its trailing elements that satisfy `p`; elements further inside
stay. -/
def trimWhile {α : Type} (p : α → Bool) (l : List α) : List α :=
  ((l.dropWhile p).reverse.dropWhile p).reverse

/-- A list that is empty or starts with an element outside `p` keeps its start. -/
theorem dropWhile_eq_self {α : Type} {p : α → Bool} {l : List α}
    (h : ∀ a ∈ l.head?, p a = false) : l.dropWhile p = l := by
  cases l with
  | nil => rfl
  | cons a l => simp [h a (by simp)]

/-- After dropping a stretch of `p` the first element, if any, is outside `p`. -/
theorem head?_dropWhile_eq_false {α : Type} {p : α → Bool} {l : List α} :
    ∀ a ∈ (l.dropWhile p).head?, p a = false := by
  intro a ha
  have hnot := List.head?_dropWhile_not p l
  rw [Option.mem_def.mp ha] at hnot
  simpa using hnot

/-- A list whose first and last elements lie outside `p` is already trimmed. -/
theorem trimWhile_eq_self {α : Type} {p : α → Bool} {l : List α}
    (hfirst : ∀ a ∈ l.head?, p a = false) (hlast : ∀ a ∈ l.getLast?, p a = false) :
    trimWhile p l = l := by
  have hrev : ∀ a ∈ l.reverse.head?, p a = false := by simpa using hlast
  simp [trimWhile, dropWhile_eq_self hfirst, dropWhile_eq_self hrev]

/-- The last element of a trimmed list lies outside `p`. -/
theorem getLast?_trimWhile {α : Type} {p : α → Bool} {l : List α} :
    ∀ a ∈ (trimWhile p l).getLast?, p a = false := by
  simpa [trimWhile] using head?_dropWhile_eq_false (p := p) (l := (l.dropWhile p).reverse)

/-- The first element of a trimmed list lies outside `p`. -/
theorem head?_trimWhile {α : Type} {p : α → Bool} {l : List α} :
    ∀ a ∈ (trimWhile p l).head?, p a = false := by
  intro a ha
  obtain ⟨tail, htail⟩ : trimWhile p l <+: l.dropWhile p := by
    simpa [trimWhile] using (List.dropWhile_suffix p (l := (l.dropWhile p).reverse)).reverse
  refine head?_dropWhile_eq_false (l := l) a ?_
  rw [← htail, List.head?_append]
  simp [Option.mem_def.mp ha]

/-- Trimming a second time changes nothing. -/
@[simp] theorem trimWhile_trimWhile {α : Type} (p : α → Bool) (l : List α) :
    trimWhile p (trimWhile p l) = trimWhile p l :=
  trimWhile_eq_self head?_trimWhile getLast?_trimWhile

namespace Text

/-- What stands before the first `sep` and what stands after it; without a `sep` the second part is
empty. -/
def cut (sep : Char) (t : Text) : Text × Text :=
  (t.takeWhile (· != sep), (t.dropWhile (· != sep)).drop 1)

/-- Without a separator the whole text stands before the cut. -/
theorem cut_of_not_mem {sep : Char} {t : Text} (h : sep ∉ t) : cut sep t = (t, []) := by
  induction t with
  | nil => rfl
  | cons c t ih =>
    have hc : c ≠ sep := fun e => h (by simp [e])
    have ht := ih fun hm => h (List.mem_cons_of_mem _ hm)
    simp only [cut, Prod.mk.injEq] at ht
    simp [cut, hc, ht.1, ht.2]

/-- The first separator is the one that cuts. -/
theorem cut_append_cons {sep : Char} {t : Text} (h : sep ∉ t) (rest : Text) :
    cut sep (t ++ sep :: rest) = (t, rest) := by
  induction t with
  | nil => simp [cut]
  | cons c t ih =>
    have hc : c ≠ sep := fun e => h (by simp [e])
    have ht := ih fun hm => h (List.mem_cons_of_mem _ hm)
    simp only [cut, Prod.mk.injEq] at ht
    simp [cut, hc, ht.1, ht.2]

end Text

end UriRouting
