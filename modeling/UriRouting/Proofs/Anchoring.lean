import UriRouting.Proofs.Escaping
import UriRouting.Proofs.Splitting

/-!
# Paths below a base

A path below a base is read in two passes: its pieces are compared with those of the base and cut
off, and what is left is joined, stripped of its outer slashes and split a second time. Here both
passes are one statement about the text: what counts is what follows the base after one slash or
more, and how many slashes there are does not matter.

## Main Statements

- `Path.below?_eq_some_iff_joined`: what stands below a base is the rest of the pieces, joined and
  read again.
- `Path.below?_append_slashes`: what follows a base after slashes stands below it.
- `Path.below?_exact`: both directions, for every base.
-/

namespace UriRouting.Path

/-- A path without pieces is made of slashes. -/
theorem pieces_eq_nil_iff {path : Text} : pieces path = [] ↔ ∀ c ∈ path, c = '/' := by
  have hslashes : trimWhile (· == '/') path = [] ↔ ∀ c ∈ path, c = '/' := by
    simpa using trimWhile_eq_nil_iff (p := (· == '/')) (l := path)
  rw [pieces, ← hslashes]
  split
  · next hnil => exact iff_of_true rfl hnil
  · next hne => exact iff_of_false (List.splitOn_ne_nil _ _) hne

/-- No piece of a path holds a slash. -/
theorem not_mem_of_mem_pieces {path s : Text} (h : s ∈ pieces path) : '/' ∉ s := by
  rw [← segments_eq_pieces] at h
  exact not_mem_of_mem_splitOn (mem_of_mem_trimWhile h)

/-- **What stands below a base, in two passes.**  The pieces of the base are cut off one by one as
long as they are the same but for case and escapes; the rest is joined and read as a path again. -/
theorem below?_eq_some_iff_joined {base path : Text} {segments : List Text} :
    below? base path = some segments ↔
      ∃ start rest, pieces path = start ++ rest ∧ start.map key = (pieces base).map key ∧
        segments = (pieces (['/'].intercalate rest)).map Percent.unescape := by
  -- The pieces hold no slash, so that splitting gives back what was joined.
  have hjoined : ∀ start rest, pieces path = start ++ rest →
      pieces (['/'].intercalate rest) = trimWhile List.isEmpty rest := by
    intro start rest hsplit
    rw [← segments_eq_pieces, segments_intercalate]
    intro s hs
    have hpiece : s ∈ pieces path := by
      rw [hsplit]
      exact List.mem_append_right _ hs
    exact not_mem_of_mem_pieces hpiece
  rw [below?, Option.map_eq_some_iff]
  simp only [dropBase_eq_some_iff, segments_eq_pieces]
  constructor
  · rintro ⟨rest, ⟨start, hsplit, hkeys⟩, rfl⟩
    exact ⟨start, rest, hsplit, hkeys, by rw [hjoined start rest hsplit]⟩
  · rintro ⟨start, rest, hsplit, hkeys, rfl⟩
    exact ⟨rest, ⟨start, hsplit, hkeys⟩, by rw [hjoined start rest hsplit]⟩

/-- Neither the first nor the last segment below a base is empty. -/
theorem ends_of_below? {base path : Text} {segments : List Text}
    (h : below? base path = some segments) :
    (∀ s ∈ segments.head?, s ≠ []) ∧ ∀ s ∈ segments.getLast?, s ≠ [] := by
  obtain ⟨-, rest, -, -, rfl⟩ := below?_eq_some_iff_joined.mp h
  -- Decoding makes no piece empty.
  rw [← segments_eq_pieces, List.head?_map, List.getLast?_map]
  constructor
  · intro s hs
    obtain ⟨piece, hpiece, rfl⟩ := Option.map_eq_some_iff.mp hs
    exact mt Percent.unescape_eq_nil_iff.mp (head?_segments_ne_nil piece hpiece)
  · intro s hs
    obtain ⟨piece, hpiece, rfl⟩ := Option.map_eq_some_iff.mp hs
    exact mt Percent.unescape_eq_nil_iff.mp (getLast?_segments_ne_nil piece hpiece)

/-- **What follows a base after slashes stands below it**, however many slashes there are.  A base
without pieces needs none. -/
theorem below?_append_slashes {base start : Text}
    (hstart : (pieces start).map key = (pieces base).map key) {n : Nat}
    (hn : 1 ≤ n ∨ pieces base = []) (rest : Text) :
    below? base (start ++ List.replicate n '/' ++ rest)
      = some ((pieces rest).map Percent.unescape) := by
  rw [← segments_eq_pieces, ← segments_eq_pieces] at hstart
  rw [← segments_eq_pieces rest]
  cases n with
  | succ n =>
      rw [List.replicate_succ, List.append_assoc, List.cons_append,
        below?_append_slash hstart, segments_slashes_append fun c hc => List.eq_of_mem_replicate hc]
  | zero =>
      -- The start has no pieces either, so the rest might as well follow a slash.
      have hbase : segments base = [] := (segments_eq_pieces base).trans (hn.resolve_left (by omega))
      rw [hbase, List.map_nil, List.map_eq_nil_iff, segments_eq_pieces, pieces_eq_nil_iff] at hstart
      have hbelow : below? base ([] ++ '/' :: rest) = some ((segments rest).map Percent.unescape) :=
        below?_append_slash (by rw [hbase]; rfl) rest
      have hsame : segments (start ++ rest) = segments ([] ++ '/' :: rest) := by
        rw [segments_slashes_append hstart, List.nil_append]
        exact (segments_slashes_append (s := ['/']) (by simp) rest).symm
      rw [List.replicate_zero, List.append_nil, ← hbelow, below?, hsame, below?]

/-- **Anchoring below a base is exact.**  What follows a base after one slash or more stands below it,
and slashes at the end do not count.  Conversely a path below a base has the pieces of the base, but
for case and escapes, in front, and its segments there are what is left, without empty ones at either
end.  How many slashes follow the base in a path does not matter. -/
theorem below?_exact (base : Text) :
    (∀ rest n m, 1 ≤ n →
      below? base (base ++ List.replicate n '/' ++ rest ++ List.replicate m '/')
        = some ((pieces rest).map Percent.unescape)) ∧
    (∀ path segments, below? base path = some segments →
      segments.head? ≠ some [] ∧ segments.getLast? ≠ some [] ∧
      ∃ start rest, pieces path = start ++ rest ∧ start.map key = (pieces base).map key ∧
        segments = (pieces (['/'].intercalate rest)).map Percent.unescape) ∧
    ∀ start rest n m, (pieces start).map key = (pieces base).map key →
      (1 ≤ n ∧ 1 ≤ m ∨ pieces base = []) →
      below? base (start ++ List.replicate n '/' ++ rest)
        = below? base (start ++ List.replicate m '/' ++ rest) := by
  refine ⟨fun rest n m hn => ?_, fun path segments hbelow => ?_,
    fun start rest n m hstart hslashes => ?_⟩
  · rw [List.append_assoc, below?_append_slashes rfl (Or.inl hn), ← segments_eq_pieces,
      segments_append_slashes (fun c hc => List.eq_of_mem_replicate hc), segments_eq_pieces]
  · obtain ⟨hfirst, hlast⟩ := ends_of_below? hbelow
    exact ⟨fun h => hfirst [] h rfl, fun h => hlast [] h rfl, below?_eq_some_iff_joined.mp hbelow⟩
  · rw [below?_append_slashes hstart (hslashes.imp_left And.left),
      below?_append_slashes hstart (hslashes.imp_left And.right)]

/-- A base with escapes, inner and outer slashes.  The same base stands in the path in another
spelling, and what follows it holds an escaped slash and empty pieces. -/
theorem below?_exact_awkward_slashes :
    let base : Text := "//App//%2f/".toList
    let start : Text := "aPP//%2F".toList
    let rest : Text := "/a//%2Fb%00/".toList
    let segments : List Text := ["a".toList, [], "/b\x00".toList]
    below? base (base ++ List.replicate 2 '/' ++ rest ++ List.replicate 3 '/') = some segments ∧
      (pieces start).map key = (pieces base).map key ∧
      below? base (start ++ List.replicate 1 '/' ++ rest)
        = below? base (start ++ List.replicate 4 '/' ++ rest) ∧
      segments.head? ≠ some [] ∧ segments.getLast? ≠ some [] := by
  intro base start rest segments
  obtain ⟨hfollows, hends, hslashes⟩ := below?_exact base
  have hbelow : below? base (base ++ List.replicate 2 '/' ++ rest ++ List.replicate 3 '/')
      = some segments := hfollows rest 2 3 (by decide)
  have hstart : (pieces start).map key = (pieces base).map key := by decide
  obtain ⟨hfirst, hlast, -⟩ := hends _ _ hbelow
  exact ⟨hbelow, hstart, hslashes start rest 1 4 hstart (Or.inl (by decide)), hfirst, hlast⟩

end UriRouting.Path
