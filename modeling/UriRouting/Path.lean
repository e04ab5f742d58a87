import UriRouting.Text.Percent
import UriRouting.Text.CaseFold

/-!
# Paths

A path is read as its segments. Slashes at either end do not count, empty segments further inside
do. Two segments are the same when what they stand for differs at most in case.

## Main Definitions

- `Path.segments`: the segments of a path as they are written.
- `Path.key`: what decides whether two segments are the same.
- `Path.below?`: the segments of a path below a base path, decoded.

## Main Statements

- `Path.dropBase_eq_some_iff`: what stands below a base is what remains after a stretch with the
  same keys.
-/

namespace UriRouting.Path

/-- The segments of a path as they are written, without empty ones at either end. -/
def segments (path : Text) : List Text := trimWhile List.isEmpty (path.splitOn '/')

/-- What decides whether two segments are the same: the folding of what they stand for. -/
def key (segment : Text) : Text := CaseFold.fold (Percent.unescape segment)

/-- What remains of a list of segments after the segments of a base, if it starts with them. -/
def dropBase : List Text → List Text → Option (List Text)
  | [], rest => some rest
  | _ :: _, [] => none
  | b :: base, s :: rest => if key b = key s then dropBase base rest else none

/-- The decoded segments of a path below a base path, if it lies there. Slashes right after the base
do not count. -/
def below? (base path : Text) : Option (List Text) :=
  (dropBase (segments base) (segments path)).map fun rest =>
    (trimWhile List.isEmpty rest).map Percent.unescape

/-- What stands below a base is what remains after a stretch with the same keys. -/
theorem dropBase_eq_some_iff {base list rest : List Text} :
    dropBase base list = some rest ↔
      ∃ start, list = start ++ rest ∧ start.map key = base.map key := by
  induction base generalizing list with
  | nil =>
    constructor
    · rintro ⟨⟩
      exact ⟨[], by simp⟩
    · rintro ⟨start, rfl, h⟩
      simp [dropBase, List.map_eq_nil_iff.mp h]
  | cons b base ih =>
    cases list with
    | nil => simp [dropBase]
    | cons s list =>
      constructor
      · intro h
        by_cases hk : key b = key s
        · obtain ⟨start, rfl, hstart⟩ := ih.mp (by simpa [dropBase, hk] using h)
          exact ⟨s :: start, rfl, by simp [hk, hstart]⟩
        · simp [dropBase, hk] at h
      · rintro ⟨start, hlist, hstart⟩
        cases start with
        | nil => simp at hstart
        | cons a start =>
          obtain ⟨rfl, rfl⟩ : s = a ∧ list = start ++ rest := by simpa using hlist
          obtain ⟨hk, hrest⟩ : key s = key b ∧ start.map key = base.map key := by
            simpa using hstart
          simpa [dropBase, hk] using ih.mpr ⟨start, rfl, hrest⟩

end UriRouting.Path
