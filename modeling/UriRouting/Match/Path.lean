import UriRouting.Template.Basic
import UriRouting.Text.Quoted

/-!
# Matching a path

A path is matched below a base path. It must have as many segments there as are expected; literals
are compared without regard to case, and a variable captures its segment, which must not be empty.

## Main Definitions

- `PathMismatch`: why a path does not match, and `PathMismatch.message`.
- `Path.capture`: the captures of a path, or the first mismatch.
-/

namespace UriRouting

/-- Why a path does not match. -/
inductive PathMismatch where
  | notBelow (base path : Text)
  | segmentCount (base path : Text) (found expected : Nat)
  | emptySegment (name : Text)
  | segment (actual expected : Text)
  deriving DecidableEq, Repr

/-- A number in decimal digits. -/
def PathMismatch.number (n : Nat) : Text := Nat.toDigits 10 n

/-- The wording of a mismatch. -/
def PathMismatch.message : PathMismatch → Text
  | .notBelow base path => path ++ " is not under base path ".toList ++ base
  | .segmentCount base path found expected =>
    path ++ " has ".toList ++ number found ++ " segment(s) below ".toList ++ base ++
      ", expected ".toList ++ number expected
  | .emptySegment name => "Empty segment for variable ".toList ++ name
  | .segment actual expected =>
    "Segment ".toList ++ Quoted.encode actual ++ " does not match ".toList ++ Quoted.encode expected

namespace Path

/-- Adds the captures of segments, each under what is expected of it, up to the first mismatch. A
literal value expects nothing of a segment. -/
def captureSegments (captures : Table Text) :
    List (Part × Text) → Except PathMismatch (Table Text)
  | [] => .ok captures
  | (.variable name, actual) :: rest =>
    if actual.isEmpty then .error (.emptySegment name)
    else captureSegments (captures.put name actual) rest
  | (.literal expected, actual) :: rest =>
    if CaseFold.fold expected = CaseFold.fold actual then captureSegments captures rest
    else .error (.segment actual expected)
  | (.literalValue _, _) :: rest => captureSegments captures rest

/-- The captures of a path below a base path, or why it does not match. -/
def capture (pattern : List Part) (base path : Text) : Except PathMismatch (Table Text) :=
  match below? base path with
  | none => .error (.notBelow base path)
  | some segments =>
    if segments.length = pattern.length then captureSegments ∅ (pattern.zip segments)
    else .error (.segmentCount base path segments.length pattern.length)

end Path

end UriRouting
