import UriRouting.Match.Finding
import UriRouting.Uri.Basic

/-!
# Matching a request

A template is matched against a request below the path of a base address. The path decides first: if
it does not match, nothing is captured. Otherwise the captures of path and query are kept, whether
the literals of the query match or not, and where both capture a name the query wins.

## Main Definitions

- `Outcome`: how a match ends.
- `Verdict`: whether a request fits, and the captures.
- `Template.outcome`: the outcome for a target below a base path.
- `Template.outcome?`: the outcome for a request below a base address.
- `Outcome.verdict`, `Outcome.findings`: what an outcome says and what it reports.
-/

namespace UriRouting

/-- How a match ends: in the path, or with captures and the literals of the query that do not
match. -/
inductive Outcome where
  | offPath (mismatch : PathMismatch)
  | onPath (captures : Table Text) (unmet : List QueryMismatch)
  deriving DecidableEq

/-- Whether a request fits a template, and what its variables stand for. -/
structure Verdict where
  success : Bool
  captures : Table Text
  deriving DecidableEq

/-- The verdict without captures. -/
def Verdict.failed : Verdict := ⟨false, ∅⟩

/-- The verdict on an outcome: a request fits if no literal of the query is unmet. -/
def Outcome.verdict : Outcome → Verdict
  | .offPath _ => .failed
  | .onPath captures unmet => ⟨unmet.isEmpty, captures⟩

/-- What an outcome reports about a request and a template, in order. A request that fits is not
reported. -/
def Outcome.findings (request source : Text) : Outcome → List Finding
  | .offPath mismatch => [.path mismatch, .pathRejected request source]
  | .onPath _ [] => []
  | .onPath _ unmet => unmet.map .query ++ [.queryRejected request source]

namespace Template

/-- The outcome of matching a target below a base path. -/
def outcome (t : Template) (base : Text) (target : Target) : Outcome :=
  match Path.capture t.path base target.path with
  | .error mismatch => .offPath mismatch
  | .ok captures =>
    .onPath (captures.putAll (Query.captures t.query target.query).entries)
      (Query.mismatches t.query target.query)

/-- The outcome of matching a request below a base address. The base address is read first. -/
def outcome? (t : Template) (base request : Uri) : Except UriError Outcome :=
  match base.target? with
  | .error e => .error e
  | .ok b =>
    match request.target? with
    | .error e => .error e
    | .ok r => .ok (t.outcome b.path r)

/-- The verdict on a request below a base address. -/
def verdict? (t : Template) (base request : Uri) : Except UriError Verdict :=
  (t.outcome? base request).map Outcome.verdict

/-- The findings about a request below a base address. -/
def findings? (t : Template) (base request : Uri) : Except UriError (List Finding) :=
  (t.outcome? base request).map (Outcome.findings request.render t.source)

end Template

end UriRouting
