import UriRouting.Log.Basic
import UriRouting.Match.Path
import UriRouting.Match.Query

/-!
# Findings

What is reported about a request that does not fit a template: first what is wrong in the path or
the query, then that the template as a whole does not fit.

## Main Definitions

- `Finding`: one thing to report.
- `Finding.record`: the log record of a finding.
-/

namespace UriRouting

/-- One thing to report about a request that does not fit. -/
inductive Finding where
  | path (mismatch : PathMismatch)
  | query (mismatch : QueryMismatch)
  /-- The path of the request does not fit the template with the given source. -/
  | pathRejected (request source : Text)
  /-- The query of the request does not fit the template with the given source. -/
  | queryRejected (request source : Text)
  deriving DecidableEq, Repr

namespace Finding

/-- The logger that reports a finding. -/
def logger : Finding → Text
  | .path _ | .query _ => Log.childName "matching"
  | .pathRejected .. | .queryRejected .. => Log.childName "template"

/-- The wording of a finding. -/
def message : Finding → Text
  | .path mismatch => mismatch.message
  | .query mismatch => mismatch.message
  | .pathRejected request source =>
    "Path of ".toList ++ request ++ " does not match ".toList ++ Quoted.encode source
  | .queryRejected request source =>
    "Query of ".toList ++ request ++ " does not match ".toList ++ Quoted.encode source

/-- The log record of a finding. -/
def record (f : Finding) : Log.Record := ⟨f.logger, .debug, f.message⟩

end Finding

end UriRouting
