import UriRouting.Text.Percent
import UriRouting.Table

/-!
# Query texts

A query text is a sequence of fields separated by `&`, each a key and a value separated by the first
`=`. Empty fields do not count; a field without `=` has an empty value.

## Main Definitions

- `Query.fields`: the keys and values as they are written.
- `Query.pairs`: the keys and values that are meant.
- `Query.table`: for each key the values that it is given, in order.
-/

namespace UriRouting.Query

/-- The keys and values of a query text as they are written. -/
def fields (q : Text) : List (Text × Text) :=
  ((q.splitOn '&').filter (!·.isEmpty)).map (Text.cut '=')

/-- The keys and values that a query text means. -/
def pairs (q : Text) : List (Text × Text) :=
  (fields q).map fun (key, value) => (Percent.unescapeField key, Percent.unescapeField value)

/-- Adds a value to those of a key. -/
def addValue (t : Table (List Text)) (pair : Text × Text) : Table (List Text) :=
  t.put pair.1 ((t.get? pair.1).getD [] ++ [pair.2])

/-- The values that each key of a query text is given, in order; the keys are in order of first
appearance. -/
def table (q : Text) : Table (List Text) := (pairs q).foldl addValue ∅

end UriRouting.Query
