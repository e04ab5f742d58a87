import UriRouting.Template.Basic
import UriRouting.Text.Quoted

/-!
# Matching a query

Only the first value of a key counts. A literal value is required and compared as it is; a variable
captures the value, or the empty text where the key is absent. Nothing else in a query matters.

## Main Definitions

- `Query.firstValue?`: the value of a key that counts.
- `Query.captures`: the captures of the expected variables, whether the literals match or not.
- `QueryMismatch`, `Query.mismatches`: the literals that do not match, in the order of the
  expectations.

## Main Statements

- `Query.firstValue?_table`: the first value of a key is that of the first pair with the key.
-/

namespace UriRouting

/-- An expected literal value and what stands in its place. -/
structure QueryMismatch where
  key : Text
  actual : Option Text
  expected : Text
  deriving DecidableEq, Repr

/-- The wording of a mismatch. -/
def QueryMismatch.message (m : QueryMismatch) : Text :=
  "Query parameter ".toList ++ m.key ++ '=' :: (m.actual.map Quoted.encode).getD "None".toList ++
    " does not match ".toList ++ Quoted.encode m.expected

namespace Query

/-- The first value of a key. -/
def firstValue? (query : Table (List Text)) (key : Text) : Option Text :=
  (query.get? key).bind List.head?

/-- What an expectation captures: a variable captures the first value of its key. -/
def capture? (query : Table (List Text)) (e : Expectation) : Option (Text × Text) :=
  e.value.name?.map fun name => (name, (firstValue? query e.key).getD [])

/-- The captures of the expected variables; of several for one name the last one counts. -/
def captures (pattern : List Expectation) (query : Table (List Text)) : Table Text :=
  Table.ofList (pattern.filterMap (capture? query))

/-- The mismatch of an expectation: a literal value that the first value of its key differs from. A
literal segment expects nothing of a field. -/
def mismatch? (query : Table (List Text)) (e : Expectation) : Option QueryMismatch :=
  match e.value with
  | .literalValue expected =>
    let actual := firstValue? query e.key
    if actual = some expected then none else some ⟨e.key, actual, expected⟩
  | _ => none

/-- The literals that do not match, in the order of the expectations. -/
def mismatches (pattern : List Expectation) (query : Table (List Text)) : List QueryMismatch :=
  pattern.filterMap (mismatch? query)

/-- One more pair gives its key a first value if it had none. -/
theorem firstValue?_addValue (t : Table (List Text)) (pair : Text × Text) (key : Text) :
    firstValue? (addValue t pair) key =
      (firstValue? t key).or (if pair.1 = key then some pair.2 else none) := by
  by_cases h : key = pair.1
  · subst h
    cases hget : t.get? pair.1 with
    | none => simp [firstValue?, addValue, Table.get?_put, hget]
    | some values => cases values <;> simp [firstValue?, addValue, Table.get?_put, hget]
  · have h' : pair.1 ≠ key := fun e => h e.symm
    simp [firstValue?, addValue, Table.get?_put, h, h']

/-- The first value of a key in a query text is that of the first pair with the key. -/
theorem firstValue?_table (q key : Text) :
    firstValue? (table q) key = ((pairs q).find? (·.1 = key)).map Prod.snd := by
  have hfold : ∀ (l : List (Text × Text)) (t : Table (List Text)),
      firstValue? (l.foldl addValue t) key =
        (firstValue? t key).or ((l.find? (·.1 = key)).map Prod.snd) := by
    intro l
    induction l with
    | nil => simp
    | cons pair l ih =>
      intro t
      rw [List.foldl_cons, ih, firstValue?_addValue, Option.or_assoc]
      by_cases h : pair.1 = key <;> simp [h]
  have hempty : firstValue? (∅ : Table (List Text)) key = none := rfl
  rw [table, hfold, hempty, Option.none_or]

end Query

end UriRouting
