import UriRouting.Match.Verdict

/-!
# Objects

The immutable values that a caller can hold: templates, results of matches, parts and expectations.
This module says when two of them are equal, how many different ones a list holds, and how they are
written.

## Main Definitions

- `Object`, `Object.className`.
- `Object.same`: equality; objects of different classes differ.
- `Object.distinct?`: how many different objects a list holds, if all of them can stand in a set.
- `Object.truth?`: whether an object counts as true.
- `Object.render`: the written form of an object.

## Design Notes

A result made by hand may hold anything as its success, so it holds a `Value` and not a truth value.
The order of its captures does not matter for equality.
-/

namespace UriRouting

/-- An immutable value that a caller can hold. -/
inductive Object where
  | template (t : Template)
  | result (success : Value) (captures : Table Text)
  | part (p : Part)
  | expectation (key : Text) (value : Object)

namespace Object

/-- The result that states a verdict. -/
def ofVerdict (v : Verdict) : Object := .result (.bool v.success) v.captures

/-- The name of the class of an object. -/
def className : Object → Text
  | .template _ => "UriTemplate".toList
  | .result .. => "MatchingResult".toList
  | .part (.literal _) => "Literal".toList
  | .part (.literalValue _) => "LiteralValue".toList
  | .part (.variable _) => "Variable".toList
  | .expectation .. => "QueryExpectation".toList

/-- Whether two objects are equal. -/
def same : Object → Object → Bool
  | .template s, .template t => s = t
  | .result success captures, .result success' captures' =>
    success.same success' && captures.sameBindings captures'
  | .part p, .part q => p = q
  | .expectation key value, .expectation key' value' => key = key' && value.same value'
  | _, _ => false

/-- The kind of value that keeps an object out of a set. -/
def unhashable? : Object → Option Value.Kind
  | .result success _ => success.unhashable?
  | .expectation _ value => value.unhashable?
  | _ => none

/-- One object for each class of equal objects in a list. -/
def representatives : List Object → List Object
  | [] => []
  | o :: rest =>
    if (representatives rest).any o.same then representatives rest else o :: representatives rest

/-- How many different objects a list holds, or the first kind of value that keeps one of them out
of a set. -/
def distinct? (objects : List Object) : Except Value.Kind Nat :=
  match objects.findSome? unhashable? with
  | some kind => .error kind
  | none => .ok (representatives objects).length

/-- Whether an object counts as true: a result does if it states success. What is no truth value
does not answer the question. -/
def truth? : Object → Except Value.Kind Bool
  | .result (.bool b) _ => .ok b
  | .result success _ => .error success.kind
  | _ => .ok true

/-- A class name with its fields, each a name and a written form. -/
def renderFields (className : Text) (fields : List (String × Text)) : Text :=
  className ++ '(' ::
    Value.commaSeparated (fields.map fun (name, form) => name.toList ++ '=' :: form) ++ [')']

/-- Captures in written form. -/
def renderCaptures (captures : Table Text) : Text :=
  "mappingproxy(".toList ++
    (Value.mapping (captures.entries.map fun (name, value) => (name, .text value))).render ++ [')']

/-- The written form of an object. -/
def render (o : Object) : Text :=
  renderFields o.className <| match o with
    | .template t => [("template", Quoted.encode t.source)]
    | .result success captures =>
      [("success", success.render), ("variables", renderCaptures captures)]
    | .part (.literal text) | .part (.literalValue text) => [("text", Quoted.encode text)]
    | .part (.variable name) => [("name", Quoted.encode name)]
    | .expectation key value => [("key", Quoted.encode key), ("value", value.render)]

end Object

end UriRouting
