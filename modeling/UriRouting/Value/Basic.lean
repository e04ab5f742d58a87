import UriRouting.Text.Basic
import UriRouting.Decimal.Shortest

/-!
# Values

A caller may hand over anything where a text, a verdict or a switch is expected. `Value` is what can
be handed over; this module says of what kind a value is, whether it counts as true, and when two
values are the same.

## Main Definitions

- `Value`, `Value.Kind`, `Value.kind`.
- `Value.truth`: zero, nothing and what is empty are false, everything else is true.
- `Value.same`: equality of values.
- `Value.unhashable?`: the kind that keeps a value out of a set.

## Design Notes

Numbers are compared by what they stand for, and truth values count as zero and one. What is no
number equals itself, so that every value does. The entries of a mapping may stand in any order.
-/

namespace UriRouting

/-- What a caller can hand over. -/
inductive Value where
  | none
  | bool (b : Bool)
  | int (n : Int)
  | float (x : Float)
  | text (t : Text)
  | bytes (bs : List UInt8)
  | list (items : List Value)
  /-- The keys are pairwise distinct. -/
  | mapping (entries : List (Text × Value))
  deriving Inhabited

namespace Value

/-- The kinds of values. -/
inductive Kind where
  | none | bool | int | float | text | bytes | list | mapping
  deriving DecidableEq, Repr

/-- The name of a kind in messages. -/
def Kind.name : Kind → Text
  | .none => "NoneType".toList
  | .bool => "bool".toList
  | .int => "int".toList
  | .float => "float".toList
  | .text => "str".toList
  | .bytes => "bytes".toList
  | .list => "list".toList
  | .mapping => "dict".toList

/-- The kind of a value. -/
def kind : Value → Kind
  | .none => .none
  | .bool _ => .bool
  | .int _ => .int
  | .float _ => .float
  | .text _ => .text
  | .bytes _ => .bytes
  | .list _ => .list
  | .mapping _ => .mapping

/-- Whether a value counts as true. -/
def truth : Value → Bool
  | .none => false
  | .bool b => b
  | .int n => n != 0
  | .float x => x != 0
  | .text t => !t.isEmpty
  | .bytes bs => !bs.isEmpty
  | .list items => !items.isEmpty
  | .mapping entries => !entries.isEmpty

/-- The integer that a truth value or an integer stands for. -/
def integer? : Value → Option Int
  | .bool b => some (if b then 1 else 0)
  | .int n => some n
  | _ => Option.none

/-- Whether a floating-point number is exactly the given integer. -/
def floatIsInt (x : Float) (n : Int) : Bool :=
  (Binary.ofFloat? x).any (·.isInt n)

mutual

/-- Whether two values are equal. -/
def same : Value → Value → Bool
  | .none, .none => true
  | .text s, .text t => s = t
  | .bytes s, .bytes t => s = t
  | .float x, .float y => x == y || (x.isNaN && y.isNaN)
  | .float x, w => w.integer?.any (floatIsInt x)
  | .list items, .list others => sameItems items others
  | .mapping entries, .mapping others =>
    entries.length = others.length && entriesWithin entries others
  | .bool b, w => match w with
    | .float y => floatIsInt y (if b then 1 else 0)
    | _ => w.integer? = some (if b then 1 else 0)
  | .int n, w => match w with
    | .float y => floatIsInt y n
    | _ => w.integer? = some n
  | _, _ => false

/-- Whether two lists hold equal values in the same order. -/
def sameItems : List Value → List Value → Bool
  | [], [] => true
  | v :: items, w :: others => same v w && sameItems items others
  | _, _ => false

/-- Whether every entry of the first list has an equal one in the second. -/
def entriesWithin : List (Text × Value) → List (Text × Value) → Bool
  | [], _ => true
  | (k, v) :: entries, others =>
    (match others.lookup k with
      | some w => same v w
      | Option.none => false) && entriesWithin entries others

end

/-- The kind that keeps a value out of a set: lists and mappings have no fixed identity. -/
def unhashable? : Value → Option Kind
  | .list _ => some .list
  | .mapping _ => some .mapping
  | _ => Option.none

end Value

end UriRouting
