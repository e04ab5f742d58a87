import UriRouting.Text.Basic

/-!
# Tables

A table binds names to values and keeps the names in the order of their first arrival: binding a
name again changes its value and not its place.

## Main Definitions

- `Table`: entries with pairwise distinct names.
- `Table.put`, `Table.putAll`, `Table.ofList`: binding names.
- `Table.get?`, `Table.names`: reading.
- `Table.sameBindings`: whether two tables bind the same names to equal values, in any order.

## Main Statements

- `Table.get?_put` and `Table.names_put` describe `Table.put` through the two readings.
-/

namespace UriRouting

/-- Bindings of distinct names, in the order in which the names arrived. -/
@[ext] structure Table (α : Type) where
  entries : List (Text × α)
  distinct : (entries.map Prod.fst).Nodup

namespace Table

variable {α : Type}

/-- The entries after binding a name: in place if it is there, else at the end. -/
def putEntry (name : Text) (value : α) : List (Text × α) → List (Text × α)
  | [] => [(name, value)]
  | entry :: rest =>
    if entry.1 = name then (name, value) :: rest else entry :: putEntry name value rest

/-- Binding a name keeps the names, and adds this one at the end if it is new. -/
theorem map_fst_putEntry (name : Text) (value : α) (l : List (Text × α)) :
    (putEntry name value l).map Prod.fst =
      if name ∈ l.map Prod.fst then l.map Prod.fst else l.map Prod.fst ++ [name] := by
  induction l with
  | nil => simp [putEntry]
  | cons entry rest ih =>
    by_cases h : entry.1 = name
    · simp [putEntry, h]
    · have h' : name ≠ entry.1 := fun e => h e.symm
      simp only [putEntry, h, if_false, List.map_cons, ih, List.mem_cons, h', false_or]
      split <;> simp

/-- The table that binds nothing. -/
def empty : Table α := ⟨[], by simp⟩

instance : EmptyCollection (Table α) := ⟨empty⟩

/-- Binds a name. -/
def put (t : Table α) (name : Text) (value : α) : Table α where
  entries := putEntry name value t.entries
  distinct := by
    rw [map_fst_putEntry]
    split
    · exact t.distinct
    · next h =>
      refine List.nodup_append.mpr ⟨t.distinct, by simp, ?_⟩
      intro a ha b hb
      rw [List.mem_singleton.mp hb]
      rintro rfl
      exact h ha

/-- Binds the names of a list, from its head on. -/
def putAll (t : Table α) (l : List (Text × α)) : Table α :=
  l.foldl (fun acc entry => acc.put entry.1 entry.2) t

/-- The table of a list of bindings: the first arrival of a name gives its place, the last one its
value. -/
def ofList (l : List (Text × α)) : Table α := putAll empty l

/-- The value that a name is bound to. -/
def get? (t : Table α) (name : Text) : Option α := t.entries.lookup name

/-- The bound names in order of arrival. -/
def names (t : Table α) : List Text := t.entries.map Prod.fst

/-- Whether two tables bind the same names to equal values, in any order. -/
def sameBindings [DecidableEq α] (s t : Table α) : Bool :=
  s.entries.length = t.entries.length && s.entries.all fun entry => t.get? entry.1 = some entry.2

instance [DecidableEq α] : DecidableEq (Table α) := fun s t =>
  decidable_of_iff (s.entries = t.entries) Table.ext_iff.symm

/-- The names after binding one. -/
theorem names_put (t : Table α) (name : Text) (value : α) :
    (t.put name value).names = if name ∈ t.names then t.names else t.names ++ [name] :=
  map_fst_putEntry name value t.entries

/-- A name that was just bound has its new value, and the others keep theirs. -/
theorem get?_put (t : Table α) (name : Text) (value : α) (n : Text) :
    (t.put name value).get? n = if n = name then some value else t.get? n := by
  change (putEntry name value t.entries).lookup n = if n = name then some value else t.entries.lookup n
  generalize t.entries = l
  induction l with
  | nil =>
    by_cases hn : n = name
    · simp [putEntry, hn]
    · simp [putEntry, List.lookup_cons, beq_eq_false_iff_ne.mpr hn, hn]
  | cons entry rest ih =>
    obtain ⟨k, v⟩ := entry
    by_cases hk : k = name
    · by_cases hn : n = name
      · simp [putEntry, hk, hn]
      · simp [putEntry, List.lookup_cons, hk, beq_eq_false_iff_ne.mpr hn, hn]
    · by_cases hn : n = k
      · subst hn
        simp [putEntry, hk]
      · simp only [putEntry, hk, if_false, List.lookup_cons, beq_eq_false_iff_ne.mpr hn, ih]

end Table

end UriRouting
