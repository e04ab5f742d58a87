import Mathlib.Logic.Relation
import UriRouting.Proofs.QueryTexts

/-!
# First values

Of the query of a request a match sees the first value of each key that the template names, and
nothing else. So two requests that agree on these values, and on their paths, have the same verdict:
their queries may hold other keys, give the named ones further values and order their pieces in other
ways.

## Main Definitions

- `Query.firstAmong`: the first value of a key in a list of pieces.
- `Query.Change`: a change of the pieces of a query that is not seen when the given keys are named.

## Main Statements

- `Query.firstAmong_eq_of_change`, `Query.firstAmong_eq_of_eqvGen`: what one change keeps, and what
  any number of changes keeps.
- `Template.outcome_congr_firstValues`: an outcome is decided by path and first values.
- `Template.verdict?_of_same_firstValues`: two requests with the same first values.
-/

namespace UriRouting

/-! ## Changes of a query -/

namespace Query

/-- The value that a piece gives a key, if it counts and has this key. -/
def valueUnder? (key field : Text) : Option Text :=
  if field ≠ [] ∧ fieldKey field = key then some (fieldValue field) else none

/-- The first value that a list of pieces gives a key. -/
def firstAmong (key : Text) (l : List Text) : Option Text := l.findSome? (valueUnder? key)

/-- One change of the pieces of a query that is not seen as long as only the given keys are named. -/
inductive Change (named : Text → Prop) : List Text → List Text → Prop where
  /-- Two neighbours with different keys change places. -/
  | swap {before after : List Text} {f g : Text} (h : fieldKey f ≠ fieldKey g) :
      Change named (before ++ f :: g :: after) (before ++ g :: f :: after)
  /-- A piece is added whose key is not named. -/
  | unnamed {before after : List Text} {f : Text} (h : ¬ named (fieldKey f)) :
      Change named (before ++ after) (before ++ f :: after)
  /-- A piece is added somewhere behind a piece with the same key. -/
  | repeated {before after : List Text} {f g : Text} (hg : g ∈ before) (hfilled : g ≠ [])
      (hkey : fieldKey g = fieldKey f) : Change named (before ++ after) (before ++ f :: after)
  /-- An empty piece is added. -/
  | blank {before after : List Text} : Change named (before ++ after) (before ++ [] :: after)

variable {named : Text → Prop} {key : Text} {l l' : List Text}

theorem firstAmong_append (key : Text) (l m : List Text) :
    firstAmong key (l ++ m) = (firstAmong key l).or (firstAmong key m) :=
  List.findSome?_append

theorem firstAmong_cons (key f : Text) (l : List Text) :
    firstAmong key (f :: l) = (valueUnder? key f).or (firstAmong key l) := by
  rw [firstAmong, List.findSome?_cons]
  cases valueUnder? key f <;> rfl

theorem valueUnder?_of_key_ne {f : Text} (h : fieldKey f ≠ key) : valueUnder? key f = none :=
  if_neg fun hf => h hf.2

/-- A key that one of the pieces has is given a value. -/
theorem isSome_firstAmong {g : Text} (hg : g ∈ l) (hfilled : g ≠ []) :
    (firstAmong (fieldKey g) l).isSome = true := by
  rw [firstAmong, List.findSome?_isSome_iff]
  exact ⟨g, hg, by simp [valueUnder?, hfilled]⟩

/-- **A change keeps the first value of every named key.** -/
theorem firstAmong_eq_of_change (h : Change named l l') (hkey : named key) :
    firstAmong key l = firstAmong key l' := by
  cases h with
  | @swap before after f g h =>
      -- The key is not that of both, so one of the two pieces gives it nothing.
      simp only [firstAmong_append, firstAmong_cons]
      by_cases hf : fieldKey f = key
      · rw [valueUnder?_of_key_ne (f := g) fun hg => h (hf.trans hg.symm), Option.none_or,
          Option.none_or]
      · rw [valueUnder?_of_key_ne hf, Option.none_or, Option.none_or]
  | @unnamed before after f h =>
      have hne : fieldKey f ≠ key := by
        rintro rfl
        exact h hkey
      rw [firstAmong_append, firstAmong_append, firstAmong_cons, valueUnder?_of_key_ne hne,
        Option.none_or]
  | @repeated before after f g hg hfilled hsame =>
      rw [firstAmong_append, firstAmong_append, firstAmong_cons]
      by_cases hf : fieldKey f = key
      · obtain ⟨value, hvalue⟩ := Option.isSome_iff_exists.mp (isSome_firstAmong hg hfilled)
        rw [hsame, hf] at hvalue
        rw [hvalue, Option.some_or, Option.some_or]
      · rw [valueUnder?_of_key_ne hf, Option.none_or]
  | blank =>
      rw [firstAmong_append, firstAmong_append, firstAmong_cons]
      rfl

/-- Any number of changes, made or taken back, keeps the first value of every named key. -/
theorem firstAmong_eq_of_eqvGen (h : Relation.EqvGen (Change named) l l') (hkey : named key) :
    firstAmong key l = firstAmong key l' := by
  induction h with
  | rel _ _ hchange => exact firstAmong_eq_of_change hchange hkey
  | refl => rfl
  | symm _ _ _ ih => exact ih.symm
  | trans _ _ _ _ _ ih ih' => exact ih.trans ih'

/-- The first value of a key in a query text is that among its pieces. -/
theorem firstValue?_table_eq_firstAmong (q key : Text) :
    firstValue? (table q) key = firstAmong key (q.splitOn '&') := by
  rw [firstValue?_table_eq_find?, pieces]
  induction q.splitOn '&' with
  | nil => rfl
  | cons f l ih =>
      rw [firstAmong_cons, ← ih]
      by_cases hfilled : f = []
      · simp [hfilled, valueUnder?]
      · by_cases hf : fieldKey f = key <;> simp [hfilled, hf, valueUnder?]

/-! ## What a match sees of a query -/

theorem capture?_congr {query query' : Table (List Text)} {e : Expectation}
    (h : firstValue? query e.key = firstValue? query' e.key) :
    capture? query e = capture? query' e := by
  rw [capture?, h, capture?]

theorem mismatch?_congr {query query' : Table (List Text)} {e : Expectation}
    (h : firstValue? query e.key = firstValue? query' e.key) :
    mismatch? query e = mismatch? query' e := by
  obtain ⟨k, value⟩ := e
  rcases value with text | text | name
  · rfl
  · simp only [mismatch?, h]
  · rfl

end Query

/-- The target of a request whose parts are known. -/
theorem Uri.target?_of_parts? {u : Uri} {p : Parts} (h : u.parts? = .ok p) :
    u.target? = .ok ⟨p.path, Query.table p.query⟩ := by
  rw [target?, h]

namespace Template

variable {t : Template}

/-- **An outcome is decided by the path and by the first values of the named keys.** -/
theorem outcome_congr_firstValues {path base : Text} {query query' : Table (List Text)}
    (h : ∀ e ∈ t.query, Query.firstValue? query e.key = Query.firstValue? query' e.key) :
    t.outcome base ⟨path, query⟩ = t.outcome base ⟨path, query'⟩ := by
  have hcaptures : Query.captures t.query query = Query.captures t.query query' :=
    congrArg Table.ofList (List.filterMap_congr fun e he => Query.capture?_congr (h e he))
  have hmismatches : Query.mismatches t.query query = Query.mismatches t.query query' :=
    List.filterMap_congr fun e he => Query.mismatch?_congr (h e he)
  simp only [outcome, hcaptures, hmismatches]

/-- Two requests with the same path and the same first values have the same verdict. -/
theorem verdict?_congr_firstValues (base : Uri) {request request' : Uri} {p p' : Parts}
    (hrequest : request.parts? = .ok p) (hrequest' : request'.parts? = .ok p')
    (hpath : p.path = p'.path)
    (h : ∀ e ∈ t.query, Query.firstValue? (Query.table p.query) e.key
      = Query.firstValue? (Query.table p'.query) e.key) :
    t.verdict? base request = t.verdict? base request' := by
  rw [verdict?, verdict?, outcome?, outcome?, Uri.target?_of_parts? hrequest,
    Uri.target?_of_parts? hrequest']
  simp only [hpath, outcome_congr_firstValues h]

/-- **Only the first values of the named keys matter.**  If two requests have the same path, and each
key that the template names has the same first value in both queries or none in both, then they have
the same verdict: both fit or both do not, and the same values are captured in the same order.  In
particular this is so if one query comes from the other by any number of changes: by exchanging
neighbours with different keys, and by adding or removing pieces with other keys, later repetitions
and empty pieces. -/
theorem verdict?_of_same_firstValues (t : Template) (base : Uri) {request request' : Uri}
    {p p' : Parts} (hrequest : request.parts? = .ok p) (hrequest' : request'.parts? = .ok p')
    (hpath : p.path = p'.path) :
    ((∀ e ∈ t.query, ∀ value,
        Query.FirstValue p.query e.key value ↔ Query.FirstValue p'.query e.key value) →
      t.verdict? base request = t.verdict? base request') ∧
    (Relation.EqvGen (Query.Change fun key => ∃ e ∈ t.query, e.key = key)
        (p.query.splitOn '&') (p'.query.splitOn '&') →
      t.verdict? base request = t.verdict? base request') ∧
    ∀ b, base.target? = .ok b → ∃ v, t.verdict? base request = .ok v := by
  refine ⟨fun h => ?_, fun h => ?_, fun b hbase => ?_⟩
  · refine verdict?_congr_firstValues base hrequest hrequest' hpath fun e he => Option.ext fun v => ?_
    rw [Query.firstValue?_table_eq_some_iff, Query.firstValue?_table_eq_some_iff]
    exact h e he v
  · refine verdict?_congr_firstValues base hrequest hrequest' hpath fun e he => ?_
    rw [Query.firstValue?_table_eq_firstAmong, Query.firstValue?_table_eq_firstAmong]
    exact Query.firstAmong_eq_of_eqvGen h ⟨e, he, rfl⟩
  · exact ⟨_, verdict?_of_target? hbase (Uri.target?_of_parts? hrequest)⟩

/-- A request with its values written in other ways, and one whose pieces have changed places while
others came in: one with a key that is not named, an empty one and a later repetition. -/
theorem verdict?_of_same_firstValues_rearranged :
    let t : Template := ⟨"/\x7bid\x7d?k=1&x=\x7bx\x7d&y=\x7bid\x7d".toList⟩
    let base : Uri := .text "http://h/app".toList
    let request : Uri := .text "http://h/app/7?%6b=1&x=%C3%A9".toList
    let spelled : Uri := .text "/app/7?x=é&k=%31&k=2".toList
    let changed : Uri := .text "//g/app/7?&x=%C3%A9&b=7&%6b=1&+x=&x=8#k".toList
    let p : Parts := ⟨"http".toList, ['h'], "/app/7".toList, "%6b=1&x=%C3%A9".toList, []⟩
    let p' : Parts := ⟨[], [], "/app/7".toList, "x=é&k=%31&k=2".toList, []⟩
    let p'' : Parts :=
      ⟨[], ['g'], "/app/7".toList, "&x=%C3%A9&b=7&%6b=1&+x=&x=8".toList, ['k']⟩
    request.parts? = .ok p ∧ spelled.parts? = .ok p' ∧ changed.parts? = .ok p'' ∧
      p.path = p'.path ∧ p.path = p''.path ∧
      (∀ e ∈ t.query, ∀ value,
        Query.FirstValue p.query e.key value ↔ Query.FirstValue p'.query e.key value) ∧
      Relation.EqvGen (Query.Change fun key => ∃ e ∈ t.query, e.key = key)
        (p.query.splitOn '&') (p''.query.splitOn '&') ∧
      (∃ v, t.verdict? base request = .ok v) ∧
      t.verdict? base request = t.verdict? base spelled ∧
      t.verdict? base request = t.verdict? base changed := by
  intro t base request spelled changed p p' p''
  have hrequest : request.parts? = .ok p := by rfl
  have hspelled : spelled.parts? = .ok p' := by rfl
  have hchanged : changed.parts? = .ok p'' := by rfl
  have hvalues : ∀ e ∈ t.query, ∀ value,
      Query.FirstValue p.query e.key value ↔ Query.FirstValue p'.query e.key value := by
    have hfirst : ∀ e ∈ t.query, Query.firstValue? (Query.table p.query) e.key
        = Query.firstValue? (Query.table p'.query) e.key := by decide
    intro e he value
    rw [← Query.firstValue?_table_eq_some_iff, ← Query.firstValue?_table_eq_some_iff, hfirst e he]
  have hchanges : Relation.EqvGen (Query.Change fun key => ∃ e ∈ t.query, e.key = key)
      (p.query.splitOn '&') (p''.query.splitOn '&') := by
    let k : Text := "%6b=1".toList
    let x : Text := "x=%C3%A9".toList
    let b : Text := "b=7".toList
    let c : Text := "+x=".toList
    let y : Text := "x=8".toList
    have hsplit : p.query.splitOn '&' = [k, x] := by decide
    have hsplit' : p''.query.splitOn '&' = [[], x, b, k, c, y] := by decide
    rw [hsplit, hsplit']
    refine .trans _ [x, k] _ (.rel _ _ (@Query.Change.swap _ [] [] k x (by decide))) ?_
    refine .trans _ [x, b, k] _ (.rel _ _ (@Query.Change.unnamed _ [x] [k] b (by decide))) ?_
    refine .trans _ [x, b, k, c] _ (.rel _ _ (@Query.Change.unnamed _ [x, b, k] [] c (by decide))) ?_
    refine .trans _ [[], x, b, k, c] _ (.rel _ _ (@Query.Change.blank _ [] [x, b, k, c])) ?_
    exact .rel _ _ (@Query.Change.repeated _ [[], x, b, k, c] [] y x (by decide) (by decide)
      (by decide))
  obtain ⟨hsame, -, hverdict⟩ := verdict?_of_same_firstValues t base hrequest hspelled rfl
  obtain ⟨-, hsame', -⟩ := verdict?_of_same_firstValues t base hrequest hchanged rfl
  exact ⟨hrequest, hspelled, hchanged, rfl, rfl, hvalues, hchanges, hverdict _ rfl, hsame hvalues,
    hsame' hchanges⟩

end Template

end UriRouting
