import UriRouting.Proofs.Matching
import UriRouting.Proofs.Splitting
import UriRouting.Proofs.Tokens

/-!
# What a match means

A match is a chain of trimming, splitting, decoding and collecting. Here it is said without that
chain: which pieces of a path have to agree with which, which piece of a query text decides about a
key, and which of several declarations of a name gives it its value.

## Main Definitions

- `Path.Below`: the pieces of a path that follow those of a base.
- `Part.Fits`: what a part requires of a piece as it is written.
- `Query.FirstValue`: the value of the first piece of a query text with a key.
- `Template.PathFits`, `Template.PathHolds`: the path part of a match.
- `Template.QueryHolds`: the query part of a match.
- `Template.Binds`: the value of a name.

## Main Statements

- `Template.outcome?_meaning`: matching decides these relations.
-/

namespace UriRouting

/-! ## The relations -/

/-- The pieces of a path that follow those of a base: as many pieces as the base has stand before
them and are, one by one, the same but for case and escapes. -/
def Path.Below (base path : Text) (rest : List Text) : Prop :=
  ∃ start, pieces path = start ++ rest ∧
    List.Forall₂ (fun b s => CaseFold.fold (Percent.unescape b) = CaseFold.fold (Percent.unescape s))
      (pieces base) start

/-- What a part requires of a piece as it is written: a variable takes any piece that is not empty, a
literal one that stands for its text but for case. -/
def Part.Fits : Part → Text → Prop
  | .literal text, piece => CaseFold.fold (Percent.unescape piece) = CaseFold.fold text
  | .literalValue _, _ => True
  | .variable _, piece => piece ≠ []

/-- The decoded key of a piece of a query text: what stands before its first equals sign. -/
def Query.fieldKey (field : Text) : Text := Percent.unescapeField (Text.cut '=' field).1

/-- The decoded value of a piece of a query text: what stands after its first equals sign. -/
def Query.fieldValue (field : Text) : Text := Percent.unescapeField (Text.cut '=' field).2

/-- A key has a value: the first of the pieces between ampersands that is not empty and has this key
has this value. -/
def Query.FirstValue (q key value : Text) : Prop :=
  ∃ before field after, q.splitOn '&' = before ++ field :: after ∧ field ≠ [] ∧
    fieldKey field = key ∧ fieldValue field = value ∧
    ∀ other ∈ before, other ≠ [] → fieldKey other ≠ key

namespace Template

/-- The segments of a path below a base, without empty ones at either end, fit the parts of a
template one by one. -/
def PathFits (t : Template) (base path : Text) (segments : List Text) : Prop :=
  ∃ rest, Path.Below base path rest ∧ segments = trimWhile List.isEmpty rest ∧
    List.Forall₂ Part.Fits t.path segments

/-- The path part of a match. -/
def PathHolds (t : Template) (base path : Text) : Prop := ∃ segments, t.PathFits base path segments

/-- The query part of a match: every expected literal is the first value of its key. -/
def QueryHolds (t : Template) (q : Text) : Prop :=
  ∀ e ∈ t.query, ∀ text, e.value = .literalValue text → Query.FirstValue q e.key text

/-- The value of a name, given the segments that the path of a template matched. -/
inductive Binds (t : Template) (segments : List Text) (q n : Text) : Text → Prop where
  /-- The last field that declares the name gives it the first value of its key. -/
  | field {before after : List Expectation} {key value : Text}
      (declared : t.query = before ++ ⟨key, .variable n⟩ :: after)
      (last : ∀ e ∈ after, e.value ≠ .variable n) (first : Query.FirstValue q key value) :
      Binds t segments q n value
  /-- If that key is absent, the name has the empty value. -/
  | absent {before after : List Expectation} {key : Text}
      (declared : t.query = before ++ ⟨key, .variable n⟩ :: after)
      (last : ∀ e ∈ after, e.value ≠ .variable n) (absent : ∀ value, ¬ Query.FirstValue q key value) :
      Binds t segments q n []
  /-- A name that no field declares has the decoded segment of its last declaration in the path. -/
  | segment {before after : List (Part × Text)} {segment : Text}
      (undeclared : ∀ e ∈ t.query, e.value ≠ .variable n)
      (declared : t.path.zip segments = before ++ (.variable n, segment) :: after)
      (last : ∀ x ∈ after, x.1 ≠ .variable n) :
      Binds t segments q n (Percent.unescape segment)

end Template

/-! ## The path part -/

/-- The segments below a base are the pieces that follow those of the base. -/
theorem Path.below?_eq_some_iff {base path : Text} {segments : List Text} :
    below? base path = some segments ↔
      ∃ rest, Below base path rest ∧
        segments = (trimWhile List.isEmpty rest).map Percent.unescape := by
  have hkeys : ∀ start : List Text,
      List.Forall₂ (fun b s => CaseFold.fold (Percent.unescape b)
        = CaseFold.fold (Percent.unescape s)) (pieces base) start ↔
      start.map key = (pieces base).map key := by
    intro start
    rw [eq_comm (a := start.map key), ← List.forall₂_eq_eq_eq (α := Text),
      List.forall₂_map_left_iff, List.forall₂_map_right_iff]
    rfl
  simp only [below?, Option.map_eq_some_iff, dropBase_eq_some_iff, segments_eq_pieces, Below, hkeys]
  constructor
  · rintro ⟨rest, hbelow, rfl⟩
    exact ⟨rest, hbelow, rfl⟩
  · rintro ⟨rest, hbelow, rfl⟩
    exact ⟨rest, hbelow, rfl⟩

/-- A piece fits a part exactly if the part admits what it stands for. -/
theorem Part.fits_iff_admits {part : Part} {piece : Text} :
    part.Fits piece ↔ part.Admits (Percent.unescape piece) := by
  rcases part with text | text | name
  · show CaseFold.fold (Percent.unescape piece) = CaseFold.fold text ↔
      CaseFold.fold text = CaseFold.fold (Percent.unescape piece)
    exact eq_comm
  · exact Iff.rfl
  · show piece ≠ [] ↔ Percent.unescape piece ≠ []
    exact not_congr Percent.unescape_eq_nil_iff.symm

/-- The path part of a match, on decoded segments. -/
theorem Template.pathFits_iff {t : Template} {base path : Text} {segments : List Text} :
    t.PathFits base path segments ↔
      (∃ rest, Path.Below base path rest ∧ segments = trimWhile List.isEmpty rest) ∧
        List.Forall₂ Part.Admits t.path (segments.map Percent.unescape) := by
  have hfits : List.Forall₂ Part.Fits t.path segments ↔
      List.Forall₂ Part.Admits t.path (segments.map Percent.unescape) := by
    rw [List.forall₂_map_right_iff]
    exact ⟨fun h => h.imp fun _ _ => Part.fits_iff_admits.mp,
      fun h => h.imp fun _ _ => Part.fits_iff_admits.mpr⟩
  rw [← hfits]
  constructor
  · rintro ⟨rest, hbelow, hsegments, hall⟩
    exact ⟨⟨rest, hbelow, hsegments⟩, hall⟩
  · rintro ⟨⟨rest, hbelow, hsegments⟩, hall⟩
    exact ⟨rest, hbelow, hsegments, hall⟩

/-- The path part of a match holds exactly if the decoded segments are admitted. -/
theorem Template.pathHolds_iff {t : Template} {base path : Text} :
    t.PathHolds base path ↔
      ∃ segments, Path.below? base path = some segments ∧
        List.Forall₂ Part.Admits t.path segments := by
  constructor
  · rintro ⟨segments, hfits⟩
    obtain ⟨⟨rest, hbelow, rfl⟩, hadmits⟩ := pathFits_iff.mp hfits
    exact ⟨_, Path.below?_eq_some_iff.mpr ⟨rest, hbelow, rfl⟩, hadmits⟩
  · rintro ⟨decoded, hbelow, hadmits⟩
    obtain ⟨rest, hrest, rfl⟩ := Path.below?_eq_some_iff.mp hbelow
    exact ⟨_, pathFits_iff.mpr ⟨⟨rest, hrest, rfl⟩, hadmits⟩⟩

/-! ## The query part -/

/-- The first value of a key is that of the first piece with this key. -/
theorem Query.firstValue?_table_eq_some_iff {q key value : Text} :
    firstValue? (table q) key = some value ↔ FirstValue q key value := by
  have hpairs : pairs q
      = ((q.splitOn '&').filter (!·.isEmpty)).map fun f => (fieldKey f, fieldValue f) := by
    rw [pairs, fields, List.map_map]
    rfl
  rw [firstValue?_table, hpairs, List.find?_map, List.find?_filter, Option.map_map,
    Option.map_eq_some_iff]
  simp only [Function.comp_apply, List.find?_eq_some_iff_append]
  constructor
  · rintro ⟨field, ⟨hfield, before, after, hsplit, hbefore⟩, rfl⟩
    simp only [Bool.not_eq_true', List.isEmpty_eq_false_iff, decide_eq_true_eq] at hfield
    refine ⟨before, field, after, hsplit, hfield.1, hfield.2, rfl, ?_⟩
    intro other hother hne
    simpa [hne] using hbefore other hother
  · rintro ⟨before, field, after, hsplit, hne, hkey, rfl, hbefore⟩
    refine ⟨field, ⟨by simp [hne, hkey], before, after, hsplit, ?_⟩, rfl⟩
    intro other hother
    by_cases hempty : other = []
    · simp [hempty]
    · simp [hempty, hbefore other hother hempty]

/-- The query part of a match, on the table of a query text. -/
theorem Template.queryHolds_iff {t : Template} {q : Text} :
    t.QueryHolds q ↔ Query.Met t.query (Query.table q) := by
  unfold QueryHolds Query.Met
  simp only [Query.firstValue?_table_eq_some_iff]

/-! ## The value of a name -/

theorem Part.name?_eq_some_iff {part : Part} {n : Text} :
    part.name? = some n ↔ part = .variable n := by
  rcases part with text | text | name <;> simp [name?]

/-- The first hit from the end is the last hit. -/
theorem find?_reverse_eq_some_iff {α : Type} {p : α → Bool} {l : List α} {a : α} :
    l.reverse.find? p = some a ↔
      p a ∧ ∃ before after, l = before ++ a :: after ∧ ∀ b ∈ after, p b = false := by
  rw [List.find?_eq_some_iff_append]
  refine and_congr_right fun _ => ?_
  constructor
  · rintro ⟨before, after, hsplit, hbefore⟩
    refine ⟨after.reverse, before.reverse, ?_, ?_⟩
    · rw [← List.reverse_reverse l, hsplit]
      simp
    · intro b hb
      simpa using hbefore b (List.mem_reverse.mp hb)
  · rintro ⟨before, after, rfl, hafter⟩
    refine ⟨after.reverse, before.reverse, by simp, ?_⟩
    intro b hb
    simp [hafter b (List.mem_reverse.mp hb)]

namespace Template

/-- A field that declares a name last. -/
theorem find?_query_eq_some_iff {t : Template} {n : Text} {e : Expectation} :
    (t.query.reverse.find? fun e => e.value.name? = some n) = some e ↔
      e.value = .variable n ∧ ∃ before after, t.query = before ++ e :: after ∧
        ∀ e ∈ after, e.value ≠ .variable n := by
  rw [find?_reverse_eq_some_iff]
  simp only [decide_eq_true_eq, decide_eq_false_iff_not, Part.name?_eq_some_iff]

/-- A segment that declares a name last. -/
theorem find?_path_eq_some_iff {l : List (Part × Text)} {n v : Text} :
    ((l.reverse.find? fun x => x.1.name? = some n).map fun x => Percent.unescape x.2) = some v ↔
      ∃ before segment after, l = before ++ (.variable n, segment) :: after ∧
        (∀ x ∈ after, x.1 ≠ .variable n) ∧ Percent.unescape segment = v := by
  rw [Option.map_eq_some_iff]
  simp only [find?_reverse_eq_some_iff, decide_eq_true_eq, decide_eq_false_iff_not,
    Part.name?_eq_some_iff]
  constructor
  · rintro ⟨⟨part, segment⟩, ⟨rfl, before, after, hsplit, hafter⟩, rfl⟩
    exact ⟨before, segment, after, hsplit, hafter, rfl⟩
  · rintro ⟨before, segment, after, hsplit, hafter, rfl⟩
    exact ⟨(.variable n, segment), ⟨rfl, before, after, hsplit, hafter⟩, rfl⟩

/-- No field declares a name that is not found. -/
theorem ne_variable_of_find?_query_eq_none {t : Template} {n : Text}
    (h : (t.query.reverse.find? fun e => e.value.name? = some n) = none) :
    ∀ e ∈ t.query, e.value ≠ .variable n := by
  intro e he hvalue
  have hnone := List.find?_eq_none.mp h e (List.mem_reverse.mpr he)
  exact hnone (by simp [Part.name?_eq_some_iff, hvalue])

/-- The value of a name that a field declares. -/
theorem binds_iff_of_field {t : Template} {segments : List Text} {q n v : Text} {e : Expectation}
    (h : (t.query.reverse.find? fun e => e.value.name? = some n) = some e) :
    t.Binds segments q n v ↔ (Query.firstValue? (Query.table q) e.key).getD [] = v := by
  obtain ⟨hvalue, before, after, hsplit, hafter⟩ := find?_query_eq_some_iff.mp h
  obtain ⟨key, value⟩ := e
  cases hvalue
  constructor
  · intro hbinds
    -- The last declaration is unique, so it is the one that was found.
    have hsame : ∀ {before after : List Expectation} {key' : Text},
        t.query = before ++ ⟨key', .variable n⟩ :: after →
        (∀ e ∈ after, e.value ≠ .variable n) → key = key' := by
      intro before after key' declared last
      have hfound := find?_query_eq_some_iff.mpr ⟨rfl, before, after, declared, last⟩
      rw [h] at hfound
      simpa using hfound
    cases hbinds with
    | field declared last first =>
        rw [hsame declared last, Query.firstValue?_table_eq_some_iff.mpr first, Option.getD_some]
    | @absent _ _ key' declared last absent =>
        rw [hsame declared last]
        cases hfirst : Query.firstValue? (Query.table q) key' with
        | some value => exact absurd (Query.firstValue?_table_eq_some_iff.mp hfirst) (absent value)
        | none => rfl
    | segment undeclared declared last =>
        exact absurd rfl (undeclared ⟨key, .variable n⟩ (by rw [hsplit]; simp))
  · rintro rfl
    dsimp only
    cases hfirst : Query.firstValue? (Query.table q) key with
    | some value => exact .field hsplit hafter (Query.firstValue?_table_eq_some_iff.mp hfirst)
    | none =>
        refine .absent hsplit hafter fun value hvalue => ?_
        rw [Query.firstValue?_table_eq_some_iff.mpr hvalue] at hfirst
        exact absurd hfirst (by simp)

/-- The value of a name that no field declares. -/
theorem binds_iff_of_undeclared {t : Template} {segments : List Text} {q n v : Text}
    (h : ∀ e ∈ t.query, e.value ≠ .variable n) :
    t.Binds segments q n v ↔
      (((t.path.zip segments).reverse.find? fun x => x.1.name? = some n).map fun x =>
        Percent.unescape x.2) = some v := by
  rw [find?_path_eq_some_iff]
  constructor
  · intro hbinds
    cases hbinds with
    | @field _ _ key _ declared last first =>
        exact absurd rfl (h ⟨key, .variable n⟩ (by rw [declared]; simp))
    | @absent _ _ key declared last absent =>
        exact absurd rfl (h ⟨key, .variable n⟩ (by rw [declared]; simp))
    | segment undeclared declared last => exact ⟨_, _, _, declared, last, rfl⟩
  · rintro ⟨before, segment, after, declared, last, rfl⟩
    exact .segment h declared last

/-- **The captures of a match bind a name as the declarations say.** -/
theorem get?_outcome_eq_some_iff {t : Template} {base path q : Text} {segments : List Text}
    (hfits : t.PathFits base path segments) {n v : Text} :
    (t.outcome base ⟨path, Query.table q⟩).verdict.captures.get? n = some v ↔
      t.Binds segments q n v := by
  obtain ⟨⟨rest, hbelow, hrest⟩, hadmits⟩ := pathFits_iff.mp hfits
  have hdecoded : Path.below? base path = some (segments.map Percent.unescape) :=
    Path.below?_eq_some_iff.mpr ⟨rest, hbelow, by rw [hrest]⟩
  rw [get?_outcome hdecoded hadmits n]
  cases hquery : t.query.reverse.find? fun e => e.value.name? = some n with
  | some e => rw [binds_iff_of_field hquery, Option.map_some, Option.some_or, Option.some.injEq]
  | none =>
      rw [binds_iff_of_undeclared (ne_variable_of_find?_query_eq_none hquery), Option.map_none,
        Option.none_or, List.zip_map_right, ← List.map_reverse, List.find?_map, Option.map_map]
      rfl

/-! ## The meaning of a match -/

/-- **What a match means.**  For a base and a request that are given in parts there is always an
outcome.  It is on the path exactly if the path part holds, and successful exactly if the query part
holds as well; off the path nothing is captured, and on it exactly the declared names are bound, each
to the value that its last declaration gives it. -/
theorem outcome?_meaning (t : Template) (base request : Parts) :
    ∃ o, t.outcome? (.split base) (.split request) = .ok o ∧
      t.verdict? (.split base) (.split request) = .ok o.verdict ∧
      ((∃ captures unmet, o = .onPath captures unmet) ↔ t.PathHolds base.path request.path) ∧
      (o.verdict.success = true ↔
        t.PathHolds base.path request.path ∧ t.QueryHolds request.query) ∧
      (t.PathHolds base.path request.path ∨ o.verdict.captures = ∅) ∧
      (∀ n, (o.verdict.captures.get? n).isSome = true ↔
        t.PathHolds base.path request.path ∧ n ∈ t.variableNames) ∧
      ∀ n v, o.verdict.captures.get? n = some v ↔
        ∃ segments, t.PathFits base.path request.path segments ∧
          t.Binds segments request.query n v := by
  refine ⟨_, outcome?_split t base request, by rw [verdict?, outcome?_split]; rfl, ?_⟩
  have hsuccess :
      (t.outcome base.path ⟨request.path, Query.table request.query⟩).verdict.success = true ↔
        t.PathHolds base.path request.path ∧ t.QueryHolds request.query := by
    rw [pathHolds_iff, queryHolds_iff]
    exact success_outcome_iff
  -- Off the path nothing is captured and no segments fit, so every clause holds for no name.
  by_cases hholds : t.PathHolds base.path request.path
  · obtain ⟨segments, hfits⟩ := id hholds
    obtain ⟨decoded, hbelow, hadmits⟩ := pathHolds_iff.mp hholds
    refine ⟨?_, hsuccess, Or.inl hholds, fun n => ?_, fun n v => ?_⟩
    · rw [outcome_of_admits hbelow hadmits]
      exact ⟨fun _ => hholds, fun _ => ⟨_, _, rfl⟩⟩
    · rw [isSome_get?_outcome_iff hbelow hadmits n, and_iff_right hholds]
    · constructor
      · intro hv
        exact ⟨segments, hfits, (get?_outcome_eq_some_iff hfits).mp hv⟩
      · rintro ⟨segments', hfits', hbinds⟩
        exact (get?_outcome_eq_some_iff hfits').mpr hbinds
  · obtain ⟨mismatch, hoff⟩ :
        ∃ mismatch, t.outcome base.path ⟨request.path, Query.table request.query⟩
          = .offPath mismatch :=
      outcome_of_not_admits (mt pathHolds_iff.mpr hholds)
    rw [hoff] at hsuccess ⊢
    refine ⟨?_, hsuccess, Or.inr rfl, fun n => ?_, fun n v => ?_⟩
    · constructor
      · rintro ⟨captures, unmet, h⟩
        exact absurd h (by simp)
      · intro h
        exact absurd h hholds
    · exact ⟨fun h => absurd h Bool.false_ne_true, fun h => absurd h.1 hholds⟩
    · constructor
      · intro h
        exact absurd h (by simp [Outcome.verdict, Verdict.failed])
      · rintro ⟨segments, hfits, -⟩
        exact absurd ⟨segments, hfits⟩ hholds

end Template

end UriRouting
