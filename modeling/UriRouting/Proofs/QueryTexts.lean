import UriRouting.Proofs.Meaning

/-!
# The two readings of a query text

The same text can stand behind the question mark of a template and behind that of a request. There it
lists what is expected, here what is given, and the two are read by different functions. Both see the
same pieces, and both decode them alike, so a query text can be matched with itself: what it expects
is met unless a literal comes after another value of its key.

## Main Definitions

- `Query.pieces`: the pieces of a query text that count.
- `Query.fieldName?`, `Query.expectation`: what a piece declares and expects.
- `Query.Declares`: a query text declares a name.

## Main Statements

- `Query.pairs_eq_map_pieces`, `Template.query_append_mark`: the two readings, piece by piece.
- `Query.firstValue?_table_eq_find?`: the first value of a key among the pieces.
- `Template.query_matches_itself`: a query text that is matched with itself.
-/

namespace UriRouting

/-! ## Pieces -/

namespace Query

/-- The pieces of a query text that count: what stands between ampersands and is not empty. -/
def pieces (q : Text) : List Text := (q.splitOn '&').filter (!·.isEmpty)

/-- The name that a piece declares, if what follows its first equals sign is a token. -/
def fieldName? (field : Text) : Option Text := variableName? (Text.cut '=' field).2

/-- A query text declares a name if one of its pieces does. -/
def Declares (q n : Text) : Prop := ∃ field ∈ pieces q, fieldName? field = some n

instance (q n : Text) : Decidable (Declares q n) :=
  inferInstanceAs (Decidable (∃ field ∈ pieces q, fieldName? field = some n))

/-- What a piece expects when it stands in a template. -/
def expectation (field : Text) : Expectation :=
  ⟨fieldKey field, Part.ofValue (Text.cut '=' field).2⟩

theorem mem_pieces_iff {q field : Text} :
    field ∈ pieces q ↔ field ∈ q.splitOn '&' ∧ field ≠ [] := by
  simp [pieces]

/-- An ampersand keeps the pieces of two query texts apart. -/
theorem pieces_append (q q' : Text) : pieces (q ++ '&' :: q') = pieces q ++ pieces q' := by
  rw [pieces, List.splitOn_append_cons_self, List.filter_append, pieces, pieces]

/-- What a query text gives, piece by piece. -/
theorem pairs_eq_map_pieces (q : Text) :
    pairs q = (pieces q).map fun field => (fieldKey field, fieldValue field) := by
  rw [pairs, fields, List.map_map]
  rfl

/-- A piece expects a variable exactly if it declares its name. -/
theorem name?_expectation (field : Text) : (expectation field).value.name? = fieldName? field := by
  cases h : fieldName? field with
  | none =>
      rw [expectation, Part.ofValue_of_literal h]
      rfl
  | some name =>
      rw [expectation, Part.ofValue_of_token h]
      rfl

/-- A piece expects a literal exactly if it declares no name, and then the value that it would
give. -/
theorem expectation_eq_literalValue_iff {field text : Text} :
    (expectation field).value = .literalValue text ↔
      fieldName? field = none ∧ fieldValue field = text := by
  cases h : fieldName? field with
  | none => simp [expectation, Part.ofValue_of_literal h, fieldValue]
  | some name => simp [expectation, Part.ofValue_of_token h]

/-! ## First values -/

/-- The first value of a key is that of the first piece with the key. -/
theorem firstValue?_table_eq_find? (q key : Text) :
    firstValue? (table q) key = ((pieces q).find? (fieldKey · = key)).map fieldValue := by
  rw [firstValue?_table, pairs_eq_map_pieces, List.find?_map, Option.map_map]
  rfl

/-- The key of a piece has a value. -/
theorem exists_firstValue_of_mem_pieces {q field : Text} (h : field ∈ pieces q) :
    ∃ value, FirstValue q (fieldKey field) value := by
  cases hfound : (pieces q).find? (fieldKey · = fieldKey field) with
  | none => exact absurd (List.find?_eq_none.mp hfound field h) (by simp)
  | some first =>
      refine ⟨fieldValue first, firstValue?_table_eq_some_iff.mp ?_⟩
      rw [firstValue?_table_eq_find?, hfound, Option.map_some]

/-- No key has two first values. -/
theorem FirstValue.unique {q key v w : Text} (hv : FirstValue q key v) (hw : FirstValue q key w) :
    v = w :=
  Option.some.inj ((firstValue?_table_eq_some_iff.mpr hv).symm.trans
    (firstValue?_table_eq_some_iff.mpr hw))

/-- All pieces have the first value of their key exactly if no two of them give one key different
values. -/
theorem forall_firstValue_iff {q : Text} :
    (∀ field ∈ pieces q, FirstValue q (fieldKey field) (fieldValue field)) ↔
      ∀ f ∈ pieces q, ∀ g ∈ pieces q, fieldKey f = fieldKey g → fieldValue f = fieldValue g := by
  constructor
  · intro h f hf g hg hkey
    exact (h f hf).unique (hkey ▸ h g hg)
  · intro h field hfield
    refine firstValue?_table_eq_some_iff.mp (firstValue?_table_of_unique ?_ ?_)
    · rw [pairs_eq_map_pieces]
      exact List.mem_map_of_mem hfield
    · intro w hw
      rw [pairs_eq_map_pieces] at hw
      obtain ⟨other, hother, hpair⟩ := List.mem_map.mp hw
      obtain ⟨hkey, rfl⟩ := Prod.mk.inj hpair
      exact h other hother field hfield hkey

/-! ## Expectations -/

/-- Expected pieces are met exactly if each of them that declares no name has the first value of its
key. -/
theorem met_map_expectation_iff {l : List Text} {q : Text} :
    Met (l.map expectation) (table q) ↔
      ∀ field ∈ l, fieldName? field = none →
        FirstValue q (fieldKey field) (fieldValue field) := by
  rw [Met, List.forall_mem_map]
  refine forall₂_congr fun field _ => ?_
  simp only [expectation_eq_literalValue_iff, firstValue?_table_eq_some_iff]
  exact ⟨fun h hname => h _ ⟨hname, rfl⟩, by rintro h _ ⟨hname, rfl⟩; exact h hname⟩

/-- What expected pieces bind a name to: the first value of the key of the last one that declares
it. -/
theorem get?_captures_map_expectation (l : List Text) (query : Table (List Text)) (n : Text) :
    (captures (l.map expectation) query).get? n
      = (l.reverse.find? fun field => fieldName? field = some n).map fun field =>
          (firstValue? query (fieldKey field)).getD [] := by
  rw [get?_captures, ← List.map_reverse, List.find?_map, Option.map_map]
  simp only [Function.comp_def, name?_expectation]
  rfl

/-- A query text binds a name exactly to the first value of the key of the last piece that declares
it. -/
theorem get?_captures_own_eq_some_iff {q n value : Text} :
    (captures ((pieces q).map expectation) (table q)).get? n = some value ↔
      ∃ before field after, pieces q = before ++ field :: after ∧ fieldName? field = some n ∧
        (∀ other ∈ after, fieldName? other ≠ some n) ∧ FirstValue q (fieldKey field) value := by
  rw [get?_captures_map_expectation, Option.map_eq_some_iff]
  simp only [find?_reverse_eq_some_iff, decide_eq_true_eq, decide_eq_false_iff_not]
  constructor
  · rintro ⟨field, ⟨hname, before, after, hsplit, hafter⟩, rfl⟩
    have hfield : field ∈ pieces q := by
      rw [hsplit]
      simp
    obtain ⟨value, hvalue⟩ := exists_firstValue_of_mem_pieces hfield
    rw [firstValue?_table_eq_some_iff.mpr hvalue]
    exact ⟨before, field, after, hsplit, hname, hafter, hvalue⟩
  · rintro ⟨before, field, after, hsplit, hname, hafter, hvalue⟩
    refine ⟨field, ⟨hname, before, after, hsplit, hafter⟩, ?_⟩
    rw [firstValue?_table_eq_some_iff.mpr hvalue, Option.getD_some]

end Query

namespace Template

/-- What the query text of a template expects, piece by piece. -/
theorem query_eq_map_pieces (t : Template) :
    t.query = (Query.pieces (Text.cut '?' t.source).2).map Query.expectation := by
  rw [query, Query.fields, List.map_map]
  rfl

/-- What a query text expects behind a path. -/
theorem query_append_mark {p : Text} (hp : '?' ∉ p) (q : Text) :
    query ⟨p ++ '?' :: q⟩ = (Query.pieces q).map Query.expectation := by
  rw [query_eq_map_pieces, Text.cut_append_cons hp]

/-- **A query text that is matched with itself.**  What it expects is met exactly if each of its
pieces that declares no name has the first value of its key.  Whether it is met or not, the declared
names are bound, each to the first value of the key of the last piece that declares it.  If no name
is declared, the text is met by itself exactly if it gives no key two different values. -/
theorem query_matches_itself (q : Text) :
    let pattern := query ⟨'?' :: q⟩
    (Query.mismatches pattern (Query.table q) = [] ↔
      ∀ field ∈ Query.pieces q, Query.fieldName? field = none →
        Query.FirstValue q (Query.fieldKey field) (Query.fieldValue field)) ∧
    (∀ n, Query.Declares q n →
      ∃ value, (Query.captures pattern (Query.table q)).get? n = some value) ∧
    (∀ n value, (Query.captures pattern (Query.table q)).get? n = some value ↔
      ∃ before field after, Query.pieces q = before ++ field :: after ∧
        Query.fieldName? field = some n ∧ (∀ other ∈ after, Query.fieldName? other ≠ some n) ∧
        Query.FirstValue q (Query.fieldKey field) value) ∧
    ((∀ field ∈ Query.pieces q, Query.fieldName? field = none) →
      (Query.mismatches pattern (Query.table q) = [] ↔
        ∀ f ∈ Query.pieces q, ∀ g ∈ Query.pieces q,
          Query.fieldKey f = Query.fieldKey g → Query.fieldValue f = Query.fieldValue g)) := by
  intro pattern
  have hpattern : pattern = (Query.pieces q).map Query.expectation :=
    @query_append_mark [] List.not_mem_nil q
  have hmet : Query.mismatches pattern (Query.table q) = [] ↔
      ∀ field ∈ Query.pieces q, Query.fieldName? field = none →
        Query.FirstValue q (Query.fieldKey field) (Query.fieldValue field) := by
    rw [Query.mismatches_eq_nil_iff, hpattern, Query.met_map_expectation_iff]
  refine ⟨hmet, fun n hn => ?_, fun n value => ?_, fun hliterals => ?_⟩
  · obtain ⟨field, hfield, hname⟩ := hn
    rw [hpattern, Query.get?_captures_map_expectation]
    cases hfound : (Query.pieces q).reverse.find? fun field => Query.fieldName? field = some n with
    | none =>
        have hnot := List.find?_eq_none.mp hfound field (List.mem_reverse.mpr hfield)
        exact absurd hname (by simpa using hnot)
    | some last => exact ⟨_, rfl⟩
  · rw [hpattern]
    exact Query.get?_captures_own_eq_some_iff
  · rw [hmet, ← Query.forall_firstValue_iff]
    exact forall₂_congr fun field hfield => forall_prop_of_true (hliterals field hfield)

/-- A name that two pieces declare, keys and values that are the same only when they are decoded,
empty pieces, and pieces without an equals sign or with several of them. -/
theorem query_matches_itself_awkward_texts :
    let q : Text :=
      "a=1&&%61=\x7bx\x7d&b+c=%zz&b%20c=%25zz&k&k=&=%FF&=\x7bx\x7d&\x7bx\x7d=1".toList
    let plain : Text := "=a=b&%3d=&&x=%C3&x=%ff&+&%20=".toList
    let torn : Text := "k=1&%6b=%32".toList
    Query.Declares q ['x'] ∧
      (∀ field ∈ Query.pieces plain, Query.fieldName? field = none) ∧
      (∀ field ∈ Query.pieces torn, Query.fieldName? field = none) ∧
      Query.mismatches (query ⟨'?' :: q⟩) (Query.table q) = [] ∧
      (∃ value, (Query.captures (query ⟨'?' :: q⟩) (Query.table q)).get? ['x'] = some value) ∧
      (Query.captures (query ⟨'?' :: q⟩) (Query.table q)).get? ['x'] = some ['\uFFFD'] ∧
      Query.mismatches (query ⟨'?' :: plain⟩) (Query.table plain) = [] ∧
      Query.mismatches (query ⟨'?' :: torn⟩) (Query.table torn) ≠ [] := by
  intro q plain torn
  have hdeclared : Query.Declares q ['x'] := by decide
  have hplain : ∀ field ∈ Query.pieces plain, Query.fieldName? field = none := by decide
  have htorn : ∀ field ∈ Query.pieces torn, Query.fieldName? field = none := by decide
  obtain ⟨hmet, hbound, hvalue, -⟩ := query_matches_itself q
  refine ⟨hdeclared, hplain, htorn, hmet.mpr ?_, hbound _ hdeclared, (hvalue _ _).mpr ?_, ?_, ?_⟩
  · simp only [← Query.firstValue?_table_eq_some_iff]
    decide
  -- The last piece that declares the name has the empty key, which is first given an octet that is
  -- no UTF-8.
  · refine ⟨(Query.pieces q).take 7, "=\x7bx\x7d".toList, ["\x7bx\x7d=1".toList], ?_⟩
    rw [← Query.firstValue?_table_eq_some_iff]
    decide
  · exact ((query_matches_itself plain).2.2.2 hplain).mpr (by decide)
  · exact mt ((query_matches_itself torn).2.2.2 htorn).mp (by decide)

end Template

end UriRouting
