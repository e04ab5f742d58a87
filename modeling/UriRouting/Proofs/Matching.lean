import Mathlib.Data.List.Forall2
import Mathlib.Data.List.Nodup
import Mathlib.Data.List.Perm.Subperm
import Mathlib.Tactic.Conv
import UriRouting.Match.Verdict

/-!
# Laws of matching

One law for each step of a match: when a path fits and what it captures, which literals of a query
are met, what a name is bound to in the end. Statements about verdicts are assembled from these and
open no matching function.

## Main Definitions

- `Part.Admits`: what a part requires of a decoded segment.
- `Query.Met`: every literal value is the first value of its key.
- `Template.Accepts`: a request fits a template below a base address.

## Main Statements

- `Table.get?_putAll`: of several bindings of a name the last one counts.
- `Table.sameBindings_iff`: when two tables have the same bindings.
- `Path.capture_eq_ok_iff`: when a path matches, and its captures.
- `Query.mismatches_eq_nil_iff`: when a query matches.
- `Template.success_outcome_iff`, `Template.accepts_iff`, `Template.accepts_iff_of_target?`: when a
  request fits a template.
- `Template.get?_outcome`: what a name is bound to when the path matches.
- `Template.isSome_get?_outcome_iff`: which names are bound then.
-/

namespace UriRouting

/-! ## Bindings -/

namespace Table

variable {α : Type}

@[simp] theorem get?_empty (n : Text) : (∅ : Table α).get? n = none := rfl

/-- Of several bindings of a name the last one counts, and the names that are not bound keep what
they had. -/
theorem get?_putAll (t : Table α) (l : List (Text × α)) (n : Text) :
    (t.putAll l).get? n = (l.reverse.lookup n).or (t.get? n) := by
  induction l generalizing t with
  | nil => rfl
  | cons entry l ih =>
      -- What the rest of the list binds wins over this entry, and this entry over the table.
      have hstep : t.putAll (entry :: l) = (t.put entry.1 entry.2).putAll l := rfl
      rw [hstep, ih, get?_put, List.reverse_cons, List.lookup_append, Option.or_assoc]
      congr 1
      by_cases hn : n = entry.1
      · rw [if_pos hn, hn, List.lookup_cons_self, Option.some_or]
      · rw [if_neg hn, List.lookup_cons, beq_eq_false_iff_ne.mpr hn, List.lookup_nil,
          Option.none_or]

/-- The entries of a table are looked up in either order. -/
theorem lookup_reverse_entries (t : Table α) (n : Text) :
    t.entries.reverse.lookup n = t.get? n := by
  have hlist : ∀ l : List (Text × α), (l.map Prod.fst).Nodup →
      l.reverse.lookup n = l.lookup n := by
    intro l hl
    induction l with
    | nil => rfl
    | cons entry l ih =>
        rw [List.map_cons, List.nodup_cons] at hl
        rw [List.reverse_cons, List.lookup_append, ih hl.2, List.lookup_cons]
        by_cases hn : n = entry.1
        -- The name does not occur again, so the entry is found from either side.
        · have hnone : l.lookup n = none := by
            rw [List.lookup_eq_none_iff]
            intro other hother
            have hne : n ≠ other.1 := by
              rintro rfl
              exact hl.1 (hn ▸ List.mem_map_of_mem hother)
            simpa using hne
          rw [hnone, Option.none_or, hn, List.lookup_cons_self]
          simp
        · rw [List.lookup_cons, beq_eq_false_iff_ne.mpr hn, List.lookup_nil, Option.or_none]
  exact hlist t.entries t.distinct

/-- Binding the entries of a second table puts its bindings over those of the first. -/
theorem get?_putAll_entries (s t : Table α) (n : Text) :
    (s.putAll t.entries).get? n = (t.get? n).or (s.get? n) := by
  rw [get?_putAll, lookup_reverse_entries]

theorem get?_ofList (l : List (Text × α)) (n : Text) :
    (ofList l).get? n = l.reverse.lookup n := by
  have hempty : (empty : Table α).get? n = none := rfl
  rw [ofList, get?_putAll, hempty, Option.or_none]

/-- A table binds a name to a value exactly if it has this entry. -/
theorem get?_eq_some_iff {t : Table α} {n : Text} {v : α} :
    t.get? n = some v ↔ (n, v) ∈ t.entries := by
  rw [get?, List.lookup_eq_some_iff]
  constructor
  · rintro ⟨before, after, hsplit, -⟩
    rw [hsplit]
    simp
  · intro h
    obtain ⟨before, after, hsplit⟩ := List.append_of_mem h
    refine ⟨before, after, hsplit, fun entry hentry => ?_⟩
    -- The names are distinct, so no entry before this one has its name.
    have hdistinct := t.distinct
    rw [hsplit, List.map_append, List.map_cons, List.nodup_append] at hdistinct
    have hne := hdistinct.2.2 entry.1 (List.mem_map_of_mem hentry) n List.mem_cons_self
    simpa using fun e => hne e.symm

/-- Two tables have the same bindings exactly if the entries of one are those of the other in some
order. -/
theorem sameBindings_iff_perm [DecidableEq α] {s t : Table α} :
    s.sameBindings t = true ↔ s.entries.Perm t.entries := by
  have hdistinct : s.entries.Nodup := List.Nodup.of_map _ s.distinct
  simp only [sameBindings, Bool.and_eq_true, decide_eq_true_eq, List.all_eq_true, get?_eq_some_iff]
  constructor
  · rintro ⟨hlength, hmem⟩
    exact (hdistinct.subperm hmem).perm_of_length_le (Nat.le_of_eq hlength.symm)
  · intro h
    exact ⟨h.length_eq, fun entry hentry => h.subset hentry⟩

/-- Two tables have the same bindings exactly if they bind every name alike. -/
theorem sameBindings_iff [DecidableEq α] {s t : Table α} :
    s.sameBindings t = true ↔ ∀ n, s.get? n = t.get? n := by
  rw [sameBindings_iff_perm, List.perm_ext_iff_of_nodup (List.Nodup.of_map _ s.distinct) (List.Nodup.of_map _ t.distinct)]
  simp only [Prod.forall, ← get?_eq_some_iff]
  exact forall_congr' fun n => Option.ext_iff.symm

end Table

/-- Looking up a name among the bindings that the elements of a list make, where each element binds
at most one name, is finding the first element that binds it. -/
theorem lookup_filterMap_name {α β : Type} (name? : α → Option Text) (value : α → β) (l : List α)
    (n : Text) :
    (l.filterMap fun a => (name? a).map fun m => (m, value a)).lookup n
      = (l.find? fun a => name? a = some n).map value := by
  induction l with
  | nil => rfl
  | cons a l ih =>
      cases hname : name? a with
      | none => simp [hname, ih]
      | some m =>
          by_cases hm : n = m
          · simp [hname, hm]
          · have hm' : m ≠ n := fun e => hm e.symm
            simp [hname, List.lookup_cons, beq_eq_false_iff_ne.mpr hm, hm', ih]

/-! ## Paths -/

namespace Part

/-- What a part requires of a decoded segment: a literal is the same text but for case, a variable
takes any segment that is not empty. -/
def Admits : Part → Text → Prop
  | .literal expected, actual => CaseFold.fold expected = CaseFold.fold actual
  | .literalValue _, _ => True
  | .variable _, actual => actual ≠ []

/-- What a part captures of a decoded segment. -/
def capture? (x : Part × Text) : Option (Text × Text) := x.1.name?.map fun name => (name, x.2)

end Part

namespace Path

/-- Segments are captured exactly if each is admitted by the part that expects it. -/
theorem captureSegments_eq_ok_iff {captures result : Table Text} {l : List (Part × Text)} :
    captureSegments captures l = .ok result ↔
      (∀ x ∈ l, x.1.Admits x.2) ∧ result = captures.putAll (l.filterMap Part.capture?) := by
  induction l generalizing captures with
  | nil =>
      constructor
      · rintro ⟨⟩
        exact ⟨by simp, rfl⟩
      · rintro ⟨-, rfl⟩
        rfl
  | cons x l ih =>
      obtain ⟨part, actual⟩ := x
      rw [List.forall_mem_cons]
      rcases part with expected | expected | name
      · by_cases hfold : CaseFold.fold expected = CaseFold.fold actual
        · simpa [captureSegments, hfold, Part.Admits, List.filterMap_cons, Part.capture?,
            Part.name?] using ih
        · simp [captureSegments, hfold, Part.Admits]
      · simpa [captureSegments, Part.Admits, List.filterMap_cons, Part.capture?, Part.name?]
          using ih
      · by_cases hactual : actual = []
        · simp [captureSegments, hactual, Part.Admits]
        · simpa [captureSegments, hactual, Part.Admits, Part.capture?, Part.name?, Table.putAll]
            using ih

/-- **When a path matches.**  It lies below the base, and the segments there are admitted one by one
by the parts that expect them; they are captured in order. -/
theorem capture_eq_ok_iff {pattern : List Part} {base path : Text} {captures : Table Text} :
    capture pattern base path = .ok captures ↔
      ∃ segments, below? base path = some segments ∧ List.Forall₂ Part.Admits pattern segments ∧
        captures = Table.ofList ((pattern.zip segments).filterMap Part.capture?) := by
  rw [capture]
  cases below? base path with
  | none => simp
  | some segments =>
      simp only [Option.some.injEq, exists_eq_left']
      rw [List.forall₂_iff_zip]
      by_cases hlength : segments.length = pattern.length
      · rw [if_pos hlength, captureSegments_eq_ok_iff]
        constructor
        · rintro ⟨hadmits, rfl⟩
          exact ⟨⟨hlength.symm, fun {a b} hab => hadmits (a, b) hab⟩, rfl⟩
        · rintro ⟨⟨-, hadmits⟩, rfl⟩
          exact ⟨fun x hx => hadmits hx, rfl⟩
      · rw [if_neg hlength]
        constructor
        · rintro ⟨⟩
        · rintro ⟨⟨heq, -⟩, -⟩
          exact absurd heq.symm hlength

/-- What a name is bound to by the segments of a path: the last one that a variable of this name
captures. -/
theorem get?_ofList_capture (l : List (Part × Text)) (n : Text) :
    (Table.ofList (l.filterMap Part.capture?)).get? n
      = (l.reverse.find? fun x => x.1.name? = some n).map Prod.snd := by
  rw [Table.get?_ofList, ← List.filterMap_reverse]
  exact lookup_filterMap_name (fun x : Part × Text => x.1.name?) Prod.snd l.reverse n

end Path

/-! ## Queries -/

namespace Query

/-- Every literal value is the first value of its key. -/
def Met (pattern : List Expectation) (query : Table (List Text)) : Prop :=
  ∀ e ∈ pattern, ∀ expected, e.value = .literalValue expected →
    firstValue? query e.key = some expected

/-- A literal is unmet exactly if the first value of its key differs from it. -/
theorem mismatch?_eq_none_iff {query : Table (List Text)} {e : Expectation} :
    mismatch? query e = none ↔
      ∀ expected, e.value = .literalValue expected → firstValue? query e.key = some expected := by
  obtain ⟨key, value⟩ := e
  rcases value with text | text | name <;> simp [mismatch?]

/-- **When a query matches.**  No literal is left unmet. -/
theorem mismatches_eq_nil_iff {pattern : List Expectation} {query : Table (List Text)} :
    mismatches pattern query = [] ↔ Met pattern query := by
  rw [mismatches, List.filterMap_eq_nil_iff]
  exact forall₂_congr fun _ _ => mismatch?_eq_none_iff

/-- Two lists of expectations are met together exactly if each of them is. -/
theorem met_append_iff {p q : List Expectation} {query : Table (List Text)} :
    Met (p ++ q) query ↔ Met p query ∧ Met q query := by
  unfold Met
  rw [List.forall_mem_append]

/-- A key whose pairs all have the same value has this value. -/
theorem firstValue?_table_of_unique {q k v : Text} (hmem : (k, v) ∈ pairs q)
    (hunique : ∀ w, (k, w) ∈ pairs q → w = v) : firstValue? (table q) k = some v := by
  rw [firstValue?_table]
  cases hfound : (pairs q).find? (·.1 = k) with
  | none => exact absurd (List.find?_eq_none.mp hfound (k, v) hmem) (by simp)
  | some pair =>
      have hkey : pair.1 = k := by simpa using List.find?_some hfound
      have hpair : (k, pair.2) ∈ pairs q := by
        rw [← hkey]
        exact List.mem_of_find?_eq_some hfound
      rw [Option.map_some, hunique pair.2 hpair]

/-- What a name is bound to by the expectations of a query: the first value of the key of the last
one that declares it, or the empty text where the key is absent. -/
theorem get?_captures (pattern : List Expectation) (query : Table (List Text)) (n : Text) :
    (captures pattern query).get? n
      = (pattern.reverse.find? fun e => e.value.name? = some n).map fun e =>
          (firstValue? query e.key).getD [] := by
  rw [captures, Table.get?_ofList, ← List.filterMap_reverse]
  exact lookup_filterMap_name (fun e : Expectation => e.value.name?)
    (fun e => (firstValue? query e.key).getD []) pattern.reverse n

end Query

/-! ## Verdicts -/

namespace Template

/-- A path that matches. -/
theorem outcome_of_admits {t : Template} {base : Text} {target : Target} {segments : List Text}
    (hbelow : Path.below? base target.path = some segments)
    (hadmits : List.Forall₂ Part.Admits t.path segments) :
    t.outcome base target
      = .onPath
          ((Table.ofList ((t.path.zip segments).filterMap Part.capture?)).putAll
            (Query.captures t.query target.query).entries)
          (Query.mismatches t.query target.query) := by
  rw [outcome, Path.capture_eq_ok_iff.mpr ⟨segments, hbelow, hadmits, rfl⟩]

/-- A path that does not match. -/
theorem outcome_of_not_admits {t : Template} {base : Text} {target : Target}
    (h : ¬ ∃ segments, Path.below? base target.path = some segments ∧
      List.Forall₂ Part.Admits t.path segments) :
    ∃ mismatch, t.outcome base target = .offPath mismatch := by
  cases hcapture : Path.capture t.path base target.path with
  | error mismatch => exact ⟨mismatch, by rw [outcome, hcapture]⟩
  | ok captures =>
      obtain ⟨segments, hbelow, hadmits, -⟩ := Path.capture_eq_ok_iff.mp hcapture
      exact absurd ⟨segments, hbelow, hadmits⟩ h

/-- The verdict where the path does not match. -/
theorem verdict_outcome_of_not_admits {t : Template} {base : Text} {target : Target}
    (h : ¬ ∃ segments, Path.below? base target.path = some segments ∧
      List.Forall₂ Part.Admits t.path segments) :
    (t.outcome base target).verdict = .failed := by
  obtain ⟨mismatch, hoff⟩ := outcome_of_not_admits h
  rw [hoff, Outcome.verdict]

/-- **When a request fits a template.**  Its path matches and the literals of its query are met. -/
theorem success_outcome_iff {t : Template} {base : Text} {target : Target} :
    (t.outcome base target).verdict.success = true ↔
      (∃ segments, Path.below? base target.path = some segments ∧
        List.Forall₂ Part.Admits t.path segments) ∧ Query.Met t.query target.query := by
  by_cases h : ∃ segments, Path.below? base target.path = some segments ∧
      List.Forall₂ Part.Admits t.path segments
  · obtain ⟨segments, hbelow, hadmits⟩ := id h
    rw [outcome_of_admits hbelow hadmits, Outcome.verdict, List.isEmpty_iff,
      Query.mismatches_eq_nil_iff]
    exact ⟨fun hmet => ⟨h, hmet⟩, fun hboth => hboth.2⟩
  · rw [verdict_outcome_of_not_admits h]
    exact ⟨fun hfalse => absurd hfalse Bool.false_ne_true, fun hboth => absurd hboth.1 h⟩

/-- **What a name is bound to** when the path matches: the query wins over the path, and in each of
them the last declaration wins. -/
theorem get?_outcome {t : Template} {base : Text} {target : Target} {segments : List Text}
    (hbelow : Path.below? base target.path = some segments)
    (hadmits : List.Forall₂ Part.Admits t.path segments) (n : Text) :
    (t.outcome base target).verdict.captures.get? n
      = ((t.query.reverse.find? fun e => e.value.name? = some n).map fun e =>
            (Query.firstValue? target.query e.key).getD []).or
          (((t.path.zip segments).reverse.find? fun x => x.1.name? = some n).map Prod.snd) := by
  rw [outcome_of_admits hbelow hadmits, Outcome.verdict, Table.get?_putAll_entries,
    Query.get?_captures, Path.get?_ofList_capture]

/-- A match binds exactly the declared names. -/
theorem isSome_get?_outcome_iff {t : Template} {base : Text} {target : Target}
    {segments : List Text} (hbelow : Path.below? base target.path = some segments)
    (hadmits : List.Forall₂ Part.Admits t.path segments) (n : Text) :
    ((t.outcome base target).verdict.captures.get? n).isSome = true ↔ n ∈ t.variableNames := by
  have hpath : (∃ x ∈ t.path.zip segments, x.1.name? = some n) ↔
      ∃ part ∈ t.path, part.name? = some n := by
    conv_rhs => rw [← List.map_fst_zip (Nat.le_of_eq hadmits.length_eq)]
    simp
  rw [get?_outcome hbelow hadmits n, variableNames, List.mem_append, List.mem_filterMap,
    List.mem_filterMap, ← hpath]
  simp [or_comm]

/-- If all declarations of a name capture the same value, the name has this value. -/
theorem get?_outcome_of_agree {t : Template} {base : Text} {target : Target}
    {segments : List Text} (hbelow : Path.below? base target.path = some segments)
    (hadmits : List.Forall₂ Part.Admits t.path segments) {value : Text → Text}
    (hquery : ∀ e ∈ t.query, ∀ n, e.value.name? = some n →
      (Query.firstValue? target.query e.key).getD [] = value n)
    (hpath : ∀ x ∈ t.path.zip segments, ∀ n, x.1.name? = some n → x.2 = value n) (n : Text) :
    (t.outcome base target).verdict.captures.get? n
      = if n ∈ t.variableNames then some (value n) else none := by
  have hdeclared := isSome_get?_outcome_iff hbelow hadmits n
  split
  · next hn =>
    -- The name is bound, so it remains to see that each place it can come from agrees.
    obtain ⟨v, hv⟩ := Option.isSome_iff_exists.mp (hdeclared.mpr hn)
    rw [hv, Option.some.injEq]
    rw [get?_outcome hbelow hadmits n, Option.or_eq_some_iff, Option.map_eq_some_iff,
      Option.map_eq_some_iff] at hv
    rcases hv with ⟨e, hfound, rfl⟩ | ⟨-, x, hfound, rfl⟩
    · exact hquery e (List.mem_reverse.mp (List.mem_of_find?_eq_some hfound)) n
        (by simpa using List.find?_some hfound)
    · exact hpath x (List.mem_reverse.mp (List.mem_of_find?_eq_some hfound)) n
        (by simpa using List.find?_some hfound)
  · next hn => simpa using mt hdeclared.mp hn

/-- The outcome for split parts is that for their path and query. -/
theorem outcome?_split (t : Template) (base request : Parts) :
    t.outcome? (.split base) (.split request)
      = .ok (t.outcome base.path ⟨request.path, Query.table request.query⟩) := rfl

/-- The verdict on a request below a base address, when the targets of both are known. -/
theorem verdict?_of_target? {t : Template} {base request : Uri} {b r : Target}
    (hbase : base.target? = .ok b) (hrequest : request.target? = .ok r) :
    t.verdict? base request = .ok (t.outcome b.path r).verdict := by
  rw [verdict?, outcome?, hbase, hrequest]
  rfl

/-- A verdict is that on the target of the request below the path of the base. -/
theorem verdict?_eq_ok_iff {t : Template} {base request : Uri} {v : Verdict} :
    t.verdict? base request = .ok v ↔
      ∃ b r, base.target? = .ok b ∧ request.target? = .ok r ∧
        v = (t.outcome b.path r).verdict := by
  rw [verdict?, outcome?]
  cases base.target? with
  | error e => simp [Except.map]
  | ok b =>
      cases request.target? with
      | error e => simp [Except.map]
      | ok r => simp [Except.map, eq_comm]

/-- A request fits a template below a base address. -/
def Accepts (t : Template) (base request : Uri) : Prop :=
  ∃ v, t.verdict? base request = .ok v ∧ v.success = true

/-- When a request fits a template, where the targets of both addresses are known. -/
theorem accepts_iff_of_target? {t : Template} {base request : Uri} {b r : Target}
    (hbase : base.target? = .ok b) (hrequest : request.target? = .ok r) :
    t.Accepts base request ↔
      (∃ segments, Path.below? b.path r.path = some segments ∧
        List.Forall₂ Part.Admits t.path segments) ∧ Query.Met t.query r.query := by
  rw [← success_outcome_iff, Accepts, verdict?_of_target? hbase hrequest]
  simp

/-- When a request fits a template below a base address with a known target. -/
theorem accepts_iff {t : Template} {base request : Uri} {b : Target}
    (hbase : base.target? = .ok b) :
    t.Accepts base request ↔
      ∃ path query, request.target? = .ok ⟨path, query⟩ ∧
        (∃ segments, Path.below? b.path path = some segments ∧
          List.Forall₂ Part.Admits t.path segments) ∧
        Query.Met t.query query := by
  cases hrequest : request.target? with
  | error e => simp [Accepts, verdict?, outcome?, hbase, hrequest, Except.map]
  | ok r =>
      rw [accepts_iff_of_target? hbase hrequest]
      constructor
      · exact fun h => ⟨r.path, r.query, rfl, h⟩
      · rintro ⟨path, query, ⟨rfl⟩, h⟩
        exact h

end Template

end UriRouting
