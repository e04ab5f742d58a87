import UriRouting.Proofs.Deliveries
import UriRouting.Proofs.FirstValues

/-!
# Reported reasons

A request that fits a template is matched in silence, and one that does not fit leaves its reasons in
the log. A path is given up at the first thing that is wrong with it, so there is one reason; a query
is read to the end, so there is one for each literal that is not met. In both cases a last record says
that the request as a whole does not fit.

## Main Definitions

- `Part.Refuses`, `Path.Fault`: what is wrong with a segment and with a path.
- `Query.Unmet`: an expected literal that a query text does not meet.
- `Query.Reported`: the record of such a literal.

## Main Statements

- `Path.capture_eq_error_iff`: a path is given up for its fault.
- `Query.forall₂_reported_mismatches`: each unmet literal is reported, in the order of the template.
- `Template.records_of_verdict`: the records of a match.

## Design Notes

Faults and unmet literals are told from the request and the template, without running a match. So a
reason in the log is also the true one.
-/

namespace UriRouting

/-! ## Paths that are given up -/

/-- What is wrong with a segment: it is empty where a variable expects one, or differs from a literal
by more than case. -/
inductive Part.Refuses : Part → Text → PathMismatch → Prop where
  | emptySegment (name : Text) : Refuses (.variable name) [] (.emptySegment name)
  | segment {expected actual : Text} (differs : CaseFold.fold expected ≠ CaseFold.fold actual) :
      Refuses (.literal expected) actual (.segment actual expected)

/-- What is wrong with a path: the first of the things that are asked of it and do not hold. -/
inductive Path.Fault (pattern : List Part) (base path : Text) : PathMismatch → Prop where
  /-- It does not start with the segments of the base. -/
  | notBelow (outside : ∀ rest, ¬ Below base path rest) :
      Fault pattern base path (.notBelow base path)
  /-- It has more or fewer segments below the base than are expected. -/
  | segmentCount {segments : List Text} (below : below? base path = some segments)
      (count : segments.length ≠ pattern.length) :
      Fault pattern base path (.segmentCount base path segments.length pattern.length)
  /-- Something is wrong with a segment, and nothing with those before it. -/
  | segment {segments : List Text} {before after : List (Part × Text)} {part : Part} {actual : Text}
      {mismatch : PathMismatch} (below : below? base path = some segments)
      (count : segments.length = pattern.length)
      (place : pattern.zip segments = before ++ (part, actual) :: after)
      (first : ∀ x ∈ before, x.1.Admits x.2) (refused : part.Refuses actual mismatch) :
      Fault pattern base path mismatch

/-- A segment that is not admitted is refused for a reason. -/
theorem Part.admits_or_refuses (part : Part) (actual : Text) :
    part.Admits actual ∨ ∃ mismatch, part.Refuses actual mismatch := by
  rcases part with expected | expected | name
  · by_cases h : CaseFold.fold expected = CaseFold.fold actual
    · exact Or.inl h
    · exact Or.inr ⟨_, .segment h⟩
  · exact Or.inl trivial
  · cases actual with
    | nil => exact Or.inr ⟨_, .emptySegment name⟩
    | cons c actual => exact Or.inl (List.cons_ne_nil c actual)

namespace Path

/-- Capturing goes on behind a segment that is admitted. -/
theorem captureSegments_cons_of_admits {part : Part} {actual : Text} (h : part.Admits actual)
    (captures : Table Text) (l : List (Part × Text)) :
    ∃ captures', captureSegments captures ((part, actual) :: l) = captureSegments captures' l := by
  rcases part with expected | expected | name
  · have hfold : CaseFold.fold expected = CaseFold.fold actual := h
    exact ⟨captures, by rw [captureSegments, if_pos hfold]⟩
  · exact ⟨captures, by rw [captureSegments]⟩
  · have hfilled : ¬ actual.isEmpty = true := fun hempty => h (List.isEmpty_iff.mp hempty)
    exact ⟨captures.put name actual, by rw [captureSegments, if_neg hfilled]⟩

/-- Capturing ends at a segment that is refused. -/
theorem captureSegments_cons_of_refuses {part : Part} {actual : Text} {mismatch : PathMismatch}
    (h : part.Refuses actual mismatch) (captures : Table Text) (l : List (Part × Text)) :
    captureSegments captures ((part, actual) :: l) = .error mismatch := by
  cases h with
  | emptySegment name => rfl
  | segment differs => rw [captureSegments, if_neg differs]

/-- Capturing fails at the first segment that is not admitted. -/
theorem captureSegments_eq_error_iff {captures : Table Text} {l : List (Part × Text)}
    {mismatch : PathMismatch} :
    captureSegments captures l = .error mismatch ↔
      ∃ before part actual after, l = before ++ (part, actual) :: after ∧
        (∀ x ∈ before, x.1.Admits x.2) ∧ part.Refuses actual mismatch := by
  constructor
  · intro h
    induction l generalizing captures with
    | nil => simp [captureSegments] at h
    | cons x l ih =>
        obtain ⟨part, actual⟩ := x
        rcases part.admits_or_refuses actual with hadmits | ⟨reason, hrefuses⟩
        · obtain ⟨captures', hstep⟩ := captureSegments_cons_of_admits hadmits captures l
          obtain ⟨before, part', actual', after, rfl, hbefore, hrefuses⟩ := ih (hstep ▸ h)
          exact ⟨(part, actual) :: before, part', actual', after, rfl,
            List.forall_mem_cons.mpr ⟨hadmits, hbefore⟩, hrefuses⟩
        · rw [captureSegments_cons_of_refuses hrefuses] at h
          obtain rfl := Except.error.inj h
          exact ⟨[], part, actual, l, rfl, by simp, hrefuses⟩
  · rintro ⟨before, part, actual, after, rfl, hbefore, hrefuses⟩
    induction before generalizing captures with
    | nil => exact captureSegments_cons_of_refuses hrefuses captures after
    | cons x before ih =>
        obtain ⟨hx, hbefore⟩ := List.forall_mem_cons.mp hbefore
        obtain ⟨captures', hstep⟩ :=
          captureSegments_cons_of_admits hx captures (before ++ (part, actual) :: after)
        exact hstep.trans (ih hbefore)

/-- A path lies below a base exactly if something follows the pieces of the base. -/
theorem below?_eq_none_iff {base path : Text} :
    below? base path = none ↔ ∀ rest, ¬ Below base path rest := by
  rw [Option.eq_none_iff_forall_ne_some]
  simp only [ne_eq, below?_eq_some_iff, not_exists, not_and]
  exact ⟨fun h rest hbelow => h _ rest hbelow rfl, fun h _ rest hbelow _ => h rest hbelow⟩

/-- **A path is given up for its fault**, and a path that is given up has one. -/
theorem capture_eq_error_iff {pattern : List Part} {base path : Text} {mismatch : PathMismatch} :
    capture pattern base path = .error mismatch ↔ Fault pattern base path mismatch := by
  constructor
  · intro h
    rw [capture] at h
    cases hbelow : below? base path with
    | none =>
        rw [hbelow] at h
        obtain rfl := Except.error.inj h
        exact .notBelow (below?_eq_none_iff.mp hbelow)
    | some segments =>
        simp only [hbelow] at h
        by_cases hcount : segments.length = pattern.length
        · rw [if_pos hcount, captureSegments_eq_error_iff] at h
          obtain ⟨before, part, actual, after, hplace, hfirst, hrefused⟩ := h
          exact .segment hbelow hcount hplace hfirst hrefused
        · rw [if_neg hcount] at h
          obtain rfl := Except.error.inj h
          exact .segmentCount hbelow hcount
  · rintro (houtside | ⟨hbelow, hcount⟩ | ⟨hbelow, hcount, hplace, hfirst, hrefused⟩)
    · rw [capture, below?_eq_none_iff.mpr houtside]
    · simp only [capture, hbelow, if_neg hcount]
    · simp only [capture, hbelow, if_pos hcount]
      exact captureSegments_eq_error_iff.mpr ⟨_, _, _, _, hplace, hfirst, hrefused⟩

end Path

/-! ## Queries that are not met -/

namespace Query

/-- An expected literal that a query text does not meet: it is not the first value of its key. -/
def Unmet (q : Text) (e : Expectation) : Prop :=
  ∃ text, e.value = .literalValue text ∧ ¬ FirstValue q e.key text

/-- The record of an expected literal that a query text does not meet. It names the value that stands
in the place of the literal, if there is one. -/
inductive Reported (q : Text) : Expectation → Log.Record → Prop where
  | differs {key text value : Text} (first : FirstValue q key value) (other : value ≠ text) :
      Reported q ⟨key, .literalValue text⟩ ⟨"uri_template_matcher.matching".toList, .debug,
        "Query parameter ".toList ++ key ++ '=' :: Quoted.encode value
          ++ " does not match ".toList ++ Quoted.encode text⟩
  | absent {key text : Text} (absent : ∀ value, ¬ FirstValue q key value) :
      Reported q ⟨key, .literalValue text⟩ ⟨"uri_template_matcher.matching".toList, .debug,
        "Query parameter ".toList ++ key ++ '=' :: "None".toList
          ++ " does not match ".toList ++ Quoted.encode text⟩

/-- A literal is left over by a match exactly if it is not met. -/
theorem isSome_mismatch?_iff {q : Text} {e : Expectation} :
    (mismatch? (table q) e).isSome = true ↔ Unmet q e := by
  rw [← Option.ne_none_iff_isSome, ne_eq, mismatch?_eq_none_iff]
  simp only [Unmet, firstValue?_table_eq_some_iff, not_forall, exists_prop]

instance (q : Text) : DecidablePred (Unmet q) := fun _ => decidable_of_iff _ isSome_mismatch?_iff

/-- What a match leaves over is reported. -/
theorem reported_of_mismatch? {q : Text} {e : Expectation} {m : QueryMismatch}
    (h : mismatch? (table q) e = some m) : Reported q e (Finding.query m).record := by
  obtain ⟨key, value⟩ := e
  rcases value with text | text | name
  · simp [mismatch?] at h
  · cases hfirst : firstValue? (table q) key with
    | none =>
        obtain rfl : ⟨key, none, text⟩ = m := by simpa [mismatch?, hfirst] using h
        refine .absent fun value hvalue => ?_
        rw [firstValue?_table_eq_some_iff.mpr hvalue] at hfirst
        exact absurd hfirst (by simp)
    | some value =>
        have hother : value ≠ text := by
          rintro rfl
          simp [mismatch?, hfirst] at h
        obtain rfl : ⟨key, some value, text⟩ = m := by simpa [mismatch?, hfirst, hother] using h
        exact .differs (firstValue?_table_eq_some_iff.mp hfirst) hother
  · simp [mismatch?] at h

/-- **Each unmet literal is reported**, in the order of the expectations, and nothing else is. -/
theorem forall₂_reported_mismatches (pattern : List Expectation) (q : Text) :
    List.Forall₂ (Reported q) (pattern.filter (Unmet q ·))
      ((mismatches pattern (table q)).map fun m => (Finding.query m).record) := by
  induction pattern with
  | nil => exact .nil
  | cons e pattern ih =>
      cases hmismatch : mismatch? (table q) e with
      | none =>
          have hmet : ¬ Unmet q e := by simp [← isSome_mismatch?_iff, hmismatch]
          rw [mismatches, List.filterMap_cons_none hmismatch, List.filter_cons_of_neg (by simpa)]
          exact ih
      | some m =>
          have hunmet : Unmet q e := by simp [← isSome_mismatch?_iff, hmismatch]
          rw [mismatches, List.filterMap_cons_some hmismatch, List.filter_cons_of_pos (by simpa),
            List.map_cons]
          exact .cons (reported_of_mismatch? hmismatch) ih

end Query

/-! ## The records of a match -/

/-- What asks for a target has parts, and the target is their path and their query. -/
theorem Uri.exists_parts?_of_target? {u : Uri} {target : Target} (h : u.target? = .ok target) :
    ∃ p, u.parts? = .ok p ∧ target = ⟨p.path, Query.table p.query⟩ := by
  rw [target?] at h
  cases hparts : u.parts? with
  | error e => simp [hparts] at h
  | ok p =>
      rw [hparts] at h
      exact ⟨p, rfl, (Except.ok.inj h).symm⟩

/-- Nothing is reported exactly if the request fits. -/
theorem Outcome.findings_eq_nil_iff {o : Outcome} {request source : Text} :
    o.findings request source = [] ↔ o.verdict.success = true := by
  rcases o with mismatch | ⟨captures, _ | ⟨m, unmet⟩⟩ <;> simp [findings, verdict, Verdict.failed]

/-- Literals that are not met are reported before the query as a whole. -/
theorem Outcome.findings_onPath {captures : Table Text} {unmet : List QueryMismatch}
    (h : unmet ≠ []) (request source : Text) :
    (onPath captures unmet).findings request source
      = unmet.map .query ++ [.queryRejected request source] := by
  cases unmet with
  | nil => exact absurd rfl h
  | cons m unmet => rfl

namespace Template

variable {t : Template}

/-- A path that does not match ends the match with its fault. -/
theorem outcome_of_not_pathHolds {base : Text} (target : Target)
    (h : ¬ t.PathHolds base target.path) :
    ∃ mismatch, Path.Fault t.path base target.path mismatch ∧
      t.outcome base target = .offPath mismatch := by
  cases hcapture : Path.capture t.path base target.path with
  | error mismatch =>
      exact ⟨mismatch, Path.capture_eq_error_iff.mp hcapture, by rw [outcome, hcapture]⟩
  | ok captures =>
      obtain ⟨segments, hbelow, hadmits, -⟩ := Path.capture_eq_ok_iff.mp hcapture
      exact absurd (pathHolds_iff.mpr ⟨segments, hbelow, hadmits⟩) h

/-- A path that matches leaves the query to be looked at. -/
theorem outcome_of_pathHolds {base : Text} (target : Target)
    (h : t.PathHolds base target.path) :
    ∃ captures, t.outcome base target
      = .onPath captures (Query.mismatches t.query target.query) := by
  obtain ⟨segments, hbelow, hadmits⟩ := pathHolds_iff.mp h
  exact ⟨_, outcome_of_admits hbelow hadmits⟩

/-- The records of a request are those of the findings about its outcome. -/
theorem records_of_outcome? {base request : Uri} {o : Outcome}
    (h : t.outcome? base request = .ok o) :
    (Log.Step.request (.text t.source) base request).records
      = (o.findings request.render t.source).map Finding.record := by
  have hfindings : t.findings? base request = .ok (o.findings request.render t.source) := by
    rw [findings?, h]
    rfl
  simp [Log.Step.records, ofValue?, hfindings]

/-- **Every rejection is explained, and a success is silent.**  A match that has a verdict emits
records at the lowest level only, and none exactly if the request fits.  If the path does not match,
there are two: the fault of the path, and that the path does not match.  If the path matches and the
query does not, there is one for each literal that is not met, in the order of the template, and at
the end one that the query does not match. -/
theorem records_of_verdict {base request : Uri} {v : Verdict}
    (h : t.verdict? base request = .ok v) :
    let records := (Log.Step.request (.text t.source) base request).records
    (∀ record ∈ records, record.level = .debug) ∧
    (v.success = true ↔ records = []) ∧
    ∃ b r : Parts, base.parts? = .ok b ∧ request.parts? = .ok r ∧
      (v.success = true ↔ t.PathHolds b.path r.path ∧ t.QueryHolds r.query) ∧
      (¬ t.PathHolds b.path r.path → ∃ mismatch, Path.Fault t.path b.path r.path mismatch ∧
        records = [⟨"uri_template_matcher.matching".toList, .debug, mismatch.message⟩,
          ⟨"uri_template_matcher.template".toList, .debug, "Path of ".toList ++ request.render
            ++ " does not match ".toList ++ Quoted.encode t.source⟩]) ∧
      (t.PathHolds b.path r.path → ¬ t.QueryHolds r.query → ∃ reasons,
        records = reasons ++ [⟨"uri_template_matcher.template".toList, .debug,
          "Query of ".toList ++ request.render ++ " does not match ".toList
            ++ Quoted.encode t.source⟩] ∧
        reasons ≠ [] ∧
        List.Forall₂ (Query.Reported r.query) (t.query.filter (Query.Unmet r.query ·)) reasons) := by
  intro records
  obtain ⟨b', r', hbase', hrequest', rfl⟩ := verdict?_eq_ok_iff.mp h
  have houtcome : t.outcome? base request = .ok (t.outcome b'.path r') := by
    rw [outcome?, hbase', hrequest']
  have hrecords : records
      = ((t.outcome b'.path r').findings request.render t.source).map Finding.record :=
    records_of_outcome? houtcome
  obtain ⟨b, hbase, rfl⟩ := Uri.exists_parts?_of_target? hbase'
  obtain ⟨r, hrequest, rfl⟩ := Uri.exists_parts?_of_target? hrequest'
  refine ⟨?_, ?_, b, r, hbase, hrequest, ?_, fun hoff => ?_, fun hon hunmet => ?_⟩
  · rw [hrecords]
    exact List.forall_mem_map.mpr fun _ _ => rfl
  · rw [hrecords, List.map_eq_nil_iff, Outcome.findings_eq_nil_iff]
  · rw [pathHolds_iff, queryHolds_iff]
    exact success_outcome_iff
  · obtain ⟨mismatch, hfault, heq⟩ :=
      outcome_of_not_pathHolds ⟨r.path, Query.table r.query⟩ hoff
    refine ⟨mismatch, hfault, ?_⟩
    rw [hrecords, heq]
    rfl
  · obtain ⟨captures, heq⟩ :=
      outcome_of_pathHolds ⟨r.path, Query.table r.query⟩ hon
    have hleft : Query.mismatches t.query (Query.table r.query) ≠ [] := by
      rw [ne_eq, Query.mismatches_eq_nil_iff, ← queryHolds_iff]
      exact hunmet
    refine ⟨(Query.mismatches t.query (Query.table r.query)).map fun m => (Finding.query m).record,
      ?_, by simpa using hleft, Query.forall₂_reported_mismatches t.query r.query⟩
    rw [hrecords, heq, Outcome.findings_onPath hleft, List.map_append, List.map_map]
    rfl

/-- Of five expected fields three are literals that are not met: a key has the value that is expected
of it only behind another one, and two keys are absent. -/
theorem records_of_verdict_several_unmet :
    let t : Template := ⟨"/a/\x7bv\x7d?k=1&n=\x7bw\x7d&k=2&x=y&z=".toList⟩
    let base : Uri := .text "http://h/b".toList
    let request : Uri := .text "http://h/B//A/c/?k=1&n=%27&k=2".toList
    let records := (Log.Step.request (.text t.source) base request).records
    t.verdict? base request
        = .ok ⟨false, Table.ofList [("v".toList, "c".toList), ("w".toList, "'".toList)]⟩ ∧
      records ≠ [] ∧
      ∃ reasons last, records = reasons ++ [last] ∧ last.logger = Log.childName "template" ∧
        reasons.length = 3 ∧
        List.Forall₂ (Query.Reported "k=1&n=%27&k=2".toList)
          (t.query.filter (Query.Unmet "k=1&n=%27&k=2".toList ·)) reasons := by
  intro t base request records
  have hverdict : t.verdict? base request
      = .ok ⟨false, Table.ofList [("v".toList, "c".toList), ("w".toList, "'".toList)]⟩ := by rfl
  have hlength : records.length = 4 := by rfl
  obtain ⟨-, hsilent, b, r, -, hrequest, hfits, hoff, hunmet⟩ := records_of_verdict hverdict
  have hparts : request.parts? = .ok ⟨"http".toList, "h".toList, "/B//A/c/".toList,
      "k=1&n=%27&k=2".toList, []⟩ := by rfl
  obtain rfl := Except.ok.inj (hparts.symm.trans hrequest)
  have hpath : t.PathHolds b.path "/B//A/c/".toList := by
    by_contra hnot
    obtain ⟨mismatch, -, htwo⟩ := hoff hnot
    rw [show records = _ from htwo] at hlength
    exact absurd hlength (by simp)
  have hquery : ¬ t.QueryHolds "k=1&n=%27&k=2".toList := fun h =>
    absurd (hfits.mpr ⟨hpath, h⟩) Bool.false_ne_true
  obtain ⟨reasons, hrecords, -, hreported⟩ := hunmet hpath hquery
  have hreasons : reasons.length = 3 := by
    rw [show records = _ from hrecords, List.length_append] at hlength
    exact Nat.succ.inj hlength
  exact ⟨hverdict, fun h => absurd (hsilent.mpr h) Bool.false_ne_true, reasons, _, hrecords, rfl,
    hreasons, hreported⟩

end Template

end UriRouting
