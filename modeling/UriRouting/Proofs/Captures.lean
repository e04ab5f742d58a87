import UriRouting.Proofs.Meaning
import UriRouting.Session

/-!
# Captured names

Which names a match captures, and in which order. The captures of the path and of the query are
collected in two tables, and the second one is bound over the first; what comes out are the declared
names, each at the place of its first declaration, unless the path does not match. Whoever reads a
result finds these names and no others.

## Main Statements

- `Table.names_putAll`: the names after binding a list of entries.
- `Template.names_outcome`: the captured names of a path that matches.
- `Template.isSome_get?_captures_iff`: which names are bound.
- `Template.captured_names`: what the readers of a result find.
-/

namespace UriRouting

/-! ## First appearances -/

section FirstAppearance

variable {α : Type} [BEq α] [LawfulBEq α]

/-- Removing later repetitions and filtering can be done in either order. -/
theorem eraseDups_filter (p : α → Bool) :
    ∀ l : List α, (l.filter p).eraseDups = l.eraseDups.filter p
  | [] => rfl
  | a :: l => by
      have hshort : (l.filter fun b => !b == a).length < l.length + 1 :=
        Nat.lt_succ_of_le (List.length_filter_le _ _)
      have hrest := eraseDups_filter p (l.filter fun b => !b == a)
      rw [List.eraseDups_cons]
      by_cases ha : p a = true
      · rw [List.filter_cons_of_pos ha, List.filter_cons_of_pos ha, List.eraseDups_cons, ← hrest,
          List.filter_filter, List.filter_filter]
        simp only [Bool.and_comm]
      · -- Every occurrence of the first element goes, so its repetitions do not matter.
        have hgone : (l.filter fun b => !b == a).filter p = l.filter p := by
          rw [List.filter_filter]
          apply List.filter_congr
          intro b _
          by_cases hb : b = a
          · simp [hb, ha]
          · simp [hb]
        rw [List.filter_cons_of_neg ha, List.filter_cons_of_neg ha, ← hrest, hgone]
termination_by l => l.length

/-- A list without repetitions keeps all its elements. -/
theorem eraseDups_eq_self {l : List α} (h : l.Nodup) : l.eraseDups = l := by
  induction l with
  | nil => rfl
  | cons a l ih =>
      obtain ⟨ha, hl⟩ := List.nodup_cons.mp h
      have hkeep : (l.filter fun b => !b == a) = l := by
        rw [List.filter_eq_self]
        intro b hb
        have hne : b ≠ a := by
          rintro rfl
          exact ha hb
        simpa using hne
      rw [List.eraseDups_cons, hkeep, ih hl]

end FirstAppearance

/-! ## The names of a table -/

namespace Table

variable {α : Type}

/-- Binding the names of a list adds those that are new, in order of first appearance. -/
theorem names_putAll (t : Table α) (l : List (Text × α)) :
    (t.putAll l).names = t.names ++ ((l.map Prod.fst).removeAll t.names).eraseDups := by
  induction l generalizing t with
  | nil => simp [putAll]
  | cons entry l ih =>
      have hstep : t.putAll (entry :: l) = (t.put entry.1 entry.2).putAll l := rfl
      rw [hstep, ih, names_put, List.map_cons, List.cons_removeAll]
      by_cases hname : entry.1 ∈ t.names
      · simp [hname]
      · have hrest : (l.map Prod.fst).removeAll (t.names ++ [entry.1])
            = ((l.map Prod.fst).removeAll t.names).filter fun n => !n == entry.1 := by
          simp only [List.removeAll, List.filter_filter]
          apply List.filter_congr
          intro n _
          by_cases hn : n = entry.1 <;> simp [hn]
        simp [hname, hrest, List.eraseDups_cons]

theorem names_ofList (l : List (Text × α)) : (ofList l).names = (l.map Prod.fst).eraseDups := by
  have hempty : (empty : Table α).names = [] := rfl
  rw [ofList, names_putAll, hempty, List.removeAll_nil, List.nil_append]

/-- Binding the entries of a second table makes the names of both lists appear in order. -/
theorem names_putAll_ofList (l m : List (Text × α)) :
    ((ofList l).putAll (ofList m).entries).names
      = (l.map Prod.fst ++ m.map Prod.fst).eraseDups := by
  have hsecond : (ofList m).entries.map Prod.fst = (m.map Prod.fst).eraseDups := names_ofList m
  have hnodup : (m.map Prod.fst).eraseDups.Nodup := hsecond ▸ (ofList m).distinct
  have hsame : (m.map Prod.fst).eraseDups.removeAll (l.map Prod.fst).eraseDups
      = ((m.map Prod.fst).removeAll (l.map Prod.fst)).eraseDups := by
    rw [List.removeAll, List.removeAll, eraseDups_filter]
    apply List.filter_congr
    intro n _
    simp
  have hnew : ((m.map Prod.fst).removeAll (l.map Prod.fst)).eraseDups.Nodup :=
    hsame ▸ hnodup.filter _
  rw [names_putAll, names_ofList, hsecond, hsame, eraseDups_eq_self hnew, List.eraseDups_append]

end Table

/-! ## The names of a match -/

namespace Path

/-- The names that the segments of a path are captured under are those that its parts declare. -/
theorem map_fst_filterMap_capture? {pattern : List Part} {segments : List Text}
    (h : pattern.length = segments.length) :
    ((pattern.zip segments).filterMap Part.capture?).map Prod.fst
      = pattern.filterMap Part.name? := by
  have hname : ∀ x : Part × Text, (Part.capture? x).map Prod.fst = x.1.name? := by
    intro x
    rw [Part.capture?, Option.map_map]
    exact Option.map_id'
  conv_rhs => rw [← List.map_fst_zip (Nat.le_of_eq h), List.filterMap_map]
  rw [List.map_filterMap]
  simp only [hname]
  rfl

end Path

/-- The names that the fields of a query are captured under are those that they declare. -/
theorem Query.map_fst_filterMap_capture? (pattern : List Expectation)
    (query : Table (List Text)) :
    (pattern.filterMap (capture? query)).map Prod.fst = pattern.filterMap (·.value.name?) := by
  have hname : ∀ e : Expectation, (capture? query e).map Prod.fst = e.value.name? := by
    intro e
    rw [capture?, Option.map_map]
    exact Option.map_id'
  rw [List.map_filterMap]
  simp only [hname]

namespace Template

/-- **The captured names of a path that matches** are the declared names, each at the place of its
first declaration. -/
theorem names_outcome {t : Template} {base : Text} {target : Target} {segments : List Text}
    (hbelow : Path.below? base target.path = some segments)
    (hadmits : List.Forall₂ Part.Admits t.path segments) :
    (t.outcome base target).verdict.captures.names = t.variableNames.eraseDups := by
  rw [outcome_of_admits hbelow hadmits, Outcome.verdict, Query.captures, Table.names_putAll_ofList,
    Path.map_fst_filterMap_capture? hadmits.length_eq, Query.map_fst_filterMap_capture?,
    variableNames]

end Template

/-! ## Reading a result -/

namespace Session

variable {s : Session} {i : Nat} {success : Value} {captures : Table Text}

/-- A result offers its captures to every reader. -/
theorem captures?_of_result (h : s.object? i = .ok (.result success captures))
    (facility : Facility) : s.captures? i facility = .ok captures := by
  rw [captures?, h]
  rfl

theorem read?_names (h : s.object? i = .ok (.result success captures)) :
    s.read? (.names i) = .ok (.names captures.names) := by
  rw [read?, captures?_of_result h]
  rfl

theorem read?_item (h : s.object? i = .ok (.result success captures)) (n : Text) :
    s.read? (.item i n) = match captures.get? n with
      | some value => .ok (.text value)
      | none => .error (.missingName n) := by
  rw [read?, captures?_of_result h]
  rfl

theorem read?_member (h : s.object? i = .ok (.result success captures)) (n : Text) :
    s.read? (.member i (.text n)) = .ok (.truth (captures.get? n).isSome) := by
  rw [read?, captures?_of_result h]
  rfl

theorem read?_itemOr (h : s.object? i = .ok (.result success captures)) (n : Text)
    (fallback : Value) :
    s.read? (.itemOr i n fallback) = match captures.get? n with
      | some value => .ok (.text value)
      | none => .ok (.value fallback) := by
  rw [read?, captures?_of_result h]
  rfl

/-- A name is missing exactly if it is not captured. -/
theorem read?_item_eq_error_iff (h : s.object? i = .ok (.result success captures)) (n : Text) :
    s.read? (.item i n) = .error (.missingName n) ↔ captures.get? n = none := by
  rw [read?_item h]
  cases captures.get? n <;> simp

/-- A name is no member exactly if it is not captured. -/
theorem read?_member_eq_false_iff (h : s.object? i = .ok (.result success captures)) (n : Text) :
    s.read? (.member i (.text n)) = .ok (.truth false) ↔ captures.get? n = none := by
  rw [read?_member h]
  cases captures.get? n <;> simp

end Session

namespace Template

/-- A name is bound exactly if the path matches and the template declares it. -/
theorem isSome_get?_captures_iff {t : Template} {base : Text} {target : Target} (n : Text) :
    ((t.outcome base target).verdict.captures.get? n).isSome = true ↔
      n ∈ t.variableNames ∧ t.PathHolds base target.path := by
  by_cases hholds : t.PathHolds base target.path
  · obtain ⟨segments, hbelow, hadmits⟩ := pathHolds_iff.mp hholds
    rw [isSome_get?_outcome_iff hbelow hadmits, and_iff_left hholds]
  · rw [verdict_outcome_of_not_admits (mt pathHolds_iff.mpr hholds)]
    exact ⟨fun hfalse => absurd hfalse Bool.false_ne_true, fun hboth => absurd hboth.2 hholds⟩

/-- Off the path the verdict is the failed one, on it the captured names are the declared ones. -/
theorem failed_or_names_eq {t : Template} {base : Text} {target : Target} :
    ((t.outcome base target).verdict = .failed ∧ ¬ t.PathHolds base target.path) ∨
      ((t.outcome base target).verdict.captures.names = t.variableNames.eraseDups ∧
        t.PathHolds base target.path) := by
  by_cases hholds : t.PathHolds base target.path
  · obtain ⟨segments, hbelow, hadmits⟩ := pathHolds_iff.mp hholds
    exact Or.inr ⟨names_outcome hbelow hadmits, hholds⟩
  · exact Or.inl ⟨verdict_outcome_of_not_admits (mt pathHolds_iff.mpr hholds), hholds⟩

/-- A request that fits captures the declared names. -/
theorem names_of_success {t : Template} {base request : Uri} {v : Verdict}
    (h : t.verdict? base request = .ok v) (hsuccess : v.success = true) :
    v.captures.names = t.variableNames.eraseDups := by
  obtain ⟨b, r, -, -, rfl⟩ := verdict?_eq_ok_iff.mp h
  rcases @failed_or_names_eq t b.path r with ⟨hfailed, -⟩ | ⟨hnames, -⟩
  · rw [hfailed] at hsuccess
    exact absurd hsuccess Bool.false_ne_true
  · exact hnames

/-- **A match captures exactly the declared names.**  Either the path does not match, and the
verdict is the failed one, or the names are the declared ones in the order of their first
declarations, whether the query matches or not.  Whoever holds the verdict reads it accordingly: a
success has a value for every declared name, a name is missing exactly if it is no member, which it
is exactly if it is undeclared or the path does not match, and a name that is there has the same
value for every reader. -/
theorem captured_names {t : Template} {base request : Uri} {v : Verdict}
    (h : t.verdict? base request = .ok v) :
    ∃ b r, base.target? = .ok b ∧ request.target? = .ok r ∧
      ((v = .failed ∧ ¬ t.PathHolds b.path r.path) ∨
        (v.captures.names = t.variableNames.eraseDups ∧ t.PathHolds b.path r.path)) ∧
      ∀ (s : Session) (i : Nat), s.object? i = .ok (.ofVerdict v) →
        s.read? (.names i) = .ok (.names v.captures.names) ∧
        (v.success = true → ∀ n ∈ t.variableNames,
          ∃ value, s.read? (.item i n) = .ok (.text value)) ∧
        ∀ n,
          (s.read? (.item i n) = .error (.missingName n) ↔
            s.read? (.member i (.text n)) = .ok (.truth false)) ∧
          (s.read? (.member i (.text n)) = .ok (.truth false) ↔
            n ∉ t.variableNames ∨ ¬ t.PathHolds b.path r.path) ∧
          (n ∈ t.variableNames ∧ t.PathHolds b.path r.path →
            ∃ value, s.read? (.item i n) = .ok (.text value) ∧
              ∀ fallback, s.read? (.itemOr i n fallback) = .ok (.text value)) := by
  obtain ⟨b, r, hbase, hrequest, rfl⟩ := verdict?_eq_ok_iff.mp h
  refine ⟨b, r, hbase, hrequest, failed_or_names_eq, fun s i hobject => ?_⟩
  have hread : ∀ n ∈ t.variableNames, t.PathHolds b.path r.path →
      ∃ value, s.read? (.item i n) = .ok (.text value) ∧
        ∀ fallback, s.read? (.itemOr i n fallback) = .ok (.text value) := by
    intro n hn hholds
    obtain ⟨value, hvalue⟩ :=
      Option.isSome_iff_exists.mp ((isSome_get?_captures_iff n).mpr ⟨hn, hholds⟩)
    refine ⟨value, ?_, fun fallback => ?_⟩
    · rw [Session.read?_item hobject, hvalue]
    · rw [Session.read?_itemOr hobject, hvalue]
  refine ⟨Session.read?_names hobject, fun hsuccess n hn => ?_, fun n => ⟨?_, ?_, ?_⟩⟩
  · have hholds : t.PathHolds b.path r.path :=
      pathHolds_iff.mpr (success_outcome_iff.mp hsuccess).1
    obtain ⟨value, hvalue, -⟩ := hread n hn hholds
    exact ⟨value, hvalue⟩
  · rw [Session.read?_item_eq_error_iff hobject, Session.read?_member_eq_false_iff hobject]
  · rw [Session.read?_member_eq_false_iff hobject, ← Option.not_isSome_iff_eq_none,
      isSome_get?_captures_iff, not_and_or]
  · rintro ⟨hn, hholds⟩
    exact hread n hn hholds

/-- Names that are declared several times, in the path and in the query, are captured once, though
the query does not match. -/
theorem captured_names_of_unmet_query :
    let t : Template :=
      ⟨"/\x7bb\x7d/x/\x7ba\x7d/\x7bb\x7d?p=\x7bc\x7d&q=\x7ba\x7d&k=1&r=\x7bc\x7d".toList⟩
    let base : Uri := .text "http://h/B%61se/".toList
    let request : Uri := .text "http://h/base/1/X/2/3/?q=4&k=2".toList
    let v : Verdict := ⟨false, Table.ofList [(['b'], ['3']), (['a'], ['4']), (['c'], [])]⟩
    let s : Session :=
      ((Session.initial.step (.make (.template (.text t.source)))).2.step
        (.make (.verdict .full 0 base request))).2
    t.verdict? base request = .ok v ∧ s.object? 1 = .ok (.ofVerdict v) ∧
      v.captures.names = t.variableNames.eraseDups ∧
      s.read? (.names 1) = .ok (.names [['b'], ['a'], ['c']]) ∧
      s.read? (.item 1 ['d']) = .error (.missingName ['d']) ∧
      s.read? (.member 1 (.text ['d'])) = .ok (.truth false) ∧
      ∃ value, s.read? (.item 1 ['a']) = .ok (.text value) ∧
        ∀ fallback, s.read? (.itemOr 1 ['a'] fallback) = .ok (.text value) := by
  intro t base request v s
  have hverdict : t.verdict? base request = .ok v := by rfl
  have hobject : s.object? 1 = .ok (.ofVerdict v) := by rfl
  obtain ⟨b, r, -, -, hnames, hreaders⟩ := captured_names hverdict
  obtain ⟨hiterate, -, hname⟩ := hreaders s 1 hobject
  -- The verdict has captures, so it is not the failed one and the path matches.
  obtain ⟨hnames, hholds⟩ := hnames.resolve_left fun hfailed => absurd hfailed.1 (by decide)
  obtain ⟨hmissing, hmember, -⟩ := hname ['d']
  have hundeclared := hmember.mpr (Or.inl (by decide))
  exact ⟨hverdict, hobject, hnames, hiterate, hmissing.mpr hundeclared, hundeclared,
    (hname ['a']).2.2 ⟨by decide, hholds⟩⟩

end Template

end UriRouting
