import UriRouting.Object
import UriRouting.Proofs.QueryTexts

/-!
# Joined query texts

A template with two query texts joined by an ampersand asks for what either of them asks for: it fits
a request exactly if both templates with one of them do. Which of the two comes first makes no
difference to success, and none to what is captured unless both declare the same name, for then the
one behind wins.

## Main Statements

- `Template.query_append_amp`: the expectations of joined query texts.
- `Template.get?_captures_swap`: the captures of expectations in either order.
- `Template.verdict?_joined`: a template with joined query texts.
-/

namespace UriRouting

/-- If one of two lists has no element with a property, the last such element of both is found in
either order. -/
theorem find?_reverse_append_comm {α : Type} {p : α → Bool} {l m : List α}
    (h : l.reverse.find? p = none ∨ m.reverse.find? p = none) :
    (l ++ m).reverse.find? p = (m ++ l).reverse.find? p := by
  rw [List.reverse_append, List.reverse_append, List.find?_append, List.find?_append]
  rcases h with h | h
  · rw [h, Option.none_or, Option.or_none]
  · rw [h, Option.none_or, Option.or_none]

/-- Two results that state the same success and the same bindings are equal. -/
theorem Object.same_ofVerdict {v w : Verdict} (hsuccess : v.success = w.success)
    (hcaptures : ∀ n, v.captures.get? n = w.captures.get? n) :
    (ofVerdict v).same (ofVerdict w) = true := by
  rw [ofVerdict, ofVerdict, hsuccess, same, Bool.and_eq_true, Table.sameBindings_iff]
  refine ⟨?_, hcaptures⟩
  simp [Value.same, Value.integer?]

/-- A query text declares the names of what it expects. -/
theorem Query.declares_iff {q n : Text} :
    Declares q n ↔ ∃ e ∈ (pieces q).map expectation, e.value.name? = some n := by
  simp only [Declares, List.mem_map, exists_exists_and_eq_and, name?_expectation]

namespace Template

/-! ## Expectations in either order -/

/-- What stands before the question mark does not hang on what stands after it. -/
theorem path_append_mark {p : Text} (hp : '?' ∉ p) (q q' : Text) :
    path ⟨p ++ '?' :: q⟩ = path ⟨p ++ '?' :: q'⟩ := by
  rw [path, path, Text.cut_append_cons hp, Text.cut_append_cons hp]

/-- **Joined query texts expect what the one expects and then what the other expects.** -/
theorem query_append_amp {p : Text} (hp : '?' ∉ p) (q q' : Text) :
    query ⟨p ++ '?' :: (q ++ '&' :: q')⟩ = query ⟨p ++ '?' :: q⟩ ++ query ⟨p ++ '?' :: q'⟩ := by
  rw [query_append_mark hp, query_append_mark hp, query_append_mark hp, Query.pieces_append,
    List.map_append]

variable {t u : Template} {base : Text} {r : Target} {pattern pattern' : List Expectation}

/-- With expectations of two kinds a request fits exactly if it fits with either of them. -/
theorem success_outcome_append {s : Template} (hpath : s.path = t.path) (hpath' : s.path = u.path)
    (hquery : s.query = t.query ++ u.query) :
    (s.outcome base r).verdict.success = true ↔
      (t.outcome base r).verdict.success = true ∧ (u.outcome base r).verdict.success = true := by
  rw [success_outcome_iff, success_outcome_iff, success_outcome_iff, ← hpath, ← hpath', hquery,
    Query.met_append_iff]
  exact and_and_left

/-- **The captures of expectations in either order.**  They bind every name alike if no name is
declared on both sides, whether the literals are met or not. -/
theorem get?_captures_swap (hpath : t.path = u.path) (ht : t.query = pattern ++ pattern')
    (hu : u.query = pattern' ++ pattern)
    (hnames : ∀ n, (∃ e ∈ pattern, e.value.name? = some n) →
      ¬ ∃ e ∈ pattern', e.value.name? = some n) (n : Text) :
    (t.outcome base r).verdict.captures.get? n = (u.outcome base r).verdict.captures.get? n := by
  have hnone : ∀ l : List Expectation, (¬ ∃ e ∈ l, e.value.name? = some n) →
      l.reverse.find? (fun e => e.value.name? = some n) = none := by
    intro l hl
    rw [List.find?_eq_none]
    intro e he hn
    exact hl ⟨e, List.mem_reverse.mp he, by simpa using hn⟩
  have hlast : t.query.reverse.find? (fun e => e.value.name? = some n)
      = u.query.reverse.find? (fun e => e.value.name? = some n) := by
    rw [ht, hu]
    apply find?_reverse_append_comm
    by_cases hn : ∃ e ∈ pattern, e.value.name? = some n
    · exact Or.inr (hnone pattern' (hnames n hn))
    · exact Or.inl (hnone pattern hn)
  by_cases h : ∃ segments, Path.below? base r.path = some segments ∧
      List.Forall₂ Part.Admits t.path segments
  · obtain ⟨segments, hbelow, hadmits⟩ := h
    rw [get?_outcome hbelow hadmits, get?_outcome hbelow (hpath ▸ hadmits), hlast, hpath]
  · rw [verdict_outcome_of_not_admits h, verdict_outcome_of_not_admits (hpath ▸ h)]

/-! ## Joined query texts -/

/-- **A template with joined query texts is the conjunction of the two.**  Below any base it fits a
request exactly if it does with the one and with the other.  The order of the two makes no difference
to success, and if no name is declared in both, none to the result: the same names are bound to the
same values, whether the literals are met or not and whatever the path declares. -/
theorem verdict?_joined {p : Text} (hp : '?' ∉ p) (q q' : Text) {base request : Uri} {b r : Target}
    (hbase : base.target? = .ok b) (hrequest : request.target? = .ok r) :
    ∃ both swapped left right,
      verdict? ⟨p ++ '?' :: (q ++ '&' :: q')⟩ base request = .ok both ∧
      verdict? ⟨p ++ '?' :: (q' ++ '&' :: q)⟩ base request = .ok swapped ∧
      verdict? ⟨p ++ '?' :: q⟩ base request = .ok left ∧
      verdict? ⟨p ++ '?' :: q'⟩ base request = .ok right ∧
      (both.success = true ↔ left.success = true ∧ right.success = true) ∧
      both.success = swapped.success ∧
      ((∀ n, Query.Declares q n → ¬ Query.Declares q' n) →
        (∀ n, both.captures.get? n = swapped.captures.get? n) ∧
          (Object.ofVerdict both).same (Object.ofVerdict swapped) = true) := by
  refine ⟨_, _, _, _, verdict?_of_target? hbase hrequest, verdict?_of_target? hbase hrequest,
    verdict?_of_target? hbase hrequest, verdict?_of_target? hbase hrequest, ?_⟩
  have hboth := @success_outcome_append ⟨p ++ '?' :: q⟩ ⟨p ++ '?' :: q'⟩ b.path r _
    (path_append_mark hp _ _) (path_append_mark hp _ _) (query_append_amp hp q q')
  have hswapped := @success_outcome_append ⟨p ++ '?' :: q'⟩ ⟨p ++ '?' :: q⟩ b.path r _
    (path_append_mark hp _ _) (path_append_mark hp _ _) (query_append_amp hp q' q)
  have hsuccess : (outcome ⟨p ++ '?' :: (q ++ '&' :: q')⟩ b.path r).verdict.success
      = (outcome ⟨p ++ '?' :: (q' ++ '&' :: q)⟩ b.path r).verdict.success := by
    rw [Bool.eq_iff_iff, hboth, hswapped, and_comm]
  refine ⟨hboth, hsuccess, fun hnames => ?_⟩
  have hcaptures := @get?_captures_swap ⟨p ++ '?' :: (q ++ '&' :: q')⟩
    ⟨p ++ '?' :: (q' ++ '&' :: q)⟩ b.path r _ _ (path_append_mark hp _ _)
    (query_append_amp hp q q') (query_append_amp hp q' q) (by
      simpa only [query_append_mark hp, ← Query.declares_iff] using hnames)
  exact ⟨hcaptures, Object.same_ofVerdict hsuccess hcaptures⟩

/-- A query text with empty pieces and one that takes a literal back, while a name of the path is
declared again. -/
theorem verdict?_joined_conflicting_literals :
    let p : Text := "/\x7bid\x7d".toList
    let q : Text := "k=1&x=\x7bid\x7d&&x?=\x7bz\x7d".toList
    let q' : Text := "&y=\x7by\x7d&%6B=2".toList
    let base : Uri := .text "http://h/a/".toList
    let request : Uri := .text "/A//7?k=1&x=8&k=2".toList
    let b : Target := ⟨"/a/".toList, ∅⟩
    let r : Target := ⟨"/A//7".toList, Query.table "k=1&x=8&k=2".toList⟩
    '?' ∉ p ∧ base.target? = .ok b ∧ request.target? = .ok r ∧
      (∀ n, Query.Declares q n → ¬ Query.Declares q' n) ∧
      ∃ both swapped left right,
        verdict? ⟨p ++ '?' :: (q ++ '&' :: q')⟩ base request = .ok both ∧
        verdict? ⟨p ++ '?' :: (q' ++ '&' :: q)⟩ base request = .ok swapped ∧
        verdict? ⟨p ++ '?' :: q⟩ base request = .ok left ∧
        verdict? ⟨p ++ '?' :: q'⟩ base request = .ok right ∧
        (both.success = true ↔ left.success = true ∧ right.success = true) ∧
        both.success = swapped.success ∧
        (∀ n, both.captures.get? n = swapped.captures.get? n) ∧
        (Object.ofVerdict both).same (Object.ofVerdict swapped) = true := by
  intro p q q' base request b r
  have hp : '?' ∉ p := by decide
  have hbase : base.target? = .ok b := by rfl
  have hrequest : request.target? = .ok r := by rfl
  have hnames : ∀ n, Query.Declares q n → ¬ Query.Declares q' n := by
    rintro n ⟨f, hf, hn⟩ ⟨g, hg, hn'⟩
    have happart : ∀ f ∈ Query.pieces q, ∀ g ∈ Query.pieces q',
        Query.fieldName? f ≠ none → Query.fieldName? f ≠ Query.fieldName? g := by decide
    exact happart f hf g hg (by simp [hn]) (hn.trans hn'.symm)
  obtain ⟨both, swapped, left, right, hboth, hswapped, hleft, hright, hand, hsuccess, hsame⟩ :=
    verdict?_joined hp q q' hbase hrequest
  exact ⟨hp, hbase, hrequest, hnames, both, swapped, left, right, hboth, hswapped, hleft, hright,
    hand, hsuccess, hsame hnames⟩

end Template

end UriRouting
