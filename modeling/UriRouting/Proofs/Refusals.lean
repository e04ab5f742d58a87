import UriRouting.Proofs.Addresses
import UriRouting.Match.Verdict

/-!
# Refused requests

A request that is handed over as a text is read before anything is matched, and reading can refuse
it. What is refused is the authority and nothing else: escapes, queries, ports and paths may be as
odd as they like. So a match has a verdict on a text exactly if the authority in the text is in
order, whatever the template and the base are.

## Main Definitions

- `Parts.authorityOf`: the authority in a text.
- `Authority.InOrder`: the authorities that are not refused.

## Main Statements

- `Authority.fault?_eq_none_iff`: an authority has no fault exactly if it is in order.
- `Parts.ofText?_eq_error_iff`: a text is refused exactly for the fault of its authority.
- `Template.exists_verdict?_text_iff`: when a match has a verdict on a text, and what it fails with
  otherwise.
-/

namespace UriRouting

/-- A computation has a result exactly if it does not fail. -/
theorem exists_eq_ok_iff {ε α : Type} {x : Except ε α} :
    (∃ a, x = .ok a) ↔ ∀ e, x ≠ .error e := by
  cases x <;> simp

/-! ## Authorities -/

namespace Authority

/-- An authority is in order if it has no brackets or brackets around a host literal, and no
character that decomposes into a delimiter. -/
structure InOrder (authority : Text) : Prop where
  brackets : ('[' ∉ authority ∧ ']' ∉ authority) ∨
    ('[' ∈ authority ∧ ']' ∈ authority ∧
      ∃ host, host? authority = some host ∧ hostFault? host = none)
  visible : ∀ c ∈ authority, c ∉ hiddenDelimiters

/-- The brackets of an authority have no fault if there are none or if they enclose a host
literal. -/
theorem bracketFault?_eq_none_iff {authority : Text} :
    bracketFault? authority = none ↔
      ('[' ∉ authority ∧ ']' ∉ authority) ∨
        ('[' ∈ authority ∧ ']' ∈ authority ∧
          ∃ host, host? authority = some host ∧ hostFault? host = none) := by
  by_cases hopen : '[' ∈ authority <;> by_cases hclose : ']' ∈ authority
  · cases hhost : host? authority with
    | none => simp [bracketFault?, hopen, hclose, hhost]
    | some host => simp [bracketFault?, hopen, hclose, hhost]
  · simp [bracketFault?, hopen, hclose]
  · simp [bracketFault?, hopen, hclose]
  · simp [bracketFault?, hopen, hclose]

/-- An authority has no fault exactly if it is in order. -/
theorem fault?_eq_none_iff {authority : Text} :
    fault? authority = none ↔ InOrder authority := by
  have hhidden : (authority.any hiddenDelimiters.contains) = false ↔
      ∀ c ∈ authority, c ∉ hiddenDelimiters := by
    simp [List.any_eq_false]
  rw [fault?, Option.or_eq_none_iff, bracketFault?_eq_none_iff]
  constructor
  · rintro ⟨hbrackets, hvisible⟩
    exact ⟨hbrackets, hhidden.mp (by simpa using hvisible)⟩
  · rintro ⟨hbrackets, hvisible⟩
    exact ⟨hbrackets, by rw [hhidden.mpr hvisible]; rfl⟩

end Authority

/-! ## Texts -/

namespace Parts

/-- The authority in a text. -/
def authorityOf (t : Text) : Text := (cutAuthority (cutScheme (clean t)).2).1

/-- A text is refused exactly for the fault of its authority. -/
theorem ofText?_eq_error_iff {t : Text} {e : AuthorityError} :
    ofText? t = .error e ↔ Authority.fault? (authorityOf t) = some e := by
  rw [authorityOf]
  simp only [ofText?]
  cases Authority.fault? (cutAuthority (cutScheme (clean t)).2).1 <;> simp

/-- The authority in a text consists of characters of the text. -/
theorem mem_of_mem_authorityOf {t : Text} {c : Char} (h : c ∈ authorityOf t) : c ∈ t := by
  have hauthority : ∀ s : Text, c ∈ (cutAuthority s).1 → c ∈ s := by
    intro s hs
    unfold cutAuthority at hs
    split at hs
    · exact List.mem_cons_of_mem _ (List.mem_cons_of_mem _ ((List.takeWhile_prefix _).subset hs))
    · simp at hs
  have hscheme : ∀ s : Text, c ∈ (cutScheme s).2 → c ∈ s := by
    intro s hs
    unfold cutScheme at hs
    dsimp only at hs
    split at hs
    · exact Text.mem_of_mem_cut_snd hs
    · exact hs
  have hclean : c ∈ clean t := hscheme _ (hauthority _ h)
  exact (List.dropWhile_suffix _).subset (List.mem_filter.mp hclean).1

end Parts

/-! ## Matches -/

namespace Template

/-- A match below a base fails exactly if the request is refused, and then for the same reason. -/
theorem verdict?_text_eq_error_iff {t : Template} {base : Uri} {b : Target}
    (hbase : base.target? = .ok b) {request : Text} {e : UriError} :
    t.verdict? base (.text request) = .error e ↔
      ∃ fault, Authority.fault? (Parts.authorityOf request) = some fault ∧
        e = .authority fault := by
  simp only [← Parts.ofText?_eq_error_iff]
  rw [verdict?, outcome?, hbase, Uri.target?, Uri.parts?]
  cases Parts.ofText? request with
  | ok p => simp [Except.map, Except.mapError]
  | error fault => simp [Except.map, Except.mapError, eq_comm]

/-- **When a match has a verdict on a text.**  It has one exactly if the authority in the text is in
order, and fails with the fault of the authority otherwise, whatever the template and the base are.
In particular it has a verdict on every text without brackets and hidden delimiters. -/
theorem exists_verdict?_text_iff (t : Template) {base : Uri} {b : Target}
    (hbase : base.target? = .ok b) (request : Text) :
    ((∃ v, t.verdict? base (.text request) = .ok v) ↔
      Authority.InOrder (Parts.authorityOf request)) ∧
    (∀ e, t.verdict? base (.text request) = .error e ↔
      ∃ fault, Authority.fault? (Parts.authorityOf request) = some fault ∧
        e = .authority fault) ∧
    ((∀ c ∈ request, c ≠ '[' ∧ c ≠ ']' ∧ c ∉ Authority.hiddenDelimiters) →
      ∃ v, t.verdict? base (.text request) = .ok v) := by
  have hverdict : (∃ v, t.verdict? base (.text request) = .ok v) ↔
      Authority.InOrder (Parts.authorityOf request) := by
    rw [← Authority.fault?_eq_none_iff, exists_eq_ok_iff, Option.eq_none_iff_forall_ne_some]
    simp only [ne_eq, verdict?_text_eq_error_iff hbase, not_exists, not_and]
    exact ⟨fun h fault hfault => h _ fault hfault rfl, fun h _ fault hfault _ => h fault hfault⟩
  refine ⟨hverdict, fun e => verdict?_text_eq_error_iff hbase, fun hplain => hverdict.mpr ?_⟩
  refine ⟨Or.inl ⟨fun h => ?_, fun h => ?_⟩, fun c hc => ?_⟩
  · exact (hplain '[' (Parts.mem_of_mem_authorityOf h)).1 rfl
  · exact (hplain ']' (Parts.mem_of_mem_authorityOf h)).2.1 rfl
  · exact (hplain c (Parts.mem_of_mem_authorityOf hc)).2.2

/-- Broken escapes, empty fields, a port that is no number and a bracket behind the authority are no
reason to refuse a request, a host literal of version 6 is none either. -/
theorem exists_verdict?_text_of_odd_requests :
    let t : Template := ⟨"\x7bv\x7d?k=1".toList⟩
    let base : Uri := .text "http://h/app".toList
    let odd : Text := "http://é:x@h:-1/app/%zz%FF[//?&&=%&k".toList
    let literal : Text := "//u@[fe80::1%e]:/app".toList
    base.target? = .ok ⟨"/app".toList, ∅⟩ ∧
      Authority.InOrder (Parts.authorityOf odd) ∧
      Authority.InOrder (Parts.authorityOf literal) ∧
      (∃ v, t.verdict? base (.text odd) = .ok v) ∧
      ∃ v, t.verdict? base (.text literal) = .ok v := by
  intro t base odd literal
  have hbase : base.target? = .ok ⟨"/app".toList, ∅⟩ := by rfl
  have hodd : Authority.InOrder (Parts.authorityOf odd) :=
    Authority.fault?_eq_none_iff.mp (by decide)
  have hliteral : Authority.InOrder (Parts.authorityOf literal) :=
    Authority.fault?_eq_none_iff.mp (by decide)
  exact ⟨hbase, hodd, hliteral, (exists_verdict?_text_iff t hbase odd).1.mpr hodd,
    (exists_verdict?_text_iff t hbase literal).1.mpr hliteral⟩

/-- There are requests without a verdict: a bracket that opens in the authority and is not closed is
enough. -/
theorem open_bracket_has_no_verdict :
    ¬ ∀ (t : Template) (base request : Text), (∃ p, Parts.ofText? base = .ok p) →
      ∃ v, t.verdict? (.text base) (.text request) = .ok v := by
  intro h
  obtain ⟨v, hv⟩ := h ⟨"/a".toList⟩ "http://h".toList "http://[".toList ⟨_, rfl⟩
  have herror : (⟨"/a".toList⟩ : Template).verdict? (.text "http://h".toList)
      (.text "http://[".toList) = .error (.authority .brackets) := by rfl
  rw [herror] at hv
  exact absurd hv (by simp)

end Template

end UriRouting
