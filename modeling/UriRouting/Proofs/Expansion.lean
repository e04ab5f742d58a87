import Mathlib.Data.Bool.AllAny
import Mathlib.Data.List.Nodup
import UriRouting.Proofs.Addresses
import UriRouting.Proofs.Matching
import UriRouting.Proofs.Tokens

/-!
# Expanding and matching

Expanding a template puts an escaped value in the place of each variable and leaves everything else
as it is written. What comes out is a request, and matching this request against the template yields
the values again. Escaping keeps the values apart from the delimiters, so the expanded text has the
segments and fields of the source, and each of them stands for the text of its literal or for the
value of its variable.

## Main Definitions

- `Template.expand`: the text of a template with its variables replaced by their values.
- `Part.eval`: the text that a part stands for under given values.

## Main Statements

- `Template.segments_expand`, `Template.pairs_expand`: the segments and fields of an expanded
  template.
- `Template.verdict?_expand`: matching undoes expanding.
-/

namespace UriRouting

/-- A written segment or value, or the escaped value of its variable. -/
def expandToken (value : Text → Text) (token : Text) : Text :=
  match variableName? token with
  | some name => Percent.escape (value name)
  | none => token

/-- A written field with its value expanded; without an equals sign there is no value. -/
def expandField (value : Text → Text) (field : Text) : Text :=
  if field.contains '=' then
    (Text.cut '=' field).1 ++ '=' :: expandToken value (Text.cut '=' field).2
  else field

/-- The text of a template with its variables replaced by their values. -/
def Template.expand (t : Template) (value : Text → Text) : Text :=
  let (path, query) := Text.cut '?' t.source
  let segments := ['/'].intercalate ((path.splitOn '/').map (expandToken value))
  if t.source.contains '?' then
    segments ++ '?' :: ['&'].intercalate ((query.splitOn '&').map (expandField value))
  else segments

/-- The text that a part stands for when variables have the given values. -/
def Part.eval (value : Text → Text) : Part → Text
  | .literal text => text
  | .literalValue text => text
  | .variable name => value name

theorem Part.eval_of_name? {value : Text → Text} {part : Part} {n : Text}
    (h : part.name? = some n) : part.eval value = value n := by
  rcases part with text | text | name
  · simp [name?] at h
  · simp [name?] at h
  · rw [eval, Option.some.inj h]

/-! ## Expanding a segment or a field -/

section Tokens

variable {value : Text → Text}

theorem expandToken_of_token {token name : Text} (h : variableName? token = some name) :
    expandToken value token = Percent.escape (value name) := by
  rw [expandToken, h]

theorem expandToken_of_literal {token : Text} (h : variableName? token = none) :
    expandToken value token = token := by
  rw [expandToken, h]

/-- Expanding brings no reserved character into a token. -/
theorem not_mem_expandToken {c : Char} (hc : Percent.IsReserved c)
    {token : Text} (h : c ∉ token) : c ∉ expandToken value token := by
  cases hname : variableName? token with
  | none =>
      rw [expandToken_of_literal hname]
      exact h
  | some name =>
      rw [expandToken_of_token hname]
      exact Percent.not_mem_escape hc (value name)

/-- An expanded segment stands for the text of its part. -/
theorem unescape_expandToken (segment : Text) :
    Percent.unescape (expandToken value segment) = (Part.ofSegment segment).eval value := by
  cases hname : variableName? segment with
  | none => rw [expandToken_of_literal hname, Part.ofSegment_of_literal hname, Part.eval]
  | some name =>
      rw [expandToken_of_token hname, Part.ofSegment_of_token hname, Percent.unescape_escape,
        Part.eval]

/-- An expanded field value stands for the text of its part. -/
theorem unescapeField_expandToken (token : Text) :
    Percent.unescapeField (expandToken value token) = (Part.ofValue token).eval value := by
  cases hname : variableName? token with
  | none => rw [expandToken_of_literal hname, Part.ofValue_of_literal hname, Part.eval]
  | some name =>
      rw [expandToken_of_token hname, Part.ofValue_of_token hname, Percent.unescapeField_escape,
        Part.eval]

/-- An expanded segment is empty only if the segment is, as long as no variable is. -/
theorem isEmpty_expandToken {token : Text}
    (h : ∀ name, variableName? token = some name → value name ≠ []) :
    (expandToken value token).isEmpty = token.isEmpty := by
  cases hname : variableName? token with
  | none => rw [expandToken_of_literal hname]
  | some name =>
      have htoken : token ≠ [] := by
        rintro rfl
        exact absurd hname (by simp [variableName?])
      have hescape : Percent.escape (value name) ≠ [] := by
        rw [ne_eq, Percent.escape_eq_nil_iff]
        exact h name hname
      rw [expandToken_of_token hname, List.isEmpty_eq_false_iff.mpr hescape,
        List.isEmpty_eq_false_iff.mpr htoken]

/-- The key of an expanded field stays as it is written, its value is expanded. -/
theorem cut_expandField (field : Text) :
    Text.cut '=' (expandField value field)
      = ((Text.cut '=' field).1, expandToken value (Text.cut '=' field).2) := by
  unfold expandField
  split
  · exact Text.cut_append_cons (Text.not_mem_cut_fst '=' field) _
  · next hequals =>
    rw [Text.cut_of_not_mem (by simpa using hequals)]
    rfl

/-- Expanding brings no reserved character into a field. -/
theorem not_mem_expandField {c : Char} (hc : Percent.IsReserved c)
    {field : Text} (h : c ∉ field) : c ∉ expandField value field := by
  unfold expandField
  split
  · next hequals =>
    have hne : c ≠ '=' := by
      rintro rfl
      exact h (by simpa using hequals)
    rw [List.mem_append, List.mem_cons, not_or, not_or]
    exact ⟨fun hkey => h (Text.mem_of_mem_cut_fst hkey), hne,
      not_mem_expandToken hc fun hvalue => h (Text.mem_of_mem_cut_snd hvalue)⟩
  · exact h

theorem isEmpty_expandField (field : Text) : (expandField value field).isEmpty = field.isEmpty := by
  unfold expandField
  split
  · next hequals =>
    have hfield : field ≠ [] := by
      rintro rfl
      exact absurd hequals (by simp)
    rw [List.isEmpty_eq_false_iff.mpr hfield]
    simp
  · rfl

end Tokens

/-- What reading drops or takes for the start of a fragment is written in no template. -/
theorem isForeign_of_not_isPlain {c : Char} (h : ¬ Parts.IsPlain c) : IsForeign c := by
  rw [Parts.IsPlain, not_and_or, not_not, not_not] at h
  rcases h with rfl | rfl | rfl | rfl <;> decide

/-! ## Expanding a template -/

namespace Template

/-- The path and the query text of an expanded template. -/
theorem cut_expand (t : Template) (value : Text → Text) :
    Text.cut '?' (t.expand value)
      = (['/'].intercalate (((Text.cut '?' t.source).1.splitOn '/').map (expandToken value)),
          ['&'].intercalate (((Text.cut '?' t.source).2.splitOn '&').map (expandField value))) := by
  have hmark :
      '?' ∉ ['/'].intercalate (((Text.cut '?' t.source).1.splitOn '/').map (expandToken value)) := by
    refine not_mem_intercalate_map (by decide) fun token htoken => ?_
    refine not_mem_expandToken (by decide) fun hc => ?_
    exact Text.not_mem_cut_fst '?' t.source (mem_of_mem_splitOn htoken hc)
  unfold expand
  dsimp only
  split
  · exact Text.cut_append_cons hmark _
  · next hsource =>
    rw [Text.cut_of_not_mem hmark, Text.cut_of_not_mem (by simpa using hsource)]
    rfl

/-- Expanding brings no foreign character into a template. -/
theorem not_mem_expand {c : Char} (hc : IsForeign c) {t : Template} (h : c ∉ t.source)
    (value : Text → Text) : c ∉ t.expand value := by
  obtain ⟨hreserved, hdelimiter⟩ := hc
  simp only [List.mem_cons, not_or] at hdelimiter
  obtain ⟨hslash, hmark, hamp, -⟩ := hdelimiter
  have hpath :
      c ∉ ['/'].intercalate (((Text.cut '?' t.source).1.splitOn '/').map (expandToken value)) := by
    refine not_mem_intercalate_map hslash fun token htoken => ?_
    refine not_mem_expandToken hreserved fun hc => h ?_
    exact Text.mem_of_mem_cut_fst (mem_of_mem_splitOn htoken hc)
  have hquery :
      c ∉ ['&'].intercalate (((Text.cut '?' t.source).2.splitOn '&').map (expandField value)) := by
    refine not_mem_intercalate_map hamp fun field hfield => ?_
    refine not_mem_expandField hreserved fun hc => h ?_
    exact Text.mem_of_mem_cut_snd (mem_of_mem_splitOn hfield hc)
  unfold expand
  dsimp only
  split
  · rw [List.mem_append, List.mem_cons, not_or, not_or]
    exact ⟨hpath, hmark, hquery⟩
  · exact hpath

/-- Expanding keeps a template free of fragments and of characters that reading drops. -/
theorem plain_expand {t : Template} (h : ∀ c ∈ t.source, Parts.IsPlain c) (value : Text → Text) :
    ∀ c ∈ t.expand value, Parts.IsPlain c := by
  intro c hc
  by_contra hplain
  exact not_mem_expand (isForeign_of_not_isPlain hplain) (mt (h c) hplain) value hc

/-- **The segments of an expanded template** stand for the texts of the expected parts. -/
theorem segments_expand {t : Template} {value : Text → Text}
    (hvalues : ∀ name, .variable name ∈ t.path → value name ≠ []) :
    (Path.segments (Text.cut '?' (t.expand value)).1).map Percent.unescape
      = t.path.map (Part.eval value) := by
  have hslash : ∀ s ∈ ((Text.cut '?' t.source).1.splitOn '/').map (expandToken value),
      '/' ∉ s := by
    intro s hs
    obtain ⟨token, htoken, rfl⟩ := List.mem_map.mp hs
    exact not_mem_expandToken (by decide) (not_mem_of_mem_splitOn htoken)
  -- A token is not empty, so it is not trimmed away: its name is one of the path.
  have hempty : ∀ token ∈ (Text.cut '?' t.source).1.splitOn '/',
      (expandToken value token).isEmpty = token.isEmpty := by
    intro token htoken
    apply isEmpty_expandToken
    intro name hname
    apply hvalues
    have hfilled : token.isEmpty = false := by
      rw [List.isEmpty_eq_false_iff]
      rintro rfl
      exact absurd hname (by simp [variableName?])
    rw [← Part.ofSegment_of_token hname]
    exact List.mem_map_of_mem (mem_trimWhile htoken hfilled)
  rw [cut_expand, Path.segments_intercalate hslash, trimWhile_map hempty, path, List.map_map,
    List.map_map]
  exact List.map_congr_left fun segment _ => unescape_expandToken segment

/-- **The fields of an expanded template** give each expected key the text of its part. -/
theorem pairs_expand (t : Template) (value : Text → Text) :
    Query.pairs (Text.cut '?' (t.expand value)).2
      = t.query.map fun e => (e.key, e.value.eval value) := by
  have hamp : ∀ f ∈ ((Text.cut '?' t.source).2.splitOn '&').map (expandField value), '&' ∉ f := by
    intro f hf
    obtain ⟨field, hfield, rfl⟩ := List.mem_map.mp hf
    exact not_mem_expandField (by decide) (not_mem_of_mem_splitOn hfield)
  -- No field becomes empty, so the same fields count before and after.
  have hfilled : (fun f : Text => !f.isEmpty) ∘ expandField value = fun f => !f.isEmpty := by
    funext field
    rw [Function.comp_apply, isEmpty_expandField]
  rw [Query.pairs, cut_expand, Query.fields_intercalate hamp, List.filter_map, hfilled, query,
    Query.fields]
  simp only [List.map_map]
  apply List.map_congr_left
  intro field _
  simp only [Function.comp_apply, cut_expandField, unescapeField_expandToken]

/-- The first value of an expected key in an expanded template, if the keys are distinct. -/
theorem firstValue?_expand {t : Template} (hkeys : (t.query.map Expectation.key).Nodup)
    (value : Text → Text) {e : Expectation} (he : e ∈ t.query) :
    Query.firstValue? (Query.table (Text.cut '?' (t.expand value)).2) e.key
      = some (e.value.eval value) := by
  refine Query.firstValue?_table_of_unique ?_ ?_
  · rw [pairs_expand]
    exact List.mem_map_of_mem he
  · intro w hw
    rw [pairs_expand] at hw
    obtain ⟨other, hother, hpair⟩ := List.mem_map.mp hw
    obtain ⟨hkey, rfl⟩ := Prod.mk.inj hpair
    rw [List.inj_on_of_nodup_map hkeys hother he hkey]

/-! ## Matching an expanded template -/

/-- **Matching a target with an expanded template.**  The target lies below the base and has the
path and the query text of the expanded template. -/
theorem outcome_expand {t : Template} {value : Text → Text} {base path : Text}
    (hbelow : Path.below? base path
      = some ((Path.segments (Text.cut '?' (t.expand value)).1).map Percent.unescape))
    (hkeys : (t.query.map Expectation.key).Nodup)
    (hvalues : ∀ name, .variable name ∈ t.path → value name ≠ []) :
    let v := (t.outcome base ⟨path, Query.table (Text.cut '?' (t.expand value)).2⟩).verdict
    v.success = true ∧
      ∀ n, v.captures.get? n = if n ∈ t.variableNames then some (value n) else none := by
  rw [segments_expand hvalues] at hbelow
  -- A literal admits its own text, and a variable any value that is not empty.
  have hadmits : List.Forall₂ Part.Admits t.path (t.path.map (Part.eval value)) := by
    rw [List.forall₂_map_right_iff, List.forall₂_same]
    intro part hpart
    rcases part with text | text | name
    · rfl
    · trivial
    · show value name ≠ []
      exact hvalues name hpart
  have hzip : t.path.zip (t.path.map (Part.eval value))
      = t.path.map fun part => (part, part.eval value) := by
    simpa using @List.zip_map' _ _ _ id (Part.eval value) t.path
  refine ⟨success_outcome_iff.mpr ⟨⟨_, hbelow, hadmits⟩, ?_⟩, ?_⟩
  · intro e he expected hvalue
    rw [firstValue?_expand hkeys value he, hvalue, Part.eval]
  · apply get?_outcome_of_agree hbelow hadmits
    · intro e he n hn
      rw [firstValue?_expand hkeys value he, Option.getD_some, Part.eval_of_name? hn]
    · intro x hx n hn
      rw [hzip] at hx
      obtain ⟨part, -, rfl⟩ := List.mem_map.mp hx
      exact Part.eval_of_name? hn

/-- **Matching undoes expanding.**  The request that a template expands to below a base address fits
the template, each declared name is bound to the value that was put in its place, and no other name
is bound.  The keys of the template have to be distinct, and a variable of its path needs a value
that is not empty. -/
theorem verdict?_expand {p : Text} {t : Template} {value : Text → Text}
    (hstart : p = [] ∨ p.head? = some '/') (hbase : ∀ c ∈ p, c ≠ '?' ∧ Parts.IsPlain c)
    (hsource : ∀ c ∈ t.source, Parts.IsPlain c)
    (hkeys : (t.query.map Expectation.key).Nodup)
    (hvalues : ∀ name, .variable name ∈ t.path → value name ≠ []) :
    ∃ v, t.verdict? (.text ("http://h".toList ++ p))
        (.text ("http://h".toList ++ p ++ '/' :: t.expand value)) = .ok v ∧
      v.success = true ∧
      (∀ n ∈ t.variableNames, v.captures.get? n = some (value n)) ∧
      ∀ n, n ∉ t.variableNames → v.captures.get? n = none := by
  have hbaseTarget : (Uri.text ("http://h".toList ++ p)).target? = .ok ⟨p, Query.table []⟩ := by
    rw [Uri.target?_text_host ?_ (fun c hc => (hbase c hc).2),
      Text.cut_of_not_mem fun h => (hbase '?' h).1 rfl]
    intro c hc
    rcases hstart with rfl | hslash
    · simp at hc
    · rw [hslash, Option.mem_some_iff] at hc
      rw [← hc]
      decide
  have hrequestTarget := Uri.target?_text_below hstart hbase (plain_expand hsource value)
  obtain ⟨hsuccess, hcaptures⟩ :=
    outcome_expand (@Path.below?_append_slash p p rfl _) hkeys hvalues
  refine ⟨_, ?_, hsuccess, fun n hn => ?_, fun n hn => ?_⟩
  · rw [verdict?, outcome?, hbaseTarget, hrequestTarget]
    rfl
  · rw [hcaptures n, if_pos hn]
  · rw [hcaptures n, if_neg hn]

/-- Values with delimiters, escapes, tokens and line ends come back from the path and from the
query, where a name stands in both. -/
theorem verdict?_expand_awkward_values :
    let t : Template :=
      ⟨"Files/\x7bid\x7d//\x7bkind\x7d/?k%26=\x7bid\x7d&flag&=\x7bnote\x7d&&to=a+b".toList⟩
    let value : Text → Text := fun n =>
      if n = "id".toList then "a/b%41&+\x7bid\x7d\né".toList
      else if n = "kind".toList then "?#".toList else []
    t.expand value
        = "Files/a%2Fb%2541%26%2B%7Bid%7D%0A%C3%A9//%3F%23/".toList
          ++ "?k%26=a%2Fb%2541%26%2B%7Bid%7D%0A%C3%A9&flag&=&&to=a+b".toList ∧
      ∃ v, t.verdict? (.text ("http://h".toList ++ "/Api/".toList))
          (.text ("http://h".toList ++ "/Api/".toList ++ '/' :: t.expand value)) = .ok v ∧
        v.success = true ∧
        (∀ n ∈ t.variableNames, v.captures.get? n = some (value n)) ∧
        ∀ n, n ∉ t.variableNames → v.captures.get? n = none := by
  intro t value
  have hpath : t.path = [.literal "Files".toList, .variable "id".toList, .literal [],
      .variable "kind".toList] := by decide
  have hvalues : ∀ name, .variable name ∈ t.path → value name ≠ [] := by
    intro name hname
    rw [hpath] at hname
    obtain rfl | rfl : name = "id".toList ∨ name = "kind".toList := by simpa using hname
    · decide
    · decide
  have hbase : ∀ c ∈ "/Api/".toList, c ≠ '?' ∧ Parts.IsPlain c :=
    List.all_iff_forall_prop.mp (by decide)
  have hsource : ∀ c ∈ t.source, Parts.IsPlain c := List.all_iff_forall_prop.mp (by decide)
  exact ⟨by decide, verdict?_expand (by decide) hbase hsource (by decide) hvalues⟩

end Template

end UriRouting
