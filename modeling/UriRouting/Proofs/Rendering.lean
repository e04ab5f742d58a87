import UriRouting.Proofs.Splitting
import UriRouting.Proofs.Tokens

/-!
# Reading and writing templates

A template text describes expected segments and fields, and every description of a certain form can
be written. Literals are escaped, so that no character of them is taken for a delimiter or a token.
Writing and reading are inverse to each other on those forms, and reading yields no other ones.

## Main Definitions

- `Template.render`: the template with the given segments and fields.
- `Template.WellFormed`: the segments and fields that a template can describe.

## Main Statements

- `Template.path_render`, `Template.query_render`: what is read from a written template.
- `Template.wellFormed_and_path_query_render`: the descriptions that occur are the well-formed
  ones, and each of them is read back from its written form.

## Design Notes

An empty segment can be described inside a path but not at its ends, because slashes at the ends do
not count. A name has at least one character, so a token without a name is a literal.
-/

namespace UriRouting

/-- The written form of an expected field. -/
def Expectation.render (e : Expectation) : Text := Percent.escape e.key ++ '=' :: e.value.render

namespace Template

/-- The template with the given segments and fields; without fields it has no question mark. -/
def render (path : List Part) (query : List Expectation) : Template :=
  let segments := ['/'].intercalate (path.map Part.render)
  let fields := ['&'].intercalate (query.map Expectation.render)
  ⟨if query.isEmpty then segments else segments ++ '?' :: fields⟩

/-- The segments and fields that a template can describe: parts of the right kind with proper names,
and no empty literal at either end of the path. -/
structure WellFormed (path : List Part) (query : List Expectation) : Prop where
  segments : ∀ part ∈ path, part.IsSegment
  values : ∀ e ∈ query, e.value.IsValue
  first : path.head? ≠ some (.literal [])
  last : path.getLast? ≠ some (.literal [])

instance (path : List Part) (query : List Expectation) : Decidable (WellFormed path query) :=
  decidable_of_iff
    ((∀ part ∈ path, part.IsSegment) ∧ (∀ e ∈ query, e.value.IsValue) ∧
      path.head? ≠ some (.literal []) ∧ path.getLast? ≠ some (.literal []))
    ⟨fun ⟨segments, values, first, last⟩ => ⟨segments, values, first, last⟩,
      fun ⟨segments, values, first, last⟩ => ⟨segments, values, first, last⟩⟩

/-! ## What is read is well formed -/

/-- A segment that is not empty does not describe the empty literal. -/
theorem map_ofSegment_ne {first? : Option Text} (h : ∀ s ∈ first?, s ≠ []) :
    first?.map Part.ofSegment ≠ some (.literal []) := by
  intro hnil
  obtain ⟨s, hs, hsegment⟩ := Option.map_eq_some_iff.mp hnil
  exact h s hs (Part.ofSegment_eq_literal_nil_iff.mp hsegment)

/-- Every template describes well-formed segments and fields. -/
theorem wellFormed_path_query (t : Template) : WellFormed t.path t.query where
  segments := by
    intro part hpart
    obtain ⟨s, -, rfl⟩ := List.mem_map.mp hpart
    exact Part.isSegment_ofSegment s
  values := by
    intro e he
    obtain ⟨⟨key, value⟩, -, rfl⟩ := List.mem_map.mp he
    exact Part.isValue_ofValue value
  first := by
    rw [path, List.head?_map]
    exact map_ofSegment_ne Path.head?_segments_ne_nil
  last := by
    rw [path, List.getLast?_map]
    exact map_ofSegment_ne Path.getLast?_segments_ne_nil

/-! ## What is written is read back -/

/-- The written path is what stands before the first question mark, the written fields are what
stands after it. -/
theorem cut_source_render {path : List Part} (query : List Expectation)
    (h : ∀ part ∈ path, part.IsSegment) :
    Text.cut '?' (render path query).source
      = (['/'].intercalate (path.map Part.render), ['&'].intercalate (query.map Expectation.render))
    := by
  have hmark : '?' ∉ ['/'].intercalate (path.map Part.render) :=
    not_mem_intercalate_map (by decide) fun part hpart =>
      Part.not_mem_render (Or.inl (h part hpart)) (by decide)
  cases query with
  | nil => exact Text.cut_of_not_mem hmark
  | cons e query => exact Text.cut_append_cons hmark _

/-- A written template holds no foreign character. -/
theorem not_mem_source_render {path : List Part} {query : List Expectation}
    (h : WellFormed path query) {c : Char} (hc : IsForeign c) : c ∉ (render path query).source := by
  obtain ⟨hreserved, hdelimiter⟩ := hc
  simp only [List.mem_cons, List.not_mem_nil, or_false, not_or] at hdelimiter
  obtain ⟨hslash, hmark, hamp, hequals, hopen, hclose⟩ := hdelimiter
  have hpath : c ∉ ['/'].intercalate (path.map Part.render) :=
    not_mem_intercalate_map hslash fun part hpart =>
      Part.not_mem_render (Or.inl (h.segments part hpart)) ⟨hreserved, hopen, hclose⟩
  have hquery : c ∉ ['&'].intercalate (query.map Expectation.render) := by
    refine not_mem_intercalate_map hamp fun e he => ?_
    rw [Expectation.render, List.mem_append, List.mem_cons, not_or, not_or]
    exact ⟨Percent.not_mem_escape hreserved e.key, hequals,
      Part.not_mem_render (Or.inr (h.values e he)) ⟨hreserved, hopen, hclose⟩⟩
  unfold render
  dsimp only
  split
  · exact hpath
  · rw [List.mem_append, List.mem_cons, not_or, not_or]
    exact ⟨hpath, hmark, hquery⟩

/-- **The segments are read back.** -/
theorem path_render {path : List Part} {query : List Expectation} (h : WellFormed path query) :
    (render path query).path = path := by
  have hslash : ∀ s ∈ path.map Part.render, '/' ∉ s := by
    intro s hs
    obtain ⟨part, hpart, rfl⟩ := List.mem_map.mp hs
    exact Part.not_mem_render (Or.inl (h.segments part hpart)) (by decide)
  -- No written segment at the ends is empty, so nothing is trimmed.
  have htrim : trimWhile List.isEmpty (path.map Part.render) = path.map Part.render := by
    apply trimWhile_eq_self
    · intro s hs
      rw [List.head?_map, Option.mem_def, Option.map_eq_some_iff] at hs
      obtain ⟨part, hpart, rfl⟩ := hs
      rw [List.isEmpty_eq_false_iff, ne_eq,
        Part.render_eq_nil_iff (h.segments part (List.mem_of_head? hpart))]
      rintro rfl
      exact h.first hpart
    · intro s hs
      rw [List.getLast?_map, Option.mem_def, Option.map_eq_some_iff] at hs
      obtain ⟨part, hpart, rfl⟩ := hs
      rw [List.isEmpty_eq_false_iff, ne_eq,
        Part.render_eq_nil_iff (h.segments part (List.mem_of_getLast? hpart))]
      rintro rfl
      exact h.last hpart
  rw [Template.path, cut_source_render query h.segments, Path.segments_intercalate hslash, htrim,
    List.map_map]
  exact (List.map_congr_left fun part hpart => Part.ofSegment_render (h.segments part hpart)).trans
    (List.map_id path)

/-- **The fields are read back.** -/
theorem query_render {path : List Part} {query : List Expectation} (h : WellFormed path query) :
    (render path query).query = query := by
  have hdelimiters : ∀ field ∈ query.map fun e => (Percent.escape e.key, e.value.render),
      '=' ∉ field.1 ∧ '&' ∉ field.1 ∧ '&' ∉ field.2 := by
    intro field hfield
    obtain ⟨e, he, rfl⟩ := List.mem_map.mp hfield
    exact ⟨Percent.not_mem_escape (by decide) e.key, Percent.not_mem_escape (by decide) e.key,
      Part.not_mem_render (Or.inr (h.values e he)) (by decide)⟩
  have hfields : Query.fields (['&'].intercalate (query.map Expectation.render))
      = query.map fun e => (Percent.escape e.key, e.value.render) := by
    rw [← Query.fields_intercalate_pairs hdelimiters, List.map_map]
    rfl
  rw [Template.query, cut_source_render query h.segments, hfields, List.map_map]
  refine (List.map_congr_left fun e he => ?_).trans (List.map_id query)
  simp only [Function.comp_apply, Percent.unescapeField_escape, Part.ofValue_render (h.values e he),
    id]

/-- **Reading and writing are inverse.**  Every template describes well-formed segments and fields,
and well-formed segments and fields are what their written form describes. -/
theorem wellFormed_and_path_query_render :
    (∀ t : Template, WellFormed t.path t.query) ∧
      ∀ (path : List Part) (query : List Expectation), WellFormed path query →
        (render path query).path = path ∧ (render path query).query = query :=
  ⟨wellFormed_path_query, fun _ _ h => ⟨path_render h, query_render h⟩⟩

/-- Literals that look like tokens, delimiters or nothing at all are read back. -/
theorem path_query_render_awkward_literals :
    let path : List Part := [.literal "\x7ba\x7d".toList, .literal [], .variable "a".toList,
      .literal "a/b?%é".toList]
    let query : List Expectation := [⟨"k&=+".toList, .literalValue "\x7ba\x7d\n".toList⟩,
      ⟨[], .variable "a".toList⟩, ⟨[], .literalValue []⟩]
    WellFormed path query ∧
      (render path query).path = path ∧ (render path query).query = query := by
  refine ⟨by decide, ?_⟩
  exact wellFormed_and_path_query_render.2 _ _ (by decide)

end Template

end UriRouting
