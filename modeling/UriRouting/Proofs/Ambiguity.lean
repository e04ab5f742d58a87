import UriRouting.Proofs.Expansion
import UriRouting.Proofs.Rendering

/-!
# Ambiguous routes

Two routes are ambiguous if some request fits both of their templates. Whether there is such a
request can be read off the templates: it exists unless their paths differ in length, two segments
exclude each other or a key is given two different values. The request is found by writing down a
third template, which asks for what both of them ask for, and expanding it below the base.

## Main Definitions

- `Part.Meets`: one segment can be admitted by both parts.
- `Part.Agrees`, `Query.Consistent`: one value can be what all expectations of its key ask for.
- `Part.meet`, `Template.meet`: what asks for whatever two parts or two templates ask for.
- `Path.escaped`: a path with the same keys in plain characters.

## Main Statements

- `Template.accepts_meet`: what the third template expands to fits both templates.
- `Template.exists_accepts_iff`: when two templates accept a common request, and when a template
  accepts a request at all.

## Design Notes

The address of the base does not matter, only its path does, and a base path can hold characters
that no request can: it may be handed over in parts. The request escapes them.
-/

namespace UriRouting

/-! ## Conflicts -/

namespace Part

/-- Two parts of paths that do not exclude each other: literals are the same text but for case, and
a variable does not face the empty literal. -/
def Meets : Part → Part → Prop
  | .literal a, .literal b => CaseFold.fold a = CaseFold.fold b
  | .literal a, .variable _ => a ≠ []
  | .variable _, .literal b => b ≠ []
  | _, _ => True

instance : DecidableRel Meets
  | .literal a, .literal b => inferInstanceAs (Decidable (CaseFold.fold a = CaseFold.fold b))
  | .literal a, .variable _ => inferInstanceAs (Decidable (a ≠ []))
  | .variable _, .literal b => inferInstanceAs (Decidable (b ≠ []))
  | .literal _, .literalValue _ | .literalValue _, _ | .variable _, .literalValue _
  | .variable _, .variable _ => inferInstanceAs (Decidable True)

/-- Two expected values that do not exclude each other: literals are the same text. -/
def Agrees : Part → Part → Prop
  | .literalValue a, .literalValue b => a = b
  | _, _ => True

instance : DecidableRel Agrees
  | .literalValue a, .literalValue b => inferInstanceAs (Decidable (a = b))
  | .literalValue _, .literal _ | .literalValue _, .variable _ | .literal _, _ | .variable _, _ =>
    inferInstanceAs (Decidable True)

end Part

/-- No two literal values are expected of one key. -/
def Query.Consistent (pattern : List Expectation) : Prop :=
  ∀ e ∈ pattern, ∀ f ∈ pattern, e.key = f.key → e.value.Agrees f.value

instance (pattern : List Expectation) : Decidable (Query.Consistent pattern) :=
  inferInstanceAs (Decidable (∀ e ∈ pattern, ∀ f ∈ pattern, _))

/-- A part does not exclude itself. -/
theorem Part.meets_self (part : Part) : part.Meets part := by
  rcases part with text | text | name
  · rfl
  · trivial
  · trivial

/-- Parts that admit the same segment do not exclude each other. -/
theorem Part.meets_of_admits {p q : Part} {segment : Text} (hp : p.Admits segment)
    (hq : q.Admits segment) : p.Meets q := by
  -- A literal that admits a segment which is not empty is not empty itself.
  have hfilled : ∀ a, segment ≠ [] → CaseFold.fold a = CaseFold.fold segment → a ≠ [] := by
    rintro a hsegment hfold rfl
    exact hsegment (CaseFold.fold_eq_nil_iff.mp hfold.symm)
  rcases p with a | a | n <;> rcases q with b | b | m
  · show CaseFold.fold a = CaseFold.fold b
    exact Eq.trans hp hq.symm
  · trivial
  · show a ≠ []
    exact hfilled a hq hp
  · trivial
  · trivial
  · trivial
  · show b ≠ []
    exact hfilled b hp hq
  · trivial
  · trivial

/-- Paths that admit the same segments do not exclude each other. -/
theorem Part.forall₂_meets_of_admits {p q : List Part} {segments : List Text}
    (hp : List.Forall₂ Admits p segments) (hq : List.Forall₂ Admits q segments) :
    List.Forall₂ Meets p q := by
  induction hp generalizing q with
  | nil =>
      cases hq
      exact .nil
  | cons hpart _ ih =>
      cases hq with
      | cons hother hrest => exact .cons (meets_of_admits hpart hother) (ih hrest)

/-- Literals that are met by one query do not exclude each other. -/
theorem Query.consistent_of_met {pattern : List Expectation} {query : Table (List Text)}
    (h : Met pattern query) : Consistent pattern := by
  rintro ⟨k, x⟩ he ⟨l, y⟩ hf hkey
  rcases x with a | a | n <;> rcases y with b | b | m
  case literalValue.literalValue =>
    have ha := h _ he a rfl
    have hb := h _ hf b rfl
    dsimp only at hkey ha hb
    rw [hkey, hb] at ha
    exact (Option.some.inj ha).symm
  all_goals trivial

theorem Query.consistent_append_self_iff {pattern : List Expectation} :
    Consistent (pattern ++ pattern) ↔ Consistent pattern := by
  unfold Consistent
  simp only [List.mem_append, or_self]

/-! ## A part that asks for what two parts ask for -/

namespace Part

/-- What asks for whatever two parts of paths ask for that do not exclude each other. -/
def meet : Part → Part → Part
  | .literal a, _ => .literal a
  | _, .literal b => .literal b
  | .variable n, _ => .variable n
  | _, q => q

theorem isSegment_meet {p q : Part} (hp : p.IsSegment) (hq : q.IsSegment) :
    (meet p q).IsSegment := by
  rcases p with a | a | n
  · trivial
  · exact absurd hp (by simp [IsSegment])
  · rcases q with b | b | m
    · trivial
    · exact hp
    · exact hp

theorem meet_eq_literal_nil {p q : Part} (h : meet p q = .literal []) :
    p = .literal [] ∨ q = .literal [] := by
  rcases p with a | a | n
  · exact Or.inl h
  · rcases q with b | b | m
    · exact Or.inr h
    · exact absurd h (by simp [meet])
    · exact absurd h (by simp [meet])
  · rcases q with b | b | m
    · exact Or.inr h
    · exact absurd h (by simp [meet])
    · exact absurd h (by simp [meet])

/-- Whatever stands for the common part is admitted by both parts. -/
theorem admits_eval_meet {value : Text → Text} (hvalue : ∀ n, value n ≠ []) {p q : Part}
    (h : p.Meets q) :
    p.Admits ((meet p q).eval value) ∧ q.Admits ((meet p q).eval value) := by
  rcases p with a | a | n <;> rcases q with b | b | m
  · exact ⟨rfl, h.symm⟩
  · exact ⟨rfl, trivial⟩
  · exact ⟨rfl, h⟩
  · exact ⟨trivial, rfl⟩
  · exact ⟨trivial, trivial⟩
  · exact ⟨trivial, hvalue m⟩
  · exact ⟨h, rfl⟩
  · exact ⟨hvalue n, trivial⟩
  · exact ⟨hvalue n, hvalue n⟩

/-- Whatever stands for the common parts of two paths is admitted by both paths. -/
theorem forall₂_admits_eval_meet {value : Text → Text} (hvalue : ∀ n, value n ≠ [])
    {p q : List Part} (h : List.Forall₂ Meets p q) :
    List.Forall₂ Admits p ((List.zipWith meet p q).map (eval value)) ∧
      List.Forall₂ Admits q ((List.zipWith meet p q).map (eval value)) := by
  induction h with
  | nil => exact ⟨.nil, .nil⟩
  | cons hpart _ ih =>
      obtain ⟨hleft, hright⟩ := admits_eval_meet hvalue hpart
      exact ⟨.cons hleft ih.1, .cons hright ih.2⟩

theorem head?_zipWith_meet_ne {p q : List Part} (hp : p.head? ≠ some (.literal []))
    (hq : q.head? ≠ some (.literal [])) :
    (List.zipWith meet p q).head? ≠ some (.literal []) := by
  cases p with
  | nil => simp
  | cons a p =>
      cases q with
      | nil => simp
      | cons b q =>
          intro h
          rw [List.zipWith_cons_cons, List.head?_cons, Option.some.injEq] at h
          rcases meet_eq_literal_nil h with rfl | rfl
          · exact hp rfl
          · exact hq rfl

end Part

/-! ## A request for two templates -/

/-- The expectations with a literal value. -/
def Query.literals (pattern : List Expectation) : List Expectation :=
  pattern.filter fun e => e.value.name? = none

namespace Template

/-- The template that asks for whatever two templates ask for that do not exclude each other. -/
def meet (t u : Template) : Template :=
  render (List.zipWith Part.meet t.path u.path) (Query.literals (t.query ++ u.query))

/-- What two templates ask for can be written as a template. -/
theorem wellFormed_meet {t u : Template} (h : t.path.length = u.path.length) :
    WellFormed (List.zipWith Part.meet t.path u.path) (Query.literals (t.query ++ u.query)) := by
  have ht := wellFormed_path_query t
  have hu := wellFormed_path_query u
  constructor
  · intro part hpart
    rw [← List.map_uncurry_zip_eq_zipWith] at hpart
    obtain ⟨⟨p, q⟩, hzip, rfl⟩ := List.mem_map.mp hpart
    obtain ⟨hp, hq⟩ := List.of_mem_zip hzip
    exact Part.isSegment_meet (ht.segments p hp) (hu.segments q hq)
  · intro e he
    rcases List.mem_append.mp (List.mem_of_mem_filter he) with he | he
    · exact ht.values e he
    · exact hu.values e he
  · exact Part.head?_zipWith_meet_ne ht.first hu.first
  -- The paths have the same length, so their last parts meet as well: read both from behind.
  · rw [← List.head?_reverse, List.reverse_zipWith h]
    refine Part.head?_zipWith_meet_ne ?_ ?_
    · rw [List.head?_reverse]
      exact ht.last
    · rw [List.head?_reverse]
      exact hu.last

/-- A written template holds no fragment and no character that reading drops. -/
theorem plain_source_render {path : List Part} {query : List Expectation}
    (h : WellFormed path query) : ∀ c ∈ (render path query).source, Parts.IsPlain c := by
  intro c hc
  by_contra hplain
  exact not_mem_source_render h (isForeign_of_not_isPlain hplain) hc

end Template

/-- A path with the same keys as the given one, in which only slashes and unreserved characters
stand for themselves. -/
def Path.escaped (path : Text) : Text :=
  '/' :: ['/'].intercalate ((segments path).map fun s => Percent.escape (Percent.unescape s))

/-- Escaping the segments of a path keeps their keys. -/
theorem Path.map_key_segments_escaped (path : Text) :
    (segments (escaped path)).map key = (segments path).map key := by
  have hslash : ∀ s ∈ (segments path).map fun s => Percent.escape (Percent.unescape s),
      '/' ∉ s := by
    intro s hs
    obtain ⟨segment, -, rfl⟩ := List.mem_map.mp hs
    exact Percent.not_mem_escape (by decide) _
  have hempty : ∀ s ∈ segments path,
      (Percent.escape (Percent.unescape s)).isEmpty = s.isEmpty := by
    intro s _
    rw [Bool.eq_iff_iff, List.isEmpty_iff, List.isEmpty_iff, Percent.escape_eq_nil_iff,
      Percent.unescape_eq_nil_iff]
  have hlead : segments (escaped path)
      = segments (['/'].intercalate
          ((segments path).map fun s => Percent.escape (Percent.unescape s))) :=
    @segments_slashes_append ['/'] (by simp) _
  rw [hlead, segments_intercalate hslash, trimWhile_map hempty, segments, trimWhile_trimWhile,
    List.map_map]
  apply List.map_congr_left
  intro s _
  rw [Function.comp_apply, key, Percent.unescape_escape, key]

/-- An escaped path holds no reserved character but slashes. -/
theorem Path.not_mem_escaped {c : Char} (hc : Percent.IsReserved c) (hslash : c ≠ '/')
    (path : Text) : c ∉ escaped path := by
  rw [escaped, List.mem_cons, not_or]
  exact ⟨hslash, not_mem_intercalate_map hslash fun _ _ => Percent.not_mem_escape hc _⟩

/-- An escaped path holds no query, no fragment and no character that reading drops. -/
theorem Path.plain_escaped (path : Text) : ∀ c ∈ escaped path, c ≠ '?' ∧ Parts.IsPlain c := by
  intro c hc
  constructor
  · rintro rfl
    exact not_mem_escaped (by decide) (by decide) path hc
  · by_contra hplain
    obtain ⟨hreserved, hdelimiter⟩ := isForeign_of_not_isPlain hplain
    refine not_mem_escaped hreserved ?_ path hc
    rintro rfl
    exact hdelimiter List.mem_cons_self

namespace Template

/-- The literals of two templates that do not exclude each other are met by what the common template
expands to. -/
theorem met_expand_meet {t u : Template} (hpaths : t.path.length = u.path.length)
    (hqueries : Query.Consistent (t.query ++ u.query)) (value : Text → Text) :
    Query.Met (t.query ++ u.query)
      (Query.table (Text.cut '?' ((meet t u).expand value)).2) := by
  have hpairs : Query.pairs (Text.cut '?' ((meet t u).expand value)).2
      = (Query.literals (t.query ++ u.query)).map fun e => (e.key, e.value.eval value) := by
    rw [pairs_expand, meet, query_render (wellFormed_meet hpaths)]
  intro e he expected hvalue
  refine Query.firstValue?_table_of_unique ?_ ?_
  · rw [hpairs]
    refine List.mem_map.mpr ⟨e, List.mem_filter.mpr ⟨he, by simp [hvalue, Part.name?]⟩, ?_⟩
    rw [hvalue, Part.eval]
  · intro w hw
    rw [hpairs] at hw
    obtain ⟨⟨k, x⟩, hf, hpair⟩ := List.mem_map.mp hw
    obtain ⟨rfl, rfl⟩ := Prod.mk.inj hpair
    -- Every other field with this key comes from a literal, and the two literals agree.
    have hagrees := hqueries e he _ (List.mem_of_mem_filter hf) rfl
    have hliteral := (wellFormed_meet hpaths).values _ hf
    have hname := List.of_mem_filter hf
    rcases x with a | a | n
    · exact absurd hliteral (by simp [Part.IsValue])
    · rw [hvalue] at hagrees
      exact hagrees.symm
    · simp [Part.name?] at hname

/-- **A request for two templates.**  If they do not exclude each other, what their common template
expands to below the base fits both. -/
theorem accepts_meet {t u : Template} {base : Uri} {b : Target} (hbase : base.target? = .ok b)
    (hpaths : List.Forall₂ Part.Meets t.path u.path)
    (hqueries : Query.Consistent (t.query ++ u.query)) {value : Text → Text}
    (hvalue : ∀ n, value n ≠ []) :
    let request : Uri :=
      .text ("http://h".toList ++ Path.escaped b.path ++ '/' :: (meet t u).expand value)
    t.Accepts base request ∧ u.Accepts base request := by
  intro request
  have hform : WellFormed (List.zipWith Part.meet t.path u.path)
      (Query.literals (t.query ++ u.query)) := wellFormed_meet hpaths.length_eq
  have htarget : request.target?
      = .ok ⟨Path.escaped b.path ++ '/' :: (Text.cut '?' ((meet t u).expand value)).1,
          Query.table (Text.cut '?' ((meet t u).expand value)).2⟩ :=
    Uri.target?_text_below (Or.inr rfl) (Path.plain_escaped b.path)
      (plain_expand (plain_source_render hform) value)
  have hbelow : Path.below? b.path
      (Path.escaped b.path ++ '/' :: (Text.cut '?' ((meet t u).expand value)).1)
        = some ((List.zipWith Part.meet t.path u.path).map (Part.eval value)) := by
    rw [Path.below?_append_slash (Path.map_key_segments_escaped b.path),
      segments_expand fun name _ => hvalue name, meet, path_render hform]
  obtain ⟨hleft, hright⟩ := Part.forall₂_admits_eval_meet hvalue hpaths
  obtain ⟨hmet, hmet'⟩ :=
    Query.met_append_iff.mp (met_expand_meet hpaths.length_eq hqueries value)
  rw [accepts_iff hbase, accepts_iff hbase]
  exact ⟨⟨_, _, htarget, ⟨_, hbelow, hleft⟩, hmet⟩, ⟨_, _, htarget, ⟨_, hbelow, hright⟩, hmet'⟩⟩

/-- Two templates that accept a common request do not exclude each other. -/
theorem forall₂_meets_and_consistent_of_accepts {t u : Template} {base request : Uri} {b : Target}
    (hbase : base.target? = .ok b) (ht : t.Accepts base request) (hu : u.Accepts base request) :
    List.Forall₂ Part.Meets t.path u.path ∧ Query.Consistent (t.query ++ u.query) := by
  obtain ⟨path, query, hr, ⟨segments, hbelow, hadmits⟩, hmet⟩ := (accepts_iff hbase).mp ht
  obtain ⟨path', query', hr', ⟨segments', hbelow', hadmits'⟩, hmet'⟩ := (accepts_iff hbase).mp hu
  -- Both match the same target below the same base, so they match the same segments.
  obtain ⟨rfl, rfl⟩ := Target.mk.inj (Except.ok.inj (hr.symm.trans hr'))
  obtain rfl : segments = segments' := Option.some.inj (hbelow.symm.trans hbelow')
  exact ⟨Part.forall₂_meets_of_admits hadmits hadmits',
    Query.consistent_of_met (Query.met_append_iff.mpr ⟨hmet, hmet'⟩)⟩

/-- **Two templates accept a common request exactly if they do not exclude each other.**  In
particular a template accepts some request exactly if it does not expect two literal values of one
key. -/
theorem exists_accepts_iff {base : Uri} {b : Target} (hbase : base.target? = .ok b) :
    (∀ t u : Template,
      (∃ request : Text, t.Accepts base (.text request) ∧ u.Accepts base (.text request)) ↔
        List.Forall₂ Part.Meets t.path u.path ∧ Query.Consistent (t.query ++ u.query)) ∧
    ∀ t : Template, (∃ request : Text, t.Accepts base (.text request)) ↔
      Query.Consistent t.query := by
  have hcommon : ∀ t u : Template,
      (∃ request : Text, t.Accepts base (.text request) ∧ u.Accepts base (.text request)) ↔
        List.Forall₂ Part.Meets t.path u.path ∧ Query.Consistent (t.query ++ u.query) := by
    intro t u
    constructor
    · rintro ⟨request, ht, hu⟩
      exact forall₂_meets_and_consistent_of_accepts hbase ht hu
    · rintro ⟨hpaths, hqueries⟩
      have hvalue : ∀ n : Text, (fun _ => ['x'] : Text → Text) n ≠ [] :=
        fun _ => List.cons_ne_nil _ _
      exact ⟨_, accepts_meet hbase hpaths hqueries hvalue⟩
  refine ⟨hcommon, fun t => ?_⟩
  have hself := hcommon t t
  simp only [and_self] at hself
  rw [hself, Query.consistent_append_self_iff]
  exact and_iff_right (List.forall₂_same.mpr fun part _ => part.meets_self)

/-- Below a base with awkward segments two routes share a request, two others exclude each other by
an empty segment, and one expects two values of a key, written in two ways. -/
theorem exists_accepts_below_awkward_base :
    let base : Uri := .text "ftp://u@host/A%20b//é/?q=1#f".toList
    let shared : Template := ⟨"a/\x7bid\x7d//STRASSE?k%26=1&v=\x7bid\x7d".toList⟩
    let other : Template := ⟨"A/c%2Fd//straße?v=&k%26=%31&k%26=\x7bw\x7d".toList⟩
    let filled : Template := ⟨"a/\x7bid\x7d/\x7bid\x7d/strasse".toList⟩
    let dead : Template := ⟨"x?k+=1&%6B%20=2".toList⟩
    base.target? = .ok ⟨"/A%20b//é/".toList, Query.table "q=1".toList⟩ ∧
      (∃ request : Text,
        shared.Accepts base (.text request) ∧ other.Accepts base (.text request)) ∧
      (¬ ∃ request : Text,
        shared.Accepts base (.text request) ∧ filled.Accepts base (.text request)) ∧
      ¬ ∃ request : Text, dead.Accepts base (.text request) := by
  intro base shared other filled dead
  have hbase : base.target? = .ok ⟨"/A%20b//é/".toList, Query.table "q=1".toList⟩ := by rfl
  obtain ⟨hcommon, hself⟩ := exists_accepts_iff hbase
  refine ⟨hbase, ?_, ?_, ?_⟩
  · rw [hcommon]
    decide
  · rw [hcommon]
    decide
  · rw [hself]
    decide

end Template

end UriRouting
