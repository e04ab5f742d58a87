import UriRouting.Proofs.Addresses
import UriRouting.Proofs.Matching
import UriRouting.Proofs.Tokens

/-!
# Mounting templates

A template that starts with literal segments can as well be matched without them, below a base that
ends with them: the segments of a base and the literals at the start of a template are compared in
different places but alike. Mounting a template below a longer base takes nothing away from it and
adds nothing to it, as long as requests have no empty segments.

## Main Definitions

- `Part.literals`: the literals that are written as given segments.
- `Template.mount`: a template with segments in front.
- `Template.IsLiteralSegment`: the texts that are literal segments as they are written.

## Main Statements

- `Path.dropBase_append`: a longer base is dropped in two steps.
- `Part.forall₂_admits_literals_append_iff`: literals in front are matched like a longer base.
- `Template.path_mount`, `Template.query_mount`: what a template with segments in front expects.
- `Template.verdict?_mount`: mounting makes no difference to a match.

## Design Notes

Slashes right after a base do not count, but empty segments inside a template do. So a request with
an empty segment right after the segments in front lies below the longer base and does not fit the
longer template.
-/

namespace UriRouting

/-! ## Longer bases -/

namespace Path

/-- A longer base is dropped in two steps. -/
theorem dropBase_append (base front list : List Text) :
    dropBase (base ++ front) list = (dropBase base list).bind (dropBase front) := by
  induction base generalizing list with
  | nil => simp [dropBase]
  | cons b base ih =>
      cases list with
      | nil => rfl
      | cons s list =>
          by_cases hkey : key b = key s
          · simp [dropBase, hkey, ih]
          · simp [dropBase, hkey]

/-- A path that is joined from segments that are not empty does not start with a slash. -/
theorem head?_intercalate_ne {l : List Text} (hl : l ≠ []) (h : ∀ s ∈ l, s ≠ [] ∧ '/' ∉ s) :
    ∀ c ∈ (['/'].intercalate l).head?, c ≠ '/' := by
  have hsplit := List.splitOn_intercalate '/' (fun s hs => (h s hs).2) hl
  rintro c hc rfl
  obtain ⟨rest, hrest⟩ := List.head?_eq_some_iff.mp hc
  rw [hrest, splitOn_cons_self] at hsplit
  exact (h [] (by rw [← hsplit]; simp)).1 rfl

/-- A path that is joined from segments that are not empty does not end in a slash. -/
theorem getLast?_intercalate_ne {l : List Text} (hl : l ≠ []) (h : ∀ s ∈ l, s ≠ [] ∧ '/' ∉ s) :
    ∀ c ∈ (['/'].intercalate l).getLast?, c ≠ '/' := by
  have hsplit := List.splitOn_intercalate '/' (fun s hs => (h s hs).2) hl
  rintro c hc rfl
  obtain ⟨front, hfront⟩ := List.getLast?_eq_some_iff.mp hc
  rw [hfront, List.splitOn_append_cons_self, List.splitOn_nil] at hsplit
  exact (h [] (by rw [← hsplit]; simp)).1 rfl

/-- A segment of a path is empty or not as it is written: in a path without empty segments nothing is
trimmed behind a base. -/
theorem below?_of_filled {path : Text} (h : ∀ s ∈ segments path, s ≠ []) (base : Text) :
    below? base path
      = (dropBase (segments base) (segments path)).map (List.map Percent.unescape) := by
  rw [below?]
  cases hdrop : dropBase (segments base) (segments path) with
  | none => rfl
  | some rest =>
      obtain ⟨start, hsplit, -⟩ := dropBase_eq_some_iff.mp hdrop
      have hfilled : ∀ s ∈ rest, s.isEmpty = false := fun s hs =>
        List.isEmpty_eq_false_iff.mpr (h s (by rw [hsplit]; exact List.mem_append_right _ hs))
      rw [Option.map_some, Option.map_some, trimWhile_eq_self_of_forall hfilled]

end Path

/-! ## Literals in front -/

namespace Part

/-- The literals that are written as the given segments. -/
def literals (front : List Text) : List Part := front.map fun s => .literal (Percent.unescape s)

/-- **Literals in front are matched like a longer base.** -/
theorem forall₂_admits_literals_append_iff {front rest : List Text} {pattern : List Part} :
    List.Forall₂ Admits (literals front ++ pattern) (rest.map Percent.unescape) ↔
      ∃ rest', Path.dropBase front rest = some rest' ∧
        List.Forall₂ Admits pattern (rest'.map Percent.unescape) := by
  induction front generalizing rest with
  | nil => simp [literals, Path.dropBase]
  | cons b front ih =>
      cases rest with
      | nil => simp [literals, Path.dropBase]
      | cons s rest =>
          have hadmits : Admits (.literal (Percent.unescape b)) (Percent.unescape s) ↔
              Path.key b = Path.key s := Iff.rfl
          rw [literals, List.map_cons, List.cons_append, List.map_cons, List.forall₂_cons, hadmits,
            ← literals, ih, Path.dropBase]
          by_cases hkey : Path.key b = Path.key s
          · simp [hkey]
          · simp [hkey]

/-- Literals in front capture nothing. -/
theorem filterMap_capture?_literals_append {front rest rest' : List Text} (pattern : List Part)
    (h : Path.dropBase front rest = some rest') :
    ((literals front ++ pattern).zip (rest.map Percent.unescape)).filterMap capture?
      = (pattern.zip (rest'.map Percent.unescape)).filterMap capture? := by
  induction front generalizing rest with
  | nil =>
      obtain rfl : rest = rest' := by simpa [Path.dropBase] using h
      rfl
  | cons b front ih =>
      cases rest with
      | nil => simp [Path.dropBase] at h
      | cons s rest =>
          by_cases hkey : Path.key b = Path.key s
          · rw [Path.dropBase, if_pos hkey] at h
            rw [← ih h]
            rfl
          · simp [Path.dropBase, hkey] at h

end Part

/-! ## Longer templates -/

namespace Template

/-- The template with segments in front of its own. -/
def mount (front : List Text) (t : Template) : Template :=
  ⟨['/'].intercalate front ++ '/' :: t.source⟩

/-- Texts that are literal segments as they are written: they are neither empty nor tokens, and hold
no delimiter of templates. -/
structure IsLiteralSegment (s : Text) : Prop where
  filled : s ≠ []
  slash : '/' ∉ s
  mark : '?' ∉ s
  literal : variableName? s = none

variable {front : List Text} {t : Template}

/-- What stands before and after the first question mark of a longer template. -/
theorem cut_source_mount (h : ∀ s ∈ front, IsLiteralSegment s) :
    Text.cut '?' (mount front t).source
      = (['/'].intercalate front ++ '/' :: (Text.cut '?' t.source).1, (Text.cut '?' t.source).2) := by
  have hmark : '?' ∉ ['/'].intercalate front ++ ['/'] := by
    rw [List.mem_append, List.mem_singleton, not_or]
    exact ⟨not_mem_intercalate (by decide) fun s hs => (h s hs).mark, by decide⟩
  simpa [mount] using Text.cut_append hmark t.source

/-- A longer template expects the segments in front and then those of its own. -/
theorem path_mount (hfront : front ≠ []) (h : ∀ s ∈ front, IsLiteralSegment s)
    (hsource : t.source.head? ≠ some '/') :
    (mount front t).path = Part.literals front ++ t.path := by
  have hfilled : ∀ s ∈ front, s ≠ [] ∧ '/' ∉ s := fun s hs => ⟨(h s hs).filled, (h s hs).slash⟩
  have hstart : ∀ c ∈ (Text.cut '?' t.source).1.head?, c ≠ '/' := by
    rintro c hc rfl
    obtain ⟨rest, hrest⟩ : (Text.cut '?' t.source).1 <+: t.source := List.takeWhile_prefix _
    refine hsource ?_
    rw [← hrest, List.head?_append, Option.mem_def.mp hc, Option.some_or]
  rw [path, cut_source_mount h,
    Path.segments_append_slash (Path.getLast?_intercalate_ne hfront hfilled) hstart,
    Path.segments_intercalate_of_filled hfilled, List.map_append, path]
  congr 1
  exact List.map_congr_left fun s hs => Part.ofSegment_of_literal (h s hs).literal

/-- A longer template expects the fields of its own. -/
theorem query_mount (h : ∀ s ∈ front, IsLiteralSegment s) : (mount front t).query = t.query := by
  rw [query, cut_source_mount h, query]

/-- A longer template below a base has the verdict of its own below a longer base. -/
theorem verdict_outcome_mount {base mounted : Text} {r : Target}
    (hpath : (mount front t).path = Part.literals front ++ t.path)
    (hquery : (mount front t).query = t.query)
    (hsegments : Path.segments mounted = Path.segments base ++ front)
    (hfilled : ∀ s ∈ Path.segments r.path, s ≠ []) :
    ((mount front t).outcome base r).verdict = (t.outcome mounted r).verdict := by
  have hbelow : Path.below? mounted r.path
      = ((Path.dropBase (Path.segments base) (Path.segments r.path)).bind
          (Path.dropBase front)).map (List.map Percent.unescape) := by
    rw [Path.below?_of_filled hfilled, hsegments, Path.dropBase_append]
  -- Either both paths match, or none does.
  by_cases h : ∃ segments, Path.below? base r.path = some segments ∧
      List.Forall₂ Part.Admits (mount front t).path segments
  · obtain ⟨segments, hsome, hadmits⟩ := h
    obtain ⟨rest, hdrop, rfl⟩ :=
      Option.map_eq_some_iff.mp (Path.below?_of_filled hfilled base ▸ hsome)
    obtain ⟨rest', hdrop', hadmits'⟩ :=
      Part.forall₂_admits_literals_append_iff.mp (hpath ▸ hadmits)
    rw [hdrop, Option.bind_some, hdrop', Option.map_some] at hbelow
    rw [outcome_of_admits hsome hadmits, outcome_of_admits hbelow hadmits', hpath, hquery,
      Part.filterMap_capture?_literals_append t.path hdrop']
  · have h' : ¬ ∃ segments, Path.below? mounted r.path = some segments ∧
        List.Forall₂ Part.Admits t.path segments := by
      rintro ⟨segments, hsome, hadmits⟩
      rw [hbelow, Option.map_eq_some_iff] at hsome
      obtain ⟨rest', hdrop', rfl⟩ := hsome
      obtain ⟨rest, hdrop, hrest⟩ := Option.bind_eq_some_iff.mp hdrop'
      refine h ⟨rest.map Percent.unescape, ?_, ?_⟩
      · rw [Path.below?_of_filled hfilled, hdrop, Option.map_some]
      · rw [hpath]
        exact Part.forall₂_admits_literals_append_iff.mpr ⟨rest', hrest, hadmits⟩
    rw [verdict_outcome_of_not_admits h, verdict_outcome_of_not_admits h']

/-- **Mounting makes no difference.**  Literal segments in front of a template are as good as the
same segments at the end of a base that does not end in a slash: a request without empty segments
has the same verdict either way, whatever its query. -/
theorem verdict?_mount {front : List Text} {t : Template} {base mounted request : Uri}
    {b m r : Target} (hfront : front ≠ []) (hliteral : ∀ s ∈ front, IsLiteralSegment s)
    (hsource : t.source.head? ≠ some '/') (hbase : base.target? = .ok b)
    (hmounted : mounted.target? = .ok m) (hrequest : request.target? = .ok r)
    (hend : b.path.getLast? ≠ some '/')
    (hpath : m.path = b.path ++ '/' :: ['/'].intercalate front)
    (hpieces : ∀ s ∈ Path.pieces r.path, s ≠ []) :
    ∃ v, (mount front t).verdict? base request = .ok v ∧ t.verdict? mounted request = .ok v := by
  have hfilled : ∀ s ∈ front, s ≠ [] ∧ '/' ∉ s := fun s hs =>
    ⟨(hliteral s hs).filled, (hliteral s hs).slash⟩
  have hlast : ∀ c ∈ b.path.getLast?, c ≠ '/' := by
    rintro c hc rfl
    exact hend hc
  have hsegments : Path.segments m.path = Path.segments b.path ++ front := by
    rw [hpath, Path.segments_append_slash hlast (Path.head?_intercalate_ne hfront hfilled),
      Path.segments_intercalate_of_filled hfilled]
  rw [← Path.segments_eq_pieces] at hpieces
  refine ⟨_, verdict?_of_target? hbase hrequest, ?_⟩
  rw [verdict?_of_target? hmounted hrequest,
    verdict_outcome_mount (path_mount hfront hliteral hsource) (query_mount hliteral) hsegments
      hpieces]

/-- Escapes, braces that are no token and the captures of both path and query come out alike. -/
theorem verdict?_mount_escaped_segments :
    let front : List Text := ["stra%C3%9Fe".toList, "\x7ba-b\x7d".toList]
    let t : Template := ⟨"\x7bid\x7d/%45nd?k=\x7bid\x7d&x=\x7by\x7d&z=1".toList⟩
    let base : Uri := .text "http://h/A%20b".toList
    let mounted : Uri := .text "//g/A%20b/stra%C3%9Fe/\x7ba-b\x7d".toList
    let request : Uri := .text "/a b/STRASSE/%7BA-b%7D/7/end/?z=1&k=2".toList
    let b : Target := ⟨"/A%20b".toList, ∅⟩
    let m : Target := ⟨"/A%20b/stra%C3%9Fe/\x7ba-b\x7d".toList, ∅⟩
    let r : Target := ⟨"/a b/STRASSE/%7BA-b%7D/7/end/".toList, Query.table "z=1&k=2".toList⟩
    front ≠ [] ∧ (∀ s ∈ front, IsLiteralSegment s) ∧ t.source.head? ≠ some '/' ∧
      base.target? = .ok b ∧ mounted.target? = .ok m ∧ request.target? = .ok r ∧
      b.path.getLast? ≠ some '/' ∧ m.path = b.path ++ '/' :: ['/'].intercalate front ∧
      (∀ s ∈ Path.pieces r.path, s ≠ []) ∧
      ∃ v, (mount front t).verdict? base request = .ok v ∧
        t.verdict? mounted request = .ok v := by
  intro front t base mounted request b m r
  have hliteral : ∀ s ∈ front, IsLiteralSegment s := by
    intro s hs
    rcases List.mem_cons.mp hs with rfl | hs
    · exact ⟨by decide, by decide, by decide, by decide⟩
    · rw [List.mem_singleton.mp hs]
      exact ⟨by decide, by decide, by decide, by decide⟩
  have hbase : base.target? = .ok b := by rfl
  have hmounted : mounted.target? = .ok m := by rfl
  have hrequest : request.target? = .ok r := by rfl
  have hpieces : ∀ s ∈ Path.pieces r.path, s ≠ [] := by decide
  exact ⟨by decide, hliteral, by decide, hbase, hmounted, hrequest, by decide, by decide, hpieces,
    verdict?_mount (by decide) hliteral (by decide) hbase hmounted hrequest (by decide) (by decide)
      hpieces⟩

/-- With an empty segment behind the segments in front the two differ. -/
example :
    ((mount ["a".toList] ⟨"b".toList⟩).outcome [] ⟨"/a//b".toList, ∅⟩).verdict.success = false ∧
      (outcome ⟨"b".toList⟩ "/a".toList ⟨"/a//b".toList, ∅⟩).verdict.success = true := by
  decide

end Template

end UriRouting
