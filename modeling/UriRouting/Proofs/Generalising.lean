import UriRouting.Proofs.Addresses
import UriRouting.Proofs.QueryTexts

/-!
# More general templates

A template becomes more general when tokens are put in the place of some of its segments and field
values. A variable takes whatever the literal took, since a literal that is not empty takes no empty
segment, and a field with a variable need not be there at all. So every request that fits a template
fits a more general one, whatever the variables are called.

## Main Definitions

- `Path.Generalised`, `Query.Generalised`: a segment and a field with or without a token in its
  place.
- `Template.Generalised`: a template with tokens in some places of another one.

## Main Statements

- `Part.admits_of_generalised`: a more general segment admits what the segment did.
- `Query.mem_pieces_of_generalised`: the literals of more general fields were there before.
- `Template.accepts_of_generalised`: a more general template loses no request.
-/

namespace UriRouting

/-! ## Related lists -/

section Related

variable {α : Type} {R : α → α → Prop} {l m : List α}

/-- An element of the second list is related to one of the first. -/
theorem exists_rel_of_mem_right (h : List.Forall₂ R l m) {b : α} (hb : b ∈ m) :
    ∃ a ∈ l, R a b := by
  induction h with
  | nil => exact absurd hb List.not_mem_nil
  | cons hab _ ih =>
      rcases List.mem_cons.mp hb with rfl | hb
      · exact ⟨_, List.mem_cons_self, hab⟩
      · obtain ⟨a, ha, hrel⟩ := ih hb
        exact ⟨a, List.mem_cons_of_mem _ ha, hrel⟩

/-- What holds of the first list, element by element, holds of the second one if related elements
keep it. -/
theorem forall_mem_of_forall₂ {P : α → Prop} (hP : ∀ a b, R a b → P a → P b)
    (h : List.Forall₂ R l m) (hl : ∀ a ∈ l, P a) : ∀ b ∈ m, P b := by
  intro b hb
  obtain ⟨a, ha, hab⟩ := exists_rel_of_mem_right h hb
  exact hP a b hab (hl a ha)

variable {p : α → Bool}

/-- Dropping a stretch at the start keeps two lists related, if related elements pass the same
test. -/
theorem forall₂_dropWhile (hp : ∀ a b, R a b → p a = p b) (h : List.Forall₂ R l m) :
    List.Forall₂ R (l.dropWhile p) (m.dropWhile p) := by
  induction h with
  | nil => exact .nil
  | @cons a b l m hab h ih =>
      rw [List.dropWhile_cons, List.dropWhile_cons, ← hp a b hab]
      split
      · exact ih
      · exact .cons hab h

/-- Trimming keeps two lists related, if related elements pass the same test. -/
theorem forall₂_trimWhile (hp : ∀ a b, R a b → p a = p b) (h : List.Forall₂ R l m) :
    List.Forall₂ R (trimWhile p l) (trimWhile p m) := by
  rw [trimWhile, trimWhile, List.forall₂_reverse_iff]
  exact forall₂_dropWhile hp (List.forall₂_reverse_iff.mpr (forall₂_dropWhile hp h))

end Related

/-! ## Tokens in the place of segments and values -/

/-- A written segment after generalising: as it was, or a token in its place if it was not empty. -/
def Path.Generalised (segment segment' : Text) : Prop :=
  segment' = segment ∨ segment ≠ [] ∧ ∃ name, IsName name ∧ segment' = '{' :: name ++ ['}']

/-- A written field after generalising: as it was, or a token in the place of its value if it was not
empty. A field without an equals sign gets one. -/
def Query.Generalised (field field' : Text) : Prop :=
  field' = field ∨ field ≠ [] ∧
    ∃ name, IsName name ∧ field' = (Text.cut '=' field).1 ++ '=' :: '{' :: name ++ ['}']

/-- A template in which tokens are put in the place of some segments and some field values of another
one. -/
inductive Template.Generalised : Template → Template → Prop where
  | path {p : Text} {segments : List Text} (hmark : '?' ∉ p)
      (hpath : List.Forall₂ Path.Generalised (p.splitOn '/') segments) :
      Generalised ⟨p⟩ ⟨['/'].intercalate segments⟩
  | query {p q : Text} {segments fields : List Text} (hmark : '?' ∉ p)
      (hpath : List.Forall₂ Path.Generalised (p.splitOn '/') segments)
      (hquery : List.Forall₂ Query.Generalised (q.splitOn '&') fields) :
      Generalised ⟨p ++ '?' :: q⟩ ⟨['/'].intercalate segments ++ '?' :: ['&'].intercalate fields⟩

/-- No delimiter stands in a token. -/
theorem not_mem_token {c : Char} (hc : Percent.IsReserved c ∧ c ≠ '{' ∧ c ≠ '}') {name : Text}
    (h : IsName name) : c ∉ '{' :: name ++ ['}'] :=
  @Part.not_mem_render (.variable name) (Or.inl h) c hc

/-! ## Segments -/

namespace Path

variable {segment segment' : Text}

/-- Only an empty segment is empty after generalising. -/
theorem isEmpty_of_generalised (h : Generalised segment segment') :
    segment.isEmpty = segment'.isEmpty := by
  rcases h with rfl | ⟨hfilled, name, -, rfl⟩
  · rfl
  · rw [List.isEmpty_eq_false_iff.mpr hfilled]
    rfl

/-- Generalising brings no delimiter into a segment. -/
theorem not_mem_of_generalised {c : Char} (hc : Percent.IsReserved c ∧ c ≠ '{' ∧ c ≠ '}')
    (h : Generalised segment segment') (hmem : c ∉ segment) : c ∉ segment' := by
  rcases h with rfl | ⟨-, name, hname, rfl⟩
  · exact hmem
  · exact not_mem_token hc hname

end Path

/-- **A more general segment admits what the segment did.** -/
theorem Part.admits_of_generalised {segment segment' actual : Text}
    (h : Path.Generalised segment segment') (hadmits : (ofSegment segment).Admits actual) :
    (ofSegment segment').Admits actual := by
  rcases h with rfl | ⟨hfilled, name, hname, rfl⟩
  · exact hadmits
  · rw [ofSegment_of_token (variableName?_token hname)]
    show actual ≠ []
    cases htoken : variableName? segment with
    | some other =>
        rw [ofSegment_of_token htoken] at hadmits
        exact hadmits
    | none =>
        -- The literal is not empty, so it does not fold to what an empty segment folds to.
        rw [ofSegment_of_literal htoken] at hadmits
        rintro rfl
        exact hfilled (Percent.unescape_eq_nil_iff.mp (CaseFold.fold_eq_nil_iff.mp hadmits))

/-- Segments that are more general one by one admit what the segments did. -/
theorem Part.forall₂_admits_of_generalised {segments segments' actual : List Text}
    (h : List.Forall₂ Path.Generalised segments segments')
    (hadmits : List.Forall₂ Admits (segments.map ofSegment) actual) :
    List.Forall₂ Admits (segments'.map ofSegment) actual := by
  induction h generalizing actual with
  | nil => exact hadmits
  | cons hsegment _ ih =>
      cases hadmits with
      | cons hfirst hrest => exact .cons (admits_of_generalised hsegment hfirst) (ih hrest)

/-- The segments of a path that was joined from generalised pieces. -/
theorem Path.forall₂_segments_of_generalised {p : Text} {pieces : List Text}
    (h : List.Forall₂ Generalised (p.splitOn '/') pieces) :
    List.Forall₂ Generalised (segments p) (segments (['/'].intercalate pieces)) := by
  have hslash : ∀ s ∈ pieces, '/' ∉ s :=
    forall_mem_of_forall₂ (fun _ _ hs => not_mem_of_generalised (by decide) hs) h
      fun _ hpiece => not_mem_of_mem_splitOn hpiece
  rw [segments_intercalate hslash]
  exact forall₂_trimWhile (fun _ _ hs => isEmpty_of_generalised hs) h

/-! ## Fields -/

namespace Query

variable {field field' : Text}

/-- Generalising brings no delimiter into a field but the equals sign. -/
theorem not_mem_of_generalised {c : Char} (hc : Percent.IsReserved c ∧ c ≠ '{' ∧ c ≠ '}')
    (hequals : c ≠ '=') (h : Generalised field field') (hmem : c ∉ field) : c ∉ field' := by
  rcases h with rfl | ⟨-, name, hname, rfl⟩
  · exact hmem
  · rw [List.append_assoc, List.cons_append, List.mem_append, List.mem_cons, not_or, not_or]
    exact ⟨fun hkey => hmem (Text.mem_of_mem_cut_fst hkey), hequals, not_mem_token hc hname⟩

/-- A field that declares no name after generalising is as it was. -/
theorem eq_of_generalised (h : Generalised field field') (hname : fieldName? field' = none) :
    field' = field := by
  rcases h with rfl | ⟨-, name, hvalid, rfl⟩
  · rfl
  · rw [fieldName?, List.append_assoc, List.cons_append,
      Text.cut_append_cons (Text.not_mem_cut_fst '=' field), variableName?_token hvalid] at hname
    exact absurd hname (by simp)

/-- **The literals of more general fields were there before.** -/
theorem mem_pieces_of_generalised {q : Text} {fields : List Text}
    (h : List.Forall₂ Generalised (q.splitOn '&') fields)
    (hfield : field ∈ pieces (['&'].intercalate fields)) (hname : fieldName? field = none) :
    field ∈ pieces q := by
  have hamp : ∀ f ∈ fields, '&' ∉ f :=
    forall_mem_of_forall₂ (fun _ _ hf => not_mem_of_generalised (by decide) (by decide) hf) h
      fun _ hpiece => not_mem_of_mem_splitOn hpiece
  have hfields : fields ≠ [] := by
    rintro rfl
    exact List.splitOn_ne_nil '&' q (List.forall₂_nil_right_iff.mp h)
  rw [mem_pieces_iff, List.splitOn_intercalate '&' hamp hfields] at hfield
  obtain ⟨piece, hpiece, hgeneral⟩ := exists_rel_of_mem_right h hfield.1
  rw [mem_pieces_iff, eq_of_generalised hgeneral hname]
  exact ⟨hpiece, eq_of_generalised hgeneral hname ▸ hfield.2⟩

end Query

/-! ## Templates -/

namespace Template

variable {t t' : Template}

/-- What stands before and after the question mark of a more general template. -/
theorem exists_cut_of_generalised (h : Generalised t t') :
    ∃ segments fields,
      List.Forall₂ Path.Generalised ((Text.cut '?' t.source).1.splitOn '/') segments ∧
      List.Forall₂ Query.Generalised ((Text.cut '?' t.source).2.splitOn '&') fields ∧
      Text.cut '?' t'.source = (['/'].intercalate segments, ['&'].intercalate fields) := by
  have hmark : ∀ {p : Text} {segments : List Text}, '?' ∉ p →
      List.Forall₂ Path.Generalised (p.splitOn '/') segments →
      '?' ∉ ['/'].intercalate segments := by
    intro p segments hp hpath
    refine not_mem_intercalate (by decide) (forall_mem_of_forall₂ ?_ hpath ?_)
    · exact fun _ _ hs => Path.not_mem_of_generalised (by decide) hs
    · exact fun _ hpiece hc => hp (mem_of_mem_splitOn hpiece hc)
  cases h with
  | @path p segments hp hpath =>
      -- Without a question mark the query text is empty before and after.
      refine ⟨segments, [[]], ?_, ?_, ?_⟩
      · rwa [Text.cut_of_not_mem hp]
      · rw [Text.cut_of_not_mem hp]
        exact .cons (Or.inl rfl) .nil
      · exact Text.cut_of_not_mem (hmark hp hpath)
  | @query p q segments fields hp hpath hquery =>
      refine ⟨segments, fields, ?_, ?_, ?_⟩
      · rwa [Text.cut_append_cons hp]
      · rwa [Text.cut_append_cons hp]
      · exact Text.cut_append_cons (hmark hp hpath) _

/-- A more general template admits the segments that the template does. -/
theorem forall₂_admits_path_of_generalised (h : Generalised t t') {actual : List Text}
    (hadmits : List.Forall₂ Part.Admits t.path actual) :
    List.Forall₂ Part.Admits t'.path actual := by
  obtain ⟨segments, fields, hpath, -, hcut⟩ := exists_cut_of_generalised h
  rw [path, hcut]
  exact Part.forall₂_admits_of_generalised (Path.forall₂_segments_of_generalised hpath) hadmits

/-- A query that meets a template meets a more general one. -/
theorem met_query_of_generalised (h : Generalised t t') {query : Table (List Text)}
    (hmet : Query.Met t.query query) : Query.Met t'.query query := by
  obtain ⟨segments, fields, -, hquery, hcut⟩ := exists_cut_of_generalised h
  rw [query_eq_map_pieces] at hmet ⊢
  rw [hcut]
  intro e he text hvalue
  obtain ⟨field, hfield, rfl⟩ := List.mem_map.mp he
  have hname := (Query.expectation_eq_literalValue_iff.mp hvalue).1
  exact hmet _ (List.mem_map_of_mem (Query.mem_pieces_of_generalised hquery hfield hname)) _ hvalue

/-- **A more general template loses no request.**  Below any base, every request that fits a template
fits the template with tokens in the place of any of its segments and field values, whatever the
names in the tokens are. -/
theorem accepts_of_generalised (h : Generalised t t') {base request : Uri}
    (haccepts : t.Accepts base request) : t'.Accepts base request := by
  obtain ⟨v, hverdict, -⟩ := id haccepts
  obtain ⟨b, r, hbase, hrequest, -⟩ := verdict?_eq_ok_iff.mp hverdict
  rw [accepts_iff_of_target? hbase hrequest] at haccepts ⊢
  obtain ⟨⟨segments, hbelow, hadmits⟩, hmet⟩ := haccepts
  exact ⟨⟨segments, hbelow, forall₂_admits_path_of_generalised h hadmits⟩,
    met_query_of_generalised h hmet⟩

/-- One name takes the place of an escaped literal, of another name, of a value that is not written
and of a literal value; an empty segment and an empty field stay. -/
theorem accepts_of_generalised_repeated_name :
    let t : Template := ⟨"/%C3%A9//\x7bc\x7d/b?k=1&&flag&=a+b".toList⟩
    let t' : Template := ⟨"/\x7bn\x7d//\x7bn\x7d/b?k=1&&flag=\x7bn\x7d&=\x7bn\x7d".toList⟩
    let base : Uri := .text "http://h/app".toList
    let request : Uri := .text "/APP/É//7/B?flag&=a%20b&k=%31".toList
    Generalised t t' ∧ t.Accepts base request ∧ t'.Accepts base request := by
  intro t t' base request
  let p : Text := "/%C3%A9//\x7bc\x7d/b".toList
  let q : Text := "k=1&&flag&=a+b".toList
  have hpath : List.Forall₂ Path.Generalised (p.splitOn '/')
      [[], "\x7bn\x7d".toList, [], "\x7bn\x7d".toList, ['b']] := by
    have hsplit : p.splitOn '/' = [[], "%C3%A9".toList, [], "\x7bc\x7d".toList, ['b']] := by decide
    rw [hsplit]
    exact .cons (Or.inl rfl) (.cons (Or.inr ⟨by decide, ['n'], by decide, rfl⟩)
      (.cons (Or.inl rfl) (.cons (Or.inr ⟨by decide, ['n'], by decide, rfl⟩)
        (.cons (Or.inl rfl) .nil))))
  have hquery : List.Forall₂ Query.Generalised (q.splitOn '&')
      ["k=1".toList, [], "flag=\x7bn\x7d".toList, "=\x7bn\x7d".toList] := by
    have hsplit : q.splitOn '&' = ["k=1".toList, [], "flag".toList, "=a+b".toList] := by decide
    rw [hsplit]
    exact .cons (Or.inl rfl) (.cons (Or.inl rfl)
      (.cons (Or.inr ⟨by decide, ['n'], by decide, rfl⟩)
        (.cons (Or.inr ⟨by decide, ['n'], by decide, rfl⟩) .nil)))
  have hgeneral : Generalised t t' := .query (by decide) hpath hquery
  have haccepts : t.Accepts base request := ⟨_, rfl, by decide⟩
  exact ⟨hgeneral, haccepts, accepts_of_generalised hgeneral haccepts⟩

end Template

end UriRouting
