import UriRouting.Proofs.Addresses
import UriRouting.Proofs.QueryTexts

/-!
# What a template text is read as

Each piece of a template text is read on its own: as a variable if it is a token, and else as the
literal that the whole piece stands for. A token is recognised up to a line feed behind it. This line
feed is the only character of a template that is lost, and a template is read by its tokens and
literals exactly if it holds none.

## Main Definitions

- `IsToken`: the token of a variable; `EndsInLine`: a token with a line feed behind it;
  `IsTokenLine`: one or the other.
- `Part.Reads`: a piece is read as a part, by what counts as a token.
- `Template.ReadsBy`: a template is read piece by piece.
- `Template.HasTokenLine`: a piece or a value of a template is a token with a line feed behind it.

## Main Statements

- `Part.reads_isToken_ofSegment_iff`, `Part.reads_isToken_ofValue_iff`: when a piece is read by its
  token.
- `Template.readsBy_isToken_iff`: when a template is.
-/

namespace UriRouting

/-- A piece is the token of a variable: its name between braces and nothing else. -/
def IsToken (name piece : Text) : Prop := IsName name ∧ piece = '{' :: name ++ ['}']

/-- A piece is a token with a line feed behind it. -/
def EndsInLine (name piece : Text) : Prop := ∃ token, IsToken name token ∧ piece = token ++ ['\n']

/-- A piece is a token, with or without a line feed behind it. -/
def IsTokenLine (name piece : Text) : Prop := IsToken name piece ∨ EndsInLine name piece

/-- **What is recognised as a variable**: a token, with or without a line feed behind it. -/
theorem variableName?_eq_some_iff_isTokenLine {piece name : Text} :
    variableName? piece = some name ↔ IsTokenLine name piece := by
  rw [variableName?_eq_some_iff, IsTokenLine, IsToken, EndsInLine]
  constructor
  · rintro ⟨hname, hpiece | hpiece⟩
    · exact Or.inl ⟨hname, hpiece⟩
    · exact Or.inr ⟨_, ⟨hname, rfl⟩, by simpa using hpiece⟩
  · rintro (⟨hname, hpiece⟩ | ⟨token, ⟨hname, rfl⟩, hpiece⟩)
    · exact ⟨hname, Or.inl hpiece⟩
    · exact ⟨hname, Or.inr (by simpa using hpiece)⟩

theorem variableName?_eq_none_iff {piece : Text} :
    variableName? piece = none ↔ ∀ name, ¬ IsTokenLine name piece := by
  rw [Option.eq_none_iff_forall_ne_some]
  simp only [ne_eq, variableName?_eq_some_iff_isTokenLine]

/-- A token does not end in a line feed. -/
theorem not_isToken_of_endsInLine {name other piece : Text} (h : EndsInLine name piece) :
    ¬ IsToken other piece := by
  rintro ⟨-, hother⟩
  obtain ⟨token, -, rfl⟩ := h
  have hlast := congrArg List.getLast? hother
  rw [List.getLast?_concat, List.getLast?_concat] at hlast
  exact absurd hlast (by decide)

namespace Part

/-- A piece is read as a part: as a variable exactly if the piece is the token of this variable, and
as a literal if it is the token of none. -/
structure Reads (isToken : Text → Text → Prop) (literal : Text → Part) (piece : Text)
    (part : Part) : Prop where
  token : ∀ name, part = .variable name ↔ isToken name piece
  literal : (∀ name, ¬ isToken name piece) → part = literal piece

/-- A piece is read up to a line feed behind a token, and exactly as it stands if there is none. -/
theorem reads_of_variableName? {literal : Text → Part} {piece : Text} {part : Part}
    (hne : ∀ name, literal piece ≠ .variable name)
    (htoken : ∀ name, variableName? piece = some name → part = .variable name)
    (hliteral : variableName? piece = none → part = literal piece) :
    Reads IsTokenLine literal piece part ∧
      (Reads IsToken literal piece part ↔ ∀ name, ¬ EndsInLine name piece) := by
  have hline : Reads IsTokenLine literal piece part := by
    cases hname : variableName? piece with
    | none =>
        have hnot := variableName?_eq_none_iff.mp hname
        exact ⟨fun name => iff_of_false (hliteral hname ▸ hne name) (hnot name),
          fun _ => hliteral hname⟩
    | some name =>
        refine ⟨fun other => ?_, fun hnone => ?_⟩
        · rw [htoken name hname, ← variableName?_eq_some_iff_isTokenLine, hname, variable.injEq,
            Option.some.injEq]
        · exact absurd (variableName?_eq_some_iff_isTokenLine.mp hname) (hnone name)
  refine ⟨hline, fun hexact name hends => ?_, fun hnone => ?_⟩
  · have hvariable : part = .variable name := (hline.token name).mpr (Or.inr hends)
    exact not_isToken_of_endsInLine hends ((hexact.token name).mp hvariable)
  · have hsame : ∀ name, IsTokenLine name piece ↔ IsToken name piece := fun name =>
      or_iff_left (hnone name)
    exact ⟨fun name => (hline.token name).trans (hsame name),
      fun h => hline.literal fun name => mt (hsame name).mp (h name)⟩

/-- How a segment is read. -/
theorem reads_ofSegment (piece : Text) :
    Reads IsTokenLine (fun piece => .literal (Percent.unescape piece)) piece (ofSegment piece) ∧
      (Reads IsToken (fun piece => .literal (Percent.unescape piece)) piece (ofSegment piece) ↔
        ∀ name, ¬ EndsInLine name piece) :=
  reads_of_variableName? (fun _ => nofun) (fun _ => ofSegment_of_token) ofSegment_of_literal

/-- How a field value is read. -/
theorem reads_ofValue (value : Text) :
    Reads IsTokenLine (fun value => .literalValue (Percent.unescapeField value)) value
        (ofValue value) ∧
      (Reads IsToken (fun value => .literalValue (Percent.unescapeField value)) value
          (ofValue value) ↔
        ∀ name, ¬ EndsInLine name value) :=
  reads_of_variableName? (fun _ => nofun) (fun _ => ofValue_of_token) ofValue_of_literal

end Part

namespace Template

/-- A template is read piece by piece: the segments of its path and the values of its fields. -/
structure ReadsBy (isToken : Text → Text → Prop) (t : Template) : Prop where
  path : List.Forall₂ (Part.Reads isToken fun piece => .literal (Percent.unescape piece))
    (Path.pieces (Text.cut '?' t.source).1) t.path
  query : List.Forall₂ (fun field e => e.key = Query.fieldKey field ∧
      Part.Reads isToken (fun value => .literalValue (Percent.unescapeField value))
        (Text.cut '=' field).2 e.value)
    (Query.pieces (Text.cut '?' t.source).2) t.query

/-- A segment or a field value of a template is a token with a line feed behind it. -/
def HasTokenLine (t : Template) : Prop :=
  (∃ piece ∈ Path.pieces (Text.cut '?' t.source).1, ∃ name, EndsInLine name piece) ∨
    ∃ field ∈ Query.pieces (Text.cut '?' t.source).2,
      ∃ name, EndsInLine name (Text.cut '=' field).2

/-- What the path of a template expects, piece by piece. -/
theorem path_eq_map_pieces (t : Template) :
    t.path = (Path.pieces (Text.cut '?' t.source).1).map Part.ofSegment := by
  rw [path, Path.segments_eq_pieces]

/-- A template is read piece by piece if each of its pieces is read. -/
theorem readsBy_iff {isToken : Text → Text → Prop} {t : Template} :
    t.ReadsBy isToken ↔
      (∀ piece ∈ Path.pieces (Text.cut '?' t.source).1,
        Part.Reads isToken (fun piece => .literal (Percent.unescape piece)) piece
          (Part.ofSegment piece)) ∧
      ∀ field ∈ Query.pieces (Text.cut '?' t.source).2,
        Part.Reads isToken (fun value => .literalValue (Percent.unescapeField value))
          (Text.cut '=' field).2 (Part.ofValue (Text.cut '=' field).2) := by
  constructor
  · rintro ⟨hpath, hquery⟩
    rw [path_eq_map_pieces, List.forall₂_map_right_iff, List.forall₂_same] at hpath
    rw [query_eq_map_pieces, List.forall₂_map_right_iff, List.forall₂_same] at hquery
    exact ⟨hpath, fun field hfield => (hquery field hfield).2⟩
  · rintro ⟨hpath, hquery⟩
    constructor
    · rw [path_eq_map_pieces, List.forall₂_map_right_iff, List.forall₂_same]
      exact hpath
    · rw [query_eq_map_pieces, List.forall₂_map_right_iff, List.forall₂_same]
      exact fun field hfield => ⟨rfl, hquery field hfield⟩

/-- A text without a line feed holds no token with one. -/
theorem not_hasTokenLine {t : Template} (h : '\n' ∉ t.source) : ¬ t.HasTokenLine := by
  have hends : ∀ {name piece : Text}, EndsInLine name piece → '\n' ∈ piece := by
    rintro name piece ⟨token, -, rfl⟩
    simp
  rintro (⟨piece, hpiece, name, hline⟩ | ⟨field, hfield, name, hline⟩)
  · rw [← Path.segments_eq_pieces] at hpiece
    exact h (Text.mem_of_mem_cut_fst
      (mem_of_mem_splitOn (mem_of_mem_trimWhile hpiece) (hends hline)))
  · exact h (Text.mem_of_mem_cut_snd
      (mem_of_mem_splitOn (Query.mem_pieces_iff.mp hfield).1
        (Text.mem_of_mem_cut_snd (hends hline))))

/-- **A template is read by its tokens and literals, but for a line feed behind a token.**  Each piece
is read as a variable exactly if it is a token, with or without a line feed behind it, and else as the
literal that it stands for.  So pieces are read exactly by their tokens if and only if no token has a
line feed behind it, in particular if the template has none at all.  A character of a literal that
takes no part in an escape is never lost: it stands between what the text before it and the text
behind it stand for. -/
theorem readsBy_isToken_iff (t : Template) :
    t.ReadsBy IsTokenLine ∧ (t.ReadsBy IsToken ↔ ¬ t.HasTokenLine) ∧
    ('\n' ∉ t.source → t.ReadsBy IsToken) ∧
    ∀ (i : Nat) (before after : Text) (c : Char), Percent.Outside before c after →
      (∀ name, ¬ IsTokenLine name (before ++ c :: after)) →
      ((Path.pieces (Text.cut '?' t.source).1)[i]? = some (before ++ c :: after) →
        t.path[i]? = some (.literal (Percent.unescape before ++ c :: Percent.unescape after))) ∧
      (c ≠ '+' → ∀ field, (Query.pieces (Text.cut '?' t.source).2)[i]? = some field →
        (Text.cut '=' field).2 = before ++ c :: after →
        t.query[i]? = some ⟨Query.fieldKey field,
          .literalValue (Percent.unescapeField before ++ c :: Percent.unescapeField after)⟩) := by
  have hexact : t.ReadsBy IsToken ↔ ¬ t.HasTokenLine := by
    rw [readsBy_iff, HasTokenLine, not_or]
    simp only [(Part.reads_ofSegment _).2, (Part.reads_ofValue _).2, not_exists, not_and]
  refine ⟨readsBy_iff.mpr ⟨fun piece _ => (Part.reads_ofSegment piece).1,
    fun field _ => (Part.reads_ofValue _).1⟩, hexact, fun h => hexact.mpr (not_hasTokenLine h), ?_⟩
  intro i before after c houtside hliteral
  have hnone := variableName?_eq_none_iff.mpr hliteral
  refine ⟨fun hpiece => ?_, fun hplus field hfield hvalue => ?_⟩
  · rw [path_eq_map_pieces, List.getElem?_map, hpiece, Option.map_some,
      Part.ofSegment_of_literal hnone, Percent.unescape_append_cons houtside]
  · rw [query_eq_map_pieces, List.getElem?_map, hfield, Option.map_some, Query.expectation, hvalue,
      Part.ofValue_of_literal hnone, Percent.unescapeField_append_cons houtside hplus]

/-- Braces that are decorated, escaped, empty or torn apart by a slash are literal text, and so are
letters outside ASCII between braces. Behind an escape a digit stays as it is, and a line feed is kept
where it is not right behind a token. -/
theorem readsBy_isToken_of_odd_braces :
    let t : Template := ⟨("/v\x7ba\x7d/\x7b\x7d/%7Ba\x7d/\x7bé\x7d/\x7bx/y\x7d/\x7b_1\x7d/" ++
      "?\x7bk\x7d=\x7bv\x7d&w=\x7bv\x7d+").toList⟩
    let line : Template := ⟨"/\x7ba\x7d\n.txt?k=\n\x7bv\x7d".toList⟩
    t.ReadsBy IsToken ∧ line.ReadsBy IsTokenLine ∧
      t.path[2]? = some (.literal ("\x7b".toList ++ 'a' :: ['\x7d'])) ∧
      line.path[0]? = some (.literal ("\x7ba\x7d".toList ++ '\n' :: ".txt".toList)) ∧
      t.query[1]? = some ⟨['w'], .literalValue ("\x7bv".toList ++ '\x7d' :: [' '])⟩ := by
  intro t line
  obtain ⟨-, -, hplain, hkept⟩ := readsBy_isToken_iff t
  obtain ⟨hline, -, -, hlineKept⟩ := readsBy_isToken_iff line
  exact ⟨hplain (by decide), hline,
    (hkept 2 "%7B".toList "\x7d".toList 'a' (by decide)
      (variableName?_eq_none_iff.mp (by decide))).1 rfl,
    (hlineKept 0 "\x7ba\x7d".toList ".txt".toList '\n' (by decide)
      (variableName?_eq_none_iff.mp (by decide))).1 rfl,
    (hkept 1 "\x7bv".toList "+".toList '\x7d' (by decide)
      (variableName?_eq_none_iff.mp (by decide))).2 (by decide) _ rfl rfl⟩

/-- A line feed behind a token is lost: the piece is no token, and yet it is read as a variable. -/
theorem line_feed_behind_token_is_lost : ¬ ∀ t : Template, t.ReadsBy IsToken := by
  intro h
  have hpath := (h ⟨"/\x7ba\x7d\n".toList⟩).path
  have hpieces : Path.pieces (Text.cut '?' "/\x7ba\x7d\n".toList).1 = ["\x7ba\x7d\n".toList] := by
    rfl
  have hvariable : path ⟨"/\x7ba\x7d\n".toList⟩ = [.variable ['a']] := by rfl
  rw [hpieces, hvariable, List.forall₂_cons] at hpath
  obtain ⟨-, htoken⟩ := (hpath.1.token ['a']).mp rfl
  exact absurd htoken (by decide)

end Template

end UriRouting
