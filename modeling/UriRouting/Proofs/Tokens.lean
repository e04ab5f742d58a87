import UriRouting.Proofs.Escaping
import UriRouting.Template.Basic

/-!
# Tokens

Which written segments and field values are variables, and what a written part describes. Every
statement about templates goes through these facts, so the recognition of a token is opened here
only.

## Main Definitions

- `IsName`: a text that can name a variable.
- `IsForeign`: the characters that no written template holds.
- `Part.IsSegment`, `Part.IsValue`: the parts that a segment and a field value can describe.
- `Part.render`: the written form of a part.

## Main Statements

- `variableName?_eq_some_iff`: the exact form of a token.
- `Part.ofSegment_render`, `Part.ofValue_render`: a written part describes the part that was written.
-/

namespace UriRouting

/-- A text that can name a variable: one name character or more. -/
def IsName (name : Text) : Prop := name ≠ [] ∧ ∀ c ∈ name, isNameChar c = true

instance (name : Text) : Decidable (IsName name) :=
  decidable_of_iff ((!name.isEmpty && name.all isNameChar) = true) (by simp [IsName])

/-- A name character is neither a brace nor a delimiter. -/
theorem isUnreserved_of_isNameChar {c : Char} (h : isNameChar c = true) :
    Percent.isUnreserved c = true := by
  simp only [isNameChar, Bool.or_eq_true, decide_eq_true_eq] at h
  rcases h with h | h <;> simp [Percent.isUnreserved, h]

/-- The characters that no written template holds: they are reserved and stand neither around a name
nor between two segments or fields. -/
def IsForeign (c : Char) : Prop := Percent.IsReserved c ∧ c ∉ ['/', '?', '&', '=', '{', '}']

instance : DecidablePred IsForeign := fun c =>
  inferInstanceAs (Decidable (Percent.IsReserved c ∧ c ∉ ['/', '?', '&', '=', '{', '}']))

/-- **The form of a token.**  A name between braces; one line feed may follow. -/
theorem variableName?_eq_some_iff {token name : Text} :
    variableName? token = some name ↔
      IsName name ∧ (token = '{' :: name ++ ['}'] ∨ token = '{' :: name ++ ['}', '\n']) := by
  constructor
  · intro h
    unfold variableName? at h
    split at h
    · next rest =>
      dsimp only at h
      split at h
      · next hform =>
        rw [Option.some.injEq] at h
        simp only [Bool.and_eq_true, Bool.not_eq_true', Bool.or_eq_true, decide_eq_true_eq, h]
          at hform
        have hrest : rest = name ++ rest.dropWhile isNameChar := by
          rw [← h, List.takeWhile_append_dropWhile]
        refine ⟨⟨?_, ?_⟩, ?_⟩
        · simpa using hform.1
        · intro c hc
          rw [← h] at hc
          exact List.all_eq_true.mp List.all_takeWhile c hc
        · rw [List.cons_append, List.cons_append]
          rcases hform.2 with hend | hend
          · exact Or.inl (by rw [hend] at hrest; rw [hrest])
          · exact Or.inr (by rw [hend] at hrest; rw [hrest])
      · simp at h
    · simp at h
  · rintro ⟨⟨hne, hname⟩, htoken⟩
    have hbrace : isNameChar '}' = false := by decide
    have hread : ∀ ending : Text, ending = ['}'] ∨ ending = ['}', '\n'] →
        variableName? ('{' :: (name ++ ending)) = some name := by
      rintro ending (rfl | rfl) <;>
        simp [variableName?, List.takeWhile_append_of_pos hname,
          List.dropWhile_append_of_pos hname, hbrace, hne]
    rcases htoken with rfl | rfl
    · exact hread _ (Or.inl rfl)
    · exact hread _ (Or.inr rfl)

/-- The name in a token. -/
theorem variableName?_token {name : Text} (h : IsName name) :
    variableName? ('{' :: name ++ ['}']) = some name :=
  variableName?_eq_some_iff.mpr ⟨h, Or.inl rfl⟩

/-- A token starts with a brace. -/
theorem variableName?_of_not_mem {token : Text} (h : '{' ∉ token) : variableName? token = none := by
  cases hname : variableName? token with
  | none => rfl
  | some name =>
      rcases (variableName?_eq_some_iff.mp hname).2 with rfl | rfl <;> simp at h

/-- An escaped text is no token. -/
@[simp] theorem variableName?_escape (t : Text) : variableName? (Percent.escape t) = none :=
  variableName?_of_not_mem (Percent.not_mem_escape (by decide) t)

namespace Part

/-- A part that a segment can describe: a literal or a variable with a proper name. -/
def IsSegment : Part → Prop
  | .literal _ => True
  | .literalValue _ => False
  | .variable name => IsName name

/-- A part that a field value can describe: a literal value or a variable with a proper name. -/
def IsValue : Part → Prop
  | .literal _ => False
  | .literalValue _ => True
  | .variable name => IsName name

instance : DecidablePred IsSegment
  | .literal _ => inferInstanceAs (Decidable True)
  | .literalValue _ => inferInstanceAs (Decidable False)
  | .variable name => inferInstanceAs (Decidable (IsName name))

instance : DecidablePred IsValue
  | .literal _ => inferInstanceAs (Decidable False)
  | .literalValue _ => inferInstanceAs (Decidable True)
  | .variable name => inferInstanceAs (Decidable (IsName name))

/-! ### Reading a written part -/

theorem ofSegment_of_token {segment name : Text} (h : variableName? segment = some name) :
    ofSegment segment = .variable name := by
  rw [ofSegment, h]

theorem ofSegment_of_literal {segment : Text} (h : variableName? segment = none) :
    ofSegment segment = .literal (Percent.unescape segment) := by
  rw [ofSegment, h]

theorem ofValue_of_token {value name : Text} (h : variableName? value = some name) :
    ofValue value = .variable name := by
  rw [ofValue, h]

theorem ofValue_of_literal {value : Text} (h : variableName? value = none) :
    ofValue value = .literalValue (Percent.unescapeField value) := by
  rw [ofValue, h]

/-- A segment describes a literal or a variable. -/
theorem isSegment_ofSegment (segment : Text) : (ofSegment segment).IsSegment := by
  cases h : variableName? segment with
  | none =>
      rw [ofSegment_of_literal h]
      trivial
  | some name =>
      rw [ofSegment_of_token h]
      exact (variableName?_eq_some_iff.mp h).1

/-- A field value describes a literal value or a variable. -/
theorem isValue_ofValue (value : Text) : (ofValue value).IsValue := by
  cases h : variableName? value with
  | none =>
      rw [ofValue_of_literal h]
      trivial
  | some name =>
      rw [ofValue_of_token h]
      exact (variableName?_eq_some_iff.mp h).1

/-- Only the empty segment describes the empty literal. -/
theorem ofSegment_eq_literal_nil_iff {segment : Text} :
    ofSegment segment = .literal [] ↔ segment = [] := by
  constructor
  · intro h
    cases hname : variableName? segment with
    | none => simpa [ofSegment_of_literal hname] using h
    | some name => simp [ofSegment_of_token hname] at h
  · rintro rfl
    rfl

/-! ### Writing a part -/

/-- The written form of a part: the token of a variable, a literal with its escapes. -/
def render : Part → Text
  | .literal text | .literalValue text => Percent.escape text
  | .variable name => '{' :: name ++ ['}']

/-- A written segment describes the part that it was written for. -/
theorem ofSegment_render {part : Part} (h : part.IsSegment) : ofSegment part.render = part := by
  rcases part with text | text | name
  · rw [render, ofSegment_of_literal (by simp), Percent.unescape_escape]
  · exact absurd h (by simp [IsSegment])
  · exact ofSegment_of_token (variableName?_token h)

/-- A written value describes the part that it was written for. -/
theorem ofValue_render {part : Part} (h : part.IsValue) : ofValue part.render = part := by
  rcases part with text | text | name
  · exact absurd h (by simp [IsValue])
  · rw [render, ofValue_of_literal (by simp), Percent.unescapeField_escape]
  · exact ofValue_of_token (variableName?_token h)

/-- No delimiter occurs in a written part. -/
theorem not_mem_render {part : Part} (h : part.IsSegment ∨ part.IsValue) {c : Char}
    (hc : Percent.IsReserved c ∧ c ≠ '{' ∧ c ≠ '}') : c ∉ part.render := by
  obtain ⟨hreserved, hopen, hclose⟩ := hc
  rcases part with text | text | name
  · exact Percent.not_mem_escape hreserved text
  · exact Percent.not_mem_escape hreserved text
  · have hname : IsName name := by simpa [IsSegment, IsValue] using h
    intro hmem
    rw [render, List.mem_append, List.mem_cons, List.mem_singleton] at hmem
    rcases hmem with (rfl | hmem) | rfl
    · exact hopen rfl
    · have hunreserved := hreserved.1
      rw [isUnreserved_of_isNameChar (hname.2 c hmem)] at hunreserved
      exact absurd hunreserved (by decide)
    · exact hclose rfl

/-- Only the empty literal is written as the empty segment. -/
theorem render_eq_nil_iff {part : Part} (h : part.IsSegment) :
    part.render = [] ↔ part = .literal [] := by
  rcases part with text | text | name
  · simp [render]
  · exact absurd h (by simp [IsSegment])
  · simp [render]

end Part

end UriRouting
