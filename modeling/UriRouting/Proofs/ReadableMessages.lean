import UriRouting.Proofs.Captures
import UriRouting.Proofs.Equality
import UriRouting.Proofs.QuotedForms

/-!
# Texts in messages

Names and templates stand in messages in their quoted forms, and a quoted form can be read back from
the start and from the end of what surrounds it. So the refusals of two missing names differ, the
written forms of two templates differ, and a finding that quotes is told by its wording, though the
wording holds the request as it is.

## Main Definitions

- `Finding.Sentence`, `Finding.Says`: the sentences that quote, and what is said in them.
- `Finding.Quotes`: the findings that quote a text.

## Main Statements

- `Object.render_template_inj`: templates are told by their written forms.
- `Quoted.doesNotMatch_inj`: what is compared in a sentence is found in it.
- `Finding.message_inj`: findings that quote are told by their wordings.
- `Quoted.names_and_templates_read_back`: quoted forms, missing names, templates and findings.

## Design Notes

The request and the key of a field stand in a finding without quotes and may hold the words of the
finding. What is quoted stands behind them, so it is found from the end.
-/

namespace UriRouting

/-! ## Templates -/

namespace Object

theorem render_template (t : Template) :
    (template t).render
      = "UriTemplate".toList ++ '(' :: ("template".toList ++ '=' :: Quoted.encode t.source)
        ++ [')'] := by
  rw [render, renderFields, List.map_singleton, Value.commaSeparated, List.intercalate_singleton]
  rfl

/-- Templates are told by their written forms. -/
theorem render_template_inj {t u : Template} :
    (template t).render = (template u).render ↔ t.source = u.source := by
  rw [render_template, render_template, List.append_left_inj, List.append_right_inj,
    List.cons_inj_right, List.append_right_inj, List.cons_inj_right, Quoted.encode_inj]

end Object

/-! ## Findings -/

/-- **What stands in front of the words and what is quoted behind them are both found**, also if what
stands in front holds the words. -/
theorem Quoted.doesNotMatch_inj {lead a b s t : Text} :
    lead ++ a ++ " does not match ".toList ++ encode s
      = lead ++ b ++ " does not match ".toList ++ encode t ↔ a = b ∧ s = t := by
  have hwords : " does not match ".toList = " does not match".toList ++ [' '] := rfl
  rw [hwords, ← List.append_assoc, ← List.append_assoc, ← List.append_cons, ← List.append_cons,
    append_cons_encode_inj (by simp), List.append_left_inj, List.append_right_inj]

namespace QueryMismatch

/-- What is shown of the value that stands in the place of an expected one. -/
def actualForm (actual : Option Text) : Text := (actual.map Quoted.encode).getD "None".toList

theorem message_eq (m : QueryMismatch) :
    m.message = "Query parameter ".toList ++ (m.key ++ '=' :: actualForm m.actual)
      ++ " does not match ".toList ++ Quoted.encode m.expected := by
  rw [← List.append_assoc "Query parameter ".toList]
  rfl

/-- A quoted value does not look like an absent one. -/
theorem append_none_ne_append_encode (a b v : Text) :
    a ++ '=' :: "None".toList ≠ b ++ '=' :: Quoted.encode v := by
  intro h
  have hnone : (a ++ '=' :: "None".toList).getLast? = some 'e' := by
    rw [List.getLast?_append, List.getLast?_cons]
    rfl
  rw [h, Quoted.getLast?_append_cons_encode] at hnone
  rcases Quoted.isQuote_delimiter v with hquote | hquote <;>
    exact absurd (hquote.symm.trans (Option.some.inj hnone)) (by simp)

/-- The key and the value of a field are found, though the key is not quoted. -/
theorem append_actualForm_inj {key key' : Text} {actual actual' : Option Text} :
    key ++ '=' :: actualForm actual = key' ++ '=' :: actualForm actual' ↔
      key = key' ∧ actual = actual' := by
  constructor
  · intro h
    cases actual with
    | none =>
        cases actual' with
        | none => exact ⟨List.append_cancel_right h, rfl⟩
        | some value' => exact absurd h (append_none_ne_append_encode key key' value')
    | some value =>
        cases actual' with
        | none => exact absurd h.symm (append_none_ne_append_encode key' key value)
        | some value' =>
            obtain ⟨hkey, rfl⟩ := (Quoted.append_cons_encode_inj (by simp)).mp h
            exact ⟨hkey, rfl⟩
  · rintro ⟨rfl, rfl⟩
    rfl

theorem message_inj {m m' : QueryMismatch} : m.message = m'.message ↔ m = m' := by
  constructor
  · intro h
    obtain ⟨key, actual, expected⟩ := m
    obtain ⟨key', actual', expected'⟩ := m'
    rw [message_eq, message_eq] at h
    obtain ⟨hfield, rfl⟩ := Quoted.doesNotMatch_inj.mp h
    obtain ⟨rfl, rfl⟩ := append_actualForm_inj.mp hfield
    rfl
  · rintro rfl
    rfl

end QueryMismatch

namespace Finding

/-- The sentences that quote what does not match. -/
inductive Sentence where
  | segment | parameter | path | query

/-- The first characters of a sentence, which tell it from the others. -/
def Sentence.lead : Sentence → Text
  | .segment => "Segment".toList
  | .parameter => "Query p".toList
  | .path => "Path of".toList
  | .query => "Query o".toList

/-- What is said in each of the sentences. -/
inductive Says : Finding → Sentence → Prop where
  | segment (actual expected : Text) : Says (.path (.segment actual expected)) .segment
  | parameter (m : QueryMismatch) : Says (.query m) .parameter
  | path (request source : Text) : Says (.pathRejected request source) .path
  | query (request source : Text) : Says (.queryRejected request source) .query

/-- The finding quotes a text. -/
def Quotes (f : Finding) : Prop := ∃ sentence, f.Says sentence

theorem Sentence.lead_inj {k k' : Sentence} (h : k.lead = k'.lead) : k = k' := by
  cases k <;> cases k' <;> first | rfl | exact absurd h (by decide)

theorem Says.take_message {f : Finding} {k : Sentence} (h : f.Says k) :
    f.message.take 7 = k.lead := by
  cases h <;> rfl

/-- **Findings that quote are told by their wordings.** -/
theorem message_inj {f g : Finding} (hf : f.Quotes) (hg : g.Quotes) :
    f.message = g.message ↔ f = g := by
  constructor
  · intro h
    obtain ⟨k, hf⟩ := hf
    obtain ⟨k', hg⟩ := hg
    obtain rfl : k = k' := Sentence.lead_inj (by rw [← hf.take_message, h, hg.take_message])
    cases hf with
    | segment actual expected =>
        cases hg with
        | segment actual' expected' =>
            obtain ⟨hactual, rfl⟩ := Quoted.doesNotMatch_inj.mp h
            rw [Quoted.encode_inj.mp hactual]
    | parameter m =>
        cases hg with
        | parameter m' => rw [QueryMismatch.message_inj.mp h]
    | path request source =>
        cases hg with
        | path request' source' =>
            obtain ⟨rfl, rfl⟩ := Quoted.doesNotMatch_inj.mp h
            rfl
    | query request source =>
        cases hg with
        | query request' source' =>
            obtain ⟨rfl, rfl⟩ := Quoted.doesNotMatch_inj.mp h
            rfl
  · rintro rfl
    rfl

end Finding

/-! ## Reading back -/

/-- A name that is not captured is refused by its quoted form. -/
theorem Session.read?_item_of_uncaptured {s : Session} {i : Nat} {success : Value}
    {captures : Table Text} (h : s.object? i = .ok (.result success captures)) {n : Text}
    (hn : captures.get? n = none) :
    ∃ e, s.read? (.item i n) = .error e ∧ e.message = Quoted.encode n :=
  ⟨.missingName n, (read?_item_eq_error_iff h n).mpr hn, rfl⟩

namespace Quoted

/-- **Names and templates can be read back from messages.**  A quoted form is read as its text,
whatever follows it, so different texts have different quoted forms.  A result refuses every name
that it has not captured, and the refusals of two names are worded alike exactly if the names are the
same.  The written forms of two templates are the same exactly if the templates are equal, and two
findings that quote are worded alike exactly if they are the same finding. -/
theorem names_and_templates_read_back :
    (∀ t rest : Text, read? (encode t ++ rest) = some (t, rest)) ∧
    (∀ x y : Text, encode x = encode y → x = y) ∧
    (∀ (s : Session) (i : Nat) (success : Value) (captures : Table Text),
      s.object? i = .ok (.result success captures) →
      ∀ n₁ n₂ : Text, captures.get? n₁ = none → captures.get? n₂ = none →
        ∃ e₁ e₂, s.read? (.item i n₁) = .error e₁ ∧ s.read? (.item i n₂) = .error e₂ ∧
          e₁.message = encode n₁ ∧ e₂.message = encode n₂ ∧
          (e₁.message = e₂.message ↔ n₁ = n₂)) ∧
    (∀ a b : Template, (Object.template a).render = (Object.template b).render ↔
      (Object.template a).same (.template b) = true) ∧
    ∀ f g : Finding, f.Quotes → g.Quotes → (f.message = g.message ↔ f = g) := by
  refine ⟨read?_encode_append, fun x y h => encode_inj.mp h,
    fun s i success captures hobject n₁ n₂ hn₁ hn₂ => ?_, fun a b => ?_,
    fun f g hf hg => Finding.message_inj hf hg⟩
  · obtain ⟨e₁, hread₁, hmessage₁⟩ := Session.read?_item_of_uncaptured hobject hn₁
    obtain ⟨e₂, hread₂, hmessage₂⟩ := Session.read?_item_of_uncaptured hobject hn₂
    refine ⟨e₁, e₂, hread₁, hread₂, hmessage₁, hmessage₂, ?_⟩
    rw [hmessage₁, hmessage₂, encode_inj]
  · rw [Object.render_template_inj, Object.same_template_iff]

/-- A soft hyphen and a text that spells out its escape are asked for, which are missing; two templates
differ in the same way; and one of two findings holds the words of the other one in its request. -/
theorem names_and_templates_read_back_awkward_texts :
    let captures : Table Text := Table.ofList [(['a'], ['1'])]
    let s : Session := (Session.initial.step (.make (.result (.bool false) captures))).2
    let n₁ : Text := ['\u00AD']
    let n₂ : Text := "\\xad".toList
    let a : Template := ⟨"/it's\n".toList⟩
    let b : Template := ⟨"/it's\\n".toList⟩
    let f : Finding := .pathRejected "/x does not match 'y'".toList "z".toList
    let g : Finding := .pathRejected "/x".toList "y' does not match 'z".toList
    read? "'\\xad' and 'b'".toList = some (n₁, " and 'b'".toList) ∧
      s.object? 0 = .ok (.result (.bool false) captures) ∧
      captures.get? n₁ = none ∧ captures.get? n₂ = none ∧
      (∃ e₁ e₂, s.read? (.item 0 n₁) = .error e₁ ∧ s.read? (.item 0 n₂) = .error e₂ ∧
        e₁.message = "'\\xad'".toList ∧ e₂.message = "'\\\\xad'".toList ∧
        e₁.message ≠ e₂.message) ∧
      (Object.template a).same (.template b) = false ∧
      (Object.template a).render ≠ (Object.template b).render ∧
      f.Quotes ∧ g.Quotes ∧ f.message ≠ g.message := by
  intro captures s n₁ n₂ a b f g
  have hobject : s.object? 0 = .ok (.result (.bool false) captures) := rfl
  have hn₁ : captures.get? n₁ = none := rfl
  have hn₂ : captures.get? n₂ = none := rfl
  have hnames : n₁ ≠ n₂ := by decide
  have htemplates : (Object.template a).same (.template b) = false := by decide
  have hf : f.Quotes := ⟨_, .path _ _⟩
  have hg : g.Quotes := ⟨_, .path _ _⟩
  have hfindings : f ≠ g := by decide
  obtain ⟨hread, -, hmissing, hrender, hmessage⟩ := names_and_templates_read_back
  obtain ⟨e₁, e₂, hread₁, hread₂, hmessage₁, hmessage₂, hsame⟩ :=
    hmissing s 0 _ captures hobject n₁ n₂ hn₁ hn₂
  refine ⟨hread n₁ " and 'b'".toList, hobject, hn₁, hn₂,
    ⟨e₁, e₂, hread₁, hread₂, hmessage₁, hmessage₂, mt hsame.mp hnames⟩, htemplates, ?_, hf, hg,
    mt (hmessage f g hf hg).mp hfindings⟩
  rw [ne_eq, hrender, htemplates]
  exact Bool.false_ne_true

end Quoted

end UriRouting
