import UriRouting.Proofs.Addresses
import UriRouting.Proofs.Matching

/-!
# Forms of a URI

One and the same URI can be handed over as its text, split into its parts, or split with its path
parameters set apart. The first two forms are read alike. The third one has lost the parameters by
the time it is read, so it stands for the URI without them.

## Main Definitions

- `Parts.HasParameters`: a path that ends in parameters, in a scheme that has any.
- `Parts.CutAtParameters`: a path cut at the first semicolon behind its last slash.
- `Uri.Form`: the three forms, and `Uri.Form.uri` a URI in one of them.
- `Uri.Form.seen`: the parts that are seen of a URI in some form.

## Main Statements

- `Parts.withoutParameters_cases`: what setting the parameters apart does to the parts.
- `Template.verdict?_form`: forms make no difference to a match but for the parameters that a form
  has lost.
-/

namespace UriRouting

/-! ## Parameters of a path -/

namespace Parts

/-- The path ends in parameters, and the scheme has them: a semicolon stands behind the last
slash. -/
def HasParameters (p : Parts) : Prop :=
  p.scheme ∈ schemesWithParameters ∧
    ∃ front rest, p.path = front ++ ';' :: rest ∧ '/' ∉ rest

/-- A path is cut at the first semicolon behind its last slash. -/
structure CutAtParameters (path kept parameters : Text) : Prop where
  eq_append : path = kept ++ ';' :: parameters
  not_mem : '/' ∉ parameters
  first : ∀ front rest, kept = front ++ ';' :: rest → '/' ∈ rest

/-- The last segment of a path, and what stands before it. -/
theorem exists_lead (path : Text) :
    ∃ lead last, (path.splitOn '/').getLast? = some last ∧ '/' ∉ last ∧
      (∀ c ∈ lead.getLast?, c = '/') ∧
      ∀ s, ['/'].intercalate ((path.splitOn '/').dropLast ++ [s]) = lead ++ s := by
  rcases List.eq_nil_or_concat (path.splitOn '/') with hnil | ⟨front, last, hsplit⟩
  · exact absurd hnil (List.splitOn_ne_nil '/' path)
  rw [List.concat_eq_append] at hsplit
  have hlast : '/' ∉ last := not_mem_of_mem_splitOn (l := path) (by rw [hsplit]; simp)
  rw [hsplit, List.getLast?_concat, List.dropLast_concat]
  by_cases hfront : front = []
  · refine ⟨[], last, rfl, hlast, by simp, fun s => ?_⟩
    rw [hfront, List.nil_append, List.intercalate_singleton, List.nil_append]
  · refine ⟨['/'].intercalate front ++ ['/'], last, rfl, hlast, ?_, fun s => ?_⟩
    · intro c hc
      rw [List.getLast?_concat, Option.mem_some_iff] at hc
      exact hc.symm
    · rw [intercalate_append hfront (by simp), List.intercalate_singleton]

/-- What stands behind the last slash stands in the last segment. -/
theorem exists_eq_append_of_lead {lead last front rest : Text} {c : Char}
    (hlead : ∀ c ∈ lead.getLast?, c = '/') (h : lead ++ last = front ++ c :: rest)
    (hrest : '/' ∉ c :: rest) : ∃ middle, last = middle ++ c :: rest := by
  rcases List.append_eq_append_iff.mp h with ⟨middle, -, hlast⟩ | ⟨middle, hfront, hlast⟩
  · exact ⟨middle, hlast⟩
  · rcases List.eq_nil_or_concat middle with rfl | ⟨middle, d, rfl⟩
    · exact ⟨[], by simpa using hlast.symm⟩
    -- Otherwise the slash that ends what stands before the last segment would be in the rest.
    · rw [List.concat_eq_append] at hfront hlast
      have hslash : d = '/' :=
        hlead d (by rw [hfront, ← List.append_assoc, List.getLast?_concat]; rfl)
      exact absurd (by rw [hlast, hslash]; simp) hrest

/-- **Setting the parameters apart** cuts a path that has some at their beginning, and leaves the
parts alone otherwise. -/
theorem withoutParameters_cases (p : Parts) :
    (p.HasParameters ∧ ∃ kept parameters, CutAtParameters p.path kept parameters ∧
        p.withoutParameters = ({ p with path := kept }, parameters)) ∨
      (¬ p.HasParameters ∧ p.withoutParameters = (p, [])) := by
  by_cases hscheme : p.scheme ∈ schemesWithParameters
  · obtain ⟨lead, last, hlast, hslash, hlead, hjoin⟩ := exists_lead p.path
    have hpath : p.path = lead ++ last := by
      rw [← hjoin last, List.dropLast_append_getLast? _ hlast]
      exact (List.intercalate_splitOn '/').symm
    have hwithout : p.withoutParameters
        = ({ p with path := lead ++ (Text.cut ';' last).1 }, (Text.cut ';' last).2) := by
      simp [withoutParameters, hscheme, hlast, hjoin]
    by_cases hsemicolon : ';' ∈ last
    · have hcut := Text.append_cut hsemicolon
      have hrest : '/' ∉ (Text.cut ';' last).2 := fun h => hslash (Text.mem_of_mem_cut_snd h)
      have heq : p.path = lead ++ (Text.cut ';' last).1 ++ ';' :: (Text.cut ';' last).2 := by
        rw [hpath, List.append_assoc, hcut]
      refine Or.inl ⟨⟨hscheme, _, _, heq, hrest⟩, _, _, ⟨heq, hrest, ?_⟩, hwithout⟩
      intro front rest hkept
      by_contra hnot
      obtain ⟨middle, hmiddle⟩ := exists_eq_append_of_lead hlead hkept (by simpa using hnot)
      exact Text.not_mem_cut_fst ';' last (by rw [hmiddle]; simp)
    · refine Or.inr ⟨?_, ?_⟩
      · rintro ⟨-, front, rest, heq, hrest⟩
        obtain ⟨middle, hmiddle⟩ :=
          exists_eq_append_of_lead hlead (hpath.symm.trans heq) (by simpa using hrest)
        exact hsemicolon (by rw [hmiddle]; simp)
      · rw [hwithout, Text.cut_of_not_mem hsemicolon, ← hpath]
  · refine Or.inr ⟨fun h => hscheme h.1, ?_⟩
    simp [withoutParameters, hscheme]

/-- Parts have parameters exactly if setting these apart changes them. -/
theorem hasParameters_iff {p : Parts} : p.HasParameters ↔ p.withoutParameters.1 ≠ p := by
  rcases p.withoutParameters_cases with ⟨hparameters, kept, parameters, hcut, heq⟩ | ⟨hnot, heq⟩
  · refine iff_of_true hparameters fun hsame => ?_
    have hpath : kept ++ ';' :: parameters = kept := by
      rw [← hcut.eq_append, ← congrArg Parts.path hsame, heq]
    simp at hpath
  · exact iff_of_false hnot (by simp [heq])

instance (p : Parts) : Decidable p.HasParameters := decidable_of_iff _ hasParameters_iff.symm

end Parts

/-! ## The forms -/

namespace Uri

/-- The forms in which a URI can be handed over. -/
inductive Form where
  | text
  | split
  /-- Split, with the path parameters set apart. -/
  | parsed
  deriving DecidableEq, Repr

namespace Form

/-- The URI that is written by a text and has some parts, in each form. -/
def uri (text : Text) (parts : Parts) : Form → Uri
  | .text => .text text
  | .split => .split parts
  | .parsed => .parsed parts.withoutParameters.1 parts.withoutParameters.2

/-- The parts that are seen of a URI in each form. -/
def seen (parts : Parts) : Form → Parts
  | .text | .split => parts
  | .parsed => parts.withoutParameters.1

/-- A form that has lost no parameters shows all parts. -/
theorem seen_eq_self {p : Parts} {f : Form} (h : f = .parsed → ¬ p.HasParameters) :
    f.seen p = p := by
  cases f with
  | text => rfl
  | split => rfl
  | parsed =>
      rcases p.withoutParameters_cases with ⟨hparameters, -⟩ | ⟨-, heq⟩
      · exact absurd hparameters (h rfl)
      · rw [seen, heq]

/-- A form that has lost the parameters shows the path without them. -/
theorem seen_parsed {p : Parts} (h : p.HasParameters) :
    ∃ kept parameters, Parts.CutAtParameters p.path kept parameters ∧
      Form.parsed.seen p = { p with path := kept } := by
  rcases p.withoutParameters_cases with ⟨-, kept, parameters, hcut, heq⟩ | ⟨hnot, -⟩
  · exact ⟨kept, parameters, hcut, by rw [seen, heq]⟩
  · exact absurd h hnot

/-- The target of a URI is that of the parts that are seen of it. -/
theorem target?_uri {text : Text} {p : Parts} (h : Parts.ofText? text = .ok p) (f : Form) :
    (f.uri text p).target? = (Uri.split (f.seen p)).target? := by
  cases f with
  | text => exact target?_text h
  | split => rfl
  | parsed => rfl

end Form

end Uri

namespace Template

/-- A match depends on the targets only. -/
theorem verdict?_congr {t : Template} {base base' request request' : Uri}
    (hbase : base.target? = base'.target?) (hrequest : request.target? = request'.target?) :
    t.verdict? base request = t.verdict? base' request' := by
  rw [verdict?, outcome?, hbase, hrequest, verdict?, outcome?]

/-- **Forms make no difference to a match, but for lost parameters.**  In whatever forms the base
and the request are handed over, the verdict is the same, unless one of them has parameters and is
handed over in the form that has lost them.  In any case the verdict is that on the parts that are
seen, and a form that has lost the parameters shows the path up to them. -/
theorem verdict?_form (t : Template) {base request : Text} {b r : Parts}
    (hbase : Parts.ofText? base = .ok b) (hrequest : Parts.ofText? request = .ok r) :
    (∃ v, ∀ f g : Uri.Form, (f = .parsed → ¬ b.HasParameters) → (g = .parsed → ¬ r.HasParameters) →
      t.verdict? (f.uri base b) (g.uri request r) = .ok v) ∧
    (∀ f g : Uri.Form, ∃ v, t.verdict? (f.uri base b) (g.uri request r) = .ok v ∧
      t.verdict? (.split (f.seen b)) (.split (g.seen r)) = .ok v) ∧
    ∀ p : Parts, p.HasParameters →
      ∃ kept parameters, Parts.CutAtParameters p.path kept parameters ∧
        Uri.Form.parsed.seen p = { p with path := kept } := by
  have hseen : ∀ f g : Uri.Form, t.verdict? (f.uri base b) (g.uri request r)
      = t.verdict? (.split (f.seen b)) (.split (g.seen r)) := fun f g =>
    verdict?_congr (Uri.Form.target?_uri hbase f) (Uri.Form.target?_uri hrequest g)
  have hsplit : ∀ p q : Parts, ∃ v, t.verdict? (.split p) (.split q) = .ok v := by
    intro p q
    rw [verdict?, outcome?_split]
    exact ⟨_, rfl⟩
  refine ⟨?_, fun f g => ?_, fun p hp => Uri.Form.seen_parsed hp⟩
  · obtain ⟨v, hv⟩ := hsplit b r
    refine ⟨v, fun f g hf hg => ?_⟩
    rw [hseen, Uri.Form.seen_eq_self hf, Uri.Form.seen_eq_self hg, hv]
  · obtain ⟨v, hv⟩ := hsplit (f.seen b) (g.seen r)
    exact ⟨v, (hseen f g).trans hv, hv⟩

/-- Semicolons are no parameters before the last slash, nor in a scheme that has none. In a scheme
that has them, the parsed form shows the path up to the first one. -/
theorem verdict?_form_other_semicolons :
    let t : Template := ⟨"\x7bv\x7d?k=\x7bw\x7d".toList⟩
    let base : Text := "http://h/b;q/x".toList
    let request : Text := "news://u@h/B%3Bq/x/a;p?k=1;2#f".toList
    let b : Parts := ⟨"http".toList, "h".toList, "/b;q/x".toList, [], []⟩
    let r : Parts :=
      ⟨"news".toList, "u@h".toList, "/B%3Bq/x/a;p".toList, "k=1;2".toList, "f".toList⟩
    let p : Parts := ⟨"rtsps".toList, "h".toList, "/b;q/a;x;y".toList, [], []⟩
    Parts.ofText? base = .ok b ∧ Parts.ofText? request = .ok r ∧
      ¬ b.HasParameters ∧ ¬ r.HasParameters ∧
      (∃ v, ∀ f g : Uri.Form, t.verdict? (f.uri base b) (g.uri request r) = .ok v) ∧
      p.HasParameters ∧ Uri.Form.parsed.seen p = { p with path := "/b;q/a".toList } ∧
      ∃ kept parameters, Parts.CutAtParameters p.path kept parameters ∧
        Uri.Form.parsed.seen p = { p with path := kept } := by
  intro t base request b r p
  have hbase : Parts.ofText? base = .ok b := by rfl
  have hrequest : Parts.ofText? request = .ok r := by rfl
  have hb : ¬ b.HasParameters := by decide
  have hr : ¬ r.HasParameters := by decide
  have hp : p.HasParameters := by decide
  obtain ⟨⟨v, hv⟩, -, hcut⟩ := verdict?_form t hbase hrequest
  exact ⟨hbase, hrequest, hb, hr, ⟨v, fun f g => hv f g (fun _ => hb) (fun _ => hr)⟩, hp,
    by decide, hcut p hp⟩

/-- Forms do make a difference for a request that ends in parameters: a variable captures them from
the text and misses them in the parsed form. -/
theorem parsed_form_loses_parameters :
    ¬ ∀ (t : Template) (base request : Text) (b r : Parts),
      Parts.ofText? base = .ok b → Parts.ofText? request = .ok r →
      ∀ f g f' g' : Uri.Form, t.verdict? (f.uri base b) (g.uri request r)
        = t.verdict? (f'.uri base b) (g'.uri request r) := by
  intro h
  have hsame := h ⟨"/\x7bv\x7d".toList⟩ "http://h".toList "http://h/a;x".toList
    ⟨"http".toList, "h".toList, [], [], []⟩ ⟨"http".toList, "h".toList, "/a;x".toList, [], []⟩
    rfl rfl .text .text .text .parsed
  exact absurd (Except.ok.inj hsame) (by decide)

end Template

end UriRouting
