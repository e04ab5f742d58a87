import Mathlib.Data.List.Nodup
import UriRouting.Proofs.Matching
import UriRouting.Proofs.Splitting
import UriRouting.Proofs.Tokens

/-!
# Spellings

A text can be spelled in many ways: each of its characters is written as it is or as the escapes of
its octets, one by one. A template and a request that spell their literals in different ways mean
the same, so a match compares the texts that are spelled and nothing else.

## Main Definitions

- `Percent.SpellsOctets`, `Percent.Spells`: the spellings of octets and of a text.
- `Path.Spelling`, `Query.Spelling`: the spellings that stand in a path and in a field.
- `Query.joined`: the query text of written fields.

## Main Statements

- `Percent.unescape_map_append_of_spells`: every spelling of a text is unescaped to it.
- `Template.accepts_spelled_path_iff`: spelled segments fit if their texts differ at most in case.
- `Template.accepts_spelled_query_iff`: spelled fields fit if they are among those of the request.
- `Template.accepts_spelled_iff`: both together.

## Design Notes

Which characters may stand as they are differs between paths and fields, so the spellings of a text
are given by a relation between a written character and the one that it stands for.
-/

namespace UriRouting

/-! ## Spelling a text -/

namespace Percent

/-- The hexadecimal digits of a number below sixteen: one in each case. -/
def IsHexDigit (n : Nat) (c : Char) : Prop := c = hexDigit n ∨ c = (hexDigit n).toLower

instance (n : Nat) (c : Char) : Decidable (IsHexDigit n c) :=
  inferInstanceAs (Decidable (c = hexDigit n ∨ c = (hexDigit n).toLower))

/-- The spellings of octets: each is a percent sign and two hexadecimal digits. -/
inductive SpellsOctets : Text → List UInt8 → Prop where
  | nil : SpellsOctets [] []
  | cons {b : UInt8} {high low : Char} {e : Text} {bs : List UInt8}
      (hhigh : IsHexDigit (b.toNat / 16) high) (hlow : IsHexDigit (b.toNat % 16) low)
      (h : SpellsOctets e bs) : SpellsOctets ('%' :: high :: low :: e) (b :: bs)

/-- The spellings of a text: each character is written as one that stands for it or as all its
octets. -/
inductive Spells (stands : Char → Char → Prop) : Text → Text → Prop where
  | nil : Spells stands [] []
  | plain {a c : Char} {s x : Text} (ha : stands a c) (h : Spells stands s x) :
      Spells stands (a :: s) (c :: x)
  | escaped {e : Text} {c : Char} {s x : Text} (he : SpellsOctets e (String.utf8EncodeChar c))
      (h : Spells stands s x) : Spells stands (e ++ s) (c :: x)

/-! ### Deciding whether a text is a spelling -/

/-- An octet is spelled with three characters. -/
theorem length_of_spellsOctets {e : Text} {bs : List UInt8} (h : SpellsOctets e bs) :
    e.length = 3 * bs.length := by
  induction h with
  | nil => rfl
  | cons hhigh hlow h ih =>
      simp only [List.length_cons, ih]
      omega

/-- Nothing but the empty text spells the empty text. -/
theorem spells_nil_iff {stands : Char → Char → Prop} {s : Text} : Spells stands s [] ↔ s = [] := by
  constructor
  · intro h
    cases h
    rfl
  · rintro rfl
    exact .nil

/-- The empty text spells nothing else: a character has at least one octet. -/
theorem not_spells_nil {stands : Char → Char → Prop} {c : Char} {x : Text} :
    ¬ Spells stands [] (c :: x) := by
  intro h
  generalize hs : ([] : Text) = s at h
  cases h with
  | plain => simp at hs
  | escaped he h =>
      have hoctets := length_of_spellsOctets he
      rw [(List.append_eq_nil_iff.mp hs.symm).1, String.length_utf8EncodeChar] at hoctets
      have hsize := Char.utf8Size_pos c
      simp only [List.length_nil] at hoctets
      omega

/-- How the first character of a text is spelled. -/
theorem spells_cons_iff {stands : Char → Char → Prop} {a c : Char} {s x : Text} :
    Spells stands (a :: s) (c :: x) ↔
      (stands a c ∧ Spells stands s x) ∨
        SpellsOctets ((a :: s).take (3 * (String.utf8EncodeChar c).length))
            (String.utf8EncodeChar c) ∧
          Spells stands ((a :: s).drop (3 * (String.utf8EncodeChar c).length)) x := by
  constructor
  · intro h
    -- The text of an escaped spelling is an append, so it is named before the cases are told apart.
    generalize hs : a :: s = t at h ⊢
    cases h with
    | plain ha h =>
        obtain ⟨rfl, rfl⟩ := List.cons.inj hs
        exact Or.inl ⟨ha, h⟩
    | escaped he h =>
        rw [← length_of_spellsOctets he, List.take_left, List.drop_left]
        exact Or.inr ⟨he, h⟩
  · rintro (⟨ha, h⟩ | ⟨he, h⟩)
    · exact .plain ha h
    · rw [← List.take_append_drop (3 * (String.utf8EncodeChar c).length) (a :: s)]
      exact .escaped he h

instance decidableSpellsOctets : (e : Text) → (bs : List UInt8) → Decidable (SpellsOctets e bs)
  | [], [] => .isTrue .nil
  | sign :: high :: low :: e, b :: bs =>
      have := decidableSpellsOctets e bs
      decidable_of_iff
        (sign = '%' ∧ IsHexDigit (b.toNat / 16) high ∧ IsHexDigit (b.toNat % 16) low ∧
          SpellsOctets e bs)
        ⟨fun ⟨hsign, hhigh, hlow, h⟩ => hsign ▸ .cons hhigh hlow h,
          fun | .cons hhigh hlow h => ⟨rfl, hhigh, hlow, h⟩⟩
  | _ :: _, [] | [], _ :: _ | [_], _ :: _ | [_, _], _ :: _ => .isFalse nofun

instance decidableSpells (stands : Char → Char → Prop) [∀ a c, Decidable (stands a c)] :
    (s x : Text) → Decidable (Spells stands s x)
  | s, [] => decidable_of_iff (s = []) spells_nil_iff.symm
  | [], _ :: _ => .isFalse not_spells_nil
  | a :: s, c :: x =>
      have := decidableSpells stands s x
      have := decidableSpells stands ((a :: s).drop (3 * (String.utf8EncodeChar c).length)) x
      decidable_of_iff _ spells_cons_iff.symm

/-! ### Reading a spelling -/

/-- A digit in either case writes its number. -/
theorem hexValue?_of_isHexDigit {n : Nat} {c : Char} (hn : n < 16) (h : IsHexDigit n c) :
    hexValue? c = some n := by
  have hlower : ∀ n < 16, hexValue? (hexDigit n).toLower = some n := by decide
  rcases h with rfl | rfl
  · exact hexValue?_hexDigit hn
  · exact hlower n hn

/-- A digit in either case is unreserved. -/
theorem isUnreserved_of_isHexDigit {n : Nat} {c : Char} (hn : n < 16) (h : IsHexDigit n c) :
    isUnreserved c = true := by
  have hlower : ∀ n < 16, isUnreserved (hexDigit n).toLower = true := by decide
  rcases h with rfl | rfl
  · exact isUnreserved_hexDigit hn
  · exact hlower n hn

theorem units_append_of_spellsOctets {e : Text} {bs : List UInt8} (h : SpellsOctets e bs)
    (rest : Text) : units (e ++ rest) = bs.map .octet ++ units rest := by
  induction h with
  | nil => rfl
  | @cons b high low e bs hhigh hlow h ih =>
      have hb : b.toNat < 256 := b.toNat_lt
      simp only [List.cons_append]
      rw [units_octet_append (hexValue?_of_isHexDigit (by omega) hhigh)
        (hexValue?_of_isHexDigit (by omega) hlow), ih]
      rfl

/-- The characters of spelled octets. -/
theorem mem_of_spellsOctets {e : Text} {bs : List UInt8} (h : SpellsOctets e bs) {d : Char}
    (hd : d ∈ e) : isUnreserved d = true ∨ d = '%' := by
  induction h with
  | nil => simp at hd
  | @cons b high low e bs hhigh hlow h ih =>
      have hb : b.toNat < 256 := b.toNat_lt
      rw [List.mem_cons, List.mem_cons, List.mem_cons] at hd
      rcases hd with rfl | rfl | rfl | hd
      · exact Or.inr rfl
      · exact Or.inl (isUnreserved_of_isHexDigit (by omega) hhigh)
      · exact Or.inl (isUnreserved_of_isHexDigit (by omega) hlow)
      · exact ih hd

variable {stands : Char → Char → Prop} {s x : Text}

/-- **Every spelling of a text is unescaped to it**, and what follows is unescaped on its own. The
spelling may have been mapped before, as long as the map keeps the characters of escapes. -/
theorem unescape_map_append_of_spells {f : Char → Char}
    (hf : ∀ d, isUnreserved d = true ∨ d = '%' → f d = d)
    (hstands : ∀ a c, stands a c → f a = c ∧ c ≠ '%') (h : Spells stands s x) (rest : Text) :
    unescape (s.map f ++ rest) = x ++ unescape rest := by
  -- A character is complete before the next piece is read, so the pieces are read one by one.
  induction h with
  | nil => rfl
  | @plain a c s x ha h ih =>
      obtain ⟨rfl, hpercent⟩ := hstands a c ha
      rw [List.map_cons, List.cons_append, unescape_cons hpercent, ih, List.cons_append]
  | @escaped e c s x he h ih =>
      have hmap : e.map f = e :=
        (List.map_congr_left fun d hd => hf d (mem_of_spellsOctets he hd)).trans (List.map_id e)
      rw [List.map_append, hmap, List.append_assoc, unescape, units_append_of_spellsOctets he,
        Utf8.read_utf8EncodeChar, ← unescape, ih, List.cons_append]

/-- A reserved character that stands for nothing occurs in no spelling. -/
theorem not_mem_of_spells {d : Char} (hreserved : IsReserved d) (hstands : ∀ c, ¬ stands d c)
    (h : Spells stands s x) : d ∉ s := by
  induction h with
  | nil => exact List.not_mem_nil
  | plain ha h ih =>
      rw [List.mem_cons, not_or]
      refine ⟨?_, ih⟩
      rintro rfl
      exact hstands _ ha
  | escaped he h ih =>
      rw [List.mem_append, not_or]
      refine ⟨fun hd => ?_, ih⟩
      rcases mem_of_spellsOctets he hd with hunreserved | hpercent
      · rw [hreserved.1] at hunreserved
        exact absurd hunreserved (by decide)
      · exact hreserved.2 hpercent

end Percent

/-! ## Spelled paths -/

namespace Path

/-- A character in a path stands for itself if it neither delimits anything nor is dropped. -/
def StandsFor (a c : Char) : Prop := a = c ∧ c ∉ ['%', '/', '?', '#', '\t', '\r', '\n']

instance (a c : Char) : Decidable (StandsFor a c) :=
  inferInstanceAs (Decidable (a = c ∧ c ∉ ['%', '/', '?', '#', '\t', '\r', '\n']))

/-- The spellings of a text in a path. -/
def Spelling : Text → Text → Prop := Percent.Spells StandsFor

instance (s x : Text) : Decidable (Spelling s x) :=
  inferInstanceAs (Decidable (Percent.Spells StandsFor s x))

variable {s x : Text}

/-- Every spelling of a text is unescaped to it. -/
theorem unescape_of_spelling (h : Spelling s x) : Percent.unescape s = x := by
  have hstands : ∀ a c, StandsFor a c → id a = c ∧ c ≠ '%' := by
    rintro a c ⟨rfl, ha⟩
    exact ⟨rfl, fun hpercent => ha (by rw [hpercent]; decide)⟩
  simpa using Percent.unescape_map_append_of_spells (fun _ _ => rfl) hstands h []

/-- No delimiter stands in a spelling. -/
theorem not_mem_of_spelling {d : Char} (hreserved : Percent.IsReserved d)
    (hd : d ∈ ['%', '/', '?', '#', '\t', '\r', '\n']) (h : Spelling s x) : d ∉ s := by
  refine Percent.not_mem_of_spells hreserved ?_ h
  rintro c ⟨rfl, hc⟩
  exact hc hd

end Path

/-! ## Spelled fields -/

namespace Query

/-- A character in a field stands for itself if it neither delimits anything nor is dropped; a plus
sign stands for a space. -/
def StandsFor (a c : Char) : Prop := (Path.StandsFor a c ∧ c ∉ ['&', '=', '+']) ∨ (a = '+' ∧ c = ' ')

instance (a c : Char) : Decidable (StandsFor a c) :=
  inferInstanceAs (Decidable ((Path.StandsFor a c ∧ c ∉ ['&', '=', '+']) ∨ (a = '+' ∧ c = ' ')))

/-- The spellings of a text in a field. -/
def Spelling : Text → Text → Prop := Percent.Spells StandsFor

instance (s x : Text) : Decidable (Spelling s x) :=
  inferInstanceAs (Decidable (Percent.Spells StandsFor s x))

/-- A written field spells a key and a value. -/
def SpellsPair (field pair : Text × Text) : Prop :=
  Spelling field.1 pair.1 ∧ Spelling field.2 pair.2

instance (field pair : Text × Text) : Decidable (SpellsPair field pair) :=
  inferInstanceAs (Decidable (Spelling field.1 pair.1 ∧ Spelling field.2 pair.2))

/-- The query text of written fields. -/
def joined (l : List (Text × Text)) : Text :=
  ['&'].intercalate (l.map fun field => field.1 ++ '=' :: field.2)

variable {s x : Text}

/-- Every spelling of a text in a field is unescaped to it. -/
theorem unescapeField_of_spelling (h : Spelling s x) : Percent.unescapeField s = x := by
  have hkept : ∀ d, Percent.isUnreserved d = true ∨ d = '%' → (if d = '+' then ' ' else d) = d := by
    rintro d hd
    rw [if_neg]
    rintro rfl
    exact absurd hd (by decide)
  have hstands : ∀ a c, StandsFor a c → (if a = '+' then ' ' else a) = c ∧ c ≠ '%' := by
    rintro a c (⟨⟨rfl, ha⟩, hplus⟩ | ⟨rfl, rfl⟩)
    · refine ⟨if_neg fun hp => hplus (by rw [hp]; decide), ?_⟩
      exact fun hpercent => ha (by rw [hpercent]; decide)
    · decide
  simpa [Percent.unescapeField]
    using Percent.unescape_map_append_of_spells hkept hstands h []

/-- No delimiter of fields stands in a spelling. -/
theorem not_mem_of_spelling {d : Char} (hreserved : Percent.IsReserved d)
    (hd : d ∈ ['&', '=', '+']) (hplus : d ≠ '+') (h : Spelling s x) : d ∉ s := by
  refine Percent.not_mem_of_spells hreserved ?_ h
  rintro c (⟨⟨rfl, -⟩, hc⟩ | ⟨hc, -⟩)
  · exact hc hd
  · exact hplus hc

/-- The fields of a query text that was joined from spelled fields. -/
theorem fields_joined_of_spellsPair {l pairs : List (Text × Text)}
    (h : List.Forall₂ SpellsPair l pairs) : fields (joined l) = l := by
  have hdelimiters : List.Forall₂
      (fun field pair => ('=' ∉ field.1 ∧ '&' ∉ field.1 ∧ '&' ∉ field.2) ∧ SpellsPair field pair)
      l pairs := by
    refine h.imp fun field pair hpair => ⟨⟨?_, ?_, ?_⟩, hpair⟩
    · exact not_mem_of_spelling (by decide) (by decide) (by decide) hpair.1
    · exact not_mem_of_spelling (by decide) (by decide) (by decide) hpair.1
    · exact not_mem_of_spelling (by decide) (by decide) (by decide) hpair.2
  exact fields_intercalate_pairs ((List.forall₂_and_left l pairs).mp hdelimiters).1

/-- If no key is repeated, each key has the value that it is paired with. -/
theorem firstValue?_table_eq_some_iff_mem {q k v : Text} (h : ((pairs q).map Prod.fst).Nodup) :
    firstValue? (table q) k = some v ↔ (k, v) ∈ pairs q := by
  constructor
  · intro hfirst
    rw [firstValue?_table, Option.map_eq_some_iff] at hfirst
    obtain ⟨⟨key, value⟩, hfound, rfl⟩ := hfirst
    obtain rfl : key = k := by simpa using List.find?_some hfound
    exact List.mem_of_find?_eq_some hfound
  · intro hmem
    refine firstValue?_table_of_unique hmem fun w hw => ?_
    exact congrArg Prod.snd (List.inj_on_of_nodup_map h hw hmem rfl)

/-- What spelled fields mean. -/
theorem pairs_joined_of_spellsPair {l pairs' : List (Text × Text)}
    (h : List.Forall₂ SpellsPair l pairs') : pairs (joined l) = pairs' := by
  rw [pairs, fields_joined_of_spellsPair h, ← List.forall₂_eq_eq_eq, List.forall₂_map_left_iff]
  exact h.imp fun field pair hpair =>
    Prod.ext (unescapeField_of_spelling hpair.1) (unescapeField_of_spelling hpair.2)

end Query

/-! ## Matching spelled texts -/

namespace Path

/-- What spelled segments stand for. -/
theorem map_unescape_of_spelling {s xs : List Text} (h : List.Forall₂ Spelling s xs) :
    s.map Percent.unescape = xs := by
  rw [← List.forall₂_eq_eq_eq, List.forall₂_map_left_iff]
  exact h.imp fun _ _ => unescape_of_spelling

/-- No delimiter of templates stands in spelled segments. -/
theorem not_mem_of_forall₂_spelling {s xs : List Text} (h : List.Forall₂ Spelling s xs) :
    ∀ segment ∈ s, '/' ∉ segment ∧ '?' ∉ segment := by
  have hdelimiters : List.Forall₂
      (fun segment x => ('/' ∉ segment ∧ '?' ∉ segment) ∧ Spelling segment x) s xs :=
    h.imp fun _ _ hx => ⟨⟨not_mem_of_spelling (by decide) (by decide) hx,
      not_mem_of_spelling (by decide) (by decide) hx⟩, hx⟩
  exact ((List.forall₂_and_left s xs).mp hdelimiters).1

/-- The segments of a path that was joined from spelled segments. -/
theorem segments_intercalate_of_spelling {s xs : List Text} (h : List.Forall₂ Spelling s xs)
    (hfilled : ∀ x ∈ xs, x ≠ []) : segments (['/'].intercalate s) = s := by
  refine segments_intercalate_of_filled fun segment hsegment =>
    ⟨?_, (not_mem_of_forall₂_spelling h segment hsegment).1⟩
  rintro rfl
  exact hfilled [] (by rw [← map_unescape_of_spelling h]; exact List.mem_map_of_mem hsegment) rfl

end Path

namespace Template

/-- A template of spelled literal segments. -/
theorem path_of_spelling {s xs : List Text} (h : List.Forall₂ Path.Spelling s xs)
    (hfilled : ∀ x ∈ xs, x ≠ []) (hliteral : ∀ segment ∈ s, variableName? segment = none) :
    path ⟨'/' :: ['/'].intercalate s⟩ = xs.map Part.literal ∧
      query ⟨'/' :: ['/'].intercalate s⟩ = [] := by
  have hmark : '?' ∉ '/' :: ['/'].intercalate s := by
    rw [List.mem_cons, not_or]
    exact ⟨by decide, not_mem_intercalate (by decide) fun segment hsegment =>
      (Path.not_mem_of_forall₂_spelling h segment hsegment).2⟩
  have hsegments : Path.segments ('/' :: ['/'].intercalate s) = s :=
    (@Path.segments_slashes_append ['/'] (by simp) _).trans
      (Path.segments_intercalate_of_spelling h hfilled)
  rw [path, query, Text.cut_of_not_mem hmark, hsegments, ← Path.map_unescape_of_spelling h,
    List.map_map]
  exact ⟨List.map_congr_left fun segment hsegment =>
    Part.ofSegment_of_literal (hliteral segment hsegment), rfl⟩

/-- **Spelled segments fit if their texts differ at most in case.** -/
theorem accepts_spelled_path_iff {base request : Uri} {b r : Target}
    (hbase : base.target? = .ok b) (hrequest : request.target? = .ok r) {s xs u ys : List Text}
    (hs : List.Forall₂ Path.Spelling s xs) (hu : List.Forall₂ Path.Spelling u ys)
    (hxs : ∀ x ∈ xs, x ≠ []) (hys : ∀ y ∈ ys, y ≠ [])
    (hliteral : ∀ segment ∈ s, variableName? segment = none)
    (hpath : r.path = b.path ++ '/' :: ['/'].intercalate u) :
    Accepts ⟨'/' :: ['/'].intercalate s⟩ base request ↔
      List.Forall₂ (fun x y => CaseFold.fold x = CaseFold.fold y) xs ys := by
  obtain ⟨hpattern, hfields⟩ := path_of_spelling hs hxs hliteral
  have hbelow : Path.below? b.path r.path = some ys := by
    rw [hpath, Path.below?_append_slash rfl, Path.segments_intercalate_of_spelling hu hys,
      Path.map_unescape_of_spelling hu]
  rw [accepts_iff_of_target? hbase hrequest, hpattern, hfields, hbelow]
  simp [Query.Met, List.forall₂_map_left_iff, Part.Admits]

/-- A template with spelled literal fields. -/
theorem query_of_spelling {p : Text} (hp : '?' ∉ p) {l pairs : List (Text × Text)}
    (h : List.Forall₂ Query.SpellsPair l pairs)
    (hliteral : ∀ field ∈ l, variableName? field.2 = none) :
    path ⟨p ++ '?' :: Query.joined l⟩ = path ⟨p⟩ ∧
      query ⟨p ++ '?' :: Query.joined l⟩
        = pairs.map fun pair => ⟨pair.1, .literalValue pair.2⟩ := by
  rw [path, query, path, Text.cut_append_cons hp, Text.cut_of_not_mem hp,
    Query.fields_joined_of_spellsPair h, ← Query.pairs_joined_of_spellsPair h, Query.pairs,
    Query.fields_joined_of_spellsPair h, List.map_map]
  refine ⟨rfl, List.map_congr_left ?_⟩
  rintro ⟨key, value⟩ hfield
  simp only [Function.comp_apply, Part.ofValue_of_literal (hliteral (key, value) hfield)]

/-- **Spelled fields fit if they are among those of the request**, where no key is repeated. -/
theorem accepts_spelled_query_iff {base request : Uri} {b r : Target}
    (hbase : base.target? = .ok b) (hrequest : request.target? = .ok r) {p : Text} (hp : '?' ∉ p)
    {l pairs l' pairs' : List (Text × Text)} (hl : List.Forall₂ Query.SpellsPair l pairs)
    (hl' : List.Forall₂ Query.SpellsPair l' pairs')
    (hliteral : ∀ field ∈ l, variableName? field.2 = none) (hkeys : (pairs'.map Prod.fst).Nodup)
    (hquery : r.query = Query.table (Query.joined l')) :
    Accepts ⟨p ++ '?' :: Query.joined l⟩ base request ↔
      Accepts ⟨p⟩ base request ∧ ∀ pair ∈ pairs, pair ∈ pairs' := by
  obtain ⟨hpath, hfields⟩ := query_of_spelling hp hl hliteral
  have hmeans := Query.pairs_joined_of_spellsPair hl'
  have hnone : query ⟨p⟩ = [] := by
    rw [query, Text.cut_of_not_mem hp]
    rfl
  have hmet : Query.Met (pairs.map fun pair => ⟨pair.1, .literalValue pair.2⟩) r.query ↔
      ∀ pair ∈ pairs, pair ∈ pairs' := by
    rw [Query.Met, List.forall_mem_map]
    refine forall₂_congr fun pair _ => ?_
    rw [hquery, ← hmeans]
    simp [Query.firstValue?_table_eq_some_iff_mem (hmeans.symm ▸ hkeys)]
  rw [accepts_iff_of_target? hbase hrequest, accepts_iff_of_target? hbase hrequest, hpath, hfields,
    hnone, hmet]
  simp [Query.Met]

/-- **All spellings of a text are the same text.**  Below any base, spelled literal segments fit a
request of spelled segments exactly if the texts differ at most in case. A template that goes on with
spelled literal fields fits a request of spelled fields, of which no key is repeated, exactly if it
fits without them and each key and value is among those of the request, as they are. -/
theorem accepts_spelled_iff {base request : Uri} {b r : Target}
    (hbase : base.target? = .ok b) (hrequest : request.target? = .ok r) :
    (∀ s xs u ys : List Text, List.Forall₂ Path.Spelling s xs → List.Forall₂ Path.Spelling u ys →
      (∀ x ∈ xs, x ≠ []) → (∀ y ∈ ys, y ≠ []) → (∀ segment ∈ s, variableName? segment = none) →
      r.path = b.path ++ '/' :: ['/'].intercalate u →
        (Accepts ⟨'/' :: ['/'].intercalate s⟩ base request ↔
          List.Forall₂ (fun x y => CaseFold.fold x = CaseFold.fold y) xs ys)) ∧
    ∀ (p : Text) (l pairs l' pairs' : List (Text × Text)), '?' ∉ p →
      List.Forall₂ Query.SpellsPair l pairs → List.Forall₂ Query.SpellsPair l' pairs' →
      (∀ field ∈ l, variableName? field.2 = none) → (pairs'.map Prod.fst).Nodup →
      r.query = Query.table (Query.joined l') →
        (Accepts ⟨p ++ '?' :: Query.joined l⟩ base request ↔
          Accepts ⟨p⟩ base request ∧ ∀ pair ∈ pairs, pair ∈ pairs') :=
  ⟨fun _ _ _ _ hs hu hxs hys hliteral hpath =>
      accepts_spelled_path_iff hbase hrequest hs hu hxs hys hliteral hpath,
    fun _ _ _ _ _ hp hl hl' hliteral hkeys hquery =>
      accepts_spelled_query_iff hbase hrequest hp hl hl' hliteral hkeys hquery⟩

/-- Octets in both cases of digits, characters outside ASCII with and without escapes, braces, and
spaces in each of their forms. -/
theorem accepts_spelled_iff_mixed_spellings :
    let base : Uri := .text "http://h/%41b/".toList
    let request : Uri :=
      .text "http://h/%41b//STRASSE/€%20x/\x7bA%7D?%C3%a9=\x7ba%7D&k%2B=a%20b&x=".toList
    let b : Target := ⟨"/%41b/".toList, ∅⟩
    let s : List Text := ["Stra%c3%9Fe".toList, "%E2%82%aC x".toList, "%7Ba\x7d".toList]
    let xs : List Text := ["Straße".toList, "€ x".toList, "\x7ba\x7d".toList]
    let u : List Text := ["STRASSE".toList, "€%20x".toList, "\x7bA%7D".toList]
    let ys : List Text := ["STRASSE".toList, "€ x".toList, "\x7bA\x7d".toList]
    let l : List (Text × Text) :=
      [("k%2b".toList, "a+b".toList), ("é".toList, "%7ba\x7d".toList)]
    let pairs : List (Text × Text) :=
      [("k+".toList, "a b".toList), ("é".toList, "\x7ba\x7d".toList)]
    let l' : List (Text × Text) :=
      [("%C3%a9".toList, "\x7ba%7D".toList), ("k%2B".toList, "a%20b".toList), ("x".toList, [])]
    let pairs' : List (Text × Text) :=
      [("é".toList, "\x7ba\x7d".toList), ("k+".toList, "a b".toList), ("x".toList, [])]
    let r : Target := ⟨"/%41b/".toList ++ '/' :: ['/'].intercalate u, Query.table (Query.joined l')⟩
    let p : Text := '/' :: ['/'].intercalate s
    base.target? = .ok b ∧ request.target? = .ok r ∧
      List.Forall₂ Path.Spelling s xs ∧ List.Forall₂ Path.Spelling u ys ∧
      (∀ x ∈ xs, x ≠ []) ∧ (∀ y ∈ ys, y ≠ []) ∧ (∀ segment ∈ s, variableName? segment = none) ∧
      '?' ∉ p ∧ List.Forall₂ Query.SpellsPair l pairs ∧ List.Forall₂ Query.SpellsPair l' pairs' ∧
      (∀ field ∈ l, variableName? field.2 = none) ∧ (pairs'.map Prod.fst).Nodup ∧
      (Accepts ⟨p⟩ base request ↔
        List.Forall₂ (fun x y => CaseFold.fold x = CaseFold.fold y) xs ys) ∧
      (Accepts ⟨p ++ '?' :: Query.joined l⟩ base request ↔
        Accepts ⟨p⟩ base request ∧ ∀ pair ∈ pairs, pair ∈ pairs') := by
  intro base request b s xs u ys l pairs l' pairs' r p
  have hbase : base.target? = .ok b := by rfl
  have hrequest : request.target? = .ok r := by rfl
  have hs : List.Forall₂ Path.Spelling s xs := by decide
  have hu : List.Forall₂ Path.Spelling u ys := by decide
  have hxs : ∀ x ∈ xs, x ≠ [] := by decide
  have hys : ∀ y ∈ ys, y ≠ [] := by decide
  have hsegments : ∀ segment ∈ s, variableName? segment = none := by decide
  have hp : '?' ∉ p := by decide
  have hl : List.Forall₂ Query.SpellsPair l pairs := by decide
  have hl' : List.Forall₂ Query.SpellsPair l' pairs' := by decide
  have hvalues : ∀ field ∈ l, variableName? field.2 = none := by decide
  have hkeys : (pairs'.map Prod.fst).Nodup := by decide
  obtain ⟨hpaths, hqueries⟩ := accepts_spelled_iff hbase hrequest
  exact ⟨hbase, hrequest, hs, hu, hxs, hys, hsegments, hp, hl, hl', hvalues, hkeys,
    hpaths s xs u ys hs hu hxs hys hsegments rfl,
    hqueries p l pairs l' pairs' hp hl hl' hvalues hkeys rfl⟩

end Template

end UriRouting
