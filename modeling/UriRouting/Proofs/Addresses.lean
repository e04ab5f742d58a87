import Mathlib.Data.Bool.AllAny
import UriRouting.Proofs.Splitting
import UriRouting.Uri.Basic

/-!
# Addresses put together from parts

A text that is put together from a scheme, an authority and what follows is taken apart again into
the same parts, as long as each part holds none of the delimiters that end it. What follows the
authority loses the characters that reading drops.

## Main Definitions

- `Parts.IsDropped`: the characters that reading drops wherever they stand.
- `Parts.IsPlain`: the characters that reading keeps and does not take for the start of a fragment.
- `Parts.kept`: a text without the characters that are dropped.

## Main Statements

- `Parts.ofText?_append`: the parts of a text that was put together.
- `Uri.target?_text_host`: the path and query of an address on a plain host.
- `Uri.target?_text_below`: the path and query of an address below a path.
-/

namespace UriRouting

namespace Text

/-- What stands before the cut has no separator. -/
theorem not_mem_cut_fst (sep : Char) (t : Text) : sep ∉ (cut sep t).1 := by
  intro h
  have hsep := List.all_eq_true.mp (List.all_takeWhile (p := (· != sep)) (l := t)) sep h
  simp at hsep

/-- The characters before the cut are characters of the text. -/
theorem mem_of_mem_cut_fst {sep c : Char} {t : Text} (h : c ∈ (cut sep t).1) : c ∈ t :=
  (List.takeWhile_prefix _).subset h

/-- The characters after the cut are characters of the text. -/
theorem mem_of_mem_cut_snd {sep c : Char} {t : Text} (h : c ∈ (cut sep t).2) : c ∈ t :=
  (List.dropWhile_suffix _).subset ((List.drop_suffix 1 _).subset h)

/-- The two sides of a cut and the separator make up the text. -/
theorem append_cut {sep : Char} {t : Text} (h : sep ∈ t) :
    (cut sep t).1 ++ sep :: (cut sep t).2 = t := by
  induction t with
  | nil => simp at h
  | cons c t ih =>
      by_cases hc : c = sep
      · simp [cut, hc]
      · have ht := ih ((List.mem_cons.mp h).resolve_left fun e => hc e.symm)
        rw [cut] at ht ⊢
        simpa [hc] using ht

/-- A text without a separator in front moves to what stands before the cut. -/
theorem cut_append {sep : Char} {s : Text} (h : sep ∉ s) (t : Text) :
    cut sep (s ++ t) = (s ++ (cut sep t).1, (cut sep t).2) := by
  by_cases ht : sep ∈ t
  · have hfront : sep ∉ s ++ (cut sep t).1 := by
      rw [List.mem_append, not_or]
      exact ⟨h, not_mem_cut_fst sep t⟩
    conv_lhs => rw [← append_cut ht, ← List.append_assoc, cut_append_cons hfront]
  · rw [cut_of_not_mem ht, cut_of_not_mem (by rw [List.mem_append, not_or]; exact ⟨h, ht⟩)]

end Text

namespace Parts

/-- The characters that reading drops wherever they stand: tabs and line ends. -/
def IsDropped (c : Char) : Prop := c = '\t' ∨ c = '\n' ∨ c = '\r'

instance : DecidablePred IsDropped := fun c =>
  inferInstanceAs (Decidable (c = '\t' ∨ c = '\n' ∨ c = '\r'))

/-- The characters that reading keeps and does not take for the start of a fragment. -/
def IsPlain (c : Char) : Prop := c ≠ '#' ∧ ¬ IsDropped c

instance : DecidablePred IsPlain := fun c => inferInstanceAs (Decidable (c ≠ '#' ∧ ¬ IsDropped c))

/-- A text without the characters that reading drops. -/
def kept (t : Text) : Text := t.filter fun c => !decide (IsDropped c)

theorem kept_append (s t : Text) : kept (s ++ t) = kept s ++ kept t := List.filter_append ..

/-- A text that holds no character to drop is kept as it is. -/
theorem kept_eq_self {t : Text} (h : ∀ c ∈ t, ¬ IsDropped c) : kept t = t := by
  rw [kept, List.filter_eq_self]
  intro c hc
  simpa using h c hc

/-- A text that starts with a visible character loses nothing but the characters to drop. -/
theorem clean_eq_kept {t : Text} (hfirst : ∀ c ∈ t.head?, 0x20 < c.toNat) : clean t = kept t := by
  have hlead : t.dropWhile (·.toNat ≤ 0x20) = t := by
    apply dropWhile_eq_self
    intro c hc
    simpa using hfirst c hc
  rw [clean, hlead, kept]
  refine List.filter_congr fun c _ => ?_
  rw [Bool.eq_iff_iff, Bool.not_eq_true', decide_eq_false_iff_not]
  simp [IsDropped, and_assoc]

/-- A letter is a visible character. -/
theorem lt_toNat_of_isAlpha {c : Char} (h : c.isAlpha = true) : 0x20 < c.toNat := by
  have hall : ∀ n ≤ 0x20, (Char.ofNat n).isAlpha = false := by decide
  by_contra hle
  rw [← Char.ofNat_toNat c, hall c.toNat (by omega)] at h
  exact absurd h (by decide)

/-- Reading drops no scheme character. -/
theorem not_isSchemeChar_of_isDropped {c : Char} (h : IsDropped c) : isSchemeChar c = false := by
  rcases h with rfl | rfl | rfl <;> decide

/-- A scheme ends at the first colon. -/
theorem cutScheme_append {scheme : Text} (hletter : scheme.head?.any Char.isAlpha = true)
    (hchars : ∀ c ∈ scheme, isSchemeChar c = true) (rest : Text) :
    cutScheme (scheme ++ ':' :: rest) = (scheme.map Char.toLower, rest) := by
  have hcolon : ':' ∉ scheme := fun h => absurd (hchars ':' h) (by decide)
  have hall : scheme.all isSchemeChar = true := List.all_eq_true.mpr hchars
  simp [cutScheme, Text.cut_append_cons hcolon, hletter, hall]

/-- An authority stands between two slashes and the first character that ends it. -/
theorem cutAuthority_append {authority : Text} (h : ∀ c ∈ authority, endsAuthority c = false)
    {rest : Text} (hrest : ∀ c ∈ rest.head?, endsAuthority c = true) :
    cutAuthority ('/' :: '/' :: (authority ++ rest)) = (authority, rest) := by
  have hauthority : ∀ c ∈ authority, (!endsAuthority c) = true := fun c hc => by simp [h c hc]
  have hstart : rest.takeWhile (!endsAuthority ·) = [] ∧
      rest.dropWhile (!endsAuthority ·) = rest := by
    cases rest with
    | nil => exact ⟨rfl, rfl⟩
    | cons c rest => simp [hrest c rfl]
  rw [cutAuthority, List.takeWhile_append_of_pos hauthority,
    List.dropWhile_append_of_pos hauthority, hstart.1, hstart.2, List.append_nil]

/-- **The parts of a text that was put together** from a scheme, an authority and what follows. The
characters that reading drops are missing from what follows. -/
theorem ofText?_append {scheme authority rest : Text}
    (hletter : scheme.head?.any Char.isAlpha = true)
    (hscheme : ∀ c ∈ scheme, isSchemeChar c = true)
    (hauthority : ∀ c ∈ authority, endsAuthority c = false ∧ ¬ IsDropped c)
    (hfault : Authority.fault? authority = none)
    (hrest : ∀ c ∈ (kept rest).head?, endsAuthority c = true) :
    ofText? (scheme ++ "://".toList ++ authority ++ rest) = .ok {
      scheme := scheme.map Char.toLower
      authority := authority
      path := (Text.cut '?' (Text.cut '#' (kept rest)).1).1
      query := (Text.cut '?' (Text.cut '#' (kept rest)).1).2
      fragment := (Text.cut '#' (kept rest)).2 } := by
  -- The scheme starts with a letter, so nothing is dropped in front of it.
  have hfirst : ∀ c ∈ (scheme ++ "://".toList ++ authority ++ rest).head?, 0x20 < c.toNat := by
    intro c hc
    rw [List.append_assoc, List.append_assoc, List.head?_append] at hc
    cases hhead : scheme.head? with
    | none => simp [hhead] at hletter
    | some first =>
        rw [hhead, Option.some_or, Option.mem_some_iff] at hc
        rw [hhead, Option.any_some, hc] at hletter
        exact lt_toNat_of_isAlpha hletter
  have hfront : kept (scheme ++ "://".toList ++ authority) = scheme ++ "://".toList ++ authority := by
    apply kept_eq_self
    intro c hc hdropped
    rw [List.mem_append, List.mem_append] at hc
    rcases hc with (hc | hc) | hc
    · exact absurd (hscheme c hc) (by rw [not_isSchemeChar_of_isDropped hdropped]; decide)
    · have hmark : ∀ c ∈ "://".toList, ¬ IsDropped c := List.all_iff_forall_prop.mp (by decide)
      exact hmark c hc hdropped
    · exact (hauthority c hc).2 hdropped
  have hclean : clean (scheme ++ "://".toList ++ authority ++ rest)
      = scheme ++ ':' :: '/' :: '/' :: (authority ++ kept rest) := by
    rw [clean_eq_kept hfirst, kept_append, hfront]
    simp
  simp only [ofText?, hclean, cutScheme_append hletter hscheme,
    cutAuthority_append (fun c hc => (hauthority c hc).1) hrest, hfault]

end Parts

namespace Uri

/-- A text whose parts are known asks for their path and their query. -/
theorem target?_text {text : Text} {p : Parts} (h : Parts.ofText? text = .ok p) :
    (Uri.text text).target? = .ok ⟨p.path, Query.table p.query⟩ := by
  rw [target?, parts?, h]
  rfl

/-- The path and the query of an address on a plain host: what stands before the first question mark
behind the host, and what stands after it. -/
theorem target?_text_host {rest : Text} (hrest : ∀ c ∈ rest.head?, Parts.endsAuthority c = true)
    (hplain : ∀ c ∈ rest, Parts.IsPlain c) :
    (Uri.text ("http://h".toList ++ rest)).target?
      = .ok ⟨(Text.cut '?' rest).1, Query.table (Text.cut '?' rest).2⟩ := by
  have hkept : Parts.kept rest = rest := Parts.kept_eq_self fun c hc => (hplain c hc).2
  have hfragment : '#' ∉ rest := fun h => (hplain '#' h).1 rfl
  have hscheme : ∀ c ∈ "http".toList, Parts.isSchemeChar c = true :=
    List.all_eq_true.mp (by decide)
  have hauthority : ∀ c ∈ "h".toList, Parts.endsAuthority c = false ∧ ¬ Parts.IsDropped c := by
    intro c hc
    rw [List.mem_singleton.mp hc]
    decide
  have hparts := @Parts.ofText?_append "http".toList "h".toList rest (by decide) hscheme hauthority
    (by decide) (by rw [hkept]; exact hrest)
  rw [hkept, Text.cut_of_not_mem hfragment] at hparts
  have htext : "http".toList ++ "://".toList ++ "h".toList ++ rest = "http://h".toList ++ rest := rfl
  rw [← htext]
  exact target?_text hparts

/-- The path and the query of an address on a plain host that goes on after a given path and a
slash. -/
theorem target?_text_below {start rest : Text} (hstart : start = [] ∨ start.head? = some '/')
    (hpath : ∀ c ∈ start, c ≠ '?' ∧ Parts.IsPlain c) (hplain : ∀ c ∈ rest, Parts.IsPlain c) :
    (Uri.text ("http://h".toList ++ start ++ '/' :: rest)).target?
      = .ok ⟨start ++ '/' :: (Text.cut '?' rest).1, Query.table (Text.cut '?' rest).2⟩ := by
  have hfront : '?' ∉ start ++ ['/'] := by
    rw [List.mem_append, List.mem_singleton, not_or]
    exact ⟨fun h => (hpath '?' h).1 rfl, by decide⟩
  have hcut : Text.cut '?' (start ++ '/' :: rest)
      = (start ++ '/' :: (Text.cut '?' rest).1, (Text.cut '?' rest).2) := by
    simpa using Text.cut_append hfront rest
  have hslash : ∀ c ∈ (start ++ '/' :: rest).head?, c = '/' := by
    intro c hc
    rcases hstart with rfl | hhead
    · exact (Option.mem_some_iff.mp hc).symm
    · rw [List.head?_append, hhead, Option.some_or, Option.mem_some_iff] at hc
      exact hc.symm
  rw [List.append_assoc, target?_text_host ?_ ?_, hcut]
  · intro c hc
    rw [hslash c hc]
    decide
  · intro c hc
    rw [List.mem_append, List.mem_cons] at hc
    rcases hc with hc | rfl | hc
    · exact (hpath c hc).2
    · decide
    · exact hplain c hc

end Uri

end UriRouting
