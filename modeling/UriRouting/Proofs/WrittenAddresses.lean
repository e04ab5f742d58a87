import UriRouting.Proofs.Forms
import UriRouting.Proofs.Refusals

/-!
# Addresses written from their parts

Of the five parts of an address a match looks at two. An address that is written from parts has the
path and the query that it was written with, and so it is matched like these two alone, wherever it
stands and whatever its scheme, its authority and its fragment are.

## Main Definitions

- `Parts.write`: the address with the given parts.
- `Parts.IsWritable`: parts that can be told apart in the address that is written from them.
- `Parts.essence`: the path and the query alone.

## Main Statements

- `Parts.ofText?_write`: the parts of a written address.
- `Template.verdict?_write`: a written address is matched like its path and its query.

## Design Notes

The fragment comes last, so nothing can end it and it may hold any character; what reading drops is
missing from it afterwards. The scheme is read in lower case.
-/

namespace UriRouting

namespace Parts

/-- The address with the given parts. -/
def write (p : Parts) : Text :=
  p.scheme ++ "://".toList ++ p.authority ++ p.path ++ '?' :: p.query ++ '#' :: p.fragment

/-- The path and the query alone. -/
def essence (p : Parts) : Parts := { p with scheme := [], authority := [], fragment := [] }

/-- Parts that can be told apart in the address that is written from them: no part but the fragment
holds a character that ends it or that is dropped, and the authority is plain ASCII without
brackets. -/
structure IsWritable (p : Parts) : Prop where
  letter : p.scheme.head?.any Char.isAlpha = true
  scheme : ∀ c ∈ p.scheme, isSchemeChar c = true
  authority : ∀ c ∈ p.authority, c.toNat < 0x80 ∧
    c ∉ ['/', '?', '#', '[', ']'] ∧ ¬ IsDropped c
  start : ∀ c ∈ p.path.head?, c = '/'
  path : ∀ c ∈ p.path, c ≠ '?' ∧ IsPlain c
  query : ∀ c ∈ p.query, IsPlain c

end Parts

/-- An authority of ASCII characters without brackets is in order. -/
theorem Authority.fault?_of_ascii {authority : Text}
    (h : ∀ c ∈ authority, c.toNat < 0x80 ∧ c ≠ '[' ∧ c ≠ ']') : fault? authority = none := by
  have hhidden : ∀ c ∈ hiddenDelimiters, 0x80 ≤ c.toNat :=
    List.all_iff_forall_prop.mp (by decide)
  refine fault?_eq_none_iff.mpr ⟨Or.inl ⟨fun hopen => ?_, fun hclose => ?_⟩, fun c hc hmem => ?_⟩
  · exact (h '[' hopen).2.1 rfl
  · exact (h ']' hclose).2.2 rfl
  · exact absurd (hhidden c hmem) (Nat.not_le.mpr (h c hc).1)

namespace Parts

/-- **The parts of a written address** are those that it was written from. -/
theorem ofText?_write {p : Parts} (h : p.IsWritable) :
    ofText? p.write
      = .ok { p with scheme := p.scheme.map Char.toLower, fragment := kept p.fragment } := by
  have hauthority : ∀ c ∈ p.authority, endsAuthority c = false ∧ ¬ IsDropped c := by
    intro c hc
    obtain ⟨-, hdelimiter, hdropped⟩ := h.authority c hc
    simp only [List.mem_cons, List.not_mem_nil, or_false, not_or] at hdelimiter
    exact ⟨by simp [endsAuthority, hdelimiter], hdropped⟩
  have hfault : Authority.fault? p.authority = none := by
    refine Authority.fault?_of_ascii fun c hc => ?_
    obtain ⟨hascii, hdelimiter, -⟩ := h.authority c hc
    simp only [List.mem_cons, List.not_mem_nil, or_false, not_or] at hdelimiter
    exact ⟨hascii, hdelimiter.2.2.2.1, hdelimiter.2.2.2.2⟩
  -- What follows the authority keeps everything up to the fragment.
  have hplain : ∀ c ∈ p.path ++ '?' :: p.query, IsPlain c := by
    intro c hc
    rw [List.mem_append, List.mem_cons] at hc
    rcases hc with hc | rfl | hc
    · exact (h.path c hc).2
    · decide
    · exact h.query c hc
  have hkept : kept (p.path ++ '?' :: p.query ++ '#' :: p.fragment)
      = p.path ++ '?' :: p.query ++ '#' :: kept p.fragment := by
    rw [kept_append, kept_eq_self fun c hc => (hplain c hc).2]
    rfl
  have hend : ∀ c ∈ (kept (p.path ++ '?' :: p.query ++ '#' :: p.fragment)).head?,
      endsAuthority c = true := by
    intro c hc
    rw [hkept] at hc
    cases hpath : p.path with
    | nil =>
        rw [hpath] at hc
        rw [← Option.mem_some_iff.mp hc]
        decide
    | cons first path =>
        rw [hpath] at hc
        rw [← Option.mem_some_iff.mp hc, h.start first (by rw [hpath]; rfl)]
        decide
  have hfragment : '#' ∉ p.path ++ '?' :: p.query := fun hmem => (hplain '#' hmem).1 rfl
  have hquery : '?' ∉ p.path := fun hmem => (h.path '?' hmem).1 rfl
  have htext : p.write = p.scheme ++ "://".toList ++ p.authority
      ++ (p.path ++ '?' :: p.query ++ '#' :: p.fragment) := by
    simp [write]
  rw [htext, ofText?_append h.letter h.scheme hauthority hfault hend, hkept,
    Text.cut_append_cons hfragment, Text.cut_append_cons hquery]

end Parts

namespace Uri

/-- A written address asks for the path and the query that it was written with. -/
theorem target?_write {p : Parts} (h : p.IsWritable) :
    (Uri.text p.write).target? = .ok ⟨p.path, Query.table p.query⟩ := by
  rw [target?_text (Parts.ofText?_write h)]

end Uri

namespace Template

/-- **Only the path and the query of an address count.**  A written address asks for the path and
the query that it was written with, whatever its other parts are.  Every template gives the same
verdict on it as on the two parts alone, whether it stands for the base or for the request. -/
theorem verdict?_write {p : Parts} (h : p.IsWritable) :
    (Uri.text p.write).target? = .ok ⟨p.path, Query.table p.query⟩ ∧
      ∀ (t : Template) (other : Uri),
        t.verdict? (.text p.write) other = t.verdict? (.split p.essence) other ∧
        t.verdict? other (.text p.write) = t.verdict? other (.split p.essence) := by
  have htarget : (Uri.text p.write).target? = (Uri.split p.essence).target? := Uri.target?_write h
  exact ⟨Uri.target?_write h, fun t other =>
    ⟨verdict?_congr htarget rfl, verdict?_congr rfl htarget⟩⟩

/-- Delimiters count in the first place only that they can stand in: the path, the query and the
fragment may hold colons, at signs, brackets and what looks like a host, the fragment anything. -/
theorem verdict?_write_misplaced_delimiters :
    let p : Parts := ⟨"hTTp+x.1-".toList, "u:p@h@:80:;&=".toList, "//b:c//@[d;e".toList,
      "k=http://x/?y&[=:@".toList, "?/#\n[\t://é".toList⟩
    let t : Template := ⟨"\x7bv\x7d?k=\x7bw\x7d".toList⟩
    p.IsWritable ∧
      (Uri.text p.write).target? = .ok ⟨p.path, Query.table p.query⟩ ∧
      t.verdict? (.text "//h/B%3Ac/".toList) (.text p.write)
        = t.verdict? (.text "//h/B%3Ac/".toList) (.split ⟨[], [], p.path, p.query, []⟩) ∧
      t.verdict? (.text "//h/B%3Ac/".toList) (.text p.write)
        = .ok ⟨true, Table.ofList [(['v'], "@[d;e".toList), (['w'], "http://x/?y".toList)]⟩ := by
  intro p t
  have h : p.IsWritable := {
    letter := by decide
    scheme := List.all_eq_true.mp (by decide)
    authority := List.all_iff_forall_prop.mp (by decide)
    start := by
      rintro c ⟨⟩
      rfl
    path := List.all_iff_forall_prop.mp (by decide)
    query := List.all_iff_forall_prop.mp (by decide) }
  obtain ⟨htarget, hsame⟩ := verdict?_write h
  have hsplit : t.verdict? (.text "//h/B%3Ac/".toList) (.split p.essence)
      = .ok ⟨true, Table.ofList [(['v'], "@[d;e".toList), (['w'], "http://x/?y".toList)]⟩ := by rfl
  exact ⟨h, htarget, (hsame t _).2, (hsame t _).2.trans hsplit⟩

end Template

end UriRouting
