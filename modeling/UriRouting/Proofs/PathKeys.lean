import UriRouting.Proofs.Escaping
import UriRouting.Proofs.Matching
import UriRouting.Proofs.Splitting

/-!
# Paths with the same keys

Case, escapes and outer slashes of a path do not matter to a match. All that is seen of a path are
the keys of its segments: they decide what lies below a base, which segments are empty, which
literals fit, and, but for case, what is captured. So two matches see the same if the keys of the two
bases and those of the two requests are the same.

## Main Definitions

- `Path.keys`: the keys of the segments of a path.
- `Part.AdmitsKey`: what a part requires of the key of a segment.
- `Table.mapValues`: a table with each value replaced by its image.
- `Verdict.folded`: a verdict with the captured values folded.

## Main Statements

- `Path.map_fold_below?`: what lies below a base, but for case, can be told from the keys.
- `Template.folded_verdict_congr`: a verdict, but for the case of captured values, can be told from
  the keys.
- `Template.verdict?_of_same_keys`: two matches with the same keys.
-/

namespace UriRouting

/-! ## What lies below a base -/

namespace Path

/-- The keys of the segments of a path, read by removing the outer slashes first. -/
def keys (path : Text) : List Text := (pieces path).map key

/-- A key is empty exactly if the segment is, as it is written. -/
theorem isEmpty_key (segment : Text) : (key segment).isEmpty = segment.isEmpty := by
  rw [Bool.eq_iff_iff, List.isEmpty_iff, List.isEmpty_iff, key, CaseFold.fold_eq_nil_iff,
    Percent.unescape_eq_nil_iff]

/-- Whether a list of segments starts with those of a base, and the keys of what remains, can be told
from the keys. -/
theorem map_key_dropBase (base list : List Text) :
    (dropBase base list).map (List.map key)
      = if base.map key <+: list.map key then some ((list.map key).drop base.length)
        else none := by
  induction base generalizing list with
  | nil => simp [dropBase]
  | cons b base ih =>
      cases list with
      | nil => simp [dropBase]
      | cons s list =>
          by_cases hkey : key b = key s
          · simp [dropBase, hkey, ih, List.cons_prefix_cons]
          · simp [dropBase, hkey, List.cons_prefix_cons]

/-- **What lies below a base, but for case, can be told from the keys.** -/
theorem map_fold_below? (base path : Text) :
    (below? base path).map (List.map CaseFold.fold)
      = if keys base <+: keys path then
          some (trimWhile List.isEmpty ((keys path).drop (keys base).length))
        else none := by
  have hfold : ∀ rest : List Text,
      ((trimWhile List.isEmpty rest).map Percent.unescape).map CaseFold.fold
        = trimWhile List.isEmpty (rest.map key) := by
    intro rest
    rw [List.map_map, trimWhile_map fun s _ => isEmpty_key s]
    rfl
  have hbelow : (below? base path).map (List.map CaseFold.fold)
      = ((dropBase (segments base) (segments path)).map (List.map key)).map
          (trimWhile List.isEmpty) := by
    rw [below?, Option.map_map, Option.map_map]
    congr 1
    funext rest
    exact hfold rest
  have hlength : (keys base).length = (pieces base).length := List.length_map _
  rw [hbelow, map_key_dropBase, segments_eq_pieces, segments_eq_pieces, ← keys, ← keys, hlength]
  split <;> rfl

end Path

/-! ## What is captured -/

namespace Part

/-- What a part requires of the key of a segment. -/
def AdmitsKey : Part → Text → Prop
  | .literal expected, k => CaseFold.fold expected = k
  | .literalValue _, _ => True
  | .variable _, k => k ≠ []

/-- Whether a part admits a segment can be told from the key. -/
theorem admits_iff_admitsKey {part : Part} {segment : Text} :
    part.Admits segment ↔ part.AdmitsKey (CaseFold.fold segment) := by
  rcases part with text | text | name
  · exact Iff.rfl
  · exact Iff.rfl
  · show segment ≠ [] ↔ CaseFold.fold segment ≠ []
    exact not_congr CaseFold.fold_eq_nil_iff.symm

theorem forall₂_admits_iff {pattern : List Part} {segments : List Text} :
    List.Forall₂ Admits pattern segments ↔
      List.Forall₂ AdmitsKey pattern (segments.map CaseFold.fold) := by
  rw [List.forall₂_map_right_iff]
  exact ⟨fun h => h.imp fun _ _ => admits_iff_admitsKey.mp,
    fun h => h.imp fun _ _ => admits_iff_admitsKey.mpr⟩

/-- What is captured of segments, folded, is what is captured of the folded segments. -/
theorem map_filterMap_capture? (f : Text → Text) (pattern : List Part) (segments : List Text) :
    ((pattern.zip segments).filterMap capture?).map (Prod.map id f)
      = (pattern.zip (segments.map f)).filterMap capture? := by
  rw [List.zip_map_right, List.filterMap_map, List.map_filterMap]
  congr 1
  funext x
  simp [capture?, Option.map_map, Function.comp_def]

end Part

namespace Table

variable {α β : Type}

/-- The table with each value replaced by its image. -/
def mapValues (f : α → β) (t : Table α) : Table β where
  entries := t.entries.map (Prod.map id f)
  distinct := by
    rw [List.map_map]
    exact t.distinct

theorem mapValues_put (f : α → β) (t : Table α) (name : Text) (value : α) :
    (t.put name value).mapValues f = (t.mapValues f).put name (f value) := by
  have hentries : ∀ l : List (Text × α), (putEntry name value l).map (Prod.map id f)
      = putEntry name (f value) (l.map (Prod.map id f)) := by
    intro l
    induction l with
    | nil => rfl
    | cons entry l ih =>
        by_cases hname : entry.1 = name
        · simp [putEntry, hname]
        · simp [putEntry, hname, ih]
  exact Table.ext (hentries t.entries)

theorem mapValues_putAll (f : α → β) (t : Table α) (l : List (Text × α)) :
    (t.putAll l).mapValues f = (t.mapValues f).putAll (l.map (Prod.map id f)) := by
  induction l generalizing t with
  | nil => rfl
  | cons entry l ih =>
      have hstep : t.putAll (entry :: l) = (t.put entry.1 entry.2).putAll l := rfl
      rw [hstep, ih, mapValues_put]
      rfl

theorem mapValues_ofList (f : α → β) (l : List (Text × α)) :
    (ofList l).mapValues f = ofList (l.map (Prod.map id f)) :=
  mapValues_putAll f empty l

end Table

/-! ## Verdicts -/

/-- The verdict with the captured values folded. -/
def Verdict.folded (v : Verdict) : Verdict := ⟨v.success, v.captures.mapValues CaseFold.fold⟩

/-- Verdicts that are the same but for the case of values agree on success and on the names, and the
values differ at most in case. -/
theorem Verdict.same_but_case_of_folded_eq {v w : Verdict} (h : v.folded = w.folded) :
    v.success = w.success ∧
      List.Forall₂ (fun x y => x.1 = y.1 ∧ CaseFold.fold x.2 = CaseFold.fold y.2)
        v.captures.entries w.captures.entries := by
  obtain ⟨hsuccess, hcaptures⟩ := Verdict.mk.inj h
  have hentries : v.captures.entries.map (Prod.map id CaseFold.fold)
      = w.captures.entries.map (Prod.map id CaseFold.fold) :=
    congrArg Table.entries hcaptures
  rw [← List.forall₂_eq_eq_eq, List.forall₂_map_left_iff, List.forall₂_map_right_iff] at hentries
  exact ⟨hsuccess, hentries.imp fun _ _ hxy => Prod.mk.inj hxy⟩

namespace Template

variable {t : Template} {b b' : Text} {r r' : Target}

/-- A path that matches has the same keys as one that matches. -/
theorem exists_admits_of_same_keys (hbase : Path.keys b = Path.keys b')
    (hpath : Path.keys r.path = Path.keys r'.path) {segments : List Text}
    (hbelow : Path.below? b r.path = some segments)
    (hadmits : List.Forall₂ Part.Admits t.path segments) :
    ∃ segments', Path.below? b' r'.path = some segments' ∧
      List.Forall₂ Part.Admits t.path segments' ∧
      segments'.map CaseFold.fold = segments.map CaseFold.fold := by
  have hsame := Path.map_fold_below? b r.path
  rw [hbase, hpath, ← Path.map_fold_below?, hbelow, Option.map_some, eq_comm,
    Option.map_eq_some_iff] at hsame
  obtain ⟨segments', hbelow', hfold⟩ := hsame
  refine ⟨segments', hbelow', ?_, hfold⟩
  rw [Part.forall₂_admits_iff, hfold]
  exact Part.forall₂_admits_iff.mp hadmits

/-- **A verdict, but for the case of captured values, can be told from the keys.** -/
theorem folded_verdict_congr (hbase : Path.keys b = Path.keys b')
    (hpath : Path.keys r.path = Path.keys r'.path) (hquery : r.query = r'.query) :
    (t.outcome b r).verdict.folded = (t.outcome b' r').verdict.folded := by
  by_cases h : ∃ segments, Path.below? b r.path = some segments ∧
      List.Forall₂ Part.Admits t.path segments
  · obtain ⟨segments, hbelow, hadmits⟩ := h
    obtain ⟨segments', hbelow', hadmits', hfold⟩ :=
      exists_admits_of_same_keys hbase hpath hbelow hadmits
    rw [outcome_of_admits hbelow hadmits, outcome_of_admits hbelow' hadmits', hquery]
    simp only [Outcome.verdict, Verdict.folded, Table.mapValues_putAll, Table.mapValues_ofList,
      Part.map_filterMap_capture?, hfold]
  · have h' : ¬ ∃ segments, Path.below? b' r'.path = some segments ∧
        List.Forall₂ Part.Admits t.path segments := by
      rintro ⟨segments, hbelow, hadmits⟩
      obtain ⟨segments', hbelow', hadmits', -⟩ :=
        exists_admits_of_same_keys hbase.symm hpath.symm hbelow hadmits
      exact h ⟨segments', hbelow', hadmits'⟩
    rw [verdict_outcome_of_not_admits h, verdict_outcome_of_not_admits h']

/-- **A match sees the keys of paths only.**  Below two bases whose paths have the same keys, two
requests whose paths have the same keys and that have the same query have both a verdict: both fit
or both do not, the same names are captured in the same order, and the values differ at most in
case. -/
theorem verdict?_of_same_keys (t : Template) {base base' request request' : Uri}
    {b b' r r' : Target} (hbase : base.target? = .ok b) (hbase' : base'.target? = .ok b')
    (hrequest : request.target? = .ok r) (hrequest' : request'.target? = .ok r')
    (hkeys : Path.keys b.path = Path.keys b'.path) (hkeys' : Path.keys r.path = Path.keys r'.path)
    (hquery : r.query = r'.query) :
    ∃ v v', t.verdict? base request = .ok v ∧ t.verdict? base' request' = .ok v' ∧
      v.success = v'.success ∧
      List.Forall₂ (fun x y => x.1 = y.1 ∧ CaseFold.fold x.2 = CaseFold.fold y.2)
        v.captures.entries v'.captures.entries := by
  exact ⟨_, _, verdict?_of_target? hbase hrequest, verdict?_of_target? hbase' hrequest',
    Verdict.same_but_case_of_folded_eq (folded_verdict_congr hkeys hkeys' hquery)⟩

/-- Escapes that are broken or no UTF-8, empty segments further inside and another host make no
difference, and case makes one for what is captured. -/
theorem verdict?_of_same_keys_awkward_paths :
    let t : Template := ⟨"stra%C3%9Fe/\x7bid\x7d//\x7bid\x7d?k=\x7bk\x7d".toList⟩
    let base : Uri := .text "http://h/A%20b/%FF".toList
    let base' : Uri := .text "//g///%61 B/%fe//".toList
    let request : Uri := .text "http://h/a b/%FF/STRASSE/%C3%89//%4?k=X".toList
    let request' : Uri := .text "A%20b/%fe/stra%c3%9fe/é//%254/?k=X#f".toList
    let b : Target := ⟨"/A%20b/%FF".toList, ∅⟩
    let b' : Target := ⟨"///%61 B/%fe//".toList, ∅⟩
    let r : Target := ⟨"/a b/%FF/STRASSE/%C3%89//%4".toList, Query.table "k=X".toList⟩
    let r' : Target := ⟨"A%20b/%fe/stra%c3%9fe/é//%254/".toList, Query.table "k=X".toList⟩
    base.target? = .ok b ∧ base'.target? = .ok b' ∧
      request.target? = .ok r ∧ request'.target? = .ok r' ∧
      Path.keys b.path = Path.keys b'.path ∧ Path.keys r.path = Path.keys r'.path ∧
      ∃ v v', t.verdict? base request = .ok v ∧ t.verdict? base' request' = .ok v' ∧
        v.success = v'.success ∧
        List.Forall₂ (fun x y => x.1 = y.1 ∧ CaseFold.fold x.2 = CaseFold.fold y.2)
          v.captures.entries v'.captures.entries := by
  intro t base base' request request' b b' r r'
  have hbase : base.target? = .ok b := by rfl
  have hbase' : base'.target? = .ok b' := by rfl
  have hrequest : request.target? = .ok r := by rfl
  have hrequest' : request'.target? = .ok r' := by rfl
  have hkeys : Path.keys b.path = Path.keys b'.path := by decide
  have hkeys' : Path.keys r.path = Path.keys r'.path := by decide
  exact ⟨hbase, hbase', hrequest, hrequest', hkeys, hkeys',
    verdict?_of_same_keys t hbase hbase' hrequest hrequest' hkeys hkeys' rfl⟩

end Template

end UriRouting
