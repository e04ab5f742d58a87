import Mathlib.Data.List.TakeWhile
import Mathlib.Tactic.Conv
import UriRouting.Path
import UriRouting.Query

/-!
# Splitting and trimming

Laws of the two operations that every reader of the library starts with: trimming a list at both
ends, and splitting a text at a separator. Paths and query texts are read through them.

## Main Definitions

- `Path.pieces`: the segments of a path, read by removing the outer slashes first.

## Main Statements

- `trimWhile_append`: a list keeps its trimmed form when something is appended to it.
- `Path.segments_eq_pieces`: trimming slashes before splitting or empty segments after it is the
  same.
- `Path.below?_append_slash`: what stands below a base is what follows it after a slash.
- `Query.fields_intercalate`, `Query.fields_intercalate_pairs`: the fields of a text that was joined
  from fields, or from keys and values.
-/

namespace UriRouting

/-! ## Trimming -/

section Trimming

variable {α β : Type} {p : α → Bool}

/-- A list is its trimmed form between two stretches of `p`. -/
theorem exists_eq_append_trimWhile (p : α → Bool) (l : List α) :
    ∃ s e, l = s ++ trimWhile p l ++ e ∧ (∀ a ∈ s, p a) ∧ ∀ a ∈ e, p a := by
  refine ⟨l.takeWhile p, ((l.dropWhile p).reverse.takeWhile p).reverse, ?_, ?_, ?_⟩
  · have hback : trimWhile p l ++ ((l.dropWhile p).reverse.takeWhile p).reverse
        = l.dropWhile p := by
      rw [trimWhile, ← List.reverse_append, List.takeWhile_append_dropWhile, List.reverse_reverse]
    rw [List.append_assoc, hback, List.takeWhile_append_dropWhile]
  · exact fun a ha => List.mem_takeWhile_imp ha
  · exact fun a ha => List.mem_takeWhile_imp (List.mem_reverse.mp ha)

/-- A stretch of `p` in front does not count. -/
theorem trimWhile_append_left {s : List α} (h : ∀ a ∈ s, p a) (l : List α) :
    trimWhile p (s ++ l) = trimWhile p l := by
  rw [trimWhile, List.dropWhile_append_of_pos h, trimWhile]

/-- A stretch of `p` at the end does not count. -/
theorem trimWhile_append_right {e : List α} (h : ∀ a ∈ e, p a) (l : List α) :
    trimWhile p (l ++ e) = trimWhile p l := by
  have hrev : ∀ a ∈ e.reverse, p a := fun a ha => h a (List.mem_reverse.mp ha)
  rw [trimWhile, trimWhile, List.dropWhile_append]
  split
  · next hl =>
    rw [List.isEmpty_iff.mp hl, List.dropWhile_eq_nil_iff.mpr h]
  · rw [List.reverse_append, List.dropWhile_append_of_pos hrev]

/-- Nothing is left exactly of a list of `p`. -/
theorem trimWhile_eq_nil_iff {l : List α} : trimWhile p l = [] ↔ ∀ a ∈ l, p a := by
  constructor
  · intro h
    obtain ⟨s, e, hl, hs, he⟩ := exists_eq_append_trimWhile p l
    rw [h, List.append_nil] at hl
    intro a ha
    rw [hl] at ha
    rcases List.mem_append.mp ha with ha | ha
    · exact hs a ha
    · exact he a ha
  · intro h
    rw [← List.append_nil l, trimWhile_append_left h]
    rfl

/-- Every element of the trimmed list is one of the list. -/
theorem mem_of_mem_trimWhile {l : List α} {a : α} (h : a ∈ trimWhile p l) : a ∈ l := by
  obtain ⟨s, e, hl, -, -⟩ := exists_eq_append_trimWhile p l
  rw [hl]
  exact List.mem_append_left _ (List.mem_append_right _ h)

/-- An element outside `p` stays. -/
theorem mem_trimWhile {l : List α} {a : α} (h : a ∈ l) (ha : p a = false) : a ∈ trimWhile p l := by
  obtain ⟨s, e, hl, hs, he⟩ := exists_eq_append_trimWhile p l
  rw [hl, List.mem_append, List.mem_append] at h
  rcases h with (h | h) | h
  · exact absurd (hs a h) (by simp [ha])
  · exact h
  · exact absurd (he a h) (by simp [ha])

/-- A list without elements of `p` is already trimmed. -/
theorem trimWhile_eq_self_of_forall {l : List α} (h : ∀ a ∈ l, p a = false) : trimWhile p l = l :=
  trimWhile_eq_self (fun a ha => h a (List.mem_of_head? ha))
    (fun a ha => h a (List.mem_of_getLast? ha))

/-- Between two trimmed lists that are not empty nothing goes. -/
theorem trimWhile_between {l m : List α} (hl : trimWhile p l ≠ []) (hm : trimWhile p m ≠ [])
    (gap : List α) :
    trimWhile p (trimWhile p l ++ (gap ++ trimWhile p m))
      = trimWhile p l ++ (gap ++ trimWhile p m) := by
  apply trimWhile_eq_self
  · rw [List.head?_append, List.head?_eq_some_head hl, Option.some_or,
      ← List.head?_eq_some_head hl]
    exact head?_trimWhile
  · rw [← List.append_assoc, List.getLast?_append, List.getLast?_eq_some_getLast hm,
      Option.some_or, ← List.getLast?_eq_some_getLast hm]
    exact getLast?_trimWhile

/-- **Appending keeps the trimmed form.**  What follows it trims to what the appended list trims
to. -/
theorem trimWhile_append (p : α → Bool) (l m : List α) :
    ∃ rest, trimWhile p (l ++ m) = trimWhile p l ++ rest ∧ trimWhile p rest = trimWhile p m := by
  obtain ⟨s₁, e₁, hl, hs₁, he₁⟩ := exists_eq_append_trimWhile p l
  obtain ⟨s₂, e₂, hm, hs₂, he₂⟩ := exists_eq_append_trimWhile p m
  by_cases hl0 : trimWhile p l = []
  · refine ⟨trimWhile p m, ?_, trimWhile_trimWhile p m⟩
    rw [hl0, List.nil_append, trimWhile_append_left (trimWhile_eq_nil_iff.mp hl0)]
  by_cases hm0 : trimWhile p m = []
  · refine ⟨[], ?_, hm0.symm⟩
    rw [List.append_nil, trimWhile_append_right (trimWhile_eq_nil_iff.mp hm0)]
  have hmiddle : l ++ m
      = s₁ ++ (trimWhile p l ++ (e₁ ++ s₂ ++ trimWhile p m)) ++ e₂ := by
    conv_lhs => rw [hl, hm]
    simp only [List.append_assoc]
  refine ⟨e₁ ++ s₂ ++ trimWhile p m, ?_, ?_⟩
  · rw [hmiddle, trimWhile_append_right he₂, trimWhile_append_left hs₁, trimWhile_between hl0 hm0]
  · have hgap : ∀ a ∈ e₁ ++ s₂, p a := by
      intro a ha
      rcases List.mem_append.mp ha with ha | ha
      · exact he₁ a ha
      · exact hs₂ a ha
    rw [trimWhile_append_left hgap, trimWhile_trimWhile]

/-- A list that ends outside `p` is its trimmed form behind a stretch of `p`. -/
theorem exists_eq_append_trimWhile_of_getLast? {l : List α} (h : ∀ a ∈ l.getLast?, p a = false) :
    ∃ s, l = s ++ trimWhile p l ∧ ∀ a ∈ s, p a := by
  obtain ⟨s, e, hl, hs, he⟩ := exists_eq_append_trimWhile p l
  rcases List.eq_nil_or_concat e with rfl | ⟨front, a, rfl⟩
  · exact ⟨s, by rw [← List.append_nil (s ++ trimWhile p l), ← hl], hs⟩
  · have ha : p a = false := h a (by rw [hl]; simp)
    exact absurd (he a (by simp)) (by simp [ha])

/-- A list that starts outside `p` is its trimmed form before a stretch of `p`. -/
theorem exists_eq_trimWhile_append_of_head? {l : List α} (h : ∀ a ∈ l.head?, p a = false) :
    ∃ e, l = trimWhile p l ++ e ∧ ∀ a ∈ e, p a := by
  obtain ⟨s, e, hl, hs, he⟩ := exists_eq_append_trimWhile p l
  cases s with
  | nil => exact ⟨e, hl, he⟩
  | cons a s =>
      have ha : p a = false := h a (by rw [hl]; rfl)
      exact absurd (hs a List.mem_cons_self) (by simp [ha])

/-- Two lists that meet in elements outside `p` are trimmed one by one. -/
theorem trimWhile_append_of_ends {l m : List α} (hl : ∀ a ∈ l.getLast?, p a = false)
    (hm : ∀ a ∈ m.head?, p a = false) :
    trimWhile p (l ++ m) = trimWhile p l ++ trimWhile p m := by
  by_cases hl0 : l = []
  · rw [hl0]
    rfl
  by_cases hm0 : m = []
  · rw [hm0, List.append_nil]
    exact (List.append_nil _).symm
  obtain ⟨s, hls, hs⟩ := exists_eq_append_trimWhile_of_getLast? hl
  obtain ⟨e, hme, he⟩ := exists_eq_trimWhile_append_of_head? hm
  have hl1 : trimWhile p l ≠ [] := List.ne_nil_of_mem
    (mem_trimWhile (List.getLast_mem hl0) (hl _ (List.getLast?_eq_some_getLast hl0)))
  have hm1 : trimWhile p m ≠ [] := List.ne_nil_of_mem
    (mem_trimWhile (List.head_mem hm0) (hm _ (List.head?_eq_some_head hm0)))
  calc trimWhile p (l ++ m)
      = trimWhile p (s ++ (trimWhile p l ++ trimWhile p m) ++ e) := by
        conv_lhs => rw [hls, hme]
        simp only [List.append_assoc]
    _ = trimWhile p (trimWhile p l ++ trimWhile p m) := by
        rw [trimWhile_append_right he, trimWhile_append_left hs]
    _ = trimWhile p l ++ trimWhile p m := trimWhile_between hl1 hm1 []

/-- Trimming commutes with a map that keeps the test on the elements of the list. -/
theorem trimWhile_map {q : β → Bool} {f : α → β} {l : List α} (h : ∀ a ∈ l, q (f a) = p a) :
    trimWhile q (l.map f) = (trimWhile p l).map f := by
  obtain ⟨s, e, hl, hs, he⟩ := exists_eq_append_trimWhile p l
  have hkeep : ∀ a ∈ trimWhile p l, q (f a) = p a := fun a ha => h a (mem_of_mem_trimWhile ha)
  have hs' : ∀ b ∈ s.map f, q b := by
    intro b hb
    obtain ⟨a, ha, rfl⟩ := List.mem_map.mp hb
    rw [h a (by rw [hl]; simp [ha])]
    exact hs a ha
  have he' : ∀ b ∈ e.map f, q b := by
    intro b hb
    obtain ⟨a, ha, rfl⟩ := List.mem_map.mp hb
    rw [h a (by rw [hl]; simp [ha])]
    exact he a ha
  conv_lhs => rw [hl, List.map_append, List.map_append]
  rw [trimWhile_append_right he', trimWhile_append_left hs']
  apply trimWhile_eq_self
  · intro b hb
    rw [List.head?_map, Option.mem_def, Option.map_eq_some_iff] at hb
    obtain ⟨a, ha, rfl⟩ := hb
    rw [hkeep a (List.mem_of_head? ha)]
    exact head?_trimWhile a ha
  · intro b hb
    rw [List.getLast?_map, Option.mem_def, Option.map_eq_some_iff] at hb
    obtain ⟨a, ha, rfl⟩ := hb
    rw [hkeep a (List.mem_of_getLast? ha)]
    exact getLast?_trimWhile a ha

end Trimming

/-! ## Splitting and joining -/

section Splitting

variable {α : Type}

/-- Joining two lists of pieces puts one separator between the two results. -/
theorem intercalate_append {sep : List α} {l m : List (List α)} (hl : l ≠ []) (hm : m ≠ []) :
    sep.intercalate (l ++ m) = sep.intercalate l ++ sep ++ sep.intercalate m := by
  induction l with
  | nil => exact absurd rfl hl
  | cons s l ih =>
      rw [List.cons_append, List.intercalate_cons_of_ne_nil (by simp [hm])]
      by_cases hl' : l = []
      · rw [hl', List.nil_append, List.intercalate_singleton]
      · rw [ih hl', List.intercalate_cons_of_ne_nil hl']
        simp only [List.append_assoc]

/-- An element of a joined list comes from the separator or from a piece. -/
theorem mem_intercalate {sep : List α} {l : List (List α)} {a : α} (h : a ∈ sep.intercalate l) :
    a ∈ sep ∨ ∃ s ∈ l, a ∈ s := by
  induction l with
  | nil => simp at h
  | cons s l ih =>
      by_cases hl : l = []
      · rw [hl, List.intercalate_singleton] at h
        exact Or.inr ⟨s, List.mem_cons_self, h⟩
      · rw [List.intercalate_cons_of_ne_nil hl] at h
        rcases List.mem_append.mp h with h | h
        · rcases List.mem_append.mp h with h | h
          · exact Or.inr ⟨s, List.mem_cons_self, h⟩
          · exact Or.inl h
        · rcases ih h with h | ⟨s', hs', h⟩
          · exact Or.inl h
          · exact Or.inr ⟨s', List.mem_cons_of_mem _ hs', h⟩

/-- What is neither the separator nor in one of the pieces is not in the joined list. -/
theorem not_mem_intercalate {a sep : α} (hsep : a ≠ sep) {l : List (List α)}
    (h : ∀ s ∈ l, a ∉ s) : a ∉ [sep].intercalate l := by
  intro hmem
  rcases mem_intercalate hmem with ha | ⟨s, hs, ha⟩
  · exact hsep (List.mem_singleton.mp ha)
  · exact h s hs ha

theorem not_mem_intercalate_map {β : Type} {a sep : α} (hsep : a ≠ sep) {l : List β}
    {f : β → List α} (h : ∀ b ∈ l, a ∉ f b) : a ∉ [sep].intercalate (l.map f) :=
  not_mem_intercalate hsep (List.forall_mem_map.mpr h)

/-- An element of a piece is one of the joined list. -/
theorem mem_intercalate_of_mem {sep s : List α} {l : List (List α)} {a : α} (hs : s ∈ l)
    (ha : a ∈ s) : a ∈ sep.intercalate l := by
  induction l with
  | nil => simp at hs
  | cons s' l ih =>
      by_cases hl : l = []
      · rw [hl, List.mem_singleton] at hs
        rw [hl, List.intercalate_singleton, ← hs]
        exact ha
      · rw [List.intercalate_cons_of_ne_nil hl]
        rcases List.mem_cons.mp hs with rfl | hs
        · exact List.mem_append_left _ (List.mem_append_left _ ha)
        · exact List.mem_append_right _ (ih hs)

variable [DecidableEq α] {a : α}

/-- Splitting at the first element of a list leaves an empty piece in front. -/
theorem splitOn_cons_self (a : α) (l : List α) : (a :: l).splitOn a = [] :: l.splitOn a := by
  rw [← List.nil_append (a :: l), List.splitOn_append_cons_self, List.splitOn_nil]
  rfl

/-- No piece holds the separator. -/
theorem not_mem_of_mem_splitOn {l s : List α} (h : s ∈ l.splitOn a) : a ∉ s := by
  induction l generalizing s with
  | nil =>
      rw [List.splitOn_nil, List.mem_singleton] at h
      simp [h]
  | cons b l ih =>
      obtain ⟨first, rest, hsplit⟩ := List.exists_cons_of_ne_nil (List.splitOn_ne_nil a l)
      rw [hsplit] at ih
      by_cases hb : b = a
      · rw [hb, splitOn_cons_self, hsplit] at h
        rcases List.mem_cons.mp h with rfl | h
        · exact List.not_mem_nil
        · exact ih h
      · rw [List.splitOn_cons_eq_if_modifyHead, if_neg (by simpa using hb), hsplit,
          List.modifyHead_cons] at h
        rcases List.mem_cons.mp h with rfl | h
        · rw [List.mem_cons, not_or]
          exact ⟨fun e => hb e.symm, ih List.mem_cons_self⟩
        · exact ih (List.mem_cons_of_mem _ h)

/-- An element of a piece is one of the list. -/
theorem mem_of_mem_splitOn {l s : List α} {b : α} (hs : s ∈ l.splitOn a) (hb : b ∈ s) : b ∈ l := by
  have hjoin : [a].intercalate (l.splitOn a) = l := List.intercalate_splitOn a
  rw [← hjoin]
  exact mem_intercalate_of_mem hs hb

/-- A list of separators has empty pieces only. -/
theorem isEmpty_of_mem_splitOn {l s : List α} (h : ∀ b ∈ l, b = a) (hs : s ∈ l.splitOn a) :
    s.isEmpty := by
  cases s with
  | nil => rfl
  | cons b s =>
      have hb : b = a := h b (mem_of_mem_splitOn hs List.mem_cons_self)
      exact absurd (hb ▸ List.mem_cons_self) (not_mem_of_mem_splitOn hs)

/-- The first piece is empty only if the list is or starts with a separator. -/
theorem head?_splitOn_ne_nil {l : List α} (hl : l ≠ []) (h : ∀ b ∈ l.head?, b ≠ a) :
    ∀ s ∈ (l.splitOn a).head?, s.isEmpty = false := by
  obtain ⟨first, rest, hsplit⟩ := List.exists_cons_of_ne_nil (List.splitOn_ne_nil a l)
  have hjoin : [a].intercalate (l.splitOn a) = l := List.intercalate_splitOn a
  rw [hsplit] at hjoin ⊢
  rintro s ⟨rfl⟩
  by_contra hfirst
  rw [Bool.not_eq_false, List.isEmpty_iff] at hfirst
  by_cases hrest : rest = []
  · rw [hfirst, hrest, List.intercalate_singleton] at hjoin
    exact hl hjoin.symm
  · rw [hfirst, List.intercalate_cons_of_ne_nil hrest] at hjoin
    exact h a (by rw [← hjoin]; rfl) rfl

/-- The last piece is empty only if the list is or ends with a separator. -/
theorem getLast?_splitOn_ne_nil {l : List α} (hl : l ≠ []) (h : ∀ b ∈ l.getLast?, b ≠ a) :
    ∀ s ∈ (l.splitOn a).getLast?, s.isEmpty = false := by
  have hjoin : [a].intercalate (l.splitOn a) = l := List.intercalate_splitOn a
  rcases List.eq_nil_or_concat (l.splitOn a) with hnil | ⟨front, last, hsplit⟩
  · exact absurd hnil (List.splitOn_ne_nil a l)
  rw [List.concat_eq_append] at hsplit
  rw [hsplit] at hjoin ⊢
  intro s hs
  rw [List.getLast?_concat, Option.mem_some_iff] at hs
  subst hs
  by_contra hlast
  rw [Bool.not_eq_false, List.isEmpty_iff] at hlast
  by_cases hfront : front = []
  · rw [hlast, hfront, List.nil_append, List.intercalate_singleton] at hjoin
    exact hl hjoin.symm
  · rw [hlast, intercalate_append hfront (by simp), List.intercalate_singleton,
      List.append_nil] at hjoin
    exact h a (by rw [← hjoin, List.getLast?_concat]; rfl) rfl

end Splitting

/-! ## Segments of a path -/

namespace Path

/-- The segments of a path, read by removing the outer slashes first: what is left is split at its
slashes, and there is no segment if nothing is left. -/
def pieces (path : Text) : List Text :=
  let inner := trimWhile (· == '/') path
  if inner = [] then [] else inner.splitOn '/'

/-- Slashes in front do not count. -/
theorem segments_slashes_append {s : Text} (h : ∀ c ∈ s, c = '/') (path : Text) :
    segments (s ++ path) = segments path := by
  rcases List.eq_nil_or_concat s with rfl | ⟨front, last, rfl⟩
  · rfl
  rw [List.concat_eq_append] at h ⊢
  have hlast : last = '/' := h last (by simp)
  have hfront : ∀ piece ∈ front.splitOn '/', piece.isEmpty := fun piece hpiece =>
    isEmpty_of_mem_splitOn (fun c hc => h c (List.mem_append_left _ hc)) hpiece
  rw [hlast, List.append_assoc, List.singleton_append, segments, List.splitOn_append_cons_self,
    trimWhile_append_left hfront, segments]

/-- Slashes at the end do not count. -/
theorem segments_append_slashes {e : Text} (h : ∀ c ∈ e, c = '/') (path : Text) :
    segments (path ++ e) = segments path := by
  cases e with
  | nil => rw [List.append_nil]
  | cons c e =>
      have hc : c = '/' := h c List.mem_cons_self
      have he : ∀ piece ∈ e.splitOn '/', piece.isEmpty := fun piece hpiece =>
        isEmpty_of_mem_splitOn (fun c hc => h c (List.mem_cons_of_mem _ hc)) hpiece
      rw [hc, segments, List.splitOn_append_cons_self, trimWhile_append_right he, segments]

/-- **The two readings of a path agree.**  Empty segments at the ends and outer slashes are the same
thing. -/
theorem segments_eq_pieces (path : Text) : segments path = pieces path := by
  obtain ⟨s, e, hpath, hs, he⟩ := exists_eq_append_trimWhile (· == '/') path
  have hinner : segments path = segments (trimWhile (· == '/') path) := by
    conv_lhs => rw [hpath]
    rw [segments_append_slashes (by simpa using he), segments_slashes_append (by simpa using hs)]
  rw [hinner, pieces]
  split
  · next hnil =>
    rw [hnil]
    rfl
  · next hne =>
    have hfirst : ∀ c ∈ (trimWhile (· == '/') path).head?, c ≠ '/' := by
      simpa using head?_trimWhile (p := (· == '/')) (l := path)
    have hlast : ∀ c ∈ (trimWhile (· == '/') path).getLast?, c ≠ '/' := by
      simpa using getLast?_trimWhile (p := (· == '/')) (l := path)
    exact trimWhile_eq_self (head?_splitOn_ne_nil hne hfirst) (getLast?_splitOn_ne_nil hne hlast)

/-- The segments of a path that was joined from segments. -/
theorem segments_intercalate {l : List Text} (h : ∀ s ∈ l, '/' ∉ s) :
    segments (['/'].intercalate l) = trimWhile List.isEmpty l := by
  by_cases hl : l = []
  · rw [hl]
    rfl
  · rw [segments, List.splitOn_intercalate '/' h hl]

/-- The segments of a path that was joined from segments that are not empty. -/
theorem segments_intercalate_of_filled {l : List Text} (h : ∀ s ∈ l, s ≠ [] ∧ '/' ∉ s) :
    segments (['/'].intercalate l) = l := by
  rw [segments_intercalate fun s hs => (h s hs).2]
  exact trimWhile_eq_self_of_forall fun s hs => List.isEmpty_eq_false_iff.mpr (h s hs).1

/-- A slash between two texts of which neither adds one to it keeps their segments apart. -/
theorem segments_append_slash {start path : Text} (hstart : ∀ c ∈ start.getLast?, c ≠ '/')
    (hpath : ∀ c ∈ path.head?, c ≠ '/') :
    segments (start ++ '/' :: path) = segments start ++ segments path := by
  by_cases hstart0 : start = []
  · rw [hstart0]
    exact @segments_slashes_append ['/'] (by simp) path
  by_cases hpath0 : path = []
  · rw [hpath0, segments_append_slashes (by simp)]
    exact (List.append_nil _).symm
  rw [segments, List.splitOn_append_cons_self,
    trimWhile_append_of_ends (getLast?_splitOn_ne_nil hstart0 hstart)
      (head?_splitOn_ne_nil hpath0 hpath), segments, segments]

/-- The first segment of a path is not empty. -/
theorem head?_segments_ne_nil {path : Text} : ∀ s ∈ (segments path).head?, s ≠ [] := by
  simpa [segments] using head?_trimWhile (p := List.isEmpty) (l := path.splitOn '/')

/-- The last segment of a path is not empty. -/
theorem getLast?_segments_ne_nil {path : Text} : ∀ s ∈ (segments path).getLast?, s ≠ [] := by
  simpa [segments] using getLast?_trimWhile (p := List.isEmpty) (l := path.splitOn '/')

/-- **What stands below a base is what follows it after a slash.**  The base may be written in any
way that keeps its keys, and may end in slashes of its own. -/
theorem below?_append_slash {base start : Text}
    (h : (segments start).map key = (segments base).map key) (path : Text) :
    below? base (start ++ '/' :: path) = some ((segments path).map Percent.unescape) := by
  obtain ⟨rest, hrest, htrim⟩ :=
    trimWhile_append List.isEmpty (start.splitOn '/') (path.splitOn '/')
  have hsegments : segments (start ++ '/' :: path) = segments start ++ rest := by
    rw [segments, List.splitOn_append_cons_self, hrest, segments]
  have hdrop : dropBase (segments base) (segments (start ++ '/' :: path)) = some rest :=
    dropBase_eq_some_iff.mpr ⟨segments start, hsegments, h⟩
  rw [below?, hdrop, Option.map_some, htrim, segments]

end Path

/-! ## Fields of a query text -/

namespace Query

/-- The fields of a query text that was joined from fields. -/
theorem fields_intercalate {l : List Text} (h : ∀ f ∈ l, '&' ∉ f) :
    fields (['&'].intercalate l) = (l.filter (!·.isEmpty)).map (Text.cut '=') := by
  by_cases hl : l = []
  · rw [hl]
    rfl
  · rw [fields, List.splitOn_intercalate '&' h hl]

/-- The fields of a query text that was joined from written keys and values. -/
theorem fields_intercalate_pairs {l : List (Text × Text)}
    (h : ∀ field ∈ l, '=' ∉ field.1 ∧ '&' ∉ field.1 ∧ '&' ∉ field.2) :
    fields (['&'].intercalate (l.map fun field => field.1 ++ '=' :: field.2)) = l := by
  have hamp : ∀ f ∈ l.map (fun field => field.1 ++ '=' :: field.2), '&' ∉ f := by
    intro f hf
    obtain ⟨field, hfield, rfl⟩ := List.mem_map.mp hf
    obtain ⟨-, hkey, hvalue⟩ := h field hfield
    simp [hkey, hvalue]
  have hfilled : (l.map fun field => field.1 ++ '=' :: field.2).filter (!·.isEmpty)
      = l.map fun field => field.1 ++ '=' :: field.2 := by
    apply List.filter_eq_self.mpr
    intro f hf
    obtain ⟨field, -, rfl⟩ := List.mem_map.mp hf
    simp
  rw [fields_intercalate hamp, hfilled, List.map_map]
  exact (List.map_congr_left fun field hfield =>
    Text.cut_append_cons (h field hfield).1 field.2).trans (List.map_id l)

end Query

end UriRouting
