import Mathlib.Data.List.Infix
import UriRouting.Text.Percent

/-!
# Escaping and unescaping

What a text stands for is recovered from its escaped form, whatever follows it, and no delimiter
occurs in an escaped text. These two facts are all that a writer of paths and query texts needs to
know about escapes.

## Main Definitions

- `Utf8.State.IsProper`: the states that reading leads to.
- `Percent.Outside`: a character of a text takes part in no escape.
- `Percent.IsReserved`: the characters that stand for themselves nowhere in an escaped text.

## Main Statements

- `Utf8.read_utf8EncodeChar`: the octets of a character are read as that character.
- `Percent.unescape_append_cons`: a character outside escapes stays.
- `Percent.unescape_escape_append`: unescaping undoes escaping, and goes on behind it.
- `Percent.unescape_eq_nil_iff`: nothing but the empty text stands for the empty text.
- `Percent.not_mem_escape`: reserved characters do not occur in an escaped text.
-/

namespace UriRouting

/-! ## Reading octets -/

namespace Utf8

theorem read_cons (s : State) (u : Unit) (rest : List Unit) :
    read s (u :: rest) = (step s u).1 ++ read (step s u).2 rest := by
  cases s <;> rfl

/-- The last octet of a character completes it. -/
theorem step_last {value low high : Nat} {b : UInt8} (h : low ≤ b.toNat ∧ b.toNat ≤ high) :
    step (.inside value 0 low high) (.octet b)
      = ([Char.ofNat (value * 0x40 + (b.toNat - 0x80))], .between) := by
  rw [step, if_pos h]

/-- An octet within a character adds six bits to its value. -/
theorem step_further {value later low high : Nat} {b : UInt8}
    (h : low ≤ b.toNat ∧ b.toNat ≤ high) :
    step (.inside value (later + 1) low high) (.octet b)
      = ([], .inside (value * 0x40 + (b.toNat - 0x80)) later 0x80 0xBF) := by
  rw [step, if_pos h]

/-- The lead of a two-octet character. -/
theorem start_two {v : Nat} (h : 0x80 ≤ v ∧ v < 0x800) :
    start (v / 0x40 + 0xC0) = ([], .inside (v / 0x40) 0 0x80 0xBF) := by
  rw [start, if_neg (by omega), if_pos (by omega), Nat.add_sub_cancel]

/-- The lead of a three-octet character leaves an interval that its second octet lies in: the
interval is cut short only below the overlong forms and at the surrogates. -/
theorem start_three {v : Nat} (h : 0x800 ≤ v ∧ v < 0x10000) (hv : v < 0xD800 ∨ 0xDFFF < v) :
    ∃ low high, start (v / 0x1000 + 0xE0) = ([], .inside (v / 0x1000) 1 low high) ∧
      low ≤ v / 0x40 % 0x40 + 0x80 ∧ v / 0x40 % 0x40 + 0x80 ≤ high := by
  unfold start
  rw [if_neg (by omega), if_neg (by omega)]
  by_cases hlow : v / 0x1000 = 0
  · rw [hlow, if_pos rfl]
    exact ⟨0xA0, 0xBF, rfl, by omega, by omega⟩
  rw [if_neg (by omega)]
  by_cases hsurrogate : v / 0x1000 = 0xD
  · rw [hsurrogate, if_pos rfl]
    exact ⟨0x80, 0x9F, rfl, by omega, by omega⟩
  rw [if_neg (by omega), if_pos (by omega), Nat.add_sub_cancel]
  exact ⟨0x80, 0xBF, rfl, by omega, by omega⟩

/-- The lead of a four-octet character leaves an interval that its second octet lies in: the
interval is cut short only below the overlong forms and above the last character. -/
theorem start_four {v : Nat} (h : 0x10000 ≤ v ∧ v < 0x110000) :
    ∃ low high, start (v / 0x40000 + 0xF0) = ([], .inside (v / 0x40000) 2 low high) ∧
      low ≤ v / 0x1000 % 0x40 + 0x80 ∧ v / 0x1000 % 0x40 + 0x80 ≤ high := by
  unfold start
  rw [if_neg (by omega), if_neg (by omega), if_neg (by omega), if_neg (by omega),
    if_neg (by omega)]
  by_cases hlow : v / 0x40000 = 0
  · rw [hlow, if_pos rfl]
    exact ⟨0x90, 0xBF, rfl, by omega, by omega⟩
  rw [if_neg (by omega)]
  by_cases hhigh : v / 0x40000 = 4
  · rw [hhigh, if_neg (by omega), if_pos rfl]
    exact ⟨0x80, 0x8F, rfl, by omega, by omega⟩
  rw [if_pos (by omega), Nat.add_sub_cancel]
  exact ⟨0x80, 0xBF, rfl, by omega, by omega⟩

/-- An octet between characters: what it completes, and the state behind it. -/
theorem read_between_octet {n : Nat} (h : n < 0x100) (rest : List Unit) :
    read .between (.octet (UInt8.ofNat n) :: rest) = (start n).1 ++ read (start n).2 rest := by
  rw [read_cons, step, UInt8.toNat_ofNat_of_lt' h]

/-- The number of a continuation octet. -/
theorem toNat_continuation (n : Nat) :
    (UInt8.ofNat (n % 0x40 + 0x80)).toNat = n % 0x40 + 0x80 := by
  refine UInt8.toNat_ofNat_of_lt' ?_
  show n % 0x40 + 0x80 < 0x100
  omega

/-- **The octets of a character are read as that character.** -/
theorem read_utf8EncodeChar (c : Char) (rest : List Unit) :
    read .between ((String.utf8EncodeChar c).map .octet ++ rest) = c :: read .between rest := by
  -- The cases are the lengths of the encoding; in each the octets carry the bits of the number.
  have hc : Char.ofNat c.val.toNat = c := Char.ofNat_toNat c
  have hvalid : c.val.toNat < 0xD800 ∨ 0xDFFF < c.val.toNat ∧ c.val.toNat < 0x110000 := c.valid
  unfold String.utf8EncodeChar
  generalize c.val.toNat = v at hc hvalid
  have hlast := toNat_continuation v
  have hthird := toNat_continuation (v / 0x40)
  have hsecond := toNat_continuation (v / 0x1000)
  dsimp only
  by_cases h1 : v ≤ 0x7F
  · rw [if_pos h1, List.map_singleton, List.singleton_append, read_between_octet (by omega), start,
      if_pos (by omega), hc]
    rfl
  by_cases h2 : v ≤ 0x7FF
  · have hlead : v / 0x40 % 0x20 = v / 0x40 := by omega
    rw [if_neg h1, if_pos h2, hlead]
    simp only [List.map_cons, List.map_nil, List.cons_append, List.nil_append]
    rw [read_between_octet (by omega), start_two (by omega), read_cons,
      step_last (by omega), hlast, show v / 0x40 * 0x40 + (v % 0x40 + 0x80 - 0x80) = v by omega, hc]
    rfl
  by_cases h3 : v ≤ 0xFFFF
  · have hlead : v / 0x1000 % 0x10 = v / 0x1000 := by omega
    obtain ⟨low, high, hstart, hlow, hhigh⟩ := start_three (v := v) (by omega) (by omega)
    rw [if_neg h1, if_neg h2, if_pos h3, hlead]
    simp only [List.map_cons, List.map_nil, List.cons_append, List.nil_append]
    rw [read_between_octet (by omega), hstart, read_cons, step_further (by omega), read_cons,
      step_last (by omega), hthird, hlast,
      show (v / 0x1000 * 0x40 + (v / 0x40 % 0x40 + 0x80 - 0x80)) * 0x40
        + (v % 0x40 + 0x80 - 0x80) = v by omega, hc]
    rfl
  · have hlead : v / 0x40000 % 0x08 = v / 0x40000 := by omega
    obtain ⟨low, high, hstart, hlow, hhigh⟩ := start_four (v := v) (by omega)
    rw [if_neg h1, if_neg h2, if_neg h3, hlead]
    simp only [List.map_cons, List.map_nil, List.cons_append, List.nil_append]
    rw [read_between_octet (by omega), hstart, read_cons, step_further (by omega), read_cons,
      step_further (by omega), read_cons, step_last (by omega), hsecond, hthird, hlast,
      show ((v / 0x40000 * 0x40 + (v / 0x1000 % 0x40 + 0x80 - 0x80)) * 0x40
        + (v / 0x40 % 0x40 + 0x80 - 0x80)) * 0x40 + (v % 0x40 + 0x80 - 0x80) = v by omega, hc]
    rfl

/-- A character under way is not lost: it ends as itself or as a replacement. -/
theorem read_inside_ne_nil (value later low high : Nat) (rest : List Unit) :
    read (.inside value later low high) rest ≠ [] := by
  induction rest generalizing value later low high with
  | nil => simp [read]
  | cons u rest ih =>
      rw [read_cons]
      cases u with
      | plain c => simp [step]
      | octet b =>
          by_cases h : low ≤ b.toNat ∧ b.toNat ≤ high
          · cases later with
            | zero => simp [step_last h]
            | succ later =>
                rw [step_further h, List.nil_append]
                exact ih _ _ _ _
          · simp [step, h]

/-- An octet between characters completes a text or is under way. -/
theorem start_ne_between (n : Nat) : (start n).1 ≠ [] ∨ (start n).2 ≠ .between := by
  unfold start
  repeat' split
  all_goals simp

/-- Only the empty sequence of units is read as the empty text. -/
theorem read_eq_nil_iff {us : List Unit} : read .between us = [] ↔ us = [] := by
  refine ⟨fun h => ?_, fun h => by rw [h, read]⟩
  cases us with
  | nil => rfl
  | cons u rest =>
      rw [read_cons, List.append_eq_nil_iff] at h
      cases u with
      | plain c => simp [step] at h
      | octet b =>
          rw [step] at h
          rcases start_ne_between b.toNat with hne | hne
          · exact absurd h.1 hne
          · cases hstate : (start b.toNat).2 with
            | between => exact absurd hstate hne
            | inside value later low high =>
                rw [hstate] at h
                exact absurd h.2 (read_inside_ne_nil value later low high rest)

/-- A state that no octet of an ASCII character can continue. -/
def State.IsProper : State → Prop
  | .between => True
  | .inside _ _ low _ => 0x80 ≤ low

theorem isProper_start (n : Nat) : (start n).2.IsProper := by
  unfold start
  repeat' split
  all_goals simp [State.IsProper]

/-- Reading leads to proper states only. -/
theorem isProper_step {s : State} (h : s.IsProper) (u : Unit) : (step s u).2.IsProper := by
  cases s with
  | between =>
      cases u with
      | plain c => trivial
      | octet b => exact isProper_start b.toNat
  | inside value later low high =>
      cases u with
      | plain c => trivial
      | octet b =>
          by_cases hb : low ≤ b.toNat ∧ b.toNat ≤ high
          · cases later with
            | zero =>
                rw [step_last hb]
                trivial
            | succ later =>
                rw [step_further hb]
                exact Nat.le_refl 0x80
          · rw [step, if_neg hb]
            exact isProper_start b.toNat

end Utf8

/-! ## Escapes -/

namespace Percent

@[simp] theorem unescape_nil : unescape [] = [] := rfl

/-! ### Characters outside escapes -/

/-- A text starts with an escape. -/
def startsWithEscape : Text → Bool
  | '%' :: high :: low :: _ => (octet? high low).isSome
  | _ => false

/-- A character between two texts takes part in no escape: none starts with it or with one of the two
characters before it. -/
def Outside (before : Text) (c : Char) (after : Text) : Prop :=
  ∀ s, s <:+ before → s.length ≤ 2 → startsWithEscape (s ++ c :: after) = false

instance (before : Text) (c : Char) (after : Text) : Decidable (Outside before c after) :=
  decidable_of_iff
    (∀ s ∈ before.tails, s.length ≤ 2 → startsWithEscape (s ++ c :: after) = false)
    (by simp only [List.mem_tails, Outside])

theorem Outside.of_cons {d c : Char} {before after : Text} (h : Outside (d :: before) c after) :
    Outside before c after :=
  fun s hs => h s (hs.trans (List.suffix_cons d before))

theorem startsWithEscape_cons_of_ne {c : Char} (h : c ≠ '%') (rest : Text) :
    startsWithEscape (c :: rest) = false := by
  rw [startsWithEscape]
  rintro high low tail ⟨rfl, -⟩
  exact h rfl

theorem startsWithEscape_of_length_le {t : Text} (h : t.length ≤ 2) :
    startsWithEscape t = false := by
  rw [startsWithEscape]
  rintro high low tail rfl
  exact absurd h (by simp)

/-- A character that starts no escape is a unit. -/
theorem units_cons {c : Char} {rest : Text} (h : startsWithEscape (c :: rest) = false) :
    units (c :: rest) = unitOf c :: units rest := by
  by_cases hc : c = '%'
  · subst hc
    match rest with
    | [] => rfl
    | [a] => rfl
    | a :: b :: rest =>
        have hoctet : octet? a b = none := by simpa [startsWithEscape] using h
        rw [units, hoctet]
  · rw [units]
    exact fun _ _ _ hpercent => absurd hpercent hc

/-- A character outside escapes is a unit, and keeps what stands before it apart from what stands
behind it. -/
theorem units_append_cons {s t : Text} {c : Char} (h : Outside s c t) :
    units (s ++ c :: t) = units s ++ unitOf c :: units t := by
  fun_induction units s with
  | case1 a b rest o ho ih =>
      rw [List.cons_append, List.cons_append, List.cons_append, units, ho,
        ih h.of_cons.of_cons.of_cons, List.cons_append]
  | case2 a b rest ho ih =>
      rw [List.cons_append, List.cons_append, List.cons_append, units, ho, ← List.cons_append,
        ← List.cons_append, ih h.of_cons, List.cons_append]
  | case3 d rest hd ih =>
      have hstart : startsWithEscape (d :: rest ++ c :: t) = false := by
        by_cases hshort : rest.length ≤ 1
        · exact h (d :: rest) List.suffix_rfl (Nat.succ_le_succ hshort)
        · -- Two characters follow, so that a percent sign would have been the case before.
          obtain ⟨x, y, rest, rfl⟩ : ∃ x y tail, rest = x :: y :: tail := by
            match rest with
            | [] => simp at hshort
            | [x] => simp at hshort
            | x :: y :: tail => exact ⟨x, y, tail, rfl⟩
          exact startsWithEscape_cons_of_ne (fun hpercent => hd x y rest hpercent rfl) _
      rw [List.cons_append] at hstart ⊢
      rw [units_cons hstart, ih h.of_cons, List.cons_append]
  | case4 => exact units_cons (h [] List.suffix_rfl (Nat.zero_le 2))

/-- The unit of a character ends what is under way and is read as the character. -/
theorem read_unitOf_cons {s : Utf8.State} (h : s.IsProper) (c : Char) (rest : List Utf8.Unit) :
    Utf8.read s (unitOf c :: rest) = Utf8.read s [] ++ c :: Utf8.read .between rest := by
  rw [Utf8.read_cons, unitOf]
  split
  · next hc =>
    have hstart : Utf8.start (UInt8.ofNat c.toNat).toNat = ([c], .between) := by
      rw [UInt8.toNat_ofNat_of_lt' (Nat.lt_trans hc (by decide)), Utf8.start, if_pos hc, Char.ofNat_toNat]
    cases s with
    | between =>
        rw [Utf8.step, hstart]
        rfl
    | inside value later low high =>
        have hlow : 0x80 ≤ low := h
        rw [Utf8.step, if_neg (by rw [UInt8.toNat_ofNat_of_lt' (Nat.lt_trans hc (by decide))]; omega), hstart]
        rfl
  · cases s <;> rfl

theorem read_append_unitOf_cons {s : Utf8.State} (h : s.IsProper) (us : List Utf8.Unit) (c : Char)
    (rest : List Utf8.Unit) :
    Utf8.read s (us ++ unitOf c :: rest) = Utf8.read s us ++ c :: Utf8.read .between rest := by
  induction us generalizing s with
  | nil => exact read_unitOf_cons h c rest
  | cons u us ih =>
      rw [List.cons_append, Utf8.read_cons, Utf8.read_cons, ih (Utf8.isProper_step h u),
        List.append_assoc]

/-- A character that is no percent sign stands for itself, as an octet or as it is. -/
theorem unescape_cons {c : Char} (h : c ≠ '%') (rest : Text) :
    unescape (c :: rest) = c :: unescape rest := by
  rw [unescape, units_cons (startsWithEscape_cons_of_ne h rest),
    read_unitOf_cons (s := .between) trivial]
  rfl

/-- **A character outside escapes stays**, and what stands before it is decoded apart from what
stands behind it. -/
theorem unescape_append_cons {s t : Text} {c : Char} (h : Outside s c t) :
    unescape (s ++ c :: t) = unescape s ++ c :: unescape t := by
  rw [unescape, units_append_cons h, read_append_unitOf_cons (s := .between) trivial, unescape,
    unescape]

/-- Spaces for plus signs make no escape and break none. -/
theorem startsWithEscape_map (t : Text) :
    startsWithEscape (t.map fun c => if c = '+' then ' ' else c) = startsWithEscape t := by
  have hvalue : ∀ c : Char, hexValue? (if c = '+' then ' ' else c) = hexValue? c := by
    intro c
    split
    · next hc =>
      rw [hc]
      rfl
    · rfl
  match t with
  | [] => rfl
  | [_] | [_, _] =>
      rw [startsWithEscape_of_length_le (by simp), startsWithEscape_of_length_le (by simp)]
  | c :: high :: low :: rest =>
      by_cases hc : c = '%'
      · subst hc
        have hoctet : octet? (if high = '+' then ' ' else high) (if low = '+' then ' ' else low)
            = octet? high low := by
          rw [octet?, hvalue, hvalue, octet?]
        exact congrArg Option.isSome hoctet
      · have hspace : (if c = '+' then ' ' else c) ≠ '%' := by
          split
          · decide
          · exact hc
        rw [List.map_cons, startsWithEscape_cons_of_ne hspace, startsWithEscape_cons_of_ne hc]

/-- In a form field a plus sign does not stand for itself. -/
theorem unescapeField_append_cons {s t : Text} {c : Char} (h : Outside s c t) (hplus : c ≠ '+') :
    unescapeField (s ++ c :: t) = unescapeField s ++ c :: unescapeField t := by
  rw [unescapeField, List.map_append, List.map_cons, if_neg hplus, unescape_append_cons,
    unescapeField, unescapeField]
  intro u hu hlength
  obtain ⟨u, hsuffix, rfl⟩ := List.suffix_map_iff.mp hu
  have hmap := startsWithEscape_map (u ++ c :: t)
  rw [List.map_append, List.map_cons, if_neg hplus] at hmap
  rw [hmap]
  exact h u hsuffix (by simpa using hlength)

/-- A digit writes its number. -/
theorem hexValue?_hexDigit {n : Nat} (h : n < 16) : hexValue? (hexDigit n) = some n := by
  have hall : ∀ n < 16, hexValue? (hexDigit n) = some n := by decide
  exact hall n h

/-- The digits of an escape are unreserved. -/
theorem isUnreserved_hexDigit {n : Nat} (h : n < 16) : isUnreserved (hexDigit n) = true := by
  have hall : ∀ n < 16, isUnreserved (hexDigit n) = true := by decide
  exact hall n h

/-- A percent sign and the two digits of an octet are one unit. -/
theorem units_octet_append {b : UInt8} {high low : Char}
    (hhigh : hexValue? high = some (b.toNat / 16)) (hlow : hexValue? low = some (b.toNat % 16))
    (rest : Text) : units ('%' :: high :: low :: rest) = .octet b :: units rest := by
  have hoctet : octet? high low = some b := by
    simp only [octet?, hhigh, hlow]
    rw [show 16 * (b.toNat / 16) + b.toNat % 16 = b.toNat by omega, UInt8.ofNat_toNat]
  rw [units, hoctet]

/-- The escape of an octet is one unit. -/
theorem units_escapeOctet_append (b : UInt8) (rest : Text) :
    units (escapeOctet b ++ rest) = .octet b :: units rest := by
  have hb : b.toNat < 256 := b.toNat_lt
  exact units_octet_append (hexValue?_hexDigit (by omega)) (hexValue?_hexDigit (by omega)) rest

/-- The escapes of octets are those octets as units. -/
theorem units_escapeOctets_append (bs : List UInt8) (rest : Text) :
    units (bs.flatMap escapeOctet ++ rest) = bs.map .octet ++ units rest := by
  induction bs with
  | nil => rfl
  | cons b bs ih =>
      rw [List.flatMap_cons, List.append_assoc, units_escapeOctet_append, ih]
      rfl

/-- **Unescaping undoes escaping**, and goes on with what follows. -/
theorem unescape_escape_append (t rest : Text) :
    unescape (escape t ++ rest) = t ++ unescape rest := by
  induction t with
  | nil => rfl
  | cons c t ih =>
      rw [escape, List.flatMap_cons, ← escape, List.append_assoc, escapeChar]
      split
      · next hc =>
        have hpercent : c ≠ '%' := by
          rintro rfl
          exact absurd hc (by decide)
        rw [List.singleton_append, unescape_cons hpercent, ih, List.cons_append]
      · rw [unescape, units_escapeOctets_append, Utf8.read_utf8EncodeChar, ← unescape, ih,
          List.cons_append]

@[simp] theorem unescape_escape (t : Text) : unescape (escape t) = t := by
  simpa using unescape_escape_append t []

/-- The characters of an escaped text. -/
theorem mem_escape {t : Text} {c : Char} (h : c ∈ escape t) :
    isUnreserved c = true ∨ c = '%' := by
  obtain ⟨d, -, hd⟩ := List.mem_flatMap.mp h
  rw [escapeChar] at hd
  split at hd
  · next hunreserved =>
    rw [List.mem_singleton.mp hd]
    exact Or.inl hunreserved
  · obtain ⟨b, -, hb⟩ := List.mem_flatMap.mp hd
    have hlt : b.toNat < 256 := b.toNat_lt
    rw [escapeOctet, List.mem_cons, List.mem_cons, List.mem_singleton] at hb
    rcases hb with rfl | rfl | rfl
    · exact Or.inr rfl
    · exact Or.inl (isUnreserved_hexDigit (by omega))
    · exact Or.inl (isUnreserved_hexDigit (by omega))

/-- The characters that an escaped text does not hold: they are escaped themselves and do not start
an escape. -/
def IsReserved (c : Char) : Prop := isUnreserved c = false ∧ c ≠ '%'

instance : DecidablePred IsReserved := fun c =>
  inferInstanceAs (Decidable (isUnreserved c = false ∧ c ≠ '%'))

/-- A reserved character occurs in no escaped text. -/
theorem not_mem_escape {c : Char} (h : IsReserved c) (t : Text) : c ∉ escape t := by
  intro hc
  rcases mem_escape hc with hunreserved | hpercent
  · rw [h.1] at hunreserved
    exact absurd hunreserved (by decide)
  · exact h.2 hpercent

/-- A form field is unescaped like any other text if it holds no plus sign. -/
theorem unescapeField_of_not_mem {t : Text} (h : '+' ∉ t) : unescapeField t = unescape t := by
  have hmap : (t.map fun c => if c = '+' then ' ' else c) = t := by
    refine (List.map_congr_left fun c hc => ?_).trans (List.map_id t)
    have hplus : c ≠ '+' := fun hplus => h (hplus ▸ hc)
    rw [if_neg hplus, id]
  rw [unescapeField, hmap]

@[simp] theorem unescapeField_escape (t : Text) : unescapeField (escape t) = t := by
  rw [unescapeField_of_not_mem (not_mem_escape (by decide) t), unescape_escape]

/-- Only the empty text stands for the empty text. -/
@[simp] theorem unescape_eq_nil_iff {t : Text} : unescape t = [] ↔ t = [] := by
  rw [unescape, Utf8.read_eq_nil_iff]
  constructor
  · intro h
    match t with
    | [] => rfl
    | c :: rest =>
        unfold units at h
        split at h
        · split at h <;> simp at h
        · simp at h
        · next hnil => exact absurd hnil (by simp)
  · rintro rfl
    rfl

@[simp] theorem escape_eq_nil_iff {t : Text} : escape t = [] ↔ t = [] := by
  constructor
  · intro h
    rw [← unescape_escape t, h]
    rfl
  · rintro rfl
    rfl

end Percent

end UriRouting
