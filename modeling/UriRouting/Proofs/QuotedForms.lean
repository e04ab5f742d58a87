import Mathlib.Algebra.Group.Nat.Defs
import UriRouting.Text.Percent
import UriRouting.Text.Quoted

/-!
# Reading quoted forms

A quoted form is found wherever it stands in a text. From the front, its first character is the
quote in use, and it is read character by character up to the next such quote; what stands behind a
backslash tells how far the character reaches. From the back, the quote in use stands behind a
backslash everywhere inside the form, so the form starts at the first such quote that does not.

## Main Definitions

- `Quoted.readChar?`: reads one character in its written form.
- `Quoted.read?`: reads a quoted form at the start of a text.
- `Quoted.Writes`: the forms in which a character can stand between quotes.

## Main Statements

- `Quoted.read?_encode_append`: a quoted form is read as its text, whatever follows it.
- `Quoted.encode_append_inj`: no quoted form is the start of another one.
- `Quoted.append_cons_encode_inj`: a quoted form at the end of a text is found.

## Design Notes

The reader also takes escapes that no text is written with, such as the number of a letter. Which
characters are printable does not matter to it: a character that stands for itself is read as it is.
-/

namespace UriRouting.Quoted

/-! ## Reading -/

/-- What the mark behind a backslash announces. -/
inductive Escape where
  | character (c : Char)
  /-- The number of a character follows, in so many hexadecimal digits. -/
  | number (width : Nat)

/-- Some letters announce a control character or a number; any other mark stands for itself. -/
def Escape.ofMark : Char → Escape
  | 'n' => .character '\n'
  | 'r' => .character '\r'
  | 't' => .character '\t'
  | 'x' => .number 2
  | 'u' => .number 4
  | 'U' => .number 8
  | mark => .character mark

/-- Reads `width` more digits of a number that has come to `value`. -/
def readNumber? : (width value : Nat) → Text → Option (Nat × Text)
  | 0, value, rest => some (value, rest)
  | _ + 1, _, [] => none
  | width + 1, value, d :: rest => do
    readNumber? width (16 * value + (← Percent.hexValue? d)) rest

/-- Reads one character in its written form. -/
def readChar? : Text → Option (Char × Text)
  | '\\' :: mark :: rest =>
    match Escape.ofMark mark with
    | .character c => some (c, rest)
    | .number width => (readNumber? width 0 rest).map (Prod.map Char.ofNat id)
  | ['\\'] | [] => none
  | c :: rest => some (c, rest)

theorem length_le_of_readNumber? {width value n : Nat} {t rest : Text}
    (h : readNumber? width value t = some (n, rest)) : rest.length ≤ t.length := by
  induction width generalizing value t with
  | zero =>
      obtain ⟨-, rfl⟩ := Prod.mk.inj (Option.some.inj h)
      exact Nat.le_refl _
  | succ width ih =>
      cases t with
      | nil => exact absurd h (by simp [readNumber?])
      | cons d t =>
          obtain ⟨digit, -, hread⟩ := Option.bind_eq_some_iff.mp h
          exact Nat.le_succ_of_le (ih hread)

/-- A character takes up some of the text. -/
theorem length_lt_of_readChar? {t rest : Text} {c : Char} (h : readChar? t = some (c, rest)) :
    rest.length < t.length := by
  unfold readChar? at h
  split at h
  · next mark t' =>
    split at h
    · obtain ⟨-, rfl⟩ := Prod.mk.inj (Option.some.inj h)
      exact Nat.lt_add_of_pos_right Nat.two_pos
    · obtain ⟨⟨n, t''⟩, hread, hmap⟩ := Option.map_eq_some_iff.mp h
      obtain ⟨-, rfl⟩ := Prod.mk.inj hmap
      have hle := length_le_of_readNumber? hread
      simp only [List.length_cons, id_eq]
      omega
  · simp at h
  · simp at h
  · obtain ⟨-, rfl⟩ := Prod.mk.inj (Option.some.inj h)
    exact Nat.lt_succ_self _

/-- Reads characters up to the first quote that is not part of one. -/
def readUpTo? (quote : Char) (t : Text) : Option (Text × Text) :=
  if t.head? = some quote then some ([], t.tail)
  else match _h : readChar? t with
    | none => none
    | some (c, rest) => (readUpTo? quote rest).map (Prod.map (c :: ·) id)
termination_by t.length
decreasing_by exact length_lt_of_readChar? _h

/-- The text in a quoted form at the start of a text, and what follows the form. -/
def read? : Text → Option (Text × Text)
  | '\'' :: rest => readUpTo? '\'' rest
  | '"' :: rest => readUpTo? '"' rest
  | _ => none

/-! ## How characters are written -/

/-- The quotes that texts are written with. -/
def IsQuote (c : Char) : Prop := c = '\'' ∨ c = '"'

theorem isQuote_delimiter (t : Text) : IsQuote (delimiter t) := by
  unfold delimiter
  split
  · exact Or.inr rfl
  · exact Or.inl rfl

/-- The digits of a number are hexadecimal. -/
theorem exists_digit_of_mem_hex {width n : Nat} {c : Char} (h : c ∈ hex width n) :
    ∃ digit < 16, c = Nat.digitChar digit := by
  induction width generalizing n with
  | zero => exact absurd h List.not_mem_nil
  | succ width ih =>
      rcases List.mem_append.mp h with hmem | hlast
      · exact ih hmem
      · exact ⟨n % 16, Nat.mod_lt n (by omega), List.mem_singleton.mp hlast⟩

namespace IsQuote

variable {quote : Char}

theorem ne_backslash (h : IsQuote quote) : quote ≠ '\\' := by
  rcases h with rfl | rfl <;> simp

/-- A quote behind a backslash stands for itself. -/
theorem ofMark_eq (h : IsQuote quote) : Escape.ofMark quote = .character quote := by
  rcases h with rfl | rfl <;> rfl

theorem not_mem_hex (h : IsQuote quote) (width n : Nat) : quote ∉ hex width n := by
  have hdigits : ∀ digit < 16, Nat.digitChar digit ≠ '\'' ∧ Nat.digitChar digit ≠ '"' := by decide
  intro hmem
  obtain ⟨digit, hdigit, rfl⟩ := exists_digit_of_mem_hex hmem
  exact h.elim (hdigits digit hdigit).1 (hdigits digit hdigit).2

end IsQuote

/-- The forms in which a character can stand between quotes. -/
inductive Writes (quote c : Char) : Text → Prop where
  | plain (notQuote : c ≠ quote) (notBackslash : c ≠ '\\') : Writes quote c [c]
  | marked {mark : Char} (stands : Escape.ofMark mark = .character c) : Writes quote c ['\\', mark]
  | numbered {mark : Char} {width : Nat} (announces : Escape.ofMark mark = .number width)
      (fits : c.toNat < 16 ^ width) : Writes quote c ('\\' :: mark :: hex width c.toNat)

/-- **A character is written in one of these forms.** -/
theorem writes_encodeChar {quote : Char} (hquote : IsQuote quote) (c : Char) :
    Writes quote c (encodeChar quote c) := by
  unfold encodeChar
  split
  · next hmark =>
    refine .marked ?_
    rcases hmark with rfl | rfl
    · exact hquote.ofMark_eq
    · rfl
  next hplain =>
  obtain ⟨hnotQuote, hnotBackslash⟩ := not_or.mp hplain
  split
  · next h => exact .marked (h ▸ rfl)
  split
  · next h => exact .marked (h ▸ rfl)
  split
  · next h => exact .marked (h ▸ rfl)
  split
  · exact .plain hnotQuote hnotBackslash
  split
  · next h => exact .numbered rfl h
  split
  · next h => exact .numbered rfl h
  · have hvalid : c.toNat < 0xD800 ∨ 0xDFFF < c.toNat ∧ c.toNat < 0x110000 := c.valid
    refine .numbered rfl ?_
    show c.toNat < 0x100000000
    omega

/-! ## Reading what is written -/

theorem hexValue?_digitChar {digit : Nat} (h : digit < 16) :
    Percent.hexValue? (Nat.digitChar digit) = some digit := by
  have hall : ∀ digit < 16, Percent.hexValue? (Nat.digitChar digit) = some digit := by decide
  exact hall digit h

/-- After the digits of a number the digits behind them are still to be read. -/
theorem readNumber?_hex_append (width later value n : Nat) (rest : Text) :
    readNumber? (width + later) value (hex width n ++ rest)
      = readNumber? later (16 ^ width * value + n % 16 ^ width) rest := by
  -- The last digit is written behind the others, so it counts as one of the later ones.
  induction width generalizing later n rest with
  | zero => simp [hex, Nat.mod_one]
  | succ width ih =>
      have hvalue : 16 * (16 ^ width * value + n / 16 % 16 ^ width) + n % 16
          = 16 ^ (width + 1) * value + n % 16 ^ (width + 1) := by
        rw [Nat.pow_succ', Nat.mod_mul, Nat.mul_add, Nat.mul_assoc]
        omega
      rw [hex, List.append_assoc, Nat.succ_add_eq_add_succ, ih, List.singleton_append, readNumber?,
        hexValue?_digitChar (Nat.mod_lt n (by omega)), ← hvalue]
      rfl

theorem readNumber?_hex {width n : Nat} (h : n < 16 ^ width) (rest : Text) :
    readNumber? width 0 (hex width n ++ rest) = some (n, rest) := by
  have hread := readNumber?_hex_append width 0 0 n rest
  rw [Nat.mul_zero, Nat.zero_add, Nat.mod_eq_of_lt h, readNumber?] at hread
  exact hread

namespace Writes

variable {quote c : Char} {form : Text}

/-- A written character is read as itself. -/
theorem readChar?_append (h : Writes quote c form) (rest : Text) :
    readChar? (form ++ rest) = some (c, rest) := by
  cases h with
  | plain notQuote notBackslash => simp [readChar?, notBackslash]
  | marked stands => simp only [List.cons_append, List.nil_append, readChar?, stands]
  | numbered announces fits =>
      simp only [List.cons_append, readChar?, announces, readNumber?_hex fits, Option.map_some,
        Prod.map_apply, Char.ofNat_toNat, id_eq]

/-- A written character does not start with the quote in use. -/
theorem head?_append_ne (h : Writes quote c form) (hquote : IsQuote quote) (rest : Text) :
    (form ++ rest).head? ≠ some quote := by
  cases h with
  | plain notQuote => simpa using notQuote
  | marked | numbered => simpa using hquote.ne_backslash.symm

/-- A written character that holds the quote in use is that quote behind a backslash. -/
theorem eq_of_mem (h : Writes quote c form) (hquote : IsQuote quote) (hmem : quote ∈ form) :
    form = ['\\', quote] := by
  cases h with
  | plain notQuote => exact absurd (List.mem_singleton.mp hmem).symm notQuote
  | marked stands =>
      obtain rfl := List.mem_singleton.mp (List.mem_of_ne_of_mem hquote.ne_backslash hmem)
      rfl
  | @numbered mark width announces fits =>
      rcases List.mem_cons.mp (List.mem_of_ne_of_mem hquote.ne_backslash hmem) with rfl | hdigit
      · rw [hquote.ofMark_eq] at announces
        exact Escape.noConfusion announces
      · exact absurd hdigit (hquote.not_mem_hex width c.toNat)

/-- In a written character, only a backslash stands in front of the quote in use. -/
theorem eq_backslash_of_eq_append {before after : Text} (h : Writes quote c form)
    (hquote : IsQuote quote) (hform : form = before ++ quote :: after) : before = ['\\'] := by
  have hmem : quote ∈ form := by
    rw [hform]
    exact List.mem_append_right before List.mem_cons_self
  rw [h.eq_of_mem hquote hmem] at hform
  rcases List.cons_eq_append_iff.mp hform with ⟨-, hfirst⟩ | ⟨before', rfl, hsecond⟩
  · exact absurd (List.cons.inj hfirst).1 hquote.ne_backslash
  · rcases List.cons_eq_append_iff.mp hsecond with ⟨rfl, -⟩ | ⟨before'', -, hthird⟩
    · rfl
    · exact absurd hthird (by simp)

end Writes

/-! ## Quoted forms at the start of a text -/

/-- Written characters are read up to the quote behind them. -/
theorem readUpTo?_encodeChars_append {quote : Char} (hquote : IsQuote quote) (t rest : Text) :
    readUpTo? quote (t.flatMap (encodeChar quote) ++ quote :: rest) = some (t, rest) := by
  induction t with
  | nil =>
      rw [readUpTo?]
      simp
  | cons c t ih =>
      have hwrites := writes_encodeChar hquote c
      rw [List.flatMap_cons, List.append_assoc, readUpTo?,
        if_neg (hwrites.head?_append_ne hquote _)]
      split
      · next hnone =>
        rw [hwrites.readChar?_append] at hnone
        exact absurd hnone (by simp)
      · next d rest' hread =>
        rw [hwrites.readChar?_append] at hread
        obtain ⟨rfl, rfl⟩ := Prod.mk.inj (Option.some.inj hread)
        rw [ih]
        rfl

/-- **A quoted form is read as its text**, whatever follows it. -/
theorem read?_encode_append (t rest : Text) : read? (encode t ++ rest) = some (t, rest) := by
  have hquote := isQuote_delimiter t
  have hread := readUpTo?_encodeChars_append hquote t rest
  rw [encode, List.append_assoc, List.cons_append, List.singleton_append]
  rcases hquote with hsingle | hdouble
  · rw [hsingle] at hread ⊢
    exact hread
  · rw [hdouble] at hread ⊢
    exact hread

/-- **No quoted form is the start of another one.** -/
theorem encode_append_inj {s t rest rest' : Text} :
    encode s ++ rest = encode t ++ rest' ↔ s = t ∧ rest = rest' := by
  constructor
  · intro h
    have hread := read?_encode_append s rest
    rw [h, read?_encode_append] at hread
    exact Prod.mk.inj (Option.some.inj hread.symm)
  · rintro ⟨rfl, rfl⟩
    rfl

/-- Different texts have different quoted forms. -/
theorem encode_inj {s t : Text} : encode s = encode t ↔ s = t := by
  have h := @encode_append_inj s t [] []
  rwa [List.append_nil, List.append_nil, and_iff_left rfl] at h

/-! ## Quoted forms at the end of a text -/

/-- Between quotes, the quote in use stands behind a backslash. -/
theorem getLast?_of_encodeChars_eq {quote : Char} (hquote : IsQuote quote) {t before after : Text}
    (h : t.flatMap (encodeChar quote) = before ++ quote :: after) :
    before.getLast? = some '\\' := by
  induction t generalizing before with
  | nil => exact absurd h (by simp)
  | cons c t ih =>
      rw [List.flatMap_cons] at h
      -- The quote stands behind the form of the character, right at its end or in it.
      rcases List.append_eq_append_iff.mp h with ⟨m, rfl, hlater⟩ | ⟨m, hform, hm⟩
      · rw [List.getLast?_append, ih hlater, Option.some_or]
      · cases m with
        | nil => exact absurd (@ih [] hm.symm) (by simp)
        | cons d m =>
            obtain ⟨rfl, -⟩ := List.cons.inj hm
            rw [(writes_encodeChar hquote c).eq_backslash_of_eq_append hquote hform]
            rfl

/-- A text that ends in a quoted form ends in its quote. -/
theorem getLast?_append_cons_encode (before : Text) (c : Char) (t : Text) :
    (before ++ c :: encode t).getLast? = some (delimiter t) := by
  rw [encode, List.append_cons, ← List.append_assoc]
  exact List.getLast?_concat

/-- A quoted form ends in a shorter one only behind a backslash. -/
theorem eq_backslash_of_encode_eq {s t before : Text} {c : Char}
    (h : encode s = before ++ c :: encode t) : c = '\\' := by
  -- Both forms end in the same quote; the one that starts the second form stands in the first one.
  have hdelimiter : delimiter s = delimiter t := by
    have hends : (encode s).getLast? = some (delimiter s) := List.getLast?_concat
    rw [h, getLast?_append_cons_encode] at hends
    exact (Option.some.inj hends).symm
  obtain ⟨d, inner, hinner⟩ : ∃ d inner, before ++ [c] = d :: inner :=
    List.exists_cons_of_ne_nil (List.append_ne_nil_of_right_ne_nil before (List.cons_ne_nil c []))
  rw [encode, encode, ← hdelimiter, List.append_cons before c, ← List.append_assoc,
    List.append_left_inj, hinner] at h
  have hlast := getLast?_of_encodeChars_eq (isQuote_delimiter s) (List.cons.inj h).2
  have hbackslash : (before ++ [c]).getLast? = some '\\' := by
    rw [hinner, List.getLast?_cons, hlast, Option.getD_some]
  rw [List.getLast?_concat] at hbackslash
  exact Option.some.inj hbackslash

/-- **A quoted form at the end of a text is found**, unless it stands behind a backslash. -/
theorem append_cons_encode_inj {c : Char} (hc : c ≠ '\\') {a b s t : Text} :
    a ++ c :: encode s = b ++ c :: encode t ↔ a = b ∧ s = t := by
  -- If one form started before the other, it would end in it.
  have hstart : ∀ {m s t : Text}, c :: encode s = m ++ c :: encode t → m = [] := by
    intro m s t h
    cases m with
    | nil => rfl
    | cons d m => exact absurd (eq_backslash_of_encode_eq (List.cons.inj h).2) hc
  constructor
  · intro h
    rcases List.append_eq_append_iff.mp h with ⟨m, rfl, hm⟩ | ⟨m, rfl, hm⟩
    · obtain rfl := hstart hm
      exact ⟨(List.append_nil a).symm, encode_inj.mp (List.cons.inj hm).2⟩
    · obtain rfl := hstart hm
      exact ⟨List.append_nil b, (encode_inj.mp (List.cons.inj hm).2).symm⟩
  · rintro ⟨rfl, rfl⟩
    rfl

end UriRouting.Quoted
