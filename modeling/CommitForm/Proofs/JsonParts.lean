/-
# Parts of JSON texts

Words, texts and numbers are read, and skipped, as they are written: the result is what is written,
and what is left is what stands behind it (`Leaves`).

A number that is no count is of no further interest: it is read to its end or refused
(`readNumeral_stops`).
-/

import CommitForm.Proofs.JsonText

namespace CommitForm
namespace Json

open Document

/-! ## Cursors -/

namespace Cursor

/-- Going one character on drops it from the rest of the text, and changes nothing at its end. -/
theorem rest_advance (c : Cursor) : c.advance.rest = c.rest.tail := by
  obtain ⟨rest, p⟩ := c
  cases rest <;> rfl

/-- Going several characters on drops them from the rest of the text. -/
theorem rest_advanceBy (n : Nat) (c : Cursor) : (c.advanceBy n).rest = c.rest.drop n := by
  induction n generalizing c with
  | zero => rfl
  | succ n ih => rw [advanceBy, ih, rest_advance, List.drop_tail]

/-- Dropping as many items as have a property is dropping those items. -/
theorem drop_length_takeWhile {α : Type} (p : α → Bool) (as : List α) :
    as.drop (as.takeWhile p).length = as.dropWhile p := by
  induction as with
  | nil => rfl
  | cons a as ih =>
    by_cases h : p a
    · simp [List.takeWhile_cons_of_pos h, List.dropWhile_cons_of_pos h, ih]
    · simp [h]

/-- Skipping blanks drops them from the rest of the text, so that lemmas about lists apply. -/
theorem rest_skipBlanks (c : Cursor) : c.skipBlanks.rest = c.rest.dropWhile isBlank := by
  rw [skipBlanks, rest_advanceBy, drop_length_takeWhile]

/-- Skipping digits drops them from the rest of the text, so that lemmas about lists apply. -/
theorem rest_skipDigits (c : Cursor) : c.skipDigits.rest = c.rest.dropWhile Char.isDigit := by
  rw [skipDigits, digitCount, rest_advanceBy, drop_length_takeWhile]

/-- The next character is the first of the rest of the text. -/
theorem peek_eq (c : Cursor) : c.peek = c.rest.head? := rfl

end Cursor

/-- Reading gives a result and leaves the rest of the text; at what place it ends is not said. -/
def Leaves {α : Type} (r : Outcome α) (a : α) (rest : List Char) : Prop :=
  ∃ c : Cursor, r = .ok (a, c) ∧ c.rest = rest

/-- A result is turned into another one with the same rest of the text. -/
theorem Leaves.map {α β : Type} {r : Outcome α} {a : α} {rest : List Char} (h : Leaves r a rest)
    (f : α → β) : Leaves (r.map fun x => (f x.1, x.2)) (f a) rest := by
  obtain ⟨c, rfl, hc⟩ := h
  exact ⟨c, rfl, hc⟩

/-! ## Words -/

/-- The letters of a word are read up to its end. -/
theorem readWord_leaves {word rest : List Char} {c : Cursor} (h : c.rest = word ++ rest) :
    Leaves (readWord word c) () rest := by
  induction word generalizing c with
  | nil => exact ⟨c, rfl, h⟩
  | cons w ws ih =>
    have hpeek : c.peek = some w := by rw [Cursor.peek_eq, h]; rfl
    rw [readWord, hpeek]
    simp only [if_true]
    exact ih (by rw [Cursor.rest_advance, h]; rfl)

/-! ## Texts -/

/-- Four hexadecimal digits are read as the number they denote. -/
theorem readFourDigits_leaves {a b c d : Char} {n : Nat} (hn : fourDigits? [a, b, c, d] = some n)
    {rest : List Char} {cur : Cursor} (h : cur.rest = a :: b :: c :: d :: rest) :
    Leaves (readFourDigits cur) n rest := by
  have hdigits : fourDigits? cur.rest = some n := by rw [h]; exact hn
  rw [readFourDigits, hdigits]
  exact ⟨_, rfl, by rw [Cursor.rest_advanceBy, h]; rfl⟩

/-- No character is a surrogate, of either kind, so a single escape of a character is never taken
for half of a pair. -/
theorem not_surrogate (c : Char) : isTrailing c.toNat = false ∧ isLeading c.toNat = false := by
  have hvalid : c.toNat < 0xD800 ∨ 0xDFFF < c.toNat := by
    rcases c.valid with h | ⟨h, -⟩
    · exact .inl h
    · exact .inr h
  simp only [isTrailing, isLeading, Bool.and_eq_false_iff, decide_eq_false_iff_not]
  omega

/-- The escape of a unit begins with a backslash and a letter, which are read before its digits. -/
theorem SpellsUnit.exists_cons {n : Nat} {unit : List Char} (h : SpellsUnit n unit) :
    ∃ digits, unit = '\\' :: 'u' :: digits ∧ 0 < unit.length := by
  obtain ⟨-⟩ := h
  exact ⟨_, rfl, Nat.zero_lt_succ _⟩

/-- The escape of a character by one unit is read as the character. -/
theorem readUnits_unit {c : Char} {unit rest : List Char} (hunit : SpellsUnit c.toNat unit)
    {cur : Cursor} (h : '\\' :: 'u' :: cur.rest = unit ++ rest) :
    Leaves (readUnits cur) c rest := by
  obtain ⟨hn⟩ := hunit
  simp only [List.cons_append, List.nil_append, List.cons.injEq, true_and] at h
  obtain ⟨cur', hread, hrest⟩ := readFourDigits_leaves hn h
  refine ⟨cur', ?_, hrest⟩
  rw [readUnits, hread]
  simp [bind, Except.bind, not_surrogate]

/-- The escapes of a leading and a trailing unit are read as the one character that they denote
together. -/
theorem readUnits_pair {c : Char} {leading trailing : Nat} (hleading : isLeading leading)
    (htrailing : isTrailing trailing)
    (hc : c.toNat = (leading - 0xD800) * 0x400 + (trailing - 0xDC00) + 0x10000)
    {unit unit' rest : List Char} (hunit : SpellsUnit leading unit)
    (hunit' : SpellsUnit trailing unit') {cur : Cursor}
    (h : '\\' :: 'u' :: cur.rest = unit ++ (unit' ++ rest)) : Leaves (readUnits cur) c rest := by
  obtain ⟨hn⟩ := hunit
  obtain ⟨hm⟩ := hunit'
  simp only [List.cons_append, List.nil_append, List.cons.injEq, true_and] at h
  obtain ⟨cur₁, hread₁, hrest₁⟩ := readFourDigits_leaves hn h
  have hexpect {a : Char} {as : List Char} {cur : Cursor} (h : cur.rest = a :: as) :
      expectInPair a cur = .ok ((), cur.advance) ∧ cur.advance.rest = as := by
    have hpeek : cur.peek = some a := by rw [Cursor.peek_eq, h]; rfl
    exact ⟨by simp [expectInPair, hpeek], by rw [Cursor.rest_advance, h]; rfl⟩
  obtain ⟨hslash, hrest₂⟩ := hexpect hrest₁
  obtain ⟨hletter, hrest₃⟩ := hexpect hrest₂
  obtain ⟨cur₄, hread₄, hrest₄⟩ := readFourDigits_leaves hm hrest₃
  have hfirst : isTrailing leading = false := by
    simp only [isLeading, Bool.and_eq_true, decide_eq_true_eq] at hleading
    simp only [isTrailing, Bool.and_eq_false_iff, decide_eq_false_iff_not]
    omega
  refine ⟨cur₄, ?_, hrest₄⟩
  rw [readUnits, hread₁]
  simp [bind, Except.bind, hfirst, hleading, hslash, hletter, hread₄, htrailing, ← hc]

/-- An escape by a letter is read as the character that the letter stands for. -/
theorem readEscape_letter {a c : Char} (ha : escaped? a = some c) {rest : List Char} {cur : Cursor}
    (h : cur.rest = a :: rest) : Leaves (readEscape cur) c rest := by
  have hpeek : cur.peek = some a := by rw [Cursor.peek_eq, h]; rfl
  refine ⟨cur.advance, ?_, by rw [Cursor.rest_advance, h]; rfl⟩
  rw [readEscape, hpeek]
  split
  · next he => cases he
  · next he =>
    obtain rfl := Option.some.inj he
    cases ha
  · next he =>
    obtain rfl := Option.some.inj he
    rw [ha]

/-- An escape by digits is read as what its units denote. -/
theorem readEscape_unit {cur : Cursor} {rest : List Char} {c : Char} (h : cur.rest = 'u' :: rest)
    {after : List Char} (hread : Leaves (readUnits cur.advance) c after) :
    Leaves (readEscape cur) c after := by
  have hpeek : cur.peek = some 'u' := by rw [Cursor.peek_eq, h]; rfl
  rw [readEscape, hpeek]
  exact hread

/-- Behind an escape the text goes on with the character that it stands for. -/
theorem readStringFrom_escape {cs tail after rest : List Char} {c : Char} {cur : Cursor}
    {fuel : Nat} (h : cur.rest = '\\' :: tail) (hescape : Leaves (readEscape cur.advance) c after)
    (hrest : ∀ cur : Cursor, cur.rest = after → Leaves (readStringFrom fuel cur) cs rest) :
    Leaves (readStringFrom (fuel + 1) cur) (c :: cs) rest := by
  obtain ⟨cur₁, hread₁, hrest₁⟩ := hescape
  obtain ⟨cur₂, hread₂, hrest₂⟩ := hrest cur₁ hrest₁
  have hpeek : cur.peek = some '\\' := by rw [Cursor.peek_eq, h]; rfl
  refine ⟨cur₂, ?_, hrest₂⟩
  rw [readStringFrom, hpeek]
  simp [bind, Except.bind, hread₁, hread₂]

/-- At the closing quote the text ends, and the quote is taken. -/
theorem readStringFrom_quote {rest : List Char} {cur : Cursor} (h : cur.rest = '"' :: rest)
    (fuel : Nat) : Leaves (readStringFrom (fuel + 1) cur) [] rest := by
  have hpeek : cur.peek = some '"' := by rw [Cursor.peek_eq, h]; rfl
  refine ⟨cur.advance, ?_, by rw [Cursor.rest_advance, h]; rfl⟩
  rw [readStringFrom, hpeek]
  rfl

/-- A character that needs no escape stands for itself. -/
theorem readStringFrom_plain {c : Char} {cs after rest : List Char} {cur : Cursor} {fuel : Nat}
    (hcontrol : 32 ≤ c.toNat) (hquote : c ≠ '"') (hslash : c ≠ '\\') (h : cur.rest = c :: after)
    (hrest : ∀ cur : Cursor, cur.rest = after → Leaves (readStringFrom fuel cur) cs rest) :
    Leaves (readStringFrom (fuel + 1) cur) (c :: cs) rest := by
  have hpeek : cur.peek = some c := by rw [Cursor.peek_eq, h]; rfl
  obtain ⟨cur', hread, hcur'⟩ := hrest cur.advance (by rw [Cursor.rest_advance, h]; rfl)
  refine ⟨cur', ?_, hcur'⟩
  rw [readStringFrom, hpeek]
  split
  · next he => cases he
  · next he => exact absurd (Option.some.inj he) hquote
  · next he => exact absurd (Option.some.inj he) hslash
  · next he =>
    obtain rfl := Option.some.inj he
    simp [bind, Except.bind, Nat.not_lt.2 hcontrol, hread]

/-- **The characters of a text are read** up to the quote behind them, by induction on how they are
spelled. -/
theorem readStringFrom_leaves {cs body rest : List Char} (hbody : SpellsText cs body) {fuel : Nat}
    (hfuel : body.length < fuel) {cur : Cursor} (h : cur.rest = body ++ '"' :: rest) :
    Leaves (readStringFrom fuel cur) cs rest := by
  induction hbody generalizing fuel cur with
  | nil =>
    obtain ⟨fuel, rfl⟩ : ∃ n, fuel = n + 1 := ⟨fuel - 1, by omega⟩
    exact readStringFrom_quote h fuel
  | @plain c cs body hcontrol hquote hslash _ ih =>
    obtain ⟨fuel, rfl⟩ : ∃ n, fuel = n + 1 := ⟨fuel - 1, by omega⟩
    exact readStringFrom_plain hcontrol hquote hslash h fun cur' h' =>
      ih (Nat.lt_of_succ_lt_succ hfuel) h'
  | @letter c a cs body ha _ ih =>
    obtain ⟨fuel, rfl⟩ : ∃ n, fuel = n + 1 := ⟨fuel - 1, by omega⟩
    simp only [List.length_cons] at hfuel
    refine readStringFrom_escape h (readEscape_letter ha ?_) fun cur' h' => ih (by omega) h'
    rw [Cursor.rest_advance, h]
    rfl
  | @unit c cs unit body hunit _ ih =>
    obtain ⟨fuel, rfl⟩ : ∃ n, fuel = n + 1 := ⟨fuel - 1, by omega⟩
    obtain ⟨rest', hrest', hlength⟩ := hunit.exists_cons
    simp only [List.length_append] at hfuel
    rw [List.append_assoc, hrest', List.cons_append, List.cons_append] at h
    have hadvance : cur.advance.rest = 'u' :: (rest' ++ (body ++ '"' :: rest)) := by
      rw [Cursor.rest_advance, h]
      rfl
    refine readStringFrom_escape h (readEscape_unit hadvance (readUnits_unit hunit ?_))
      fun cur' h' => ih (by omega) h'
    rw [Cursor.rest_advance, hadvance, hrest']
    rfl
  | @pair c leading trailing cs unit unit' body hleading htrailing hc hunit hunit' _ ih =>
    obtain ⟨fuel, rfl⟩ : ∃ n, fuel = n + 1 := ⟨fuel - 1, by omega⟩
    obtain ⟨rest', hrest', hlength⟩ := hunit.exists_cons
    simp only [List.length_append] at hfuel
    rw [List.append_assoc, hrest', List.cons_append, List.cons_append, List.append_assoc] at h
    have hadvance : cur.advance.rest = 'u' :: (rest' ++ (unit' ++ (body ++ '"' :: rest))) := by
      rw [Cursor.rest_advance, h]
      rfl
    refine readStringFrom_escape h (readEscape_unit hadvance
      (readUnits_pair hleading htrailing hc hunit hunit' ?_)) fun cur' h' => ih (by omega) h'
    rw [Cursor.rest_advance, hadvance, hrest']
    rfl

/-- **A text is read,** whichever of its spellings is used for each character, as the length of the
text suffices for fuel. -/
theorem readString_leaves {s : String} {body rest : List Char} (hbody : SpellsText s.toList body)
    {cur : Cursor} (h : cur.rest = body ++ '"' :: rest) : Leaves (readString cur) s rest := by
  have hfuel : body.length < cur.rest.length + 1 := by
    rw [h, List.length_append]
    omega
  obtain ⟨cur', hread, hrest⟩ := readStringFrom_leaves hbody hfuel h
  refine ⟨cur', ?_, hrest⟩
  rw [readString, hread]
  simp [bind, Except.bind]

/-! ### Skipping texts -/

/-- Skipping goes on behind an escape, whose character is not looked at. -/
theorem skipStringFrom_escape {tail after rest : List Char} {cur : Cursor} {fuel : Nat}
    (h : cur.rest = '\\' :: tail) (hescape : Leaves (skipEscape cur.advance) () after)
    (hrest : ∀ cur : Cursor, cur.rest = after → Leaves (skipStringFrom fuel cur) () rest) :
    Leaves (skipStringFrom (fuel + 1) cur) () rest := by
  obtain ⟨cur₁, hread₁, hrest₁⟩ := hescape
  obtain ⟨cur₂, hread₂, hrest₂⟩ := hrest cur₁ hrest₁
  have hpeek : cur.peek = some '\\' := by rw [Cursor.peek_eq, h]; rfl
  refine ⟨cur₂, ?_, hrest₂⟩
  rw [skipStringFrom, hpeek]
  simp [hread₁, hread₂]

/-- An escape by a letter is skipped with its letter. -/
theorem skipEscape_letter {a c : Char} (ha : escaped? a = some c) {rest : List Char} {cur : Cursor}
    (h : cur.rest = a :: rest) : Leaves (skipEscape cur) () rest := by
  have hpeek : cur.peek = some a := by rw [Cursor.peek_eq, h]; rfl
  refine ⟨cur.advance, ?_, by rw [Cursor.rest_advance, h]; rfl⟩
  rw [skipEscape, hpeek]
  split
  · next he => cases he
  · next he =>
    obtain rfl := Option.some.inj he
    cases ha
  · next he =>
    obtain rfl := Option.some.inj he
    simp [ha]

/-- An escape by digits is skipped; that two of them may be one character does not matter. -/
theorem skipStringFrom_unit {n : Nat} {unit after rest : List Char} (hunit : SpellsUnit n unit)
    {cur : Cursor} {fuel : Nat} (h : cur.rest = unit ++ after)
    (hrest : ∀ cur : Cursor, cur.rest = after → Leaves (skipStringFrom fuel cur) () rest) :
    Leaves (skipStringFrom (fuel + 1) cur) () rest := by
  obtain ⟨hn⟩ := hunit
  simp only [List.cons_append, List.nil_append] at h
  have hadvance := cur.rest_advance
  rw [h, List.tail_cons] at hadvance
  have hadvance' := cur.advance.rest_advance
  rw [hadvance, List.tail_cons] at hadvance'
  obtain ⟨cur', hread, hafter⟩ := readFourDigits_leaves hn hadvance'
  refine skipStringFrom_escape h ⟨cur', ?_, hafter⟩ hrest
  have hpeek : cur.advance.peek = some 'u' := by rw [Cursor.peek_eq, hadvance]; rfl
  rw [skipEscape, hpeek]
  simp [hread]

/-- At the closing quote skipping a text ends, and the quote is taken. -/
theorem skipStringFrom_quote {rest : List Char} {cur : Cursor} (h : cur.rest = '"' :: rest)
    (fuel : Nat) : Leaves (skipStringFrom (fuel + 1) cur) () rest := by
  have hpeek : cur.peek = some '"' := by rw [Cursor.peek_eq, h]; rfl
  refine ⟨cur.advance, ?_, by rw [Cursor.rest_advance, h]; rfl⟩
  rw [skipStringFrom, hpeek]
  rfl

/-- A character that needs no escape is skipped. -/
theorem skipStringFrom_plain {c : Char} {after rest : List Char} {cur : Cursor} {fuel : Nat}
    (hcontrol : 32 ≤ c.toNat) (hquote : c ≠ '"') (hslash : c ≠ '\\') (h : cur.rest = c :: after)
    (hrest : ∀ cur : Cursor, cur.rest = after → Leaves (skipStringFrom fuel cur) () rest) :
    Leaves (skipStringFrom (fuel + 1) cur) () rest := by
  have hpeek : cur.peek = some c := by rw [Cursor.peek_eq, h]; rfl
  obtain ⟨cur', hread, hcur'⟩ := hrest cur.advance (by rw [Cursor.rest_advance, h]; rfl)
  refine ⟨cur', ?_, hcur'⟩
  rw [skipStringFrom, hpeek]
  split
  · next he => cases he
  · next he => exact absurd (Option.some.inj he) hquote
  · next he => exact absurd (Option.some.inj he) hslash
  · next he =>
    obtain rfl := Option.some.inj he
    rw [if_neg (Nat.not_lt.2 hcontrol), hread]

/-- The characters of a text are skipped up to the quote behind them, by induction on how they are
spelled. -/
theorem skipStringFrom_leaves {cs body rest : List Char} (hbody : SpellsText cs body) {fuel : Nat}
    (hfuel : body.length < fuel) {cur : Cursor} (h : cur.rest = body ++ '"' :: rest) :
    Leaves (skipStringFrom fuel cur) () rest := by
  induction hbody generalizing fuel cur with
  | nil =>
    obtain ⟨fuel, rfl⟩ : ∃ n, fuel = n + 1 := ⟨fuel - 1, by omega⟩
    exact skipStringFrom_quote h fuel
  | @plain c cs body hcontrol hquote hslash _ ih =>
    obtain ⟨fuel, rfl⟩ : ∃ n, fuel = n + 1 := ⟨fuel - 1, by omega⟩
    exact skipStringFrom_plain hcontrol hquote hslash h fun cur' h' =>
      ih (Nat.lt_of_succ_lt_succ hfuel) h'
  | @letter c a cs body ha _ ih =>
    obtain ⟨fuel, rfl⟩ : ∃ n, fuel = n + 1 := ⟨fuel - 1, by omega⟩
    simp only [List.length_cons] at hfuel
    refine skipStringFrom_escape h (skipEscape_letter ha ?_) fun cur' h' => ih (by omega) h'
    rw [Cursor.rest_advance, h]
    rfl
  | @unit c cs unit body hunit _ ih =>
    obtain ⟨fuel, rfl⟩ : ∃ n, fuel = n + 1 := ⟨fuel - 1, by omega⟩
    obtain ⟨-, -, hlength⟩ := hunit.exists_cons
    simp only [List.length_append] at hfuel
    rw [List.append_assoc] at h
    exact skipStringFrom_unit hunit h fun cur' h' => ih (by omega) h'
  | @pair c leading trailing cs unit unit' body _ _ _ hunit hunit' _ ih =>
    obtain ⟨-, -, hlength⟩ := hunit.exists_cons
    obtain ⟨-, -, hlength'⟩ := hunit'.exists_cons
    simp only [List.length_append] at hfuel
    obtain ⟨fuel, rfl⟩ : ∃ n, fuel = n + 2 := ⟨fuel - 2, by omega⟩
    rw [List.append_assoc, List.append_assoc] at h
    exact skipStringFrom_unit hunit h fun cur' h' =>
      skipStringFrom_unit hunit' h' fun cur'' h'' => ih (by omega) h''

/-- A text is skipped to the same place that reading it would lead to. -/
theorem skipString_leaves {cs body rest : List Char} (hbody : SpellsText cs body) {cur : Cursor}
    (h : cur.rest = body ++ '"' :: rest) : Leaves (skipString cur) () rest := by
  have hfuel : body.length < cur.rest.length + 1 := by
    rw [h, List.length_append]
    omega
  exact skipStringFrom_leaves hbody hfuel h

/-! ## Digits -/

/-- No digit follows, so that a run of digits ends here. -/
def EndsDigits (rest : List Char) : Prop := ∀ c, rest.head? = some c → c.isDigit = false

/-- A run of digits is cut off where no digit follows. -/
theorem takeWhile_digits {ds rest : List Char} (hds : ∀ d ∈ ds, d.isDigit)
    (hrest : EndsDigits rest) :
    (ds ++ rest).takeWhile Char.isDigit = ds ∧ (ds ++ rest).dropWhile Char.isDigit = rest := by
  rw [List.takeWhile_append_of_pos hds, List.dropWhile_append_of_pos hds]
  cases rest with
  | nil => simp
  | cons c rest =>
    have hc := hrest c rfl
    simp [hc]

/-- Skipping digits leaves what stands behind their run. -/
theorem rest_skipDigits_of_digits {ds rest : List Char} (hds : ∀ d ∈ ds, d.isDigit)
    (hrest : EndsDigits rest) {cur : Cursor} (h : cur.rest = ds ++ rest) :
    cur.skipDigits.rest = rest := by
  rw [Cursor.rest_skipDigits, h, (takeWhile_digits hds hrest).2]

/-- The number of digits that follow is the length of their run. -/
theorem digitCount_of_digits {ds rest : List Char} (hds : ∀ d ∈ ds, d.isDigit)
    (hrest : EndsDigits rest) {cur : Cursor} (h : cur.rest = ds ++ rest) :
    cur.digitCount = ds.length := by
  rw [Cursor.digitCount, h, (takeWhile_digits hds hrest).1]

/-- The next character of a text that is known is its first one. -/
theorem peekOrNull_eq {cur : Cursor} {a : Char} {rest : List Char} (h : cur.rest = a :: rest) :
    cur.peekOrNull = a := by
  rw [Cursor.peekOrNull, Cursor.peek_eq, h]
  rfl

/-- A character that no part of a number begins with does not follow, also where the text ends. -/
theorem peekOrNull_ne {cur : Cursor} {rest : List Char} (h : cur.rest = rest) {a : Char}
    (ha : a ≠ '\x00') (hrest : rest.head? ≠ some a) : cur.peekOrNull ≠ a := by
  rw [Cursor.peekOrNull, Cursor.peek_eq, h]
  cases hhead : rest.head? with
  | none => exact fun he => ha he.symm
  | some b =>
    intro he
    exact hrest (hhead.trans (congrArg some he))

/-- Appending digits takes as many of them as the number has room for: all of them, or fewer, and
then the number is too large. -/
theorem appendDigits_spec (ds : List Char) (n : Nat) (hn : n ≤ maxWord) :
    (appendDigits n ds).2 = ds.length ∧ (appendDigits n ds).1 = Nat.ofDigitChars 10 ds n ∧
        Nat.ofDigitChars 10 ds n ≤ maxWord ∨
      (appendDigits n ds).2 < ds.length ∧ maxWord < Nat.ofDigitChars 10 ds n := by
  induction ds generalizing n with
  | nil => exact .inl ⟨rfl, rfl, hn⟩
  | cons d ds ih =>
    have hle (ds : List Char) (m : Nat) : m ≤ Nat.ofDigitChars 10 ds m := by
      rw [Nat.ofDigitChars_eq_ofDigitChars_zero]
      have := Nat.le_mul_of_pos_left m (Nat.pow_pos (n := ds.length) (by decide : 0 < 10))
      omega
    rw [appendDigits]
    dsimp only
    have hstep : 10 * n + (d.toNat - 48) = 10 * n + (d.toNat - '0'.toNat) := rfl
    rw [Nat.ofDigitChars_cons, ← hstep]
    split
    · next hlarge => exact .inr ⟨Nat.zero_lt_succ _, Nat.lt_of_lt_of_le hlarge (hle ds _)⟩
    · next hsmall =>
      rcases ih _ (Nat.not_lt.1 hsmall) with ⟨hcount, hvalue, hmax⟩ | ⟨hcount, hmax⟩
      · exact .inl ⟨congrArg (· + 1) hcount, hvalue, hmax⟩
      · exact .inr ⟨Nat.succ_lt_succ hcount, hmax⟩

/-! ## Numbers -/

/-- A number ends where no character follows that would belong to it, a digit, a point or the letter
of an exponent. -/
def EndsNumber (rest : List Char) : Prop :=
  ∀ c, rest.head? = some c → c.isDigit = false ∧ c ≠ '.' ∧ c ≠ 'e' ∧ c ≠ 'E'

/-- Where a number ends, its digits end. -/
theorem EndsNumber.endsDigits {rest : List Char} (h : EndsNumber rest) : EndsDigits rest :=
  fun c hc => (h c hc).1

/-- The digits before an exponent end there, and the exponent is not taken for a fraction. -/
theorem endsDigits_exponent {exponent rest : List Char} (h : IsExponent exponent)
    (hrest : EndsNumber rest) :
    EndsDigits (exponent ++ rest) ∧ (exponent ++ rest).head? ≠ some '.' := by
  rcases h with rfl | ⟨letter, hletter, sign, -, ds, -, rfl⟩
  · exact ⟨hrest.endsDigits, fun h => (hrest _ h).2.1 rfl⟩
  · have hletter : letter.isDigit = false ∧ letter ≠ '.' := by
      simp only [List.mem_cons, List.not_mem_nil, or_false] at hletter
      rcases hletter with rfl | rfl <;> decide
    refine ⟨fun c hc => ?_, fun h => hletter.2 (Option.some.inj h)⟩
    obtain rfl := Option.some.inj hc
    exact hletter.1

/-- The digits before a fraction or an exponent end there. -/
theorem endsDigits_fraction {fraction exponent rest : List Char} (h : IsFraction fraction)
    (hexponent : IsExponent exponent) (hrest : EndsNumber rest) :
    EndsDigits (fraction ++ (exponent ++ rest)) := by
  rcases h with rfl | ⟨ds, -, rfl⟩
  · exact (endsDigits_exponent hexponent hrest).1
  · intro c hc
    obtain rfl := Option.some.inj hc
    decide

/-- Where a number ends, the letter of an exponent does not follow. -/
theorem no_exponent_follows {rest : List Char} (hrest : EndsNumber rest) {cur : Cursor}
    (h : cur.rest = rest) : ¬ (cur.peekOrNull = 'e' ∨ cur.peekOrNull = 'E') := by
  refine not_or.2 ⟨peekOrNull_ne h (by decide) fun he => ?_,
    peekOrNull_ne h (by decide) fun he => ?_⟩
  · exact (hrest _ he).2.2.1 rfl
  · exact (hrest _ he).2.2.2 rfl

/-! ### Skipping numbers -/

/-- A run of one digit at least is skipped to its end. -/
theorem skipSomeDigits_leaves {ds rest : List Char} (hds : AreDigits ds) (hrest : EndsDigits rest)
    {cur : Cursor} (h : cur.rest = ds ++ rest) : Leaves (skipSomeDigits cur) () rest := by
  have hcount := digitCount_of_digits hds.2 hrest h
  have hne : ds.length ≠ 0 := fun h => hds.1 (List.length_eq_zero_iff.1 h)
  rw [skipSomeDigits, hcount, if_neg hne]
  exact ⟨_, rfl, rest_skipDigits_of_digits hds.2 hrest h⟩

/-- The cursor behind an optional sign, where the digits of an exponent begin. -/
theorem rest_afterSign {sign ds rest : List Char} (hsign : sign ∈ [[], ['+'], ['-']])
    (hds : AreDigits ds) {cur : Cursor} (h : cur.rest = sign ++ (ds ++ rest)) :
    (if cur.peekOrNull = '+' ∨ cur.peekOrNull = '-' then cur.advance else cur).rest =
      ds ++ rest := by
  obtain ⟨d, ds, rfl⟩ := List.exists_cons_of_ne_nil hds.1
  have hdigit : d.isDigit := hds.2 d List.mem_cons_self
  simp only [List.mem_cons, List.not_mem_nil, or_false] at hsign
  rcases hsign with rfl | rfl | rfl
  · have hpeek : cur.peekOrNull = d := peekOrNull_eq h
    have hplus : d ≠ '+' := by rintro rfl; revert hdigit; decide
    have hminus : d ≠ '-' := by rintro rfl; revert hdigit; decide
    rw [hpeek, if_neg (not_or.2 ⟨hplus, hminus⟩), h]
    rfl
  · rw [peekOrNull_eq h, if_pos (.inl rfl), Cursor.rest_advance, h]
    rfl
  · rw [peekOrNull_eq h, if_pos (.inr rfl), Cursor.rest_advance, h]
    rfl

/-- The exponent of a number is skipped, or nothing if it has none. -/
theorem skipScale_leaves {exponent rest : List Char} (hexponent : IsExponent exponent)
    (hrest : EndsNumber rest) {cur : Cursor} (h : cur.rest = exponent ++ rest) :
    Leaves (skipScale cur) () rest := by
  rw [skipScale]
  rcases hexponent with rfl | ⟨letter, hletter, sign, hsign, ds, hds, rfl⟩
  · rw [if_neg (no_exponent_follows hrest h)]
    exact ⟨cur, rfl, h⟩
  · have hpeek : cur.peekOrNull = letter := peekOrNull_eq h
    simp only [List.mem_cons, List.not_mem_nil, or_false] at hletter
    rw [hpeek, if_pos hletter, skipExponent]
    refine skipSomeDigits_leaves hds hrest.endsDigits (rest_afterSign hsign hds ?_)
    rw [Cursor.rest_advance, h]
    simp

/-- The fraction and the exponent of a number are skipped, as far as it has them. -/
theorem skipNumeralEnd_leaves {fraction exponent rest : List Char} (hfraction : IsFraction fraction)
    (hexponent : IsExponent exponent) (hrest : EndsNumber rest) {cur : Cursor}
    (h : cur.rest = fraction ++ (exponent ++ rest)) : Leaves (skipNumeralEnd cur) () rest := by
  rw [skipNumeralEnd]
  obtain ⟨hdigits, hpoint⟩ := endsDigits_exponent hexponent hrest
  rcases hfraction with rfl | ⟨ds, hds, rfl⟩
  · rw [if_neg (peekOrNull_ne h (by decide) hpoint)]
    exact skipScale_leaves hexponent hrest h
  · have hadvance := cur.rest_advance
    rw [h] at hadvance
    obtain ⟨cur', hskip, hcur'⟩ := skipSomeDigits_leaves hds hdigits hadvance
    rw [if_pos (peekOrNull_eq h), hskip]
    exact skipScale_leaves hexponent hrest hcur'

/-- A number is skipped to its end, whatever parts it has. -/
theorem skipNumeral_leaves {whole fraction exponent rest : List Char} (hwhole : IsWhole whole)
    (hfraction : IsFraction fraction) (hexponent : IsExponent exponent) (hrest : EndsNumber rest)
    {cur : Cursor} (h : cur.rest = whole ++ (fraction ++ (exponent ++ rest))) :
    Leaves (skipNumeral cur) () rest := by
  have hends := endsDigits_fraction hfraction hexponent hrest
  obtain ⟨d, ds, hd⟩ := List.exists_cons_of_ne_nil hwhole.1.1
  have hpeek : cur.peekOrNull = d := peekOrNull_eq (h.trans (by rw [hd]; rfl))
  have hdigit : d.isDigit := hwhole.1.2 d (hd ▸ List.mem_cons_self)
  rw [skipNumeral, hpeek]
  split
  · next hzero =>
    have hone : whole = ['0'] := hwhole.2 (by rw [hd, hzero]; rfl)
    have hadvance := cur.rest_advance
    rw [h, hone] at hadvance
    have hnot : cur.advance.peekOrNull.isDigit = false := by
      rw [Cursor.peekOrNull, Cursor.peek_eq, hadvance]
      cases hhead : (fraction ++ (exponent ++ rest)).head? with
      | none => simp [hhead]
      | some c => simpa [hhead] using hends c hhead
    dsimp only
    rw [hnot]
    exact skipNumeralEnd_leaves hfraction hexponent hrest hadvance
  · exact skipNumeralEnd_leaves hfraction hexponent hrest
      (rest_skipDigits_of_digits hwhole.1.2 hends h)

/-! ### Reading numbers -/

/-- Reading a number stops behind it, with a result, or refuses it; a refusal is no matter here. -/
def Stops (result : Numeral → Prop) (rest : List Char) (r : Outcome Numeral) : Prop :=
  ∀ n c, r = .ok (n, c) → result n ∧ c.rest = rest

/-- A number that is no count, since it has a fraction or is negative. -/
def IsNoCount (n : Numeral) : Prop := ∀ d, countOfNumeral n ≠ .ok d

/-- A fraction is no count, also if its value is whole. -/
theorem isNoCount_fraction (x : Binary64) : IsNoCount (.fraction x) := nofun

/-- A refusal of a number stops anywhere. -/
theorem Stops.error {result : Numeral → Prop} {rest : List Char} (e : Failure) :
    Stops result rest (.error e) := nofun

/-- A number that was read stops where the rest of the text begins. -/
theorem Stops.ok {result : Numeral → Prop} {rest : List Char} {n : Numeral} {c : Cursor}
    (hn : result n) (hc : c.rest = rest) : Stops result rest (.ok (n, c)) := by
  intro n' c' he
  obtain ⟨rfl, rfl⟩ := Prod.mk.inj (Except.ok.inj he)
  exact ⟨hn, hc⟩

/-- A fraction that is made of its parts stops at once, and is refused if it is too large. -/
theorem fractionOf_stops {positive : Bool} {significand : Nat} {power : Int} {rest : List Char}
    {cur : Cursor} (h : cur.rest = rest) :
    Stops IsNoCount rest (fractionOf positive significand power cur) := by
  rw [fractionOf]
  split
  · exact .ok (isNoCount_fraction _) h
  · exact .error _

/-- The digits of an exponent are taken, up to the one that makes it too large. -/
theorem readExponentDigits_spec {ds rest : List Char} (hds : ∀ d ∈ ds, d.isDigit) (n : Nat)
    {cur : Cursor} (h : cur.rest = ds ++ rest) :
    (readExponentDigits n ds.length cur).2.2 = false ∧
        (readExponentDigits n ds.length cur).2.1.rest = rest ∨
      (readExponentDigits n ds.length cur).2.2 = true ∧
        ∃ ds', (∀ d ∈ ds', d.isDigit) ∧
          (readExponentDigits n ds.length cur).2.1.rest = ds' ++ rest := by
  induction ds generalizing n cur with
  | nil => exact .inl ⟨rfl, h⟩
  | cons d ds ih =>
    have hadvance := cur.rest_advance
    rw [h] at hadvance
    have hds' : ∀ d ∈ ds, d.isDigit := fun d hd => hds d (List.mem_cons_of_mem _ hd)
    rw [List.length_cons, readExponentDigits]
    split
    · exact .inr ⟨rfl, ds, hds', hadvance⟩
    · exact ih hds' _ hadvance

/-- Reading an exponent stops behind its digits, with a fraction or a refusal. -/
theorem readExponent_stops {positive : Bool} {significand : Nat} {power : Int}
    {letter : Char} {sign ds rest : List Char} (hsign : sign ∈ [[], ['+'], ['-']])
    (hds : AreDigits ds) (hrest : EndsNumber rest) {cur : Cursor}
    (h : cur.rest = letter :: (sign ++ (ds ++ rest))) :
    Stops IsNoCount rest (readExponent positive significand power cur) := by
  have hadvance := cur.rest_advance
  rw [h] at hadvance
  have hsigned := rest_afterSign hsign hds hadvance
  rw [readExponent]
  dsimp only
  generalize (if cur.advance.peekOrNull = '+' ∨ cur.advance.peekOrNull = '-' then
    cur.advance.advance else cur.advance) = cur' at hsigned
  obtain ⟨d, ds, rfl⟩ := List.exists_cons_of_ne_nil hds.1
  have hdigit : d.isDigit := hds.2 d List.mem_cons_self
  have hds' : ∀ d ∈ ds, d.isDigit := fun d hd => hds.2 d (List.mem_cons_of_mem _ hd)
  have hpeek : cur'.peek = some d := by rw [Cursor.peek_eq, hsigned]; rfl
  have hbehind := cur'.rest_advance
  rw [hsigned] at hbehind
  have hcount : cur'.advance.digitCount = ds.length :=
    digitCount_of_digits hds' hrest.endsDigits hbehind
  rw [hpeek]
  simp only [hdigit, if_true, hcount]
  rcases readExponentDigits_spec hds' (d.toNat - 48) hbehind with
    ⟨hlarge, hend⟩ | ⟨hlarge, ds', hds', hend⟩
  · rw [hlarge]
    exact fractionOf_stops hend
  · rw [hlarge]
    simp only [if_true]
    split
    · exact .error _
    · exact .ok (isNoCount_fraction _) (rest_skipDigits_of_digits hds' hrest.endsDigits hend)

/-- Reading an exponent that may be missing stops behind it. -/
theorem readScale_stops {positive : Bool} {significand : Nat} {power : Int}
    {exponent rest : List Char} (hexponent : IsExponent exponent) (hrest : EndsNumber rest)
    {cur : Cursor} (h : cur.rest = exponent ++ rest) :
    Stops IsNoCount rest (readScale positive significand power cur) := by
  rw [readScale]
  rcases hexponent with rfl | ⟨letter, hletter, sign, hsign, ds, hds, rfl⟩
  · rw [if_neg (no_exponent_follows hrest h)]
    exact fractionOf_stops h
  · have hletter' : cur.rest = letter :: (sign ++ (ds ++ rest)) := by simpa using h
    simp only [List.mem_cons, List.not_mem_nil, or_false] at hletter
    rw [peekOrNull_eq h, if_pos hletter]
    exact readExponent_stops hsign hds hrest hletter'

/-- Reading the digits behind a point and an exponent stops behind them. -/
theorem readFraction_stops {positive : Bool} {significand : Nat} {power : Int}
    {ds exponent rest : List Char} (hds : AreDigits ds) (hexponent : IsExponent exponent)
    (hrest : EndsNumber rest) {cur : Cursor} (h : cur.rest = '.' :: (ds ++ (exponent ++ rest))) :
    Stops IsNoCount rest (readFraction positive significand power cur) := by
  have hends := (endsDigits_exponent hexponent hrest).1
  have hadvance := cur.rest_advance
  rw [h] at hadvance
  have htake : cur.advance.rest.takeWhile Char.isDigit = ds := by
    rw [hadvance]
    exact (takeWhile_digits hds.2 hends).1
  rw [readFraction]
  simp only [htake, if_neg hds.1]
  exact readScale_stops hexponent hrest (rest_skipDigits_of_digits hds.2 hends hadvance)

/-- Reading a number with more digits than a word holds stops behind it, always with a fraction. -/
theorem readLong_stops {positive : Bool} {significand : Nat} {power : Int}
    {fraction exponent rest : List Char} (hfraction : IsFraction fraction)
    (hexponent : IsExponent exponent) (hrest : EndsNumber rest) {cur : Cursor}
    (h : cur.rest = fraction ++ (exponent ++ rest)) :
    Stops IsNoCount rest (readLong positive significand power cur) := by
  rw [readLong]
  rcases hfraction with rfl | ⟨ds, hds, rfl⟩
  · rw [if_neg (peekOrNull_ne h (by decide) (endsDigits_exponent hexponent hrest).2)]
    exact readScale_stops hexponent hrest h
  · rw [if_pos (peekOrNull_eq h)]
    exact readFraction_stops hds hexponent hrest h

/-- Behind the whole part of a number the next character decides: a point, an exponent, or the end
with a whole number. -/
theorem readNumeralEnd_eq {positive : Bool} {significand : Nat} {cur : Cursor} :
    readNumeralEnd positive significand cur =
      if cur.peekOrNull = '.' then readFraction positive significand 0 cur
      else if cur.peekOrNull = 'e' ∨ cur.peekOrNull = 'E' then
        readExponent positive significand 0 cur
      else if positive then .ok (.whole significand, cur)
      else if 0 < significand ∧ significand ≤ Nat.pow 2 63 then .ok (.whole (-significand), cur)
      else .ok (.fraction (Binary64.ofNat significand).negate, cur) := by
  rw [readNumeralEnd]
  split
  · next he => rw [if_pos he]
  · next he => simp [he]
  · next he => simp [he]
  · next hpoint hsmall hcapital =>
    have hletter : ¬ (cur.peekOrNull = 'e' ∨ cur.peekOrNull = 'E') :=
      not_or.2 ⟨hsmall, hcapital⟩
    rw [if_neg hpoint, if_neg hletter]

/-- A number below zero is no count. -/
theorem isNoCount_negative {n : Nat} (h : 0 < n) : IsNoCount (.whole (-n)) := by
  intro d
  have hneg : ¬ (0 ≤ -(n : Int) ∧ -(n : Int) < Nat.pow 2 32) := by omega
  rw [countOfNumeral, Document.countOf, if_neg hneg]
  nofun

/-- Reading the end of a number stops behind it, with no count, unless it is a whole number without
a sign. -/
theorem readNumeralEnd_stops {positive : Bool} {significand : Nat}
    {fraction exponent rest : List Char} (hfraction : IsFraction fraction)
    (hexponent : IsExponent exponent) (hrest : EndsNumber rest)
    (hplain : ¬ (positive ∧ fraction = [] ∧ exponent = [])) {cur : Cursor}
    (h : cur.rest = fraction ++ (exponent ++ rest)) :
    Stops IsNoCount rest (readNumeralEnd positive significand cur) := by
  rw [readNumeralEnd_eq]
  rcases hfraction with rfl | ⟨ds, hds, rfl⟩
  · rw [if_neg (peekOrNull_ne h (by decide) (endsDigits_exponent hexponent hrest).2)]
    rcases hexponent with rfl | ⟨letter, hletter, sign, hsign, ds, hds, rfl⟩
    · have hpositive : positive = false := by
        cases positive with
        | false => rfl
        | true => exact absurd ⟨rfl, rfl, rfl⟩ hplain
      subst hpositive
      rw [if_neg (no_exponent_follows hrest h), if_neg Bool.false_ne_true]
      split
      · next hpos => exact .ok (isNoCount_negative hpos.1) h
      · exact .ok (isNoCount_fraction _) h
    · have hletter' : cur.rest = letter :: (sign ++ (ds ++ rest)) := by simpa using h
      simp only [List.mem_cons, List.not_mem_nil, or_false] at hletter
      rw [peekOrNull_eq h, if_pos hletter]
      exact readExponent_stops hsign hds hrest hletter'
  · rw [if_pos (peekOrNull_eq h)]
    exact readFraction_stops hds hexponent hrest h

/-- Where nothing belongs to a number any more, it is the whole number that its digits are. -/
theorem readNumeralEnd_whole {significand : Nat} {rest : List Char} (hrest : EndsNumber rest)
    {cur : Cursor} (h : cur.rest = rest) :
    Leaves (readNumeralEnd true significand cur) (.whole significand) rest := by
  have hpoint : cur.peekOrNull ≠ '.' :=
    peekOrNull_ne h (by decide) fun he => (hrest _ he).2.1 rfl
  rw [readNumeralEnd_eq, if_neg hpoint, if_neg (no_exponent_follows hrest h), if_pos rfl]
  exact ⟨cur, rfl, h⟩

/-- Reading the whole part of a number, by the number of digits that fit. -/
theorem readNumeral_eq {positive : Bool} {whole rest : List Char} (hwhole : IsWhole whole)
    (hrest : EndsDigits rest) {cur : Cursor} (h : cur.rest = whole ++ rest) :
    ∃ cur', cur'.rest = rest ∧
      (Nat.ofDigitChars 10 whole 0 ≤ maxWord ∧ readNumeral positive cur =
          readNumeralEnd positive (Nat.ofDigitChars 10 whole 0) cur' ∨
        maxWord < Nat.ofDigitChars 10 whole 0 ∧ ∃ significand power,
          readNumeral positive cur = readLong positive significand power cur') := by
  obtain ⟨d, ds, hd⟩ := List.exists_cons_of_ne_nil hwhole.1.1
  have hdigit : d.isDigit := hwhole.1.2 d (hd ▸ List.mem_cons_self)
  have hpeek : cur.peek = some d := by rw [Cursor.peek_eq, h, hd]; rfl
  rw [readNumeral, hpeek]
  dsimp only
  by_cases hzero : d = '0'
  · have hone : whole = ['0'] := hwhole.2 (by rw [hd, hzero]; rfl)
    have hadvance := cur.rest_advance
    rw [h, hone] at hadvance
    have hnot : cur.advance.peekOrNull.isDigit = false := by
      rw [Cursor.peekOrNull, Cursor.peek_eq, hadvance]
      cases hhead : rest.head? with
      | none => simp [hhead]
      | some c => simpa [hhead] using hrest c hhead
    refine ⟨cur.advance, hadvance, .inl ⟨by rw [hone]; decide, ?_⟩⟩
    rw [if_pos hzero, hnot, hone]
    rfl
  · have htake : cur.rest.takeWhile Char.isDigit = whole := by
      rw [h]
      exact (takeWhile_digits hwhole.1.2 hrest).1
    refine ⟨cur.skipDigits, rest_skipDigits_of_digits hwhole.1.2 hrest h, ?_⟩
    simp only [if_neg hzero, hdigit, if_true, htake]
    rcases appendDigits_spec whole 0 (Nat.zero_le _) with
      ⟨hcount, hvalue, hmax⟩ | ⟨hcount, hmax⟩
    · have hall : ¬ (appendDigits 0 whole).2 < whole.length := by omega
      exact .inl ⟨hmax, by rw [if_neg hall, hvalue]⟩
    · exact .inr ⟨hmax, _, _, if_pos hcount⟩

/-- **A whole number is read**, if it is not too large for a word of 64 bits. -/
theorem readNumeral_whole {whole rest : List Char} (hwhole : IsWhole whole)
    (hmax : Nat.ofDigitChars 10 whole 0 ≤ maxWord) (hrest : EndsNumber rest) {cur : Cursor}
    (h : cur.rest = whole ++ rest) :
    Leaves (readNumeral true cur) (.whole (Nat.ofDigitChars 10 whole 0)) rest := by
  obtain ⟨cur', hcur', ⟨-, hread⟩ | ⟨hlarge, -⟩⟩ := readNumeral_eq hwhole hrest.endsDigits h
  · rw [hread]
    exact readNumeralEnd_whole hrest hcur'
  · exact absurd hmax (Nat.not_le.2 hlarge)

/-- **Any other number is no count:** one with a sign, a fraction, an exponent, or too many
digits. -/
theorem readNumeral_stops {positive : Bool} {whole fraction exponent rest : List Char}
    (hwhole : IsWhole whole) (hfraction : IsFraction fraction) (hexponent : IsExponent exponent)
    (hrest : EndsNumber rest)
    (hplain : ¬ (positive ∧ fraction = [] ∧ exponent = [] ∧
      Nat.ofDigitChars 10 whole 0 ≤ maxWord)) {cur : Cursor}
    (h : cur.rest = whole ++ (fraction ++ (exponent ++ rest))) :
    Stops IsNoCount rest (readNumeral positive cur) := by
  have hends := endsDigits_fraction hfraction hexponent hrest
  obtain ⟨cur', hcur', ⟨hmax, hread⟩ | ⟨hlarge, significand, power, hread⟩⟩ :=
    readNumeral_eq hwhole hends h
  · rw [hread]
    refine readNumeralEnd_stops hfraction hexponent hrest (fun hp => hplain ?_) hcur'
    exact ⟨hp.1, hp.2.1, hp.2.2, hmax⟩
  · rw [hread]
    exact readLong_stops hfraction hexponent hrest hcur'

end Json
end CommitForm
