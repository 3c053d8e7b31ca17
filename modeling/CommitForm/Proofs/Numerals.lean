/-
# Texts of numbers

| text | grammar |
| --- | --- |
| empty | |
| infinity | `[+-]? Infinity` |
| radix literal | `0 [xX]`, `0 [oO]` or `0 [bB]`, and one or more digits of that radix |
| decimal literal | `[+-]? (D+ (. D*)? \| . D+) ([eE] [+-]? D+)?` |

These are the numerals (`Literal.Numeral`).  A string counts as a number exactly if it is a numeral
after trimming, and so does an array whose text is one (`Value.toNumber_ne_nan_iff`).  The other
texts are `NaN`, among them words such as `inf` that readers of numbers elsewhere take, and radix
literals with a sign.
-/

import CommitForm.Proofs.Lexer
import CommitForm.When.Value

namespace CommitForm

/-! ## No number is lost in rounding -/

namespace Binary64

/-- A number that is made of a sign, a significand and an exponent is a number, if perhaps an
infinite one. -/
theorem ofParts_ne_nan (negative : Bool) (m e : Nat) : ofParts negative m e ≠ nan := by
  rw [ofParts]
  split <;> simp

/-- The number nearest to a fraction is a number. -/
theorem nearest_ne_nan (negative : Bool) (num den : Nat) : nearest negative num den ≠ nan := by
  rw [nearest]
  split <;> exact ofParts_ne_nan _ _ _

end Binary64

namespace Literal

/-- A whole number times a power of ten is a number after rounding. -/
theorem scaled_ne_nan (negative : Bool) (n : Nat) (power : Int) :
    scaled negative n power ≠ .nan := by
  rw [scaled]
  split
  · simp
  · dsimp only
    split
    · simp
    · split
      · simp
      · split <;> exact Binary64.nearest_ne_nan _ _ _

/-- A digit behind a number makes a number, also behind an infinite one. -/
theorem appendDigit_ne_nan {acc : Binary64} (h : acc ≠ .nan) (radix d : Nat) :
    appendDigit radix acc d ≠ .nan := by
  cases acc with
  | finite negative a =>
    rw [appendDigit]
    exact Binary64.nearest_ne_nan _ _ _
  | _ => exact h

/-- Digits behind a number make a number, by induction on the digits. -/
theorem foldl_appendDigit_ne_nan {acc : Binary64} (h : acc ≠ .nan) (radix : Nat)
    (values : List Nat) : values.foldl (appendDigit radix) acc ≠ .nan := by
  induction values generalizing acc with
  | nil => exact h
  | cons d values ih => exact ih (appendDigit_ne_nan h radix d)

/-! ## The grammar -/

/-- A run of digits: `D+`, of which there is one at least. -/
def IsRun (ds : List Char) : Prop := ds ≠ [] ∧ ∀ d ∈ ds, isDigit d = true

/-- A sign that may be left out: `[+-]?`, in front of a number or of its exponent. -/
def IsSign (cs : List Char) : Prop := cs = [] ∨ cs = ['+'] ∨ cs = ['-']

/-- A number without sign and exponent: `D+ (. D*)? | . D+`, so that there is a digit on one side of
the point. -/
inductive Mantissa : List Char → Prop where
  | whole {ds : List Char} (hds : IsRun ds) : Mantissa ds
  | point {ds fs : List Char} (hds : IsRun ds) (hfs : ∀ d ∈ fs, isDigit d = true) :
      Mantissa (ds ++ '.' :: fs)
  | fraction {fs : List Char} (hfs : IsRun fs) : Mantissa ('.' :: fs)

/-- An exponent that may be left out: `([eE] [+-]? D+)?`, with at least one digit if it is there. -/
inductive Exponent : List Char → Prop where
  | absent : Exponent []
  | present {c : Char} {s ds : List Char} (hc : c = 'e' ∨ c = 'E') (hs : IsSign s)
      (hds : IsRun ds) : Exponent (c :: (s ++ ds))

/-- The text of a number, blanks around it taken off: empty, an infinity, a decimal literal, or
digits of another radix. -/
inductive Numeral : List Char → Prop where
  | empty : Numeral []
  | infinity {s : List Char} (hs : IsSign s) : Numeral (s ++ "Infinity".toList)
  | hexadecimal {c : Char} {ds : List Char} (hc : c = 'x' ∨ c = 'X') (hne : ds ≠ [])
      (hds : ∀ d ∈ ds, '0' ≤ d ∧ d ≤ '9' ∨ 'a' ≤ d ∧ d ≤ 'f' ∨ 'A' ≤ d ∧ d ≤ 'F') :
      Numeral ('0' :: c :: ds)
  | octal {c : Char} {ds : List Char} (hc : c = 'o' ∨ c = 'O') (hne : ds ≠ [])
      (hds : ∀ d ∈ ds, '0' ≤ d ∧ d ≤ '7') : Numeral ('0' :: c :: ds)
  | binary {c : Char} {ds : List Char} (hc : c = 'b' ∨ c = 'B') (hne : ds ≠ [])
      (hds : ∀ d ∈ ds, '0' ≤ d ∧ d ≤ '1') : Numeral ('0' :: c :: ds)
  | decimal {s m e : List Char} (hs : IsSign s) (hm : Mantissa m) (he : Exponent e) :
      Numeral (s ++ m ++ e)

/-! ## Decimal literals -/

/-- A text is a sign that may be missing and what is left behind it. -/
theorem exists_sign (cs : List Char) : ∃ s, IsSign s ∧ cs = s ++ (sign cs).2 := by
  fun_cases sign cs with
  | case1 rest => exact ⟨['-'], .inr (.inr rfl), rfl⟩
  | case2 rest => exact ⟨['+'], .inr (.inl rfl), rfl⟩
  | case3 => exact ⟨[], .inl rfl, rfl⟩

/-- A sign, if there is one, is taken off what begins with no sign. -/
theorem sign_append {s rest : List Char} (hs : IsSign s)
    (hrest : ∀ c, rest.head? = some c → c ≠ '-' ∧ c ≠ '+') : (sign (s ++ rest)).2 = rest := by
  rcases hs with rfl | rfl | rfl
  · rw [List.nil_append]
    fun_cases sign rest with
    | case1 rest => exact absurd rfl (hrest '-' rfl).1
    | case2 rest => exact absurd rfl (hrest '+' rfl).2
    | case3 => rfl
  · rfl
  · rfl

/-- A digit is no sign, so a number without a sign is not cut in front. -/
theorem ne_sign_of_isDigit {c : Char} (h : isDigit c = true) : c ≠ '-' ∧ c ≠ '+' := by
  constructor
  · rintro rfl
    cases h
  · rintro rfl
    cases h

/-- What begins with a run of digits begins with no sign. -/
theorem IsRun.ne_sign {ds : List Char} (h : IsRun ds) (rest : List Char) (c : Char)
    (hc : (ds ++ rest).head? = some c) : c ≠ '-' ∧ c ≠ '+' := by
  obtain ⟨hne, hds⟩ := h
  cases ds with
  | nil => exact absurd rfl hne
  | cons d ds =>
    obtain rfl := Option.some.inj hc
    exact ne_sign_of_isDigit (hds d List.mem_cons_self)

/-- The reader of exponents takes exactly the exponents, nothing at all among them. -/
theorem exponent?_isSome_iff {cs : List Char} : (exponent? cs).isSome = true ↔ Exponent cs := by
  constructor
  · intro h
    cases cs with
    | nil => exact .absent
    | cons c cs =>
      obtain ⟨s, hs, hcs⟩ := exists_sign cs
      rw [exponent?] at h
      split at h
      · next hc =>
        cases hsign : sign cs with
        | mk negative ds =>
          rw [hsign] at h hcs
          dsimp only at h
          split at h
          · next hds =>
            rw [hcs]
            exact .present hc hs ⟨hds.1, List.all_eq_true.1 hds.2⟩
          · cases h
      · cases h
  · intro h
    cases h with
    | absent => rfl
    | @present c s ds hc hs hds =>
      have hrest : (sign (s ++ ds)).2 = ds :=
        sign_append hs fun c hc => hds.ne_sign [] c (by rwa [List.append_nil])
      rw [exponent?, if_pos hc]
      cases hsign : sign (s ++ ds) with
      | mk negative rest =>
        rw [hsign] at hrest
        subst hrest
        dsimp only
        rw [if_pos ⟨hds.1, List.all_eq_true.2 hds.2⟩]
        rfl

/-- An exponent begins with no digit and no point, so it is not taken for a part of the mantissa. -/
theorem Exponent.head {e : List Char} (h : Exponent e) (c : Char) (hc : e.head? = some c) :
    isDigit c = false ∧ c ≠ '.' := by
  cases h with
  | absent => cases hc
  | present he hs hds =>
    obtain rfl := Option.some.inj hc
    rcases he with rfl | rfl <;> decide

/-- The digits behind a decimal point, and the rest; nothing where there is no point. -/
def fractionOf : List Char → List Char × List Char
  | '.' :: cs => (cs.takeWhile isDigit, cs.dropWhile isDigit)
  | cs => ([], cs)

/-- Without a point there is no fraction, and nothing is taken. -/
theorem fractionOf_of_ne {cs : List Char} (h : cs.head? ≠ some '.') : fractionOf cs = ([], cs) := by
  fun_cases fractionOf cs with
  | case1 cs => exact absurd rfl h
  | case2 => rfl

/-- The reader of numbers without sign step by step: a run of digits, a fraction, and an exponent by
which all of them are scaled. -/
theorem unsigned?_eq (negative : Bool) (cs : List Char) :
    unsigned? negative cs =
      if cs.takeWhile isDigit = [] ∧ (fractionOf (cs.dropWhile isDigit)).1 = [] then none
      else (exponent? (fractionOf (cs.dropWhile isDigit)).2).map fun e =>
        scaled negative
          (digitsValue (cs.takeWhile isDigit ++ (fractionOf (cs.dropWhile isDigit)).1))
          (e - ((fractionOf (cs.dropWhile isDigit)).1.length : Int)) := rfl

/-- A number without sign is read if there is a digit on one side of the point and an exponent
behind. -/
theorem unsigned?_isSome_iff {negative : Bool} {cs : List Char} :
    (unsigned? negative cs).isSome = true ↔
      ¬ (cs.takeWhile isDigit = [] ∧ (fractionOf (cs.dropWhile isDigit)).1 = []) ∧
        Exponent (fractionOf (cs.dropWhile isDigit)).2 := by
  rw [unsigned?_eq, ← exponent?_isSome_iff]
  split
  · next h => exact iff_of_false (by simp) fun hnot => hnot.1 h
  · next h => rw [Option.isSome_map, and_iff_right h]

/-- What is read as a number without sign is a mantissa with an exponent. -/
theorem exists_mantissa {negative : Bool} {cs : List Char}
    (h : (unsigned? negative cs).isSome = true) :
    ∃ m e, cs = m ++ e ∧ Mantissa m ∧ Exponent e := by
  have hdigits (cs : List Char) (d : Char) (hd : d ∈ cs.takeWhile isDigit) : isDigit d = true :=
    List.mem_takeWhile_imp hd
  have hcut (cs : List Char) : cs.takeWhile isDigit ++ cs.dropWhile isDigit = cs :=
    List.takeWhile_append_dropWhile
  obtain ⟨hsome, he⟩ := unsigned?_isSome_iff.1 h
  rw [← hcut cs]
  generalize hrest : cs.dropWhile isDigit = rest at hsome he
  fun_cases fractionOf rest with
  | case1 fraction =>
    by_cases hempty : cs.takeWhile isDigit = []
    · refine ⟨'.' :: fraction.takeWhile isDigit, _, ?_,
        .fraction ⟨fun hnil => hsome ⟨hempty, hnil⟩, hdigits fraction⟩, he⟩
      rw [hempty, List.nil_append, List.cons_append, fractionOf, hcut]
    · refine ⟨cs.takeWhile isDigit ++ '.' :: fraction.takeWhile isDigit, _, ?_,
        .point ⟨hempty, hdigits cs⟩ (hdigits fraction), he⟩
      rw [List.append_assoc, List.cons_append, fractionOf, hcut]
  | case2 hpoint =>
    rw [fractionOf_of_ne (by cases rest <;> simp_all)] at he hsome
    exact ⟨cs.takeWhile isDigit, rest, rfl, .whole ⟨fun hnil => hsome ⟨hnil, rfl⟩, hdigits cs⟩, he⟩

/-- A mantissa with an exponent is read as a number without sign. -/
theorem unsigned?_of_mantissa {m e : List Char} (hm : Mantissa m) (he : Exponent e)
    (negative : Bool) : (unsigned? negative (m ++ e)).isSome = true := by
  have hend (c : Char) (hc : e.head? = some c) : isDigit c = false := (he.head c hc).1
  have hpoint (rest : List Char) (c : Char) (hc : ('.' :: rest).head? = some c) :
      isDigit c = false := by
    obtain rfl := Option.some.inj hc
    rfl
  rw [unsigned?_isSome_iff]
  cases hm with
  | whole hds =>
    rw [When.takeWhile_append_of_head hds.2 hend, When.dropWhile_append_of_head hds.2 hend,
      fractionOf_of_ne fun hc => (he.head '.' hc).2 rfl]
    exact ⟨fun h => hds.1 h.1, he⟩
  | @point ds fs hds hfs =>
    rw [List.append_assoc, List.cons_append, When.takeWhile_append_of_head hds.2 (hpoint _),
      When.dropWhile_append_of_head hds.2 (hpoint _), fractionOf,
      When.dropWhile_append_of_head hfs hend]
    exact ⟨fun h => hds.1 h.1, he⟩
  | @fraction fs hfs =>
    have hnone : ∀ d ∈ ([] : List Char), isDigit d = true := fun d hd => absurd hd List.not_mem_nil
    rw [List.cons_append, ← List.nil_append ('.' :: (fs ++ e)),
      When.takeWhile_append_of_head hnone (hpoint _),
      When.dropWhile_append_of_head hnone (hpoint _), fractionOf,
      When.takeWhile_append_of_head hfs.2 hend, When.dropWhile_append_of_head hfs.2 hend]
    exact ⟨fun h => hfs.1 h.2, he⟩

/-- A mantissa begins with no sign, but with a digit or a point. -/
theorem Mantissa.ne_sign {m : List Char} (h : Mantissa m) (rest : List Char) (c : Char)
    (hc : (m ++ rest).head? = some c) : c ≠ '-' ∧ c ≠ '+' := by
  cases h with
  | whole hds => exact hds.ne_sign rest c hc
  | point hds hfs =>
    rw [List.append_assoc] at hc
    exact hds.ne_sign _ c hc
  | fraction hfs =>
    obtain rfl := Option.some.inj hc
    decide

/-- A decimal literal is read by its sign first and then by what is left. -/
theorem decimal?_eq (cs : List Char) : decimal? cs = unsigned? (sign cs).1 (sign cs).2 := rfl

/-- **The reader of decimal literals takes exactly the decimal literals,** with or without sign,
fraction and exponent. -/
theorem decimal?_isSome_iff {cs : List Char} :
    (decimal? cs).isSome = true ↔
      ∃ s m e, cs = s ++ m ++ e ∧ IsSign s ∧ Mantissa m ∧ Exponent e := by
  rw [decimal?_eq]
  constructor
  · intro h
    obtain ⟨s, hs, hcs⟩ := exists_sign cs
    obtain ⟨m, e, hme, hm, he⟩ := exists_mantissa h
    exact ⟨s, m, e, by rw [List.append_assoc, ← hme, ← hcs], hs, hm, he⟩
  · rintro ⟨s, m, e, rfl, hs, hm, he⟩
    rw [List.append_assoc, sign_append hs (hm.ne_sign e)]
    exact unsigned?_of_mantissa hm he _

/-- What is read as a decimal literal is a number, if perhaps an infinite one. -/
theorem decimal?_ne_nan (cs : List Char) : decimal? cs ≠ some .nan := by
  rw [decimal?_eq, unsigned?_eq]
  split
  · simp
  · intro h
    obtain ⟨e, -, he⟩ := Option.map_eq_some_iff.1 h
    exact scaled_ne_nan _ _ _ he

/-- Where `NaN` stands for a text that is no decimal literal, it stands for nothing else. -/
theorem getD_decimal?_ne_nan_iff {cs : List Char} :
    (decimal? cs).getD .nan ≠ .nan ↔ (decimal? cs).isSome = true := by
  cases h : decimal? cs with
  | none => simp
  | some n =>
    exact iff_of_true (fun hn => decimal?_ne_nan cs (by rw [h]; exact congrArg some hn)) rfl

/-- A digit may stand in a decimal literal. -/
theorem isDecimalChar_of_isDigit {c : Char} (h : isDigit c = true) : isDecimalChar c = true := by
  simp [isDecimalChar, h]

/-- The characters of a sign may stand in a decimal literal. -/
theorem IsSign.isDecimalChar {s : List Char} (h : IsSign s) :
    ∀ c ∈ s, isDecimalChar c = true := by
  intro c hc
  rcases h with rfl | rfl | rfl
  · cases hc
  · obtain rfl := List.mem_singleton.1 hc
    decide
  · obtain rfl := List.mem_singleton.1 hc
    decide

/-- The characters of a mantissa may stand in a decimal literal. -/
theorem Mantissa.isDecimalChar {m : List Char} (h : Mantissa m) :
    ∀ c ∈ m, isDecimalChar c = true := by
  intro c hc
  cases h with
  | whole hds => exact isDecimalChar_of_isDigit (hds.2 c hc)
  | point hds hfs =>
    rcases List.mem_append.1 hc with hc | hc
    · exact isDecimalChar_of_isDigit (hds.2 c hc)
    · rcases List.mem_cons.1 hc with rfl | hc
      · rfl
      · exact isDecimalChar_of_isDigit (hfs c hc)
  | fraction hfs =>
    rcases List.mem_cons.1 hc with rfl | hc
    · rfl
    · exact isDecimalChar_of_isDigit (hfs.2 c hc)

/-- The characters of an exponent may stand in a decimal literal. -/
theorem Exponent.isDecimalChar {e : List Char} (h : Exponent e) :
    ∀ c ∈ e, isDecimalChar c = true := by
  intro d hd
  cases h with
  | absent => cases hd
  | present hc hs hds =>
    rcases List.mem_cons.1 hd with rfl | hd
    · rcases hc with rfl | rfl <;> rfl
    · rcases List.mem_append.1 hd with hd | hd
      · exact hs.isDecimalChar d hd
      · exact isDecimalChar_of_isDigit (hds.2 d hd)

/-- The characters of decimal literals are looked at first; no decimal literal is lost by it. -/
theorem all_isDecimalChar {s m e : List Char} (hs : IsSign s) (hm : Mantissa m) (he : Exponent e) :
    (s ++ m ++ e).all isDecimalChar = true := by
  refine List.all_eq_true.2 fun c hc => ?_
  rcases List.mem_append.1 hc with hc | hc
  · rcases List.mem_append.1 hc with hc | hc
    · exact hs.isDecimalChar c hc
    · exact hm.isDecimalChar c hc
  · exact he.isDecimalChar c hc

/-! ## Radix literals -/

/-- Characters are ordered by their code points, which lets bounds of digits be compared as
numbers. -/
theorem le_iff_toNat_le (a b : Char) : a ≤ b ↔ a.toNat ≤ b.toNat := Iff.rfl

/-- The digits of a radix are the decimal digits and letters of either case below it. -/
theorem isSome_radixDigit?_iff {radix : Nat} {c : Char} :
    (radixDigit? radix c).isSome = true ↔
      '0' ≤ c ∧ c ≤ '9' ∧ c.toNat < radix + 48 ∨ 'a' ≤ c ∧ c ≤ 'f' ∧ c.toNat < radix + 87 ∨
        'A' ≤ c ∧ c ≤ 'F' ∧ c.toNat < radix + 55 := by
  have hfilter (n : Nat) : ((some n).filter (· < radix)).isSome = true ↔ n < radix := by
    simp [Option.filter]
  rw [radixDigit?]
  simp only [le_iff_toNat_le, Char.reduceToNat]
  split
  · rw [hfilter]
    omega
  · split
    · rw [hfilter]
      omega
    · split
      · rw [hfilter]
        omega
      · refine iff_of_false (by simp) ?_
        omega

/-- The letters of the radices sixteen, eight and two, in either case. -/
theorem radixOf?_eq_some_iff {c : Char} {radix : Nat} : radixOf? c = some radix ↔
    radix = 16 ∧ (c = 'x' ∨ c = 'X') ∨ radix = 8 ∧ (c = 'o' ∨ c = 'O') ∨
      radix = 2 ∧ (c = 'b' ∨ c = 'B') := by
  rw [radixOf?]
  constructor
  · intro h
    split at h
    · next hc => exact .inl ⟨(Option.some.inj h).symm, hc⟩
    · split at h
      · next hc => exact .inr (.inl ⟨(Option.some.inj h).symm, hc⟩)
      · split at h
        · next hc => exact .inr (.inr ⟨(Option.some.inj h).symm, hc⟩)
        · cases h
  · rintro (⟨rfl, rfl | rfl⟩ | ⟨rfl, rfl | rfl⟩ | ⟨rfl, rfl | rfl⟩) <;> rfl

/-- The letter of a radix stands in no decimal literal, so the two kinds of literals exclude each
other. -/
theorem not_isDecimalChar {c : Char} {radix : Nat} (h : radixOf? c = some radix) :
    isDecimalChar c = false := by
  rcases radixOf?_eq_some_iff.1 h with ⟨-, rfl | rfl⟩ | ⟨-, rfl | rfl⟩ | ⟨-, rfl | rfl⟩ <;> rfl

/-- Of the texts that begin with a radix prefix those with digits behind it are numerals. -/
theorem numeral_radix_iff {c : Char} {radix : Nat} (hc : radixOf? c = some radix)
    {ds : List Char} :
    Numeral ('0' :: c :: ds) ↔ ds ≠ [] ∧ ∀ d ∈ ds, (radixDigit? radix d).isSome = true := by
  have hdigit (d : Char) : (radixDigit? radix d).isSome = true ↔
      radix = 16 ∧ ('0' ≤ d ∧ d ≤ '9' ∨ 'a' ≤ d ∧ d ≤ 'f' ∨ 'A' ≤ d ∧ d ≤ 'F') ∨
        radix = 8 ∧ ('0' ≤ d ∧ d ≤ '7') ∨ radix = 2 ∧ ('0' ≤ d ∧ d ≤ '1') := by
    have hradix := radixOf?_eq_some_iff.1 hc
    rw [isSome_radixDigit?_iff]
    simp only [le_iff_toNat_le, Char.reduceToNat]
    omega
  simp only [hdigit]
  constructor
  · intro h
    generalize hcs : '0' :: c :: ds = cs at h
    cases h with
    | empty => cases hcs
    | infinity hs => rcases hs with rfl | rfl | rfl <;> simp at hcs
    | @hexadecimal c' ds' hx hne hds =>
      obtain ⟨rfl, rfl⟩ := List.cons.inj (List.cons.inj hcs).2
      refine ⟨hne, fun d hd => .inl ⟨?_, hds d hd⟩⟩
      rcases hx with rfl | rfl <;> exact (Option.some.inj hc).symm
    | @octal c' ds' ho hne hds =>
      obtain ⟨rfl, rfl⟩ := List.cons.inj (List.cons.inj hcs).2
      refine ⟨hne, fun d hd => .inr (.inl ⟨?_, hds d hd⟩)⟩
      rcases ho with rfl | rfl <;> exact (Option.some.inj hc).symm
    | @binary c' ds' hb hne hds =>
      obtain ⟨rfl, rfl⟩ := List.cons.inj (List.cons.inj hcs).2
      refine ⟨hne, fun d hd => .inr (.inr ⟨?_, hds d hd⟩)⟩
      rcases hb with rfl | rfl <;> exact (Option.some.inj hc).symm
    | decimal hs hm he =>
      have hall := all_isDecimalChar hs hm he
      rw [← hcs, List.all_cons, List.all_cons, (not_isDecimalChar hc), Bool.false_and,
        Bool.and_false] at hall
      cases hall
  · rintro ⟨hne, hds⟩
    rcases radixOf?_eq_some_iff.1 hc with ⟨rfl, hx⟩ | ⟨rfl, ho⟩ | ⟨rfl, hb⟩
    · exact .hexadecimal hx hne fun d hd => by simpa using hds d hd
    · exact .octal ho hne fun d hd => by simpa using hds d hd
    · exact .binary hb hne fun d hd => by simpa using hds d hd

/-- All items have images just if each of them has one. -/
theorem isSome_mapM_iff {α β : Type} {f : α → Option β} {as : List α} :
    (as.mapM f).isSome = true ↔ ∀ a ∈ as, (f a).isSome = true := by
  induction as with
  | nil => simp
  | cons a as ih =>
    rw [List.mapM_cons, List.forall_mem_cons, ← ih]
    cases f a with
    | none => simp
    | some b => cases as.mapM f <;> simp

/-- The digits behind a radix make a number just if there is one and all are digits of the radix. -/
theorem radixValue_ne_nan_iff {radix : Nat} {ds : List Char} :
    radixValue radix ds ≠ .nan ↔ ds ≠ [] ∧ ∀ d ∈ ds, (radixDigit? radix d).isSome = true := by
  rw [radixValue]
  split
  · next h => exact iff_of_false (fun hnan => hnan rfl) fun hne => hne.1 h
  · next hne =>
    rw [← isSome_mapM_iff, and_iff_right hne]
    cases ds.mapM (radixDigit? radix) with
    | none => simp
    | some values => exact iff_of_true (foldl_appendDigit_ne_nan (by simp [Binary64.zero]) _ _) rfl

/-- A text has a radix if it begins with a zero and the letter of one; what follows is not looked
at. -/
theorem radixLiteral?_eq_some_iff {cs ds : List Char} {radix : Nat} :
    radixLiteral? cs = some (radix, ds) ↔ ∃ c, cs = '0' :: c :: ds ∧ radixOf? c = some radix := by
  fun_cases radixLiteral? cs with
  | case1 c rest =>
    rw [Option.map_eq_some_iff]
    constructor
    · rintro ⟨radix', hc, heq⟩
      obtain ⟨rfl, rfl⟩ := Prod.mk.inj heq
      exact ⟨c, rfl, hc⟩
    · rintro ⟨c', hcs, hc⟩
      obtain ⟨rfl, rfl⟩ := List.cons.inj (List.cons.inj hcs).2
      exact ⟨radix, hc, rfl⟩
  | case2 =>
    refine iff_of_false (by simp) ?_
    rintro ⟨c, rfl, -⟩
    simp_all

/-! ## Numerals -/

/-- Decimal numerals are those that spell no infinity and have no radix, and that are not empty. -/
theorem numeral_iff_decimal {cs : List Char} (hempty : cs ≠ [])
    (hplus : ¬ (cs = "Infinity".toList ∨ cs = "+Infinity".toList))
    (hminus : cs ≠ "-Infinity".toList) (hradix : radixLiteral? cs = none) :
    Numeral cs ↔ ∃ s m e, cs = s ++ m ++ e ∧ IsSign s ∧ Mantissa m ∧ Exponent e := by
  have hno {c : Char} {ds : List Char} (hcs : cs = '0' :: c :: ds) : radixOf? c = none := by
    rw [hcs, radixLiteral?] at hradix
    exact Option.map_eq_none_iff.1 hradix
  constructor
  · intro h
    cases h with
    | empty => exact absurd rfl hempty
    | infinity hs =>
      rcases hs with rfl | rfl | rfl
      · exact absurd (.inl rfl) hplus
      · exact absurd (.inr rfl) hplus
      · exact absurd rfl hminus
    | hexadecimal hx => rcases hx with rfl | rfl <;> cases hno rfl
    | octal ho => rcases ho with rfl | rfl <;> cases hno rfl
    | binary hb => rcases hb with rfl | rfl <;> cases hno rfl
    | decimal hs hm he => exact ⟨_, _, _, rfl, hs, hm, he⟩
  · rintro ⟨s, m, e, rfl, hs, hm, he⟩
    exact .decimal hs hm he

/-- The numerals are the texts with a number; every other text is `NaN`, blanks around it taken
off. -/
theorem ofTrimmed_ne_nan_iff {cs : List Char} : ofTrimmed cs ≠ .nan ↔ Numeral cs := by
  rw [ofTrimmed]
  split
  · next h => exact iff_of_true (by simp [Binary64.zero]) (h ▸ .empty)
  next hempty =>
  split
  · next h =>
    refine iff_of_true (by simp) ?_
    rcases h with rfl | rfl
    · exact .infinity (.inl rfl)
    · exact .infinity (.inr (.inl rfl))
  next hplus =>
  split
  · next h => exact iff_of_true (by simp) (h ▸ .infinity (.inr (.inr rfl)))
  next hminus =>
  split
  · next radix ds h =>
    obtain ⟨c, rfl, hc⟩ := radixLiteral?_eq_some_iff.1 h
    rw [numeral_radix_iff hc, radixValue_ne_nan_iff]
  · next hradix =>
    rw [numeral_iff_decimal hempty hplus hminus hradix]
    split
    · rw [getD_decimal?_ne_nan_iff, decimal?_isSome_iff]
    · next hchars =>
      refine iff_of_false (fun h => h rfl) ?_
      rintro ⟨s, m, e, rfl, hs, hm, he⟩
      exact hchars (all_isDecimalChar hs hm he)

end Literal

namespace When
namespace Value

/-- **A string is a number exactly if it is a numeral after trimming,** and an array if its text,
the texts of its items joined by commas, is one. -/
theorem toNumber_ne_nan_iff (s : String) (items : List Value) :
    ((string s).toNumber ≠ .nan ↔ Literal.Numeral (Text.trimChars s.toList)) ∧
      ((array items).toNumber ≠ .nan ↔
        Literal.Numeral (Text.trimChars (String.intercalate "," (itemTexts items)).toList)) := by
  have hnumeric (s : String) :
      Literal.numeric s ≠ .nan ↔ Literal.Numeral (Text.trimChars s.toList) :=
    Literal.ofTrimmed_ne_nan_iff
  rw [toNumber, toNumber, text]
  exact ⟨hnumeric s, hnumeric _⟩

end Value
end When

end CommitForm
