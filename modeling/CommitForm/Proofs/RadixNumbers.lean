/-
# Numbers read digit by digit

A radix literal is read one digit at a time, and the number is rounded at each digit.  In a radix
`2 ^ k` that is exact as long as the number lies below `2 ^ 53`.  From there on a digit is less than
half a step of the format, so it is lost: the digits behind the first one that reaches `2 ^ 53`
count for zeros (`Literal.foldl_appendDigit`).

Zeros in the place of these digits are rounded as the digits are, except where the zeros make up the
middle between two numbers and the lower one has an even mantissa: then the literal is rounded down,
though it lies above the middle (`When.Value.toNumber_radix`).
-/

import Mathlib.Data.List.Forall2
import Mathlib.Data.List.Induction
import Mathlib.Data.Nat.Digits.Defs
import CommitForm.Proofs.Numerals
import CommitForm.Proofs.Rounding

namespace CommitForm
namespace Literal

open Binary64

/-- The number that a digit in a radix makes of the one before it: at `2 ^ 53` digits stop to
count. -/
def keepDigit (radix n d : Nat) : Nat := if n < 2 ^ 53 then n * radix + d else n * radix

/-- The number of the digits that count, the others being zeros.  This is an exact number of any
length, which is rounded only once. -/
def keptValue (radix : Nat) (values : List Nat) : Nat := values.foldl (keepDigit radix) 0

/-- A number below `2 ^ 53` of steps that are not too large is not rounded. -/
theorem exists_ofUnits {n u : Nat} (hn : n < 2 ^ 53) (hu : u ≤ 2044) :
    ∃ a : Magnitude, ofUnits (n * 2 ^ u) = .finite false a ∧ a.units = n * 2 ^ u := by
  have hlt : n * 2 ^ u < 2 ^ (u + 53) := by
    rw [Nat.add_comm, Nat.pow_add]
    exact Nat.mul_lt_mul_of_pos_right hn (Nat.two_pow_pos u)
  have hexponent : exponentFor (n * 2 ^ u) ≤ u := by
    by_contra h
    have hle := (two_pow_exponentFor_le (n := n * 2 ^ u) (by omega)).trans_lt hlt
    have := (Nat.pow_lt_pow_iff_right (by decide)).1 hle
    omega
  obtain ⟨j, hj⟩ := Nat.exists_eq_add_of_le hexponent
  have hmultiple : n * 2 ^ u = n * 2 ^ j * 2 ^ exponentFor (n * 2 ^ u) := by
    rw [Nat.mul_assoc, ← Nat.pow_add, Nat.add_comm j, ← hj]
  have hexact : mantissaFor (n * 2 ^ u) * 2 ^ exponentFor (n * 2 ^ u) = n * 2 ^ u := by
    rw [mantissaFor, roundDiv_eq (m := n * 2 ^ j), ← hmultiple]
    rw [← hmultiple, Nat.dist_self]
    exact Nat.two_pow_pos _
  rcases ofUnits_cases (n * 2 ^ u) with ⟨a, ha, -, hunits, -⟩ | ⟨-, hover⟩
  · exact ⟨a, ha, hunits.trans hexact⟩
  · have : n * 2 ^ u < overflow := lt_of_exponentFor_le (hexponent.trans hu)
    omega

/-- What is less than half a step is lost behind a number of 53 bits that has been shifted. -/
theorem ofUnits_shift_add {n k δ : Nat} {a : Magnitude} (hn : 2 ^ 52 ≤ n)
    (ha : ofUnits n = .finite false a) (hδ : 2 * δ < 2 ^ (exponentFor n + k)) :
    ofUnits (a.units * 2 ^ k + δ) = ofUnits (n * 2 ^ k) := by
  have hunits : a.units = mantissaFor n * 2 ^ exponentFor n := by
    rcases ofUnits_cases n with ⟨b, hb, -, hunits, -⟩ | ⟨hinfinite, -⟩
    · obtain rfl : a = b := by simpa using ha.symm.trans hb
      exact hunits
    · rw [hinfinite] at ha
      cases ha
  have hmin : 2 ^ 52 ≤ mantissaFor n := by
    by_cases h : exponentFor n = 0
    · rw [mantissaFor, h, roundDiv_eq (m := n)]
      · exact hn
      · rw [Nat.pow_zero, Nat.mul_one, Nat.dist_self]
        decide
    · exact le_mantissaFor h
  obtain ⟨hexponent, hmantissa⟩ := mantissaFor_shift hn k
  rw [hunits, Nat.mul_assoc, ← Nat.pow_add]
  rcases Nat.lt_or_eq_of_le (mantissaFor_le n) with hlt | hmax
  · rw [ofUnits, ofUnits, hexponent, hmantissa, exponentFor_add hmin hlt (by omega),
      mantissaFor_add hmin hlt hδ]
  · have hcarry :
        mantissaFor n * 2 ^ (exponentFor n + k) = 2 ^ 52 * 2 ^ (exponentFor n + k + 1) := by
      rw [hmax, Nat.pow_succ _ (exponentFor n + k)]
      ring
    have hδ' : 2 * δ < 2 ^ (exponentFor n + k + 1) := by
      rw [Nat.pow_succ]
      omega
    rw [hcarry, ofUnits, ofUnits, hexponent, hmantissa, hmax,
      exponentFor_add (Nat.le_refl _) (by decide) (by omega),
      mantissaFor_add (Nat.le_refl _) (by decide) hδ', if_pos rfl, if_neg (by decide)]

/-- A digit appended to a finite number, in units of the smallest magnitude: the units times the
radix and the digit, rounded together. -/
theorem appendDigit_finite (radix d : Nat) (a : Magnitude) :
    appendDigit radix (.finite false a) d = ofUnits (a.units * radix + d * Nat.pow 2 1074) := by
  rw [appendDigit, nearest_eq_ofUnits]

/-- One digit more: below `2 ^ 53` it is added exactly, and above it changes nothing. -/
theorem appendDigit_ofNat (k n : Nat) {d : Nat} (hd : d < 2 ^ k) :
    appendDigit (2 ^ k) (ofNat n) d = ofNat (keepDigit (2 ^ k) n d) := by
  obtain ⟨u, hu, hunit⟩ := exists_unit
  rw [keepDigit, ofNat_eq_ofUnits, ofNat_eq_ofUnits, hunit]
  split
  · next hn =>
    obtain ⟨a, ha, hunits⟩ := exists_ofUnits (u := u) hn (by omega)
    rw [ha, appendDigit_finite, hunits, hunit, Nat.add_mul, Nat.mul_right_comm]
  · next hn =>
    have hle := Nat.mul_le_mul_right (2 ^ u) (Nat.le_of_not_lt hn)
    rw [Nat.mul_right_comm]
    rcases ofUnits_cases (n * 2 ^ u) with ⟨a, ha, -⟩ | ⟨hinfinite, hover⟩
    · have hexponent : u < exponentFor (n * 2 ^ u) := by
        have hlt := hle.trans_lt (lt_two_pow_exponentFor (n * 2 ^ u))
        rw [← Nat.pow_add] at hlt
        have := (Nat.pow_lt_pow_iff_right (by decide)).1 hlt
        omega
      rw [ha, appendDigit_finite, hunit]
      refine ofUnits_shift_add ?_ ha ?_
      · have := Nat.mul_le_mul_left (2 ^ 53) (Nat.two_pow_pos u)
        omega
      · have hpow : 2 ^ (u + 1) ≤ 2 ^ exponentFor (n * 2 ^ u) :=
          Nat.pow_le_pow_right (by decide) hexponent
        rw [Nat.pow_add _ _ k, Nat.pow_succ] at *
        calc 2 * (d * 2 ^ u) = 2 ^ u * 2 * d := by ring
          _ < 2 ^ u * 2 * 2 ^ k := Nat.mul_lt_mul_of_pos_left hd (by positivity)
          _ ≤ 2 ^ exponentFor (n * 2 ^ u) * 2 ^ k := Nat.mul_le_mul_right _ hpow
    · have hgrow : n * 2 ^ u ≤ n * 2 ^ u * 2 ^ k := Nat.le_mul_of_pos_right _ (Nat.two_pow_pos k)
      rcases ofUnits_cases (n * 2 ^ u * 2 ^ k) with ⟨-, -, hbelow, -⟩ | ⟨hinfinite', -⟩
      · omega
      · rw [hinfinite, hinfinite']
        rfl

/-- **Reading stops counting.**  Rounded digit by digit, the digits give the number that the ones up
to `2 ^ 53` and zeros behind them give rounded once. -/
theorem foldl_appendDigit (k n : Nat) {values : List Nat} (hvalues : ∀ d ∈ values, d < 2 ^ k) :
    values.foldl (appendDigit (2 ^ k)) (ofNat n) = ofNat (values.foldl (keepDigit (2 ^ k)) n) := by
  induction values generalizing n with
  | nil => rw [List.foldl_nil, List.foldl_nil]
  | cons d values ih =>
    obtain ⟨hd, hvalues⟩ := List.forall_mem_cons.1 hvalues
    rw [List.foldl_cons, appendDigit_ofNat k n hd, ih _ hvalues, List.foldl_cons]

end Literal

/-! ## What is lost behind the digits that count -/

namespace Binary64

/-- The middle between a number with an even mantissa and the next one: rounding goes down there,
and up from there on. -/
def IsLowerTie (n : Nat) : Prop :=
  ∃ a : Magnitude, a.mantissa % 2 = 0 ∧ 2 * n = 2 * a.units + 2 ^ a.exponent

/-- A lower tie is an even mantissa and a half, in steps of its exponent.  So it is an integer whose
bits behind the mantissa are a one and zeros. -/
theorem IsLowerTie.exists_half {n : Nat} (h : IsLowerTie n) :
    ∃ m e, 2 ^ 52 ≤ m ∧ m < 2 ^ 53 ∧ m % 2 = 0 ∧ e ≤ 2044 ∧ n = m * 2 ^ (e + 1) + 2 ^ e := by
  obtain ⟨a, heven, htie⟩ := h
  have hexponent := a.exponent_le
  rw [Magnitude.units_eq] at htie
  obtain ⟨e, he⟩ : ∃ e, a.exponent = e + 1 := Nat.exists_eq_succ_of_ne_zero fun h => by
    rw [h] at htie
    omega
  refine ⟨a.mantissa, e, a.le_mantissa (by omega), a.mantissa_lt, heven, by omega, ?_⟩
  rw [he, Nat.pow_succ] at htie
  rw [Nat.pow_succ]
  omega

/-- A half above an even mantissa stays below the overflow, since the largest mantissa is odd. -/
theorem half_lt_overflow {m e : Nat} (hm : m < 2 ^ 53) (heven : m % 2 = 0) (he : e ≤ 2044) :
    m * 2 ^ (e + 1) + 2 ^ e < overflow := by
  have hmantissa : 2 * m + 1 < 2 ^ 54 - 1 := by omega
  have hpow {f : Nat} (h : e ≤ f) : 2 ^ e ≤ 2 ^ f := Nat.pow_le_pow_right (by decide) h
  have hbelow : m * 2 ^ (e + 1) + 2 ^ e < (2 ^ 54 - 1) * 2 ^ 2044 :=
    calc m * 2 ^ (e + 1) + 2 ^ e = (2 * m + 1) * 2 ^ e := by ring
      _ < (2 ^ 54 - 1) * 2 ^ e := Nat.mul_lt_mul_of_pos_right hmantissa (Nat.two_pow_pos e)
      _ ≤ (2 ^ 54 - 1) * 2 ^ 2044 := Nat.mul_le_mul_left _ (hpow he)
  exact hbelow

/-- A number is a lower tie if half a step is left over from its mantissa, and the mantissa is even.
This form can be decided by dividing. -/
theorem isLowerTie_iff {n e : Nat} (he : exponentFor n = e + 1) :
    IsLowerTie n ↔
      n < overflow ∧ n % 2 ^ (e + 1) = 2 ^ e ∧ n / 2 ^ (e + 1) % 2 = 0 := by
  constructor
  · intro h
    obtain ⟨m, f, hmin, hlt, heven, hf, rfl⟩ := h.exists_half
    have hhalf : 2 ^ f < 2 ^ (f + 1) := Nat.pow_lt_pow_right (by decide) (by omega)
    obtain rfl : f = e := by
      have := exponentFor_add hmin hlt hhalf
      omega
    refine ⟨half_lt_overflow hlt heven hf, ?_, ?_⟩
    · rw [Nat.mul_comm, Nat.mul_add_mod, Nat.mod_eq_of_lt hhalf]
    · rwa [Nat.mul_comm, Nat.mul_add_div (Nat.two_pow_pos _), Nat.div_eq_of_lt hhalf, Nat.add_zero]
  · rintro ⟨hlt, hmod, heven⟩
    have hn := Nat.div_add_mod' n (2 ^ (e + 1))
    have hexponent := exponentFor_le_of_lt (n := n) (e := 2044) hlt
    have hmax := lt_two_pow_exponentFor n
    have hmin := two_pow_exponentFor_le (n := n) (by omega)
    rw [he, Nat.pow_add] at hmax hmin
    have hmantissa : n / 2 ^ (e + 1) < 2 ^ 53 := Nat.div_lt_of_lt_mul hmax
    have hcanonical : 2 ^ 52 ≤ n / 2 ^ (e + 1) :=
      (Nat.le_div_iff_mul_le (Nat.two_pow_pos _)).2 (by omega)
    refine ⟨⟨n / 2 ^ (e + 1), e + 1, hmantissa, by omega, .inr hcanonical⟩, heven, ?_⟩
    rw [Magnitude.units_eq]
    dsimp only
    rw [Nat.pow_succ _ e] at *
    omega

/-- What is less than a step `G` changes the rounding of a number of steps to a multiple of `2 * H`
steps only above the middle between two multiples, if the lower one is even. -/
theorem roundDiv_add {c H G δ : Nat} (hδ : δ < G) :
    roundDiv (c * G + δ) (2 * H * G) = roundDiv (c * G) (2 * H * G) +
      if 0 < δ ∧ c % (2 * H) = H ∧ c / (2 * H) % 2 = 0 then 1 else 0 := by
  have hc : c * G = c / (2 * H) * (2 * H * G) + c % (2 * H) * G := by
    rw [← Nat.mul_assoc, ← Nat.add_mul, Nat.div_add_mod']
  have hdiv : (c * G + δ) / (2 * H * G) = c / (2 * H) := by
    rw [Nat.mul_comm (2 * H), ← Nat.div_div_eq_div_mul, Nat.mul_comm c, Nat.mul_add_div (by omega),
      Nat.div_eq_of_lt hδ, Nat.add_zero]
  have hmod : (c * G + δ) % (2 * H * G) = c % (2 * H) * G + δ := by
    have := Nat.div_add_mod' (c * G + δ) (2 * H * G)
    rw [hdiv] at this
    omega
  rw [roundDiv, roundDiv, hdiv, hmod, Nat.mul_div_mul_right _ _ (by omega), Nat.mul_mod_mul_right]
  have hhalf : 2 * H * G = 2 * (H * G) := Nat.mul_assoc ..
  -- the steps behind the lower multiple are fewer than `H`, as many or more
  rcases Nat.lt_trichotomy (c % (2 * H)) H with hlt | heq | hgt
  · have := Nat.mul_le_mul_right G hlt
    rw [Nat.succ_mul] at this
    rw [if_pos (by omega), if_pos (by omega), if_neg (by omega), Nat.add_zero]
  · rw [heq, hhalf, if_neg (by omega)]
    rcases Nat.eq_zero_or_pos δ with hzero | hpos
    · rw [if_neg (by omega), if_neg (by omega), if_neg (by omega), if_neg (by omega), Nat.add_zero]
    · rw [if_pos (by omega), if_neg (by omega), if_neg (by omega)]
      split <;> omega
  · have := Nat.mul_le_mul_right G hgt
    rw [Nat.succ_mul] at this
    rw [if_neg (by omega), if_pos (by omega), if_neg (by omega), if_pos (by omega),
      if_neg (by omega), Nat.add_zero]

/-- What is less than a step leaves the exponent as it is: added to a number of at least 54 bits
that has been shifted, it cannot carry as far as the leading bit. -/
theorem exponentFor_add_lost {c g δ : Nat} (hc : 2 ^ 53 ≤ c) (hδ : δ < 2 ^ g) :
    exponentFor (c * 2 ^ g + δ) = exponentFor c + g := by
  have hmin : 2 ^ (exponentFor c + 52) ≤ c := two_pow_exponentFor_le fun h => by
    have := lt_two_pow_exponentFor c
    rw [h] at this
    omega
  have hmax := Nat.mul_le_mul_right (2 ^ g) (lt_two_pow_exponentFor c)
  rw [Nat.succ_mul] at hmax
  refine exponentFor_eq ?_ ?_
  · rw [Nat.add_right_comm, Nat.pow_add]
    exact Nat.le_add_right_of_le (Nat.mul_le_mul_right _ hmin)
  · rw [Nat.add_right_comm, Nat.pow_add]
    omega

/-- The next mantissa is another number, unless both are beyond the finite ones.  A mantissa that is
carried to the next power of two counts here as the larger one. -/
theorem ofUnits_eq_iff_of_succ {m n : Nat} (hexponent : exponentFor n = exponentFor m)
    (hmantissa : mantissaFor n = mantissaFor m + 1) (hle : m ≤ n) :
    ofUnits n = ofUnits m ↔ overflow ≤ m := by
  rcases ofUnits_cases m with ⟨a, ha, hlt, hunits, -⟩ | ⟨hinfinite, hover⟩
  · refine iff_of_false (fun heq => ?_) (Nat.not_le.2 hlt)
    rcases ofUnits_cases n with ⟨b, hb, -, hunits', -⟩ | ⟨hinfinite, -⟩
    · obtain rfl : a = b := by simpa using ha.symm.trans (heq.symm.trans hb)
      rw [hunits', hexponent] at hunits
      have := Nat.eq_of_mul_eq_mul_right (Nat.two_pow_pos _) hunits
      omega
    · rw [heq, ha] at hinfinite
      cases hinfinite
  · refine iff_of_true ?_ hover
    rcases ofUnits_cases n with ⟨-, -, hlt, -⟩ | ⟨hinfinite', -⟩
    · omega
    · exact hinfinite'.trans hinfinite.symm

/-- **What is lost makes no difference except above a lower tie.**  Elsewhere the zeros in the place
of the lost digits are on the same side of the middle, or in the middle of an odd mantissa. -/
theorem ofUnits_add_eq_iff {c g δ : Nat} (hc : 2 ^ 53 ≤ c) (hδ : δ < 2 ^ g) :
    ofUnits (c * 2 ^ g + δ) = ofUnits (c * 2 ^ g) ↔ ¬ (0 < δ ∧ IsLowerTie (c * 2 ^ g)) := by
  obtain ⟨j, hj⟩ : ∃ j, exponentFor c = j + 1 := Nat.exists_eq_succ_of_ne_zero fun h => by
    have := lt_two_pow_exponentFor c
    rw [h] at this
    omega
  have hexponent : exponentFor (c * 2 ^ g) = j + g + 1 := by
    rw [(mantissaFor_shift (by omega) g).1, hj]
    omega
  have hexponent' : exponentFor (c * 2 ^ g + δ) = j + g + 1 := by
    rw [exponentFor_add_lost hc hδ, hj]
    omega
  have hstep : 2 ^ (j + g + 1) = 2 * 2 ^ j * 2 ^ g := by ring
  have htie : IsLowerTie (c * 2 ^ g) ↔
      c * 2 ^ g < overflow ∧ c % (2 * 2 ^ j) = 2 ^ j ∧ c / (2 * 2 ^ j) % 2 = 0 := by
    rw [isLowerTie_iff hexponent, hstep, Nat.pow_add, Nat.mul_mod_mul_right,
      Nat.mul_div_mul_right _ _ (Nat.two_pow_pos g), Nat.mul_left_inj (by omega)]
  have hmantissa : mantissaFor (c * 2 ^ g + δ) = mantissaFor (c * 2 ^ g) +
      if 0 < δ ∧ c % (2 * 2 ^ j) = 2 ^ j ∧ c / (2 * 2 ^ j) % 2 = 0 then 1 else 0 := by
    rw [mantissaFor, mantissaFor, hexponent, hexponent', hstep, roundDiv_add hδ]
  rw [htie]
  by_cases h : 0 < δ ∧ c % (2 * 2 ^ j) = 2 ^ j ∧ c / (2 * 2 ^ j) % 2 = 0
  · rw [if_pos h] at hmantissa
    rw [ofUnits_eq_iff_of_succ (hexponent'.trans hexponent.symm) hmantissa (Nat.le_add_right _ _)]
    exact ⟨fun hover hno => absurd hno.2.1 (Nat.not_lt.2 hover),
      fun hno => Nat.not_lt.1 fun hlt => hno ⟨h.1, hlt, h.2⟩⟩
  · rw [if_neg h, Nat.add_zero] at hmantissa
    refine iff_of_true ?_ fun hno => h ⟨hno.1, hno.2.2⟩
    rw [ofUnits, ofUnits, hexponent, hexponent', hmantissa]

end Binary64

/-! ## Digits -/

namespace Literal

open Binary64

/-- A digit in a radix, in small or capital letters: the digits from ten on are the letters from `a`
on. -/
def Denotes (radix : Nat) (c : Char) (d : Nat) : Prop :=
  d < radix ∧ (c = Nat.digitChar d ∨ c = (Nat.digitChar d).toUpper)

/-- The digits that the reader accepts in a radix are the characters that denote a number below the
radix, each with the number it denotes. -/
theorem radixDigit?_eq_some_iff {radix d : Nat} {c : Char} (hradix : radix ≤ 16) :
    radixDigit? radix c = some d ↔ Denotes radix c d := by
  have hfilter (n : Nat) : (some n).filter (· < radix) = some d ↔ n = d ∧ d < radix := by
    simp [Option.filter_eq_some_iff]
  constructor
  · intro h
    have hchar (n : Nat) (hn : c.toNat = n) : c = Char.ofNat n := by rw [← hn, Char.ofNat_toNat]
    have hdecimal : ∀ d < 10, Char.ofNat (d + 48) = Nat.digitChar d := by decide
    have hsmall : ∀ d < 6, Char.ofNat (d + 97) = Nat.digitChar (d + 10) := by decide
    have hcapital : ∀ d < 6, Char.ofNat (d + 65) = (Nat.digitChar (d + 10)).toUpper := by decide
    rw [radixDigit?] at h
    simp only [le_iff_toNat_le, Char.reduceToNat] at h
    split at h
    · next hrange =>
      obtain ⟨rfl, hd⟩ := (hfilter _).1 h
      refine ⟨hd, .inl ?_⟩
      rw [← hdecimal _ (by omega)]
      exact hchar _ (by omega)
    · split at h
      · next hrange =>
        obtain ⟨rfl, hd⟩ := (hfilter _).1 h
        refine ⟨hd, .inl ?_⟩
        rw [show c.toNat - 87 = c.toNat - 97 + 10 by omega, ← hsmall _ (by omega)]
        exact hchar _ (by omega)
      · split at h
        · next hrange =>
          obtain ⟨rfl, hd⟩ := (hfilter _).1 h
          refine ⟨hd, .inr ?_⟩
          rw [show c.toNat - 55 = c.toNat - 65 + 10 by omega, ← hcapital _ (by omega)]
          exact hchar _ (by omega)
        · cases h
  · rintro ⟨hd, hc⟩
    have hsixteen : ∀ d < 16, radixDigit? 16 (Nat.digitChar d) = some d ∧
        radixDigit? 16 (Nat.digitChar d).toUpper = some d := by decide
    have hc : radixDigit? 16 c = some d := by
      rcases hc with rfl | rfl
      · exact (hsixteen d (by omega)).1
      · exact (hsixteen d (by omega)).2
    rw [radixDigit?, Option.filter_eq_some_iff] at hc ⊢
    exact ⟨hc.1, by simpa using hd⟩

/-- The reader gets values from a run of characters if each of them denotes its value, and the run
of values is then the only one. -/
theorem mapM_radixDigit?_eq_some_iff {radix : Nat} (hradix : radix ≤ 16) {ds : List Char}
    {values : List Nat} :
    ds.mapM (radixDigit? radix) = some values ↔ List.Forall₂ (Denotes radix) ds values := by
  induction ds generalizing values with
  | nil => rw [List.mapM_nil, List.forall₂_nil_left_iff, Option.pure_def, Option.some_inj, eq_comm]
  | cons c ds ih =>
    rw [List.forall₂_cons_left_iff, List.mapM_cons]
    simp only [Option.bind_eq_bind, Option.bind_eq_some_iff, radixDigit?_eq_some_iff hradix, ih,
      Option.pure_def, Option.some_inj]
    constructor
    · rintro ⟨d, hd, rest, hrest, rfl⟩
      exact ⟨d, rest, hd, hrest, rfl⟩
    · rintro ⟨d, rest, hd, hrest, rfl⟩
      exact ⟨d, hd, rest, hrest, rfl⟩

/-- The value of a run of digits is what appending them one by one to zero gives.  A run without
digits has no value and is excluded. -/
theorem radixValue_eq_foldl {radix : Nat} (hradix : radix ≤ 16) {ds : List Char} {values : List Nat}
    (hne : ds ≠ []) (hvalues : List.Forall₂ (Denotes radix) ds values) :
    radixValue radix ds = values.foldl (appendDigit radix) .zero := by
  rw [radixValue, if_neg hne, (mapM_radixDigit?_eq_some_iff hradix).2 hvalues]

/-- The values of digits are below the radix, as rounding digit by digit requires. -/
theorem lt_of_forall₂_denotes {radix : Nat} {ds : List Char} {values : List Nat}
    (h : List.Forall₂ (Denotes radix) ds values) : ∀ d ∈ values, d < radix := by
  induction h with
  | nil => simp
  | cons hd _ ih => exact List.forall_mem_cons.2 ⟨hd.1, ih⟩

/-- The radices of literals are powers of two, and the largest is sixteen. -/
theorem radixOf?_eq_two_pow {c : Char} {radix : Nat} (h : radixOf? c = some radix) :
    radix ≤ 16 ∧ ∃ k, radix = 2 ^ k := by
  rcases radixOf?_eq_some_iff.1 h with ⟨rfl, -⟩ | ⟨rfl, -⟩ | ⟨rfl, -⟩
  · exact ⟨by decide, 4, rfl⟩
  · exact ⟨by decide, 3, rfl⟩
  · exact ⟨by decide, 1, rfl⟩

/-- What follows the prefix of a radix literal makes up the number.  Neither a sign nor the decimal
reading gets in the way, as the prefix has a letter. -/
theorem numeric_radix {s : String} {c : Char} {radix : Nat} {ds : List Char}
    (htrim : Text.trimChars s.toList = '0' :: c :: ds) (hc : radixOf? c = some radix) :
    numeric s = radixValue radix ds := by
  have hliteral : radixLiteral? ('0' :: c :: ds) = some (radix, ds) :=
    radixLiteral?_eq_some_iff.2 ⟨c, rfl, hc⟩
  rw [numeric, htrim, ofTrimmed, if_neg (by simp), if_neg (by simp), if_neg (by simp), hliteral]

/-- The digits that count make up the number, or 53 bits and more of it. -/
theorem keptValue_cases {k : Nat} {values : List Nat} (hvalues : ∀ d ∈ values, d < 2 ^ k) :
    keptValue (2 ^ k) values = Nat.ofDigits (2 ^ k) values.reverse ∧
        keptValue (2 ^ k) values < 2 ^ 53 ∨
      ∃ c g, 2 ^ 53 ≤ c ∧ keptValue (2 ^ k) values = c * 2 ^ g ∧
        keptValue (2 ^ k) values ≤ Nat.ofDigits (2 ^ k) values.reverse ∧
          Nat.ofDigits (2 ^ k) values.reverse < keptValue (2 ^ k) values + 2 ^ g := by
  induction values using List.reverseRecOn with
  | nil => exact .inl ⟨rfl, Nat.two_pow_pos 53⟩
  | append_singleton values d ih =>
    obtain ⟨hvalues, hd⟩ := List.forall_mem_append.1 hvalues
    have hd := hd d (List.mem_singleton_self d)
    have hkept :
        keptValue (2 ^ k) (values ++ [d]) = keepDigit (2 ^ k) (keptValue (2 ^ k) values) d :=
      List.foldl_append ..
    rw [hkept, List.reverse_append, List.reverse_singleton, List.singleton_append,
      Nat.ofDigits_cons, keepDigit]
    rcases ih hvalues with ⟨hfull, hlt⟩ | ⟨c, g, hc, hg, hle, hlt⟩
    · -- the digit counts: the number is still exact
      rw [if_pos hlt, ← hfull, Nat.mul_comm, Nat.add_comm]
      by_cases hlast : d + 2 ^ k * keptValue (2 ^ k) values < 2 ^ 53
      · exact .inl ⟨rfl, hlast⟩
      · exact .inr ⟨_, 0, Nat.le_of_not_lt hlast, (Nat.mul_one _).symm, Nat.le_refl _, by omega⟩
    · -- the digit is lost, as those before it since the number has reached 53 bits
      have hlarge : 2 ^ 53 ≤ c * 2 ^ g := hc.trans (Nat.le_mul_of_pos_right c (Nat.two_pow_pos g))
      have hmin := Nat.mul_le_mul_left (2 ^ k) hle
      have hmax := Nat.mul_le_mul_left (2 ^ k) hlt
      rw [Nat.mul_succ, Nat.mul_add, ← Nat.pow_add, Nat.add_comm k] at hmax
      rw [if_neg (by omega), Nat.mul_comm _ (2 ^ k)]
      refine .inr ⟨c, g + k, hc, ?_, by omega, by omega⟩
      rw [hg, Nat.pow_add, Nat.mul_comm, Nat.mul_assoc]

/-- Appending starts from zero, which is the number of no digits, so the digits give their kept
value. -/
theorem foldl_appendDigit_zero {k : Nat} {values : List Nat} (hvalues : ∀ d ∈ values, d < 2 ^ k) :
    values.foldl (appendDigit (2 ^ k)) .zero = ofNat (keptValue (2 ^ k) values) := by
  have hzero : Binary64.zero = ofNat 0 := by
    obtain ⟨u, -, hunit⟩ := exists_unit
    rw [ofNat_eq_ofUnits, hunit, Nat.zero_mul]
    decide
  rw [hzero, foldl_appendDigit k 0 hvalues, keptValue]

/-- **Digit by digit the nearest number is found,** except above a lower tie of the digits that
count. -/
theorem isNearest_foldl_iff {k : Nat} {values : List Nat} (hvalues : ∀ d ∈ values, d < 2 ^ k) :
    IsNearest (Nat.ofDigits (2 ^ k) values.reverse * Nat.pow 2 1074)
        (values.foldl (appendDigit (2 ^ k)) .zero) ↔
      ¬ (keptValue (2 ^ k) values < Nat.ofDigits (2 ^ k) values.reverse ∧
        IsLowerTie (keptValue (2 ^ k) values * Nat.pow 2 1074)) := by
  obtain ⟨u, -, hunit⟩ := exists_unit
  rw [foldl_appendDigit_zero hvalues, isNearest_iff, ofNat_eq_ofUnits, hunit]
  rcases keptValue_cases hvalues with ⟨hfull, -⟩ | ⟨c, g, hc, hg, hle, hlt⟩
  · rw [hfull]
    exact iff_of_true rfl fun h => Nat.lt_irrefl _ h.1
  · obtain ⟨δ, hδ⟩ := Nat.exists_eq_add_of_le hle
    have hlost : δ * 2 ^ u < 2 ^ (g + u) := by
      rw [Nat.pow_add]
      exact Nat.mul_lt_mul_of_pos_right (by omega) (Nat.two_pow_pos u)
    have hpos : 0 < δ * 2 ^ u ↔ 0 < δ := Nat.mul_pos_iff_of_pos_right (Nat.two_pow_pos u)
    rw [hδ, Nat.add_mul, hg, Nat.mul_assoc, ← Nat.pow_add, eq_comm,
      ofUnits_add_eq_iff hc hlost, hpos, Nat.lt_add_right_iff_pos]

end Literal

namespace When
namespace Value

open Binary64 Literal

/-- **The number of a radix literal.**  It is `NaN` without digits and with anything else among
them.  Otherwise it is the number nearest to the digits that count; and to all of the digits, unless
those that count are in the middle above an even mantissa and some that do not are not zero. -/
theorem toNumber_radix {s : String} {c : Char} {radix : Nat} {ds : List Char}
    (htrim : Text.trimChars s.toList = '0' :: c :: ds) (hc : radixOf? c = some radix) :
    ((string s).toNumber = .nan ↔ ds = [] ∨ ∃ d ∈ ds, ∀ v, ¬ Denotes radix d v) ∧
      ∀ values, ds ≠ [] → List.Forall₂ (Denotes radix) ds values →
        IsNearest (keptValue radix values * Nat.pow 2 1074) (string s).toNumber ∧
          (IsNearest (Nat.ofDigits radix values.reverse * Nat.pow 2 1074) (string s).toNumber ↔
            ¬ (keptValue radix values < Nat.ofDigits radix values.reverse ∧
              IsLowerTie (keptValue radix values * Nat.pow 2 1074))) := by
  obtain ⟨hradix, k, hk⟩ := radixOf?_eq_two_pow hc
  have hnumber : (string s).toNumber = radixValue radix ds := numeric_radix htrim hc
  have hdenotes (d : Char) : (radixDigit? radix d).isSome = true ↔ ∃ v, Denotes radix d v := by
    rw [Option.isSome_iff_exists]
    simp only [radixDigit?_eq_some_iff hradix]
  rw [hnumber]
  refine ⟨?_, fun values hne hvalues => ?_⟩
  · rw [← not_iff_not, ← ne_eq, radixValue_ne_nan_iff]
    simp only [hdenotes, not_or, not_exists, not_and, not_forall, not_not]
  · have hlt := lt_of_forall₂_denotes hvalues
    rw [radixValue_eq_foldl hradix hne hvalues]
    subst hk
    exact ⟨isNearest_iff.2 (by rw [foldl_appendDigit_zero hlt, ofNat_eq_ofUnits]),
      isNearest_foldl_iff hlt⟩

/-- The last digit of `2 ^ 53 + 1` still counts: the number is the nearest one. -/
theorem toNumber_radix_lastDigit :
    Text.trimChars " 0x20000000000001 ".toList = '0' :: 'x' :: "20000000000001".toList ∧
      IsNearest ((2 ^ 53 + 1) * Nat.pow 2 1074) (string " 0x20000000000001 ").toNumber := by
  refine ⟨by decide, ?_⟩
  have hvalues : List.Forall₂ (Denotes 16) "20000000000001".toList
      [2, 0, 0, 0, 0, 0, 0, 0, 0, 0, 0, 0, 0, 1] := (mapM_radixDigit?_eq_some_iff (by decide)).1 rfl
  have hdigits :
      Nat.ofDigits 16 [2, 0, 0, 0, 0, 0, 0, 0, 0, 0, 0, 0, 0, 1].reverse = 2 ^ 53 + 1 := by decide
  have hnumber := ((toNumber_radix (s := " 0x20000000000001 ") (c := 'x') (by decide) rfl).2 _
    (by decide) hvalues).2.2 fun h => absurd h.1 (by decide)
  rw [hdigits] at hnumber
  exact hnumber

/-- The digits of `2 ^ 57 + 17` are read as `2 ^ 57`, the even one of the two numbers that are as
near to the digits that count, `2 ^ 57 + 16`.  The number nearest to all digits is the other one. -/
theorem toNumber_radix_lowerTie :
    Nat.ofDigits 16 [1, 1, 0, 0, 0, 0, 0, 0, 0, 0, 0, 0, 0, 0, 2] = 2 ^ 57 + 17 ∧
      ¬ IsNearest ((2 ^ 57 + 17) * Nat.pow 2 1074) (string "0x200000000000011").toNumber := by
  have hvalues : List.Forall₂ (Denotes (2 ^ 4)) "200000000000011".toList
      [2, 0, 0, 0, 0, 0, 0, 0, 0, 0, 0, 0, 0, 1, 1] :=
    (mapM_radixDigit?_eq_some_iff (by decide)).1 rfl
  have hnumber : (string "0x200000000000011").toNumber =
      radixValue (2 ^ 4) "200000000000011".toList :=
    numeric_radix (c := 'x') (by decide) rfl
  have hdigits : Nat.ofDigits (2 ^ 4) [2, 0, 0, 0, 0, 0, 0, 0, 0, 0, 0, 0, 0, 1, 1].reverse =
      2 ^ 57 + 17 := by decide
  have hkept : keptValue (2 ^ 4) [2, 0, 0, 0, 0, 0, 0, 0, 0, 0, 0, 0, 0, 1, 1] = 2 ^ 57 + 16 := by
    decide
  have hiff := isNearest_foldl_iff (lt_of_forall₂_denotes hvalues)
  obtain ⟨u, hu, hunit⟩ := exists_unit
  rw [hdigits, hkept, hunit] at hiff
  rw [hnumber, radixValue_eq_foldl (by decide) (by decide) hvalues, hunit]
  refine ⟨hdigits, mt hiff.1 (not_not.2 ⟨by decide, ?_⟩)⟩
  have heven : 2 ^ 52 % 2 = 0 := by decide
  refine ⟨⟨2 ^ 52, u + 5, by decide, by omega, .inr (Nat.le_refl _)⟩, heven, ?_⟩
  rw [Magnitude.units_eq]
  dsimp only
  rw [Nat.pow_add]
  omega

end Value
end When
end CommitForm
