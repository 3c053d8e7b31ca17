/-
# Rounding to the nearest number

`Binary64.IsNearest n x` says that `x` is the number nearest to `n` units, a tie going to the even
mantissa; from the middle between the largest finite number and `2 ^ 2098` units on it is infinite.
There is exactly one such number, the one that rounding finds (`Binary64.isNearest_iff`).

A mantissa of 53 bits at the leading bit of `n` has the nearest number: the numbers with a smaller
exponent all lie below `n`, and farther from it than the least mantissa with the same exponent.
-/

import Mathlib.Data.Nat.Dist
import Mathlib.Tactic.Ring
import CommitForm.Number.Binary64

namespace CommitForm

namespace Magnitude

/-- A mantissa has at most 53 bits. -/
theorem mantissa_lt (a : Magnitude) : a.mantissa < 2 ^ 53 := a.canonical.1

/-- The exponent of a finite number, counted from the least one, is at most that of the largest
number. -/
theorem exponent_le (a : Magnitude) : a.exponent ≤ 2045 := a.canonical.2.1

/-- Above the least exponent a mantissa has all its 53 bits, so a number is written in one way
only. -/
theorem le_mantissa (a : Magnitude) (h : a.exponent ≠ 0) : 2 ^ 52 ≤ a.mantissa :=
  a.canonical.2.2.resolve_left h

/-- The units of a magnitude are its mantissa, shifted by the exponent. -/
theorem units_eq (a : Magnitude) : a.units = a.mantissa * 2 ^ a.exponent := rfl

/-- A magnitude is known by its units.  With a larger exponent the full mantissa would be a number
of more than 53 bits at the smaller one. -/
theorem units_injective {a b : Magnitude} (h : a.units = b.units) : a = b := by
  have hle {a b : Magnitude} (h : a.units = b.units) : b.exponent ≤ a.exponent := by
    by_contra hlt
    obtain ⟨k, hk⟩ := Nat.exists_eq_add_of_lt (Nat.lt_of_not_le hlt)
    rw [units_eq, units_eq, hk, show a.exponent + k + 1 = (k + 1) + a.exponent by omega,
      Nat.pow_add, ← Nat.mul_assoc] at h
    have hmantissa := Nat.eq_of_mul_eq_mul_right (Nat.two_pow_pos _) h
    have hb := Nat.mul_le_mul (b.le_mantissa (by omega)) (Nat.one_le_two_pow (n := k))
    have ha := a.mantissa_lt
    rw [Nat.pow_succ, ← Nat.mul_assoc] at hmantissa
    omega
  have hexponent : a.exponent = b.exponent := Nat.le_antisymm (hle h.symm) (hle h)
  rw [units_eq, units_eq, hexponent] at h
  have hmantissa := Nat.eq_of_mul_eq_mul_right (Nat.two_pow_pos _) h
  cases a
  cases b
  simp_all

end Magnitude

namespace Binary64

/-! ## Multiples -/

variable {n d c m k : Nat}

/-- A quotient is rounded to the nearest multiple, and to an even one where two are as near. -/
theorem roundDiv_near (hd : 0 < d) :
    2 * Nat.dist (roundDiv n d * d) n ≤ d ∧
      (2 * Nat.dist (roundDiv n d * d) n = d → roundDiv n d % 2 = 0) := by
  have hn : n / d * d + n % d = n := Nat.div_add_mod' n d
  have hr : n % d < d := Nat.mod_lt n hd
  have hsucc : (n / d + 1) * d = n / d * d + d := by ring
  rw [Nat.dist, roundDiv]
  split
  · omega
  · split
    · rw [hsucc]
      omega
    · rcases Nat.mod_two_eq_zero_or_one (n / d) with hq | hq
      · rw [hq, Nat.add_zero]
        omega
      · rw [hq, hsucc]
        omega

/-- To round a quotient is the same in any unit, as numerator and denominator may be multiplied by a
common factor. -/
theorem roundDiv_mul_right (hc : 0 < c) : roundDiv (n * c) (d * c) = roundDiv n d := by
  have hbelow : 2 * (n % d * c) < d * c ↔ 2 * (n % d) < d := by
    rw [← Nat.mul_assoc]
    exact Nat.mul_lt_mul_right hc
  have habove : d * c < 2 * (n % d * c) ↔ d < 2 * (n % d) := by
    rw [← Nat.mul_assoc]
    exact Nat.mul_lt_mul_right hc
  rw [roundDiv, roundDiv, Nat.mul_div_mul_right n d hc, Nat.mul_mod_mul_right]
  simp only [hbelow, habove]

/-- Two different multiples are together as far from a number as from each other. -/
theorem le_dist_add_dist (h : k ≠ m) : d ≤ Nat.dist (m * d) n + Nat.dist (k * d) n := by
  rw [Nat.dist, Nat.dist]
  rcases Nat.lt_or_gt_of_ne h with h | h
  · have := Nat.mul_le_mul_right d h
    rw [Nat.succ_mul] at this
    omega
  · have := Nat.mul_le_mul_right d h
    rw [Nat.succ_mul] at this
    omega

/-- No other multiple is nearer than the rounded quotient, and one is as near only if its factor is
odd and the rounded quotient even. -/
theorem dist_roundDiv_le (hd : 0 < d) (h : k ≠ roundDiv n d) :
    Nat.dist (roundDiv n d * d) n ≤ Nat.dist (k * d) n ∧
      (Nat.dist (k * d) n = Nat.dist (roundDiv n d * d) n →
        roundDiv n d % 2 = 0 ∧ k % 2 = 1) := by
  obtain ⟨hnear, heven⟩ := roundDiv_near (n := n) hd
  have hapart : d ≤ _ := le_dist_add_dist (n := n) h
  refine ⟨by omega, fun heq => ?_⟩
  have hm := heven (by omega)
  refine ⟨hm, ?_⟩
  by_contra hodd
  -- two even multiples are too far apart to be as near
  have hhalf (j : Nat) (hj : j % 2 = 0) : j * d = j / 2 * (2 * d) := by
    rw [← Nat.mul_assoc, show j / 2 * 2 = j by omega]
  have htwice : 2 * d ≤ _ :=
    le_dist_add_dist (n := n) (k := k / 2) (m := roundDiv n d / 2) (by omega)
  rw [← hhalf k (by omega), ← hhalf _ hm] at htwice
  omega

/-! ## The mantissa at the leading bit -/

/-- The exponent that gives `n` units a mantissa of 53 bits, or the least one. -/
def exponentFor (n : Nat) : Nat := n.log2 - 52

/-- The mantissa of `n` units, which may be rounded up to `2 ^ 53`. -/
def mantissaFor (n : Nat) : Nat := roundDiv n (2 ^ exponentFor n)

/-- At its exponent a number has at most 53 bits in front of the point. -/
theorem lt_two_pow_exponentFor (n : Nat) : n < 2 ^ (exponentFor n + 53) := by
  have hlog : n < 2 ^ (n.log2 + 1) := Nat.lt_log2_self
  have hpow : 2 ^ (n.log2 + 1) ≤ 2 ^ (exponentFor n + 53) :=
    Nat.pow_le_pow_right (by decide) (by rw [exponentFor]; omega)
  omega

/-- Above the least exponent a number has a leading bit at the 53rd place. -/
theorem two_pow_exponentFor_le (h : exponentFor n ≠ 0) : 2 ^ (exponentFor n + 52) ≤ n := by
  rw [exponentFor] at h ⊢
  rw [Nat.sub_add_cancel (by omega)]
  exact Nat.log2_self_le fun hn => h (by rw [hn]; decide)

/-- Rounding carries a mantissa to `2 ^ 53` at most, which is the least mantissa at the next
exponent. -/
theorem mantissaFor_le (n : Nat) : mantissaFor n ≤ 2 ^ 53 := by
  have hd := Nat.two_pow_pos (exponentFor n)
  have hnear := (roundDiv_near (n := n) hd).1
  have hlt := lt_two_pow_exponentFor n
  by_contra hgt
  have := Nat.mul_le_mul_right (2 ^ exponentFor n) (Nat.lt_of_not_le hgt)
  rw [Nat.succ_mul] at this
  rw [Nat.pow_add, Nat.mul_comm] at hlt
  rw [Nat.dist, ← mantissaFor] at hnear
  omega

/-- Rounding does not lose the leading bit: above the least exponent the mantissa has 53 bits. -/
theorem le_mantissaFor (h : exponentFor n ≠ 0) : 2 ^ 52 ≤ mantissaFor n := by
  have hd := Nat.two_pow_pos (exponentFor n)
  have hnear := (roundDiv_near (n := n) hd).1
  have hle := two_pow_exponentFor_le h
  by_contra hlt
  have := Nat.mul_le_mul_right (2 ^ exponentFor n) (Nat.lt_of_not_le hlt)
  rw [Nat.succ_mul] at this
  rw [Nat.pow_add, Nat.mul_comm] at hle
  rw [Nat.dist, ← mantissaFor] at hnear
  omega

/-- The number that rounding makes of `n` units: the mantissa at the leading bit, or the least one
at the next exponent where rounding has carried. -/
def ofUnits (n : Nat) : Binary64 :=
  if mantissaFor n = 2 ^ 53 then ofParts false (2 ^ 52) (exponentFor n + 1)
  else ofParts false (mantissaFor n) (exponentFor n)

/-- The nearest number to a quotient by the unit of the format is what its numerator is rounded to
as units. -/
theorem nearest_eq_ofUnits (n : Nat) : nearest false n (Nat.pow 2 1074) = ofUnits n := by
  have hpos : 0 < Nat.pow 2 1074 := by decide +kernel
  rw [nearest]
  generalize Nat.pow 2 1074 = unit at hpos ⊢
  rw [Nat.mul_div_cancel n hpos, Nat.mul_comm unit, roundDiv_mul_right hpos]
  rfl

/-- A whole number is rounded as its multiple of the units that make up one. -/
theorem ofNat_eq_ofUnits (n : Nat) : ofNat n = ofUnits (n * Nat.pow 2 1074) := by
  rw [ofNat, nearest, Nat.div_one, Nat.one_mul]
  rfl

/-- One is a power of two of units.  The exponent is kept apart, since powers of this size are not
to be evaluated. -/
theorem exists_unit : ∃ u, u = 1074 ∧ Nat.pow 2 1074 = 2 ^ u := by
  generalize 1074 = u
  exact ⟨u, rfl, rfl⟩

/-- At its exponent a number is rounded up to `2 ^ 53` from the middle of the last step on. -/
theorem mantissaFor_lt_iff {e : Nat} (he : exponentFor n = e + 1) :
    mantissaFor n < 2 ^ 53 ↔ n < (2 ^ 54 - 1) * 2 ^ e := by
  have hd := Nat.two_pow_pos e
  have hlt := lt_two_pow_exponentFor n
  obtain ⟨hnear, heven⟩ := roundDiv_near (n := n) (Nat.two_pow_pos (exponentFor n))
  have hle := mantissaFor_le n
  rw [← mantissaFor] at hnear heven
  rw [he] at hnear heven hlt
  rw [Nat.pow_succ] at hnear heven
  rw [show e + 1 + 53 = 54 + e by omega, Nat.pow_add] at hlt
  generalize 2 ^ e = h at *
  rw [Nat.dist] at hnear heven
  constructor
  · intro hm
    have := Nat.mul_le_mul_right (h * 2) (Nat.lt_iff_add_one_le.1 hm)
    rw [Nat.add_mul] at this
    by_contra hn
    have heq : mantissaFor n * (h * 2) = (2 ^ 53 - 1) * (h * 2) := by omega
    have hodd := Nat.eq_of_mul_eq_mul_right (by omega) heq
    have := heven (by omega)
    omega
  · intro hn
    refine Nat.lt_of_le_of_ne hle fun hm => ?_
    rw [hm] at hnear
    omega

/-- The least number of units that is rounded to infinity: the middle between the largest finite
number and the next power of two. -/
def overflow : Nat := (2 ^ 54 - 1) * 2 ^ 2044

/-- A number below the middle of the last step of an exponent has at most this exponent. -/
theorem exponentFor_le_of_lt {e : Nat} (h : n < (2 ^ 54 - 1) * 2 ^ e) : exponentFor n ≤ e + 1 := by
  by_contra hlt
  have hle := two_pow_exponentFor_le (n := n) (by omega)
  have hpow : 2 ^ (54 + e) ≤ 2 ^ (exponentFor n + 52) :=
    Nat.pow_le_pow_right (by decide) (by omega)
  rw [Nat.pow_add] at hpow
  omega

/-- A number of a smaller exponent lies below the middle of the last step of a larger one. -/
theorem lt_of_exponentFor_le {e : Nat} (h : exponentFor n ≤ e) : n < (2 ^ 54 - 1) * 2 ^ e := by
  have hlt := lt_two_pow_exponentFor n
  have hpow : 2 ^ (exponentFor n + 53) ≤ 2 ^ (53 + e) :=
    Nat.pow_le_pow_right (by decide) (by omega)
  rw [Nat.pow_add _ 53 e] at hpow
  omega

/-- Parts within the format make up the finite number with these parts. -/
theorem ofParts_of_le {m e : Nat} (hm : m < 2 ^ 53) (hcanonical : e = 0 ∨ 2 ^ 52 ≤ m)
    (he : e ≤ 2045) :
    ∃ a : Magnitude, ofParts false m e = finite false a ∧ a.mantissa = m ∧ a.exponent = e :=
  ⟨⟨m, e, hm, he, hcanonical⟩, dif_pos ⟨hm, he, hcanonical⟩, rfl, rfl⟩

/-- Parts with an exponent beyond the largest one make up infinity. -/
theorem ofParts_of_lt {m e : Nat} (he : 2045 < e) : ofParts false m e = infinite false :=
  dif_neg fun h => by omega

/-- A number is rounded to a magnitude with its mantissa and exponent, or up to infinity. -/
theorem ofUnits_cases (n : Nat) :
    (∃ a : Magnitude, ofUnits n = finite false a ∧ n < overflow ∧
        a.units = mantissaFor n * 2 ^ exponentFor n ∧
        (mantissaFor n % 2 = 0 → a.mantissa % 2 = 0)) ∨
      ofUnits n = infinite false ∧ overflow ≤ n := by
  have hle := mantissaFor_le n
  have hcanonical : exponentFor n = 0 ∨ 2 ^ 52 ≤ mantissaFor n := by
    by_cases h : exponentFor n = 0
    · exact .inl h
    · exact .inr (le_mantissaFor h)
  rw [ofUnits, overflow]
  by_cases hn : n < (2 ^ 54 - 1) * 2 ^ 2044
  · left
    have hexponent := exponentFor_le_of_lt hn
    split
    · next hm =>
      have hlast : exponentFor n ≠ 2045 := fun h => by
        have := (mantissaFor_lt_iff (e := 2044) h).2 hn
        omega
      obtain ⟨a, ha, hmantissa, hexp⟩ := ofParts_of_le (m := 2 ^ 52) (e := exponentFor n + 1)
        (by decide) (.inr (Nat.le_refl _)) (by omega)
      refine ⟨a, ha, hn, ?_, fun _ => by omega⟩
      rw [Magnitude.units_eq, hmantissa, hexp, hm, Nat.pow_succ]
      ring
    · next hm =>
      obtain ⟨a, ha, hmantissa, hexp⟩ := ofParts_of_le (Nat.lt_of_le_of_ne hle hm) hcanonical
        hexponent
      refine ⟨a, ha, hn, ?_, fun h => by rwa [hmantissa]⟩
      rw [Magnitude.units_eq, hmantissa, hexp]
  · refine .inr ⟨?_, by omega⟩
    have hexponent : 2045 ≤ exponentFor n := by
      by_contra h
      exact hn (lt_of_exponentFor_le (by omega))
    split
    · exact ofParts_of_lt (by omega)
    · next hm =>
      refine ofParts_of_lt (Nat.lt_of_le_of_ne hexponent fun h => hn ?_)
      exact (mantissaFor_lt_iff (e := 2044) h.symm).1 (Nat.lt_of_le_of_ne hle hm)

/-! ## The nearest number -/

/-- No magnitude is nearer to a number of units than the mantissa at its leading bit, and another
one is as near only if its mantissa is odd and the nearest one even. -/
theorem dist_le_dist_units (n : Nat) (b : Magnitude) :
    Nat.dist (mantissaFor n * 2 ^ exponentFor n) n ≤ Nat.dist b.units n ∧
      (Nat.dist b.units n = Nat.dist (mantissaFor n * 2 ^ exponentFor n) n →
        b.units = mantissaFor n * 2 ^ exponentFor n ∨
          mantissaFor n % 2 = 0 ∧ b.mantissa % 2 = 1) := by
  have hd := Nat.two_pow_pos (exponentFor n)
  have hmultiple (k : Nat) (hk : k ≠ mantissaFor n) :
      Nat.dist (mantissaFor n * 2 ^ exponentFor n) n ≤ Nat.dist (k * 2 ^ exponentFor n) n ∧
        (Nat.dist (k * 2 ^ exponentFor n) n = Nat.dist (mantissaFor n * 2 ^ exponentFor n) n →
          mantissaFor n % 2 = 0 ∧ k % 2 = 1) := dist_roundDiv_le hd hk
  rcases Nat.lt_or_ge b.exponent (exponentFor n) with hlt | hge
  · -- a smaller exponent: below the least mantissa at the leading bit
    have hleast := two_pow_exponentFor_le (n := n) (by omega)
    have hb : b.units < 2 ^ (exponentFor n + 52) := by
      have hpow : 2 ^ (53 + b.exponent) ≤ 2 ^ (exponentFor n + 52) :=
        Nat.pow_le_pow_right (by decide) (by omega)
      have hmantissa := Nat.mul_lt_mul_of_pos_right b.mantissa_lt (Nat.two_pow_pos b.exponent)
      rw [← Nat.pow_add] at hmantissa
      rw [Magnitude.units_eq]
      omega
    have hdist : Nat.dist (mantissaFor n * 2 ^ exponentFor n) n ≤
        Nat.dist (2 ^ 52 * 2 ^ exponentFor n) n := by
      by_cases h : 2 ^ 52 = mantissaFor n
      · rw [h]
      · exact (hmultiple _ h).1
    rw [Nat.pow_add, Nat.mul_comm] at hleast hb
    rw [Nat.dist, Nat.dist] at hdist ⊢
    omega
  · obtain ⟨j, hj⟩ := Nat.exists_eq_add_of_le hge
    have hunits : b.units = b.mantissa * 2 ^ j * 2 ^ exponentFor n := by
      rw [Magnitude.units_eq, hj, Nat.pow_add, Nat.mul_assoc, Nat.mul_comm (2 ^ exponentFor n)]
    rw [hunits]
    by_cases h : b.mantissa * 2 ^ j = mantissaFor n
    · rw [h]
      exact ⟨Nat.le_refl _, fun _ => .inl rfl⟩
    · obtain ⟨hle, hodd⟩ := hmultiple _ h
      refine ⟨hle, fun heq => .inr ⟨(hodd heq).1, ?_⟩⟩
      have hk := (hodd heq).2
      cases j with
      | zero => simpa using hk
      | succ j =>
        rw [Nat.pow_succ, ← Nat.mul_assoc, Nat.mul_mod_left] at hk
        cases hk

/-- The number nearest to `n` units, and the even one of two that are as near. -/
inductive IsNearest (n : Nat) : Binary64 → Prop where
  | finite {a : Magnitude} (hn : n < overflow)
      (nearest : ∀ b : Magnitude, Nat.dist a.units n ≤ Nat.dist b.units n)
      (even : ∀ b : Magnitude, b ≠ a → Nat.dist b.units n = Nat.dist a.units n →
        a.mantissa % 2 = 0) : IsNearest n (finite false a)
  | infinite (hn : overflow ≤ n) : IsNearest n (infinite false)

/-- **Rounding finds the nearest number,** and there is no other one.  Of two numbers that are as
near one has an even mantissa, and beyond the middle to the overflow it is infinity. -/
theorem isNearest_iff {n : Nat} {x : Binary64} : IsNearest n x ↔ x = ofUnits n := by
  rcases ofUnits_cases n with ⟨a, hround, hn, hunits, heven⟩ | ⟨hround, hn⟩
  · rw [hround]
    constructor
    · intro h
      cases h with
      | infinite hn' => omega
      | @finite b _ hnearest hevenb =>
        by_contra hne
        have hba : a ≠ b := fun h => hne (by rw [h])
        obtain ⟨hle, hodd⟩ := dist_le_dist_units n b
        rw [← hunits] at hle hodd
        have heq : Nat.dist a.units n = Nat.dist b.units n := Nat.le_antisymm hle (hnearest a)
        rcases hodd heq.symm with h | ⟨-, hodd⟩
        · exact hba (Magnitude.units_injective h.symm)
        · have := hevenb a hba heq
          omega
    · rintro rfl
      refine .finite hn (fun b => ?_) fun b hb heq => ?_
      · rw [hunits]
        exact (dist_le_dist_units n b).1
      · rw [hunits] at heq
        rcases (dist_le_dist_units n b).2 heq with h | ⟨hm, -⟩
        · exact absurd (Magnitude.units_injective (h.trans hunits.symm)) hb
        · exact heven hm
  · rw [hround]
    constructor
    · intro h
      cases h with
      | infinite hn' => rfl
      | finite hn' => omega
    · rintro rfl
      exact .infinite hn

/-! ## Numbers that are rounded alike -/

/-- The exponent of a number is told by its leading bit, which lies between two neighbouring powers
of two. -/
theorem exponentFor_eq {e : Nat} (hle : 2 ^ (e + 52) ≤ n) (hlt : n < 2 ^ (e + 53)) :
    exponentFor n = e := by
  have hbelow : e + 52 < exponentFor n + 53 :=
    (Nat.pow_lt_pow_iff_right (by decide)).1 (hle.trans_lt (lt_two_pow_exponentFor n))
  by_contra hne
  have habove : exponentFor n + 52 < e + 53 :=
    (Nat.pow_lt_pow_iff_right (by decide)).1
      ((two_pow_exponentFor_le (by omega)).trans_lt hlt)
  omega

/-- The only multiple within less than half a step is the nearest one, and no tie has to be
decided. -/
theorem roundDiv_eq (h : 2 * Nat.dist (m * d) n < d) : roundDiv n d = m := by
  by_contra hne
  have hnear := (roundDiv_near (n := n) (d := d) (by omega)).1
  have := le_dist_add_dist (n := n) (d := d) hne
  omega

/-- The exponent of a mantissa of 53 bits and what is less than a step above it. -/
theorem exponentFor_add {e δ : Nat} (hle : 2 ^ 52 ≤ m) (hlt : m < 2 ^ 53) (hδ : δ < 2 ^ e) :
    exponentFor (m * 2 ^ e + δ) = e := by
  have hmin := Nat.mul_le_mul_right (2 ^ e) hle
  have hmax := Nat.mul_le_mul_right (2 ^ e) (Nat.lt_iff_add_one_le.1 hlt)
  rw [Nat.succ_mul] at hmax
  refine exponentFor_eq ?_ ?_
  · rw [Nat.add_comm e, Nat.pow_add]
    omega
  · rw [Nat.add_comm e, Nat.pow_add]
    omega

/-- What lies less than half a step above a mantissa of 53 bits is rounded to it. -/
theorem mantissaFor_add {e δ : Nat} (hle : 2 ^ 52 ≤ m) (hlt : m < 2 ^ 53) (hδ : 2 * δ < 2 ^ e) :
    mantissaFor (m * 2 ^ e + δ) = m := by
  rw [mantissaFor, exponentFor_add hle hlt (by omega)]
  refine roundDiv_eq ?_
  rw [Nat.dist]
  omega

/-- To shift a number is to shift what it is rounded to, as the number has 53 bits already and the
exponent only grows. -/
theorem mantissaFor_shift (h : 2 ^ 52 ≤ n) (k : Nat) :
    exponentFor (n * 2 ^ k) = exponentFor n + k ∧ mantissaFor (n * 2 ^ k) = mantissaFor n := by
  have hexponent : exponentFor (n * 2 ^ k) = exponentFor n + k := by
    refine exponentFor_eq ?_ ?_
    · rw [Nat.add_right_comm, Nat.pow_add]
      refine Nat.mul_le_mul_right _ ?_
      by_cases he : exponentFor n = 0
      · rwa [he]
      · exact two_pow_exponentFor_le he
    · rw [Nat.add_right_comm, Nat.pow_add]
      exact Nat.mul_lt_mul_of_pos_right (lt_two_pow_exponentFor n) (Nat.two_pow_pos k)
  refine ⟨hexponent, ?_⟩
  rw [mantissaFor, hexponent, Nat.pow_add, roundDiv_mul_right (Nat.two_pow_pos k), mantissaFor]

end Binary64
end CommitForm
