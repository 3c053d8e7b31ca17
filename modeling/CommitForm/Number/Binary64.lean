/-
# Binary64 numbers

The numbers of the IEEE 754 format binary64.  Every finite one is a whole multiple of `2 ^ -1074`,
its *unit*: a magnitude is a mantissa below `2 ^ 53` and an exponent with `mantissa * 2 ^ exponent`
units, and each magnitude has one such form.  Order and equality of numbers are those of whole
numbers of units, the infinities lying beyond them all and `NaN` having no place in the order.

| bits | meaning |
| --- | --- |
| sign, exponent `0`, fraction `f` | `f` units |
| sign, exponent `0 < e < 2047`, fraction `f` | `(2 ^ 52 + f) * 2 ^ (e - 1)` units |
| sign, exponent `2047`, fraction `0` | infinity |
| sign, exponent `2047`, fraction `> 0` | `NaN` |
-/

namespace CommitForm

/-- The absolute value of a finite number: `mantissa * 2 ^ exponent` units of `2 ^ -1074`. -/
structure Magnitude where
  mantissa : Nat
  exponent : Nat
  canonical : mantissa < Nat.pow 2 53 ∧ exponent ≤ 2045 ∧ (exponent = 0 ∨ Nat.pow 2 52 ≤ mantissa)
deriving DecidableEq

namespace Magnitude

/-- How many units of `2 ^ -1074` a magnitude has: the least number that is not zero is one unit,
and every magnitude is a whole number of them. -/
def units (a : Magnitude) : Nat := a.mantissa * Nat.pow 2 a.exponent

/-- The magnitude of no units. -/
def zero : Magnitude := ⟨0, 0, by decide⟩

end Magnitude

/-- A binary64 number.  All `NaN`s are one, since no operation looks at their payload or sign, and
zero has a sign. -/
inductive Binary64 where
  | nan
  | infinite (negative : Bool)
  | finite (negative : Bool) (magnitude : Magnitude)
deriving DecidableEq

namespace Binary64

instance : Inhabited Binary64 := ⟨nan⟩

/-- The number of a sign, a mantissa and an exponent; infinite when they are no magnitude. -/
def ofParts (negative : Bool) (mantissa exponent : Nat) : Binary64 :=
  if h : mantissa < Nat.pow 2 53 ∧ exponent ≤ 2045 ∧ (exponent = 0 ∨ Nat.pow 2 52 ≤ mantissa) then
    finite negative ⟨mantissa, exponent, h⟩
  else infinite negative

/-- The zero without a minus sign. -/
def zero : Binary64 := finite false Magnitude.zero

/-- The number one: a mantissa of `2 ^ 52` units, taken `2 ^ 1022` times. -/
def one : Binary64 := ofParts false (Nat.pow 2 52) 1022

/-! ## Bits -/

/-- The number that 64 bits stand for, taken apart into sign, exponent and fraction as in the
standard. -/
def ofBits (bits : UInt64) : Binary64 :=
  let n := bits.toNat
  let negative := Nat.pow 2 63 ≤ n
  let e := n / Nat.pow 2 52 % Nat.pow 2 11
  let f := n % Nat.pow 2 52
  if e = 2047 then (if f = 0 then infinite negative else nan)
  else if e = 0 then ofParts negative f 0
  else ofParts negative (Nat.pow 2 52 + f) (e - 1)

/-- The bits of a number; those of `NaN` are the quiet ones without a payload. -/
def toBits : Binary64 → UInt64
  | nan => 0x7FF8000000000000
  | infinite negative => UInt64.ofNat ((if negative then Nat.pow 2 63 else 0) + 2047 * Nat.pow 2 52)
  | finite negative a =>
    let sign := if negative then Nat.pow 2 63 else 0
    let magnitude :=
      if a.mantissa < Nat.pow 2 52 then a.mantissa
      else (a.exponent + 1) * Nat.pow 2 52 + (a.mantissa - Nat.pow 2 52)
    UInt64.ofNat (sign + magnitude)

example : ofBits 0x3FF0000000000000 = one := by decide
example : (ofBits 0x8000000000000001).toBits = 0x8000000000000001 := by decide

/-! ## Order -/

/-- The place of a number in the order: its count of units with its sign, infinities at
`± 2 ^ 2098`, beyond every finite number. -/
def rank? : Binary64 → Option Int
  | nan => none
  | infinite negative => some (if negative then -Nat.pow 2 2098 else Nat.pow 2 2098)
  | finite negative a => some (if negative then -(a.units : Int) else a.units)

/-- The order of two numbers; none if one of them is `NaN`.  The two zeros are neither below nor
above each other. -/
def compare? (a b : Binary64) : Option Ordering :=
  match a.rank?, b.rank? with
  | some i, some j => some (compare i j)
  | _, _ => none

/-- Numeric equality: the two zeros are equal, and `NaN` is equal to nothing. -/
def equals (a b : Binary64) : Bool := a.compare? b == some .eq

/-- Whether a number is no number at all. -/
def isNaN : Binary64 → Bool
  | nan => true
  | _ => false

/-- Whether a number is a zero, of either sign. -/
def isZero (a : Binary64) : Bool := a.rank? == some 0

/-! ## Rounding -/

/-- The quotient rounded to the nearest integer, a half to the even neighbour.  All rounding of
numbers comes down to this. -/
def roundDiv (num den : Nat) : Nat :=
  let q := num / den
  let r := num % den
  if 2 * r < den then q else if den < 2 * r then q + 1 else q + q % 2

/-- The number nearest to `num / den`, a tie going to the even mantissa; infinite from the value on
that rounding would carry past the largest finite number. -/
def nearest (negative : Bool) (num den : Nat) : Binary64 :=
  let num := num * Nat.pow 2 1074
  let e := (num / den).log2 - 52
  let m := roundDiv num (den * Nat.pow 2 e)
  if m = Nat.pow 2 53 then ofParts negative (Nat.pow 2 52) (e + 1) else ofParts negative m e

/-- The number nearest to a natural number; beyond the greatest finite one it is infinite. -/
def ofNat (n : Nat) : Binary64 := nearest false n 1

/-- The number with the other sign; zero and infinity have one too. -/
def negate : Binary64 → Binary64
  | nan => nan
  | infinite negative => infinite !negative
  | finite negative a => finite (!negative) a

/-- The product, rounded to nearest once.  Zero times infinity is no number. -/
def mul : Binary64 → Binary64 → Binary64
  | finite s a, finite t b => nearest (s ^^ t) (a.units * b.units) (Nat.pow 2 2148)
  | infinite s, finite t b => if b.units = 0 then nan else infinite (s ^^ t)
  | finite s a, infinite t => if a.units = 0 then nan else infinite (s ^^ t)
  | infinite s, infinite t => infinite (s ^^ t)
  | _, _ => nan

/-- The quotient, rounded to nearest once.  Dividing by zero gives infinity, except for zero
itself. -/
def div : Binary64 → Binary64 → Binary64
  | finite s a, finite t b =>
    if b.units = 0 then (if a.units = 0 then nan else infinite (s ^^ t))
    else nearest (s ^^ t) a.units b.units
  | infinite s, finite t _ => infinite (s ^^ t)
  | finite s _, infinite t => finite (s ^^ t) Magnitude.zero
  | _, _ => nan

/-- Whether a number has no fractional part.  The infinities and `NaN` count as fractional. -/
def isWhole : Binary64 → Bool
  | finite _ a => a.units % Nat.pow 2 1074 == 0
  | _ => false

end Binary64
end CommitForm
