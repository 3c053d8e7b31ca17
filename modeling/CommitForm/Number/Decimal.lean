/-
# Decimal texts of numbers

The shortest decimal of a number has the fewest digits among the decimals that read back as the
number, and of those with equally few digits it is the one nearest to the number.  A decimal reads
back when it lies between the midpoints to the two neighbouring numbers; the midpoints themselves
belong to the number when its mantissa is even.

How a decimal is laid out (where positional notation ends, whether a whole number keeps `.0`, the
words for the values that are no decimal) is a `Layout`.
-/

import CommitForm.Number.Binary64

namespace CommitForm

/-- The decimal `digits * 10 ^ power`; the same number may be written with more zeros and a smaller
power. -/
structure Decimal where
  digits : Nat
  power : Int
deriving DecidableEq, Repr

namespace Decimal

/-- The decimal digits of a natural number. -/
def digitsOf (n : Nat) : List Char := Nat.toDigits 10 n

/-- The position of the decimal point of the positive quotient `num / den`: the `p` with
`10 ^ (p - 1) ≤ num / den < 10 ^ p`, for a quotient below one that is no power of ten. -/
def pointOf (num den : Nat) : Int :=
  if den ≤ num then ((digitsOf (num / den)).length : Int)
  else 1 - ((digitsOf (den / num)).length : Int)

/-- Looks for a decimal of `count` digits, then of more, between `low` and `high` quarters of the
last mantissa place.  `mid` is the number itself in these quarters, `e` the exponent of the place,
`point` the position of the decimal point. -/
def search (tieUp ends : Bool) (low mid high e : Nat) (point : Int) : Nat → Nat → Decimal
  | 0, _ => ⟨0, 0⟩
  | fuel + 1, count =>
    let power := point - count
    let scaleUp := if power < 0 then Nat.pow 10 power.natAbs else 1
    let step := (if power < 0 then 1 else Nat.pow 10 power.natAbs) * Nat.pow 2 1076
    let low' := low * Nat.pow 2 e * scaleUp
    let mid' := mid * Nat.pow 2 e * scaleUp
    let high' := high * Nat.pow 2 e * scaleUp
    let below := mid' / step
    let hasBelow := if ends then low' ≤ below * step else low' < below * step
    let hasAbove := if ends then (below + 1) * step ≤ high' else (below + 1) * step < high'
    let gap := mid' - below * step
    if hasBelow ∧ hasAbove then
      ⟨if 2 * gap < step ∨ (2 * gap = step ∧ ¬tieUp ∧ below % 2 = 0) then below else below + 1,
        power⟩
    else if hasBelow then ⟨below, power⟩
    else if hasAbove then ⟨below + 1, power⟩
    else search tieUp ends low mid high e point fuel (count + 1)

/-- Moves trailing zeros from the digits into the power, as far as the fuel goes; the number stays
the same. -/
def stripZeros : Nat → Decimal → Decimal
  | 0, d => d
  | fuel + 1, d =>
    if d.digits ≠ 0 ∧ d.digits % 10 = 0 then stripZeros fuel ⟨d.digits / 10, d.power + 1⟩ else d

/-- The shortest decimal of a magnitude.  Of two equally near decimals of the least digit count the
greater one is taken if `tieUp` holds, else the one with an even last digit. -/
def shortest (tieUp : Bool) (a : Magnitude) : Decimal :=
  if a.mantissa = 0 then ⟨0, 0⟩
  else
    let mid := 4 * a.mantissa
    let low := if a.mantissa = Nat.pow 2 52 ∧ a.exponent ≠ 0 then mid - 1 else mid - 2
    let point := pointOf (mid * Nat.pow 2 a.exponent) (Nat.pow 2 1076)
    stripZeros 20 (search tieUp (a.mantissa % 2 = 0) low mid (mid + 2) a.exponent point 18 1)

/-! ## Layouts -/

/-- How numbers are written, which differs between messages, syntax trees, and the two formats of
documents. -/
structure Layout where
  /-- The least and the greatest position of the decimal point in positional notation. -/
  points : Option (Int × Int)
  /-- Whether a whole number in positional notation keeps a fractional zero. -/
  fraction : Bool
  /-- Whether an exponent that is not negative has a sign. -/
  plus : Bool
  /-- Whether the greater of two equally near shortest decimals is written, and not the even one. -/
  tieUp : Bool
  infinity : String
  nan : String

/-- Positional notation of `ds * 10 ^ power`, with zeros where the digits do not reach the point. -/
def positional (fraction : Bool) (ds : List Char) (power : Int) : List Char :=
  let point := (ds.length : Int) + power
  if 0 ≤ power then
    ds ++ List.replicate power.natAbs '0' ++ (if fraction then ['.', '0'] else [])
  else if 0 < point then ds.take point.natAbs ++ '.' :: ds.drop point.natAbs
  else '0' :: '.' :: (List.replicate point.natAbs '0' ++ ds)

/-- Exponential notation of `ds * 10 ^ power`, one digit before the point and none behind it if
there is only one. -/
def exponential (plus : Bool) (ds : List Char) (power : Int) : List Char :=
  let exponent := (ds.length : Int) + power - 1
  let sign := if exponent < 0 then ['-'] else if plus then ['+'] else []
  ds.take 1 ++ (if ds.length ≤ 1 then [] else '.' :: ds.drop 1) ++ 'e' :: sign ++
    digitsOf exponent.natAbs

/-- The text of a magnitude in a layout: its shortest decimal, in the notation that the place of its
point asks for. -/
def Layout.magnitude (l : Layout) (a : Magnitude) : List Char :=
  let d := shortest l.tieUp a
  let ds := digitsOf d.digits
  let point := (ds.length : Int) + d.power
  match l.points with
  | some (least, greatest) =>
    if d.digits = 0 ∨ (least ≤ point ∧ point ≤ greatest) then positional l.fraction ds d.power
    else exponential l.plus ds d.power
  | none => positional l.fraction ds d.power

/-- The text of a number in a layout, with a minus sign where the number has one. -/
def Layout.text (l : Layout) : Binary64 → String
  | .nan => l.nan
  | .infinite negative => if negative then "-" ++ l.infinity else l.infinity
  | .finite negative a => String.ofList ((if negative then ['-'] else []) ++ l.magnitude a)

/-- Plain digits without an exponent. -/
def plain : Layout := ⟨none, false, false, true, "inf", "NaN"⟩

/-- Plain digits without an exponent, whole numbers with a fractional zero. -/
def plainFraction : Layout := ⟨none, true, false, true, "inf", "NaN"⟩

/-- The layout of syntax trees: an exponent below `10 ^ -4` and from `10 ^ 16` on. -/
def treeLayout : Layout := ⟨some (-3, 16), true, false, true, "inf", "NaN"⟩

/-- The layout of numbers in messages about JSON: an exponent below `10 ^ -5` and from `10 ^ 16`
on, always with a sign. -/
def jsonLayout : Layout := ⟨some (-4, 16), true, true, false, "inf", "NaN"⟩

/-- The digits of the whole part of a finite number, with its sign; what is behind the point is
dropped. -/
def wholeText (negative : Bool) (a : Magnitude) : String :=
  String.ofList ((if negative then ['-'] else []) ++ digitsOf (a.units / Nat.pow 2 1074))

end Decimal
end CommitForm
