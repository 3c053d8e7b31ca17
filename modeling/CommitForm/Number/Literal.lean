/-
# Reading numbers

| text | number |
| --- | --- |
| decimal literal `[+-]? (D+ (. D*)? \| . D+) ([eE] [+-]? D+)?` | the nearest binary64 number |
| radix literal `0x`, `0o`, `0b` and digits | digit by digit, rounded after each |
| `Infinity` with an optional sign | an infinity |

The last two and the first make up the numeric view of a string, after trimming; an empty text is
zero there and any other text is `NaN`.
-/

import CommitForm.Number.Binary64
import CommitForm.Text.Blank

namespace CommitForm
namespace Literal

/-- The value of a decimal digit, and nothing for any other character. -/
def digit? (c : Char) : Option Nat :=
  if '0' ≤ c ∧ c ≤ '9' then some (c.toNat - 48) else none

/-- Whether a character is an ASCII digit. -/
def isDigit (c : Char) : Bool := '0' ≤ c ∧ c ≤ '9'

/-- The number that a run of digits denotes, read from the left; the empty run denotes zero. -/
def digitsValue (ds : List Char) : Nat := ds.foldl (fun n c => 10 * n + (c.toNat - 48)) 0

/-- The number nearest to `n * 10 ^ power`.  Powers far outside the range of the format are decided
without computing them. -/
def scaled (negative : Bool) (n : Nat) (power : Int) : Binary64 :=
  if n = 0 then .finite negative Magnitude.zero
  else
    let point := ((Nat.toDigits 10 n).length : Int) + power
    if 400 < point then .infinite negative
    else if point < -400 then .finite negative Magnitude.zero
    else if 0 ≤ power then .nearest negative (n * Nat.pow 10 power.natAbs) 1
    else .nearest negative n (Nat.pow 10 power.natAbs)

/-- A sign in front of a text and the rest, where no sign counts as a plus. -/
def sign : List Char → Bool × List Char
  | '-' :: cs => (true, cs)
  | '+' :: cs => (false, cs)
  | cs => (false, cs)

/-- The value of the digits of an exponent.  It stops growing at `2 ^ 16`, far beyond every exponent
that matters. -/
def exponentValue (ds : List Char) : Nat :=
  ds.foldl (fun n c => if n < 65536 then 10 * n + (c.toNat - 48) else n) 0

/-- Reads the exponent part `[eE] [+-]? D+` or nothing, up to the end of the text. -/
def exponent? : List Char → Option Int
  | [] => some 0
  | c :: cs =>
    if c = 'e' ∨ c = 'E' then
      let (negative, ds) := sign cs
      if ds ≠ [] ∧ ds.all isDigit then
        some (if negative then -(exponentValue ds : Int) else exponentValue ds)
      else none
    else none

/-- Reads an unsigned decimal literal with the given sign: digits, a point, digits, an exponent.
There has to be a digit on one side of the point. -/
def unsigned? (negative : Bool) (cs : List Char) : Option Binary64 :=
  let whole := cs.takeWhile isDigit
  let rest := cs.dropWhile isDigit
  let (fraction, rest) :=
    match rest with
    | '.' :: r => (r.takeWhile isDigit, r.dropWhile isDigit)
    | r => ([], r)
  if whole = [] ∧ fraction = [] then none
  else
    (exponent? rest).map fun e =>
      scaled negative (digitsValue (whole ++ fraction)) (e - (fraction.length : Int))

/-- Reads a decimal literal, which may have a sign; anything behind it spoils it. -/
def decimal? (cs : List Char) : Option Binary64 :=
  let (negative, rest) := sign cs
  unsigned? negative rest

/-- The number of a run of digits; runs too long for the format are infinite. -/
def digitRun (ds : List Char) : Binary64 := .ofNat (digitsValue ds)

/-! ## The numeric view of a string -/

/-- The value of a digit in a radix up to sixteen, letters of either case included. -/
def radixDigit? (radix : Nat) (c : Char) : Option Nat :=
  let d? :=
    if '0' ≤ c ∧ c ≤ '9' then some (c.toNat - 48)
    else if 'a' ≤ c ∧ c ≤ 'f' then some (c.toNat - 87)
    else if 'A' ≤ c ∧ c ≤ 'F' then some (c.toNat - 55)
    else none
  d?.filter (· < radix)

/-- One step of reading a radix literal: the next digit is appended and the sum rounded. -/
def appendDigit (radix : Nat) (acc : Binary64) (d : Nat) : Binary64 :=
  match acc with
  | .finite _ a => .nearest false (a.units * radix + d * Nat.pow 2 1074) (Nat.pow 2 1074)
  | acc => acc

/-- The number of the digits of a radix literal; `NaN` when there is none or one is no digit. -/
def radixValue (radix : Nat) (ds : List Char) : Binary64 :=
  if ds = [] then .nan
  else
    match ds.mapM (radixDigit? radix) with
    | some values => values.foldl (appendDigit radix) .zero
    | none => .nan

/-- The radix that the second character of a prefix such as `0x` announces. -/
def radixOf? (c : Char) : Option Nat :=
  if c = 'x' ∨ c = 'X' then some 16
  else if c = 'o' ∨ c = 'O' then some 8
  else if c = 'b' ∨ c = 'B' then some 2
  else none

/-- The characters of decimal literals. -/
def isDecimalChar (c : Char) : Bool :=
  isDigit c || c == '.' || c == 'e' || c == 'E' || c == '+' || c == '-'

/-- A radix literal: the radix and the text after its prefix, whatever that text is. -/
def radixLiteral? : List Char → Option (Nat × List Char)
  | '0' :: c :: ds => (radixOf? c).map fun radix => (radix, ds)
  | _ => none

/-- The numeric view of a trimmed text: empty is zero, and what is neither infinity nor a literal is
no number. -/
def ofTrimmed (cs : List Char) : Binary64 :=
  if cs = [] then .zero
  else if cs = "Infinity".toList ∨ cs = "+Infinity".toList then .infinite false
  else if cs = "-Infinity".toList then .infinite true
  else
    match radixLiteral? cs with
    | some (radix, ds) => radixValue radix ds
    | none => if cs.all isDecimalChar then (decimal? cs).getD .nan else .nan

/-- The numeric view of a string, blanks at both ends not counted. -/
def numeric (s : String) : Binary64 := ofTrimmed (Text.trimChars s.toList)

end Literal
end CommitForm
