/-
# Words, numbers and strings of JSON

A number without a fraction and an exponent is whole when it fits into 64 bits; any other number is
binary64: its first digits, as many as fit into 64 bits, are multiplied or divided by a power of
ten, each step rounded.

In a string, characters beyond the basic plane are written as two escapes, the first of which must
not stand alone.
-/

import CommitForm.Json.Cursor
import CommitForm.Text.Size

namespace CommitForm
namespace Json

/-! ## Words -/

/-- Reads the characters of a word, of which the first has been read already; the fault is at the
first character that differs. -/
def readWord : List Char → Cursor → Outcome Unit
  | [], c => .ok ((), c)
  | w :: ws, c =>
    match c.peek with
    | none => c.failHere .endInValue
    | some a => if a = w then readWord ws c.advance else c.failNext .wordExpected

/-! ## Numbers -/

/-- A number that has been read: a whole number of 64 bits, or the double that all other numbers
become. -/
inductive Numeral where
  | whole (n : Int)
  | fraction (x : Binary64)

/-- What a number counts as where it does not belong, as messages tell it. -/
def Numeral.found : Numeral → Document.Found
  | whole n => .whole n
  | fraction x => .fraction x

/-- The largest number of 64 bits; digits that would go beyond it are no longer appended. -/
def maxWord : Nat := Nat.pow 2 64 - 1

/-- Appends digits to a number as long as it fits into 64 bits: the number and how many digits were
appended. -/
def appendDigits (n : Nat) : List Char → Nat × Nat
  | [] => (n, 0)
  | d :: ds =>
    let next := 10 * n + (d.toNat - 48)
    if maxWord < next then (n, 0)
    else let (m, count) := appendDigits next ds; (m, count + 1)

/-- Multiplies by a power of ten, in steps of at most `10 ^ 308`, each rounded.  `none` if the
result is infinite. -/
def scaleByTen : Nat → Binary64 → Int → Option Binary64
  | 0, x, _ => some x
  | fuel + 1, x, power =>
    if power.natAbs ≤ 308 then
      let ten := Binary64.nearest false (Nat.pow 10 power.natAbs) 1
      if 0 ≤ power then
        match x.mul ten with
        | .infinite _ => none
        | y => some y
      else some (x.div ten)
    else if x.isZero then some x
    else if 0 ≤ power then none
    else scaleByTen fuel (x.div (Binary64.nearest false (Nat.pow 10 308) 1)) (power + 308)

/-- The number of a significand and a power of ten.  The significand is made a double first and then
scaled, so that the result need not be the nearest one. -/
def fractionOf (positive : Bool) (significand : Nat) (power : Int) (c : Cursor) : Outcome Numeral :=
  match scaleByTen 5 (.ofNat significand) power with
  | some x => .ok (.fraction (if positive then x else x.negate), c)
  | none => c.failHere .numberTooLarge

/-- The greatest exponent that is computed with; a greater one makes the number zero or too
large. -/
def maxExponent : Nat := Nat.pow 2 31 - 1

/-- Reads the digits of an exponent as long as it is not too large: the exponent, the place behind
the digits taken, and whether it became too large. -/
def readExponentDigits (n : Nat) : Nat → Cursor → Nat × Cursor × Bool
  | 0, c => (n, c, false)
  | count + 1, c =>
    let next := 10 * n + (c.peekOrNull.toNat - 48)
    if maxExponent < next then (n, c.advance, true) else readExponentDigits next count c.advance

/-- Reads the exponent of a number, whose letter follows.  An exponent beyond the greatest one is
decided by its sign and by whether the significand is zero. -/
def readExponent (positive : Bool) (significand : Nat) (power : Int) (c : Cursor) :
    Outcome Numeral :=
  let c := c.advance
  let up := c.peekOrNull ≠ '-'
  let c := if c.peekOrNull = '+' ∨ c.peekOrNull = '-' then c.advance else c
  match c.peek with
  | none => c.failHere .endInValue
  | some d =>
    if d.isDigit then
      let (e, c, tooLarge) := readExponentDigits (d.toNat - 48) c.advance.digitCount c.advance
      if tooLarge then
        if significand ≠ 0 ∧ up then c.failHere .numberTooLarge
        else .ok (.fraction (.finite (!positive) Magnitude.zero), c.skipDigits)
      else fractionOf positive significand (if up then power + e else power - e) c
    else c.failNext .badNumber

/-- Reads what follows the digits of a number: an exponent or nothing, in which case the power is
known. -/
def readScale (positive : Bool) (significand : Nat) (power : Int) (c : Cursor) : Outcome Numeral :=
  if c.peekOrNull = 'e' ∨ c.peekOrNull = 'E' then readExponent positive significand power c
  else fractionOf positive significand power c

/-- Reads the fraction of a number, whose point follows.  Digits beyond what the significand holds
are passed over. -/
def readFraction (positive : Bool) (significand : Nat) (power : Int) (c : Cursor) :
    Outcome Numeral :=
  let c := c.advance
  let digits := c.rest.takeWhile Char.isDigit
  if digits = [] then
    match c.peek with
    | some _ => c.failNext .badNumber
    | none => c.failNext .endInValue
  else
    let (significand, used) := appendDigits significand digits
    readScale positive significand (power - used) c.skipDigits

/-- Reads what follows the whole part of a number that is too long for 64 bits. -/
def readLong (positive : Bool) (significand : Nat) (power : Int) (c : Cursor) : Outcome Numeral :=
  if c.peekOrNull = '.' then readFraction positive significand power c
  else readScale positive significand power c

/-- Reads what follows the whole part of a number, which stays whole if nothing does.  A negative
zero is a fraction, since whole numbers have none. -/
def readNumeralEnd (positive : Bool) (significand : Nat) (c : Cursor) : Outcome Numeral :=
  match c.peekOrNull with
  | '.' => readFraction positive significand 0 c
  | 'e' => readExponent positive significand 0 c
  | 'E' => readExponent positive significand 0 c
  | _ =>
    if positive then .ok (.whole significand, c)
    else if 0 < significand ∧ significand ≤ Nat.pow 2 63 then .ok (.whole (-significand), c)
    else .ok (.fraction (Binary64.ofNat significand).negate, c)

/-- Reads a number behind its sign.  Nothing may follow a leading zero but a point or an
exponent. -/
def readNumeral (positive : Bool) (c : Cursor) : Outcome Numeral :=
  match c.peek with
  | none => c.failHere .endInValue
  | some d =>
    if d = '0' then
      let c := c.advance
      if c.peekOrNull.isDigit then c.failNext .badNumber else readNumeralEnd positive 0 c
    else if d.isDigit then
      let digits := c.rest.takeWhile Char.isDigit
      let (significand, used) := appendDigits 0 digits
      let c := c.skipDigits
      if used < digits.length then
        readLong positive significand ((digits.length - used : Nat) : Int) c
      else readNumeralEnd positive significand c
    else c.failNext .badNumber

/-! ## Strings -/

/-- The value of four hexadecimal digits, of which none may be missing. -/
def fourDigits? : List Char → Option Nat
  | a :: b :: c :: d :: _ => do
    let a ← Unicode.CharSet.hexDigit? a
    let b ← Unicode.CharSet.hexDigit? b
    let c ← Unicode.CharSet.hexDigit? c
    let d ← Unicode.CharSet.hexDigit? d
    some (((16 * a + b) * 16 + c) * 16 + d)
  | _ => none

/-- Reads the four digits of an escape.  The fault is behind the four bytes that were looked at, or
at the end of the text. -/
def readFourDigits (c : Cursor) : Outcome Nat :=
  match fourDigits? c.rest with
  | some n => .ok (n, c.advanceBy 4)
  | none =>
    if Text.byteLength (c.rest.take 4) < 4 then
      .error (.placed ⟨.endInString, some (c.position.afterBytes 4 c.rest)⟩)
    else .error (.placed ⟨.badEscape, some (c.position.afterBytes 4 c.rest)⟩)

/-- Whether a code unit is the first of a pair of surrogates. -/
def isLeading (n : Nat) : Bool := 0xD800 ≤ n && n ≤ 0xDBFF

/-- Whether a code unit is the second of a pair of surrogates. -/
def isTrailing (n : Nat) : Bool := 0xDC00 ≤ n && n ≤ 0xDFFF

/-- Expects a character of the second escape of a pair, which has to follow the first one at
once. -/
def expectInPair (a : Char) (c : Cursor) : Outcome Unit :=
  match c.peek with
  | none => c.failHere .endInString
  | some b => if b = a then .ok ((), c.advance) else c.failNext .shortEscape

/-- Reads an escape by code units behind its letter: one unit for most characters, a pair for those
beyond `ffff`.  A surrogate by itself is a fault. -/
def readUnits (c : Cursor) : Except Failure (Char × Cursor) := do
  let (n, c) ← readFourDigits c
  if isTrailing n then c.failHere .loneSurrogate
  else if isLeading n then
    let ((), c) ← expectInPair '\\' c
    let ((), c) ← expectInPair 'u' c
    let (m, c) ← readFourDigits c
    if isTrailing m then .ok (Char.ofNat ((n - 0xD800) * 0x400 + (m - 0xDC00) + 0x10000), c)
    else c.failHere .loneSurrogate
  else .ok (Char.ofNat n, c)

/-- The character that an escape by one letter stands for, if there is such an escape. -/
def escaped? : Char → Option Char
  | '"' => some '"'
  | '\\' => some '\\'
  | '/' => some '/'
  | 'b' => some '\x08'
  | 'f' => some '\x0c'
  | 'n' => some '\n'
  | 'r' => some '\r'
  | 't' => some '\t'
  | _ => none

/-- Reads an escape behind its backslash: by one letter, or by code units. -/
def readEscape (c : Cursor) : Outcome Char :=
  match c.peek with
  | none => c.failHere .endInString
  | some 'u' => readUnits c.advance
  | some a =>
    match escaped? a with
    | some b => .ok (b, c.advance)
    | none => c.failNext .badEscape

/-- Reads a string behind its opening quote.  Each step takes a character, so that fuel of one more
than the length suffices. -/
def readStringFrom : Nat → Cursor → Except Failure (List Char × Cursor)
  | 0, c => c.failHere .endInString
  | fuel + 1, c =>
    match c.peek with
    | none => c.failHere .endInString
    | some '"' => .ok ([], c.advance)
    | some '\\' => do
      let (a, c) ← readEscape c.advance
      let (rest, c) ← readStringFrom fuel c
      .ok (a :: rest, c)
    | some a =>
      if a.toNat < 0x20 then c.failNext .controlCharacter
      else do
        let (rest, c) ← readStringFrom fuel c.advance
        .ok (a :: rest, c)

/-- Reads a string behind its opening quote, up to and with its closing one. -/
def readString (c : Cursor) : Except Failure (String × Cursor) := do
  let (cs, c) ← readStringFrom (c.rest.length + 1) c
  .ok (String.ofList cs, c)

end Json
end CommitForm
