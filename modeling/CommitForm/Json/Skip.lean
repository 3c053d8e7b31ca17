/-
# Skipping JSON values

What an entry that nobody asks for holds is skipped: its form is checked, but nothing is built, and
no limit is set to how deep it nests.  Numbers may be of any size and escapes by code units need no
partner.
-/

import CommitForm.Json.Scalar

namespace CommitForm
namespace Json

/-- Skips digits of which there has to be one, as behind a point or in an exponent. -/
def skipSomeDigits (c : Cursor) : Outcome Unit :=
  if c.digitCount = 0 then c.failNext .badNumber else .ok ((), c.skipDigits)

/-- Skips the exponent of a number, whose letter follows, with its sign if it has one. -/
def skipExponent (c : Cursor) : Outcome Unit :=
  let c := c.advance
  skipSomeDigits (if c.peekOrNull = '+' ∨ c.peekOrNull = '-' then c.advance else c)

/-- Skips an exponent if one follows, and nothing otherwise. -/
def skipScale (c : Cursor) : Outcome Unit :=
  if c.peekOrNull = 'e' ∨ c.peekOrNull = 'E' then skipExponent c else .ok ((), c)

/-- Skips what follows the whole part of a number: a fraction and an exponent, each of which may be
missing. -/
def skipNumeralEnd (c : Cursor) : Outcome Unit :=
  if c.peekOrNull = '.' then
    match skipSomeDigits c.advance with
    | .error e => .error e
    | .ok ((), c) => skipScale c
  else skipScale c

/-- Skips a number behind its sign; how large it is does not matter. -/
def skipNumeral (c : Cursor) : Outcome Unit :=
  if c.peekOrNull = '0' then
    let c := c.advance
    if c.peekOrNull.isDigit then c.failNext .badNumber else skipNumeralEnd c
  else if c.peekOrNull.isDigit then skipNumeralEnd c.skipDigits
  else c.failNext .badNumber

/-- Skips an escape behind its backslash.  Surrogates are not paired, so that one by itself is no
fault here. -/
def skipEscape (c : Cursor) : Outcome Unit :=
  match c.peek with
  | none => c.failHere .endInString
  | some 'u' =>
    match readFourDigits c.advance with
    | .error e => .error e
    | .ok (_, c) => .ok ((), c)
  | some a => if (escaped? a).isSome then .ok ((), c.advance) else c.failNext .badEscape

/-- Skips a string behind its opening quote.  Each step takes a character, so that fuel of one more
than the length suffices. -/
def skipStringFrom : Nat → Cursor → Outcome Unit
  | 0, c => c.failHere .endInString
  | fuel + 1, c =>
    match c.peek with
    | none => c.failHere .endInString
    | some '"' => .ok ((), c.advance)
    | some '\\' =>
      match skipEscape c.advance with
      | .error e => .error e
      | .ok ((), c) => skipStringFrom fuel c
    | some a =>
      if a.toNat < 0x20 then c.failHere .controlCharacter else skipStringFrom fuel c.advance

/-- Skips a string behind its opening quote, up to and with its closing one. -/
def skipString (c : Cursor) : Outcome Unit := skipStringFrom (c.rest.length + 1) c

/-- The two kinds of brackets, which are kept on a stack while values are skipped. -/
inductive Bracket where
  | list | object
deriving DecidableEq

namespace Bracket

/-- The closing bracket of a kind. -/
def closing : Bracket → Char
  | list => ']'
  | object => '\x7d'

/-- The fault of a text that ends where a bracket of this kind is open. -/
def atEnd : Bracket → Fault
  | list => .endInList
  | object => .endInObject

/-- The fault of something else that stands where a comma or the closing bracket has to. -/
def withoutComma : Bracket → Fault
  | list => .commaExpectedInList
  | object => .commaExpectedInObject

end Bracket

/-- Skips the key of an entry and the colon behind it, with the blanks around them. -/
def skipKey (c : Cursor) : Outcome Unit :=
  let c := c.skipBlanks
  match c.peek with
  | none => c.failNext .endInObject
  | some '"' =>
    match skipString c.advance with
    | .error e => .error e
    | .ok ((), c) =>
      let c := c.skipBlanks
      match c.peek with
      | none => c.failNext .endInObject
      | some ':' => .ok ((), c.advance)
      | some _ => c.failNext .colonExpected
  | some _ => c.failNext .keyExpected

/-- What skipping a value comes to: a scalar is done, or a bracket has been opened. -/
inductive Skipped where
  | scalar
  | opened (b : Bracket)

/-- Skips a scalar or an opening bracket, and tells which of the two it was. -/
def skipOne (c : Cursor) : Outcome Skipped :=
  let c := c.skipBlanks
  let scalar (r : Outcome Unit) : Outcome Skipped := r.map fun ((), c) => (.scalar, c)
  match c.peek with
  | none => c.failNext .endInValue
  | some 'n' => scalar (readWord ['u', 'l', 'l'] c.advance)
  | some 't' => scalar (readWord ['r', 'u', 'e'] c.advance)
  | some 'f' => scalar (readWord ['a', 'l', 's', 'e'] c.advance)
  | some '-' => scalar (skipNumeral c.advance)
  | some '"' => scalar (skipString c.advance)
  | some '[' => .ok (.opened .list, c.advance)
  | some '\x7b' => .ok (.opened .object, c.advance)
  | some a => if a.isDigit then scalar (skipNumeral c) else c.failNext .valueExpected

/-- Closes brackets as long as closing brackets follow.  `inner` is the innermost open bracket,
`outer` holds those around it; `comma` tells whether a value stands directly before.  Answers the
brackets that are still open where the next value or entry is expected. -/
def closeBrackets : Nat → Bracket → List Bracket → Bool → Cursor → Outcome (List Bracket)
  | 0, _, _, _, c => c.failNext .endInValue
  | fuel + 1, inner, outer, comma, c =>
    let c := c.skipBlanks
    match c.peek with
    | none => c.failNext inner.atEnd
    | some a =>
      if a = inner.closing then
        match outer with
        | [] => .ok ([], c.advance)
        | next :: outer => closeBrackets fuel next outer true c.advance
      else if comma then
        if a = ',' then .ok (inner :: outer, c.advance) else c.failNext inner.withoutComma
      else .ok (inner :: outer, c)

/-- Skips values until all open brackets are closed.  Each round takes a character, so that fuel of
one more than the length suffices. -/
def skipRounds : Nat → List Bracket → Cursor → Outcome Unit
  | 0, _, c => c.failNext .endInValue
  | fuel + 1, brackets, c =>
    match skipOne c with
    | .error e => .error e
    | .ok (skipped, c) =>
      let closed : Outcome (List Bracket) :=
        match skipped, brackets with
        | .opened b, outer => closeBrackets (c.rest.length + 1) b outer false c
        | .scalar, inner :: outer => closeBrackets (c.rest.length + 1) inner outer true c
        | .scalar, [] => .ok ([], c)
      match closed with
      | .error e => .error e
      | .ok ([], c) => .ok ((), c)
      | .ok (.list :: outer, c) => skipRounds fuel (.list :: outer) c
      | .ok (.object :: outer, c) =>
        match skipKey c with
        | .error e => .error e
        | .ok ((), c) => skipRounds fuel (.object :: outer) c

/-- Skips a value, whatever it is and however deep it nests. -/
def skipValue (c : Cursor) : Outcome Unit := skipRounds (c.rest.length + 1) [] c

end Json
end CommitForm
