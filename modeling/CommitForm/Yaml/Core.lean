/-
# What scalars stand for

A plain scalar stands for the first of these that its text spells, and else for its text.

| value | spelled |
| --- | --- |
| nothing | `~`, `null`, `Null`, `NULL` or not at all |
| a flag | `true`, `false` and the same capitalised or in capitals |
| a whole number | decimal digits, or digits behind `0x`, `0o`, `0b`, with a sign or none |
| a fraction | a decimal literal, `.inf` or `.nan` |

Decimal digits behind a leading zero spell no number.  A scalar with a tag of the core schema has to
stand for what the tag says; scalars in quotes or blocks stand for their texts.
-/

import CommitForm.Document.Mismatch
import CommitForm.Number.Literal
import CommitForm.Yaml.Scalar
import CommitForm.Yaml.Tag

namespace CommitForm
namespace Yaml

open Document

/-- Whether a text spells nothing, in one of the four spellings of the core schema; the empty text
is decided elsewhere. -/
def isNull (text : String) : Bool := ["~", "null", "Null", "NULL"].contains text

/-- The flag that a text spells, in lower case, in upper case or capitalised, and in no other
mixture. -/
def flagOf? (text : String) : Option Bool :=
  if ["true", "True", "TRUE"].contains text then some true
  else if ["false", "False", "FALSE"].contains text then some false
  else none

/-- Whether a text without its sign has a leading zero and otherwise only digits. -/
def hasLeadingZero (cs : List Char) : Bool :=
  match cs with
  | '0' :: d :: ds => (d :: ds).all Literal.isDigit
  | _ => false

/-- The text without a sign, to look at its digits; a second sign is left and then is no digit. -/
def dropSign (cs : List Char) : List Char :=
  match cs with
  | '-' :: ds => ds
  | '+' :: ds => ds
  | ds => ds

/-- The number of the digits of a radix, all of which must be digits, and at least one. -/
def digitsOf? (radix : Nat) (ds : List Char) : Option Nat :=
  if ds = [] then none
  else (ds.mapM (Literal.radixDigit? radix)).map fun ns => ns.foldl (fun n d => radix * n + d) 0

/-- The whole number that a text without a sign spells, in one of four radices; a decimal one has no
superfluous zero in front. -/
def naturalOf? (cs : List Char) : Option Nat :=
  match cs with
  | '0' :: 'x' :: ds => digitsOf? 16 ds
  | '0' :: 'o' :: ds => digitsOf? 8 ds
  | '0' :: 'b' :: ds => digitsOf? 2 ds
  | ds => if hasLeadingZero ds then none else digitsOf? 10 ds

/-- The whole number that a text spells, with a sign or without; no bound is put on it here. -/
def wholeOf? (cs : List Char) : Option Int :=
  match cs with
  | '-' :: ds => (naturalOf? ds).map fun n => -(n : Int)
  | '+' :: ds => (naturalOf? ds).map Int.ofNat
  | ds => (naturalOf? ds).map Int.ofNat

/-- The value of a whole number in one of the kinds that a message tells apart; those beyond 128
bits have none and count as fractions. -/
def foundWhole? (cs : List Char) : Option Found :=
  (wholeOf? cs).bind fun n =>
    if -(Nat.pow 2 63) ≤ n ∧ n < Nat.pow 2 64 then some (.whole n)
    else if -(Nat.pow 2 127) ≤ n ∧ n < Nat.pow 2 128 then some (.wide n)
    else none

/-- The fraction that a text spells, the infinities and the value that is no number among them;
nothing else with letters but an exponent is one. -/
def fractionOf? (cs : List Char) : Option Binary64 :=
  let text := String.ofList cs
  if [".inf", ".Inf", ".INF", "+.inf", "+.Inf", "+.INF"].contains text then some (.infinite false)
  else if ["-.inf", "-.Inf", "-.INF"].contains text then some (.infinite true)
  else if [".nan", ".NaN", ".NAN"].contains text then some .nan
  else
    (Literal.decimal? cs).filter fun x =>
      match x with
      | .finite _ _ => true
      | _ => false

/-- What a text stands for where it is not quoted: nothing, a flag, a number, or else itself. -/
def foundPlain (text : String) : Found :=
  let cs := text.toList
  if text = "" ∨ isNull text then .empty
  else
    match flagOf? text with
    | some b => .flag b
    | none =>
      match foundWhole? cs with
      | some f => f
      | none =>
        if hasLeadingZero (dropSign cs) then .text text
        else
          match fractionOf? cs with
          | some x => .fraction x
          | none => .text text

/-- A value, or the failure of a text that is not the expected value. -/
def expected (text what : String) (f : Option Found) : Except Mismatch Found :=
  match f with
  | some f => .ok f
  | none => .error (.wrongValue (.text text) what)

/-- What a scalar stands for: with a tag of the core schema it has to spell a value of that type,
and quoted it is a text. -/
def foundScalar (tag : Option Tag) (style : Style) (text : String) : Except Mismatch Found :=
  match tag with
  | some .null => expected text "null" (if isNull text then some .empty else none)
  | some .flag => expected text "a boolean" ((flagOf? text).map .flag)
  | some .whole => expected text "an integer" (foundWhole? text.toList)
  | some .fraction => expected text "a float" ((fractionOf? text.toList).map .fraction)
  | some .other => .ok (.text text)
  | some (.own _) | none => .ok (if style = .plain then foundPlain text else .text text)

end Yaml
end CommitForm
