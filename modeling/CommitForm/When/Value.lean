/-
# Values of expressions

What an expression evaluates to, and the views of such a value that the operators use.

| view | of an array |
| --- | --- |
| `truthy` | whether it has items |
| `text` | the texts of its items joined by commas, an undefined item being empty |
| `number` | the number that its text denotes |
| `display` | its items in brackets, strings in quotes |
-/

import CommitForm.Number.Decimal
import CommitForm.Number.Literal
import CommitForm.Values

namespace CommitForm
namespace When

/-- What an expression may come to.  A name that is not bound has the value `undefined`; patterns
are no values. -/
inductive Value where
  | undefined
  | bool (b : Bool)
  | number (n : Binary64)
  | string (s : String)
  | array (items : List Value)
deriving Inhabited

namespace Value

/-- The value of a name that is bound to a field's value: a single text is a string, a list an array
of strings. -/
def ofFieldValue : FieldValue → Value
  | .single text => string text
  | .multiple items => array (items.map string)

/-- Whether a value counts as true.  Zero, NaN, the empty text, the empty array and `undefined` do
not. -/
def truthy : Value → Bool
  | undefined => false
  | bool b => b
  | number n => !n.isZero && !n.isNaN
  | string s => !s.isEmpty
  | array items => !items.isEmpty

mutual

/-- Equality without conversion: values of different kinds are different, arrays are equal item by
item, and NaN differs from itself. -/
def strictEq : Value → Value → Bool
  | undefined, undefined => true
  | bool a, bool b => a == b
  | number a, number b => a.equals b
  | string a, string b => a == b
  | array as, array bs => strictEqAll as bs
  | _, _ => false

/-- Whether two arrays have equal items in the same order; arrays of different lengths are
different. -/
def strictEqAll : List Value → List Value → Bool
  | [], [] => true
  | a :: as, b :: bs => a.strictEq b && strictEqAll as bs
  | _, _ => false

end

/-- The bound below which whole numbers are written with all their digits, `10 ^ 21`. -/
def wholeTextBound : Nat := Nat.pow 10 21

/-- The text of a number: whole numbers below `10 ^ 21` with all their digits, others with the
fewest that read back, never with an exponent. -/
def numberText : Binary64 → String
  | .nan => "NaN"
  | .infinite negative => if negative then "-Infinity" else "Infinity"
  | .finite negative a =>
    if (Binary64.finite negative a).isWhole && a.units < wholeTextBound * Nat.pow 2 1074 then
      Decimal.wholeText negative a
    else Decimal.plain.text (.finite negative a)

mutual

/-- The text of a value, which patterns are searched in.  The items of an array are joined by
commas. -/
def text : Value → String
  | undefined => "undefined"
  | bool b => if b then "true" else "false"
  | number n => numberText n
  | string s => s
  | array items => String.intercalate "," (itemTexts items)

/-- The texts of the items of an array.  An item without a value is shown as nothing, while on its
own it is `undefined`. -/
def itemTexts : List Value → List String
  | [] => []
  | undefined :: items => "" :: itemTexts items
  | item :: items => item.text :: itemTexts items

end

mutual

/-- A value as it is shown in messages: strings in quotes, arrays in brackets. -/
def display : Value → String
  | undefined => "undefined"
  | bool b => if b then "true" else "false"
  | number n => numberText n
  | string s => "'" ++ s ++ "'"
  | array items => "[" ++ String.intercalate ", " (displays items) ++ "]"

/-- The items of an array as they are shown in messages, one text for each. -/
def displays : List Value → List String
  | [] => []
  | item :: items => item.display :: displays items

end

/-- The number that a value counts as in comparisons.  A text that denotes no number, and what has
no value, count as NaN; an array counts as its text does. -/
def toNumber : Value → Binary64
  | undefined => .nan
  | bool b => if b then .one else .zero
  | number n => n
  | string s => Literal.numeric s
  | array items => Literal.numeric (array items).text

/-- An array as its text, any other value as it is.  Comparisons of order see arrays only in this
form. -/
def flatten : Value → Value
  | array items => string (array items).text
  | v => v

/-- The order of two values: two texts compare character by character, all else as numbers.  There
is none if one of the numbers is `NaN`. -/
def compare? (a b : Value) : Option Ordering :=
  match a.flatten, b.flatten with
  | string s, string t => some (compare s t)
  | a, b => a.toNumber.compare? b.toNumber

end Value

end When
end CommitForm
