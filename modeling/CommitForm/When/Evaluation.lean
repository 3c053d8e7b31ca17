/-
# Evaluating expressions

`Expr.value` gives the value of an expression where names are bound to the values of fields, or the
first fault in the order of evaluation.

| expression | evaluates | value |
| --- | --- | --- |
| `a && b`, `a \|\| b` | `b` only if `a` leaves the answer open | whether the operands are true |
| `a =~ /p/f` | `a` | whether the pattern occurs in the text of `a` |
| `a in b` | `a`, then `b` | whether an item of the array `b` equals `a` |
| `a == b`, `a < b`, … | `a`, then `b` | whether the values compare so |
| `!a` | `a` | whether `a` is not true |
| `[a, b]` | `a`, then `b` | the array |

A pattern literal has no value of its own; it may only stand to the right of `=~`.

Where a pattern is refused, the message ends with what the engine of regular expressions says about
it.  These words are the engine's own.  They depend on the setting and the text that the engine was
handed, which the fault keeps, and messages take them as a parameter.
-/

import CommitForm.Pattern.Search
import CommitForm.When.Expr
import CommitForm.When.Value

namespace CommitForm
namespace When

/-- What can go wrong in an evaluation.  A refused pattern is kept with the setting and the source
that were handed to the engine of regular expressions, since they decide what the engine says about
it; `body` is the text between the slashes, to which the flag `y` may have added. -/
inductive EvalFault where
  | notAnArray (found : Value)
  | notAPattern
  | strayPattern (body flags : String)
  | repeatedFlag (flag : Char)
  | exclusiveFlags
  | invalidPattern (body : String) (setting : Pattern.Setting) (source : String)

/-- What an engine of regular expressions says about a source that it refuses under a setting. -/
abbrev EngineWords := Pattern.Setting → String → String

namespace EvalFault

/-- The program's own words about a fault, which name what was found instead of what was expected.
Those of the engine of regular expressions come behind them. -/
def summary : EvalFault → String
  | notAnArray v => "right operand of 'in' must be an array, found " ++ v.display
  | notAPattern => "right operand of '=~' must be a regular expression literal"
  | strayPattern body flags =>
    "regular expression /" ++ body ++ "/" ++ flags ++
      " is only valid as the right operand of '=~'"
  | repeatedFlag c => "duplicate regex flag '" ++ String.singleton c ++ "'"
  | exclusiveFlags => "regex flags 'u' and 'v' are mutually exclusive"
  | invalidPattern body _ _ => "invalid regular expression /" ++ body ++ "/"

/-- What is added to the program's own words: those of the engine about a pattern that it refuses,
and nothing for all other faults. -/
def addition (engine : EngineWords) : EvalFault → String
  | invalidPattern _ setting source => ": " ++ engine setting source
  | _ => ""

/-- The message of a fault, given the words of the engine: the program's own words first, then those
of the engine where there are any. -/
def message (engine : EngineWords) (f : EvalFault) : String := f.summary ++ f.addition engine

/-- A fault as it is shown to whoever asked for the evaluation, given the words of the engine. -/
def display (engine : EngineWords) (f : EvalFault) : String :=
  "evaluation error: " ++ f.message engine

/-- A fault as it is shown, as far as it can be told without knowing the engine. -/
def text (f : EvalFault) : String := "evaluation error: " ++ f.summary

/-- **What is told without the engine is how the message begins,** whatever the engine says; only
the message about a refused pattern goes on. -/
theorem display_eq (engine : EngineWords) (f : EvalFault) :
    f.display engine = f.text ++ f.addition engine := String.append_assoc.symm

end EvalFault

/-- The first flag that stands behind another one of its kind.  `seen` holds the flags before. -/
def repeatedFlag? (seen : List Char) : List Char → Option Char
  | [] => none
  | c :: cs => if seen.contains c then some c else repeatedFlag? (c :: seen) cs

/-- How the flags of a pattern literal set a pattern: letters that are no flags change nothing. -/
def settingOf (flags : List Char) : Pattern.Setting :=
  { Pattern.Setting.plain with
    ignoreCase := flags.contains 'i'
    multiLine := flags.contains 'm'
    dotAll := flags.contains 's' }

/-- The pattern to search for: with the flag `y` a match has to begin at the start of the text. -/
def searched (body : String) (flags : List Char) : String :=
  if flags.contains 'y' then "\\A(?:" ++ body ++ ")" else body

/-- The regular expression of a pattern literal, or what is wrong with the literal: a flag that is
repeated, the flags `u` and `v` together, then what the engine refuses.  The flags `u` and `v` do
not change what is searched for. -/
def compilePattern (body flags : String) : Except EvalFault Pattern.Regex :=
  let flags := flags.toList
  match repeatedFlag? [] flags with
  | some c => .error (.repeatedFlag c)
  | none =>
    if flags.contains 'u' ∧ flags.contains 'v' then .error .exclusiveFlags
    else
      match Pattern.compile? (settingOf flags) (searched body flags) with
      | some r => .ok r
      | none => .error (.invalidPattern body (settingOf flags) (searched body flags))

/-- Whether two values compare as an operator asks for.  Values that are not ordered, because one
counts as NaN, satisfy none of the four order relations. -/
def compares (op : Operator) (a b : Value) : Bool :=
  match op with
  | .eq => a.strictEq b
  | .ne => !a.strictEq b
  | .lt => a.compare? b == some .lt
  | .le => a.compare? b == some .lt || a.compare? b == some .eq
  | .gt => a.compare? b == some .gt
  | .ge => a.compare? b == some .gt || a.compare? b == some .eq
  | _ => false

/-- Whether a value is an item of an array, by equality without conversion.  To the right of `in`
nothing but an array will do. -/
def isMember (needle : Value) : Value → Except EvalFault Bool
  | .array items => .ok (items.any fun item => item.strictEq needle)
  | v => .error (.notAnArray v)

namespace Expr

mutual

/-- The value of an expression where names are bound, or its first fault.  Operands are evaluated
from left to right, and `&&` and `||` stop as soon as the answer is known; the operand of `=~` is
evaluated before its pattern is compiled. -/
def value (names : Values) : Expr → Except EvalFault Value
  | string s => .ok (.string s)
  | number n => .ok (.number n)
  | identifier name => .ok (((names.get? name).map Value.ofFieldValue).getD .undefined)
  | array es => (valuesOf names es).map .array
  | pattern body flags => .error (.strayPattern body flags)
  | not e => (e.value names).map fun v => .bool !v.truthy
  | binary op l r =>
    match op with
    | .both =>
      match l.value names with
      | .error f => .error f
      | .ok v => if v.truthy then (r.value names).map fun w => .bool w.truthy else .ok (.bool false)
    | .either =>
      match l.value names with
      | .error f => .error f
      | .ok v => if v.truthy then .ok (.bool true) else (r.value names).map fun w => .bool w.truthy
    | .isMatch =>
      match r with
      | pattern body flags =>
        match l.value names with
        | .error f => .error f
        | .ok v => (compilePattern body flags).map fun p => .bool (p.occursIn v.text)
      | _ => .error .notAPattern
    | .isIn =>
      match l.value names with
      | .error f => .error f
      | .ok v =>
        match r.value names with
        | .error f => .error f
        | .ok w => (isMember v w).map .bool
    | op =>
      match l.value names with
      | .error f => .error f
      | .ok v => (r.value names).map fun w => .bool (compares op v w)

/-- The values of expressions from left to right, up to the first fault among them. -/
def valuesOf (names : Values) : List Expr → Except EvalFault (List Value)
  | [] => .ok []
  | e :: es =>
    match e.value names with
    | .error f => .error f
    | .ok v => (valuesOf names es).map (v :: ·)

end

/-- A negation is evaluated by its operand; written with `bind`, so that a fault is seen to pass
through. -/
theorem value_not {names : Values} (e : Expr) :
    (not e).value names = (e.value names).bind fun v => .ok (.bool !v.truthy) := by
  rw [value]
  cases e.value names <;> rfl

/-- Two lists of expressions are evaluated one after the other: the second is reached only if the
first has no fault. -/
theorem valuesOf_append {names : Values} (es es' : List Expr) :
    valuesOf names (es ++ es') = (valuesOf names es).bind fun vs =>
      (valuesOf names es').bind fun ws => .ok (vs ++ ws) := by
  induction es with
  | nil =>
    rw [List.nil_append, valuesOf]
    cases valuesOf names es' <;> rfl
  | cons e es ih =>
    rw [List.cons_append, valuesOf, valuesOf, ih]
    cases e.value names with
    | error f => rfl
    | ok v =>
      cases valuesOf names es with
      | error f => rfl
      | ok vs => cases valuesOf names es' <;> rfl

/-- Whether an expression holds: whether its value counts as true.  A fault is handed on and not
taken for an answer. -/
def holds (names : Values) (e : Expr) : Except EvalFault Bool := (e.value names).map Value.truthy

end Expr

end When
end CommitForm
