/-
# Tokens of when-clauses

A when-clause is a condition on the values of a form, such as `type == 'fix' && scope =~ /^ui/`.
Its tokens are literals, names, operators and brackets.  Each operator belongs to one of three
levels, which bind tighter from the first to the last:

| level | operators |
| --- | --- |
| `either` | `\|\|` |
| `both` | `&&` |
| `relation` | `==` `!=` `<` `<=` `>` `>=` `in` `=~` |
-/

import CommitForm.Number.Decimal

namespace CommitForm
namespace When

/-- The binary operators of when-clauses: six comparisons, membership in an array, the search for a
pattern, and the two logical operators. -/
inductive Operator where
  | eq | ne | lt | le | gt | ge | isIn | isMatch | both | either
deriving DecidableEq, Repr

namespace Operator

/-- How an operator is written in a source.  Messages and outlines of tokens use the same
spelling. -/
def spelling : Operator → String
  | eq => "=="
  | ne => "!="
  | lt => "<"
  | le => "<="
  | gt => ">"
  | ge => ">="
  | isIn => "in"
  | isMatch => "=~"
  | both => "&&"
  | either => "||"

/-- All operators in one list, so that statements about every operator can be decided by looking at
each. -/
def all : List Operator := [eq, ne, lt, le, gt, ge, isIn, isMatch, both, either]

/-- No operator is missing from `Operator.all`; what is decided for the members of this list holds
for all operators. -/
theorem mem_all (op : Operator) : op ∈ all := by cases op <;> decide

/-- No two operators are written alike, so the spelling in a source tells which operator is
meant. -/
theorem spelling_injective {a b : Operator} (h : a.spelling = b.spelling) : a = b := by
  cases a <;> cases b <;> first | rfl | exact absurd h (by decide)

end Operator

/-- The binding strength of operators, the loosest first: `||` binds less than `&&`, and `&&` less
than any relation. -/
inductive Level where
  | either | both | relation
deriving DecidableEq, Repr

/-- The level an operator belongs to.  All comparisons, `in` and `=~` share one level and group to
the left. -/
def Operator.level : Operator → Level
  | .either => .either
  | .both => .both
  | _ => .relation

/-- A token.  The text of a string literal is its raw body, backslashes included; a pattern literal
keeps its slashes and flags. -/
inductive Token where
  | number (value : Binary64)
  | string (text : String)
  | pattern (literal : String)
  | identifier (name : String)
  | operator (op : Operator)
  | not
  | openParen
  | closeParen
  | openBracket
  | closeBracket
  | comma
  | eof
deriving DecidableEq

/-- How a token is named in messages: strings stand between single quotes, numbers are written
without an exponent, and the end of the tokens is `EOF`. -/
def Token.text : Token → String
  | number n => Decimal.plain.text n
  | string s => "'" ++ s ++ "'"
  | pattern s => s
  | identifier s => s
  | operator op => op.spelling
  | not => "!"
  | openParen => "("
  | closeParen => ")"
  | openBracket => "["
  | closeBracket => "]"
  | comma => ","
  | eof => "EOF"

end When
end CommitForm
