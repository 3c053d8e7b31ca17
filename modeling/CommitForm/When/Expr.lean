/-
# Expressions

The syntax trees of when-clauses.  The height of a tree counts the nodes on its longest branch; a
leaf and the empty array have height one.
-/

import CommitForm.Text.Quoted
import CommitForm.When.Token

namespace CommitForm
namespace When

/-- An expression, as it is read from a when-clause.  A pattern literal is kept as its body and its
flags; names are looked up only when the expression is evaluated. -/
inductive Expr where
  | binary (op : Operator) (left right : Expr)
  | not (operand : Expr)
  | string (text : String)
  | number (value : Binary64)
  | identifier (name : String)
  | array (items : List Expr)
  | pattern (body flags : String)
deriving Inhabited

namespace Expr

mutual

/-- The height of an expression, a leaf having height 1.  The parser refuses trees beyond a limit,
which bounds the depth of every recursion over them. -/
def height : Expr → Nat
  | binary _ l r => max l.height r.height + 1
  | not e => e.height + 1
  | array es => heights es + 1
  | _ => 1

/-- The greatest height in a list of expressions, zero for the empty list: what the items add to the
height of an array. -/
def heights : List Expr → Nat
  | [] => 0
  | e :: es => max e.height (heights es)

end

mutual

/-- The names that an expression reads, from left to right, with repetitions.  String literals and
patterns contribute none. -/
def identifiers : Expr → List String
  | binary _ l r => l.identifiers ++ r.identifiers
  | not e => e.identifiers
  | identifier name => [name]
  | array es => identifiersOf es
  | _ => []

/-- The names that the expressions of a list read, in the order of the list, as needed for the items
of an array. -/
def identifiersOf : List Expr → List String
  | [] => []
  | e :: es => e.identifiers ++ identifiersOf es

end

mutual

/-- The nodes below the root: parents before their children, left before right.  The root itself is
not among them. -/
def descendants : Expr → List Expr
  | binary _ l r => l :: l.descendants ++ r :: r.descendants
  | not e => e :: e.descendants
  | array es => descendantsOf es
  | _ => []

/-- The expressions of a list and the nodes below them, each expression right before its own
descendants. -/
def descendantsOf : List Expr → List Expr
  | [] => []
  | e :: es => e :: e.descendants ++ descendantsOf es

end

mutual

/-- Whether two expressions are the same tree.  Numbers are compared as numbers, so that a tree with
a NaN in it would differ from itself. -/
def same : Expr → Expr → Bool
  | binary o l r, binary o' l' r' => o == o' && l.same l' && r.same r'
  | not e, not e' => e.same e'
  | string s, string s' => s == s'
  | number n, number n' => n.equals n'
  | identifier s, identifier s' => s == s'
  | array es, array es' => sameAll es es'
  | pattern p f, pattern p' f' => p == p' && f == f'
  | _, _ => false

/-- Whether two lists of expressions are the same trees in the same order; lists of different
lengths are not. -/
def sameAll : List Expr → List Expr → Bool
  | [], [] => true
  | e :: es, e' :: es' => e.same e' && sameAll es es'
  | _, _ => false

end

/-! ## The outline of a tree -/

/-- The name of an operator in outlines of expressions, which differs from the way it is spelled. -/
def operatorName : Operator → String
  | .eq => "Eq"
  | .ne => "Ne"
  | .lt => "Lt"
  | .le => "Le"
  | .gt => "Gt"
  | .ge => "Ge"
  | .isIn => "In"
  | .isMatch => "Match"
  | .both => "And"
  | .either => "Or"

mutual

/-- The outline of a tree on one line: each node with its kind and its parts. -/
def outline : Expr → String
  | binary op l r =>
    "Binary \x7b op: " ++ operatorName op ++ ", left: " ++ l.outline ++ ", right: " ++ r.outline ++
      " \x7d"
  | not e => "Unary \x7b op: Not, operand: " ++ e.outline ++ " \x7d"
  | string s => "Literal(String(" ++ Text.quote s ++ "))"
  | number n => "Literal(Number(" ++ Decimal.treeLayout.text n ++ "))"
  | identifier s => "Identifier(" ++ Text.quote s ++ ")"
  | array es => "Array([" ++ String.intercalate ", " (outlines es) ++ "])"
  | pattern p f => "Regex \x7b pattern: " ++ Text.quote p ++ ", flags: " ++ Text.quote f ++ " \x7d"

/-- The outlines of the expressions of a list, one for each. -/
def outlines : List Expr → List String
  | [] => []
  | e :: es => e.outline :: outlines es

end

end Expr

end When
end CommitForm
