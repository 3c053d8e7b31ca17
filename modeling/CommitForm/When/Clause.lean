/-
# When-clauses

A when-clause is the source text of an expression.  `tryHolds` says whether it holds or what is
wrong with it; `holds` counts everything that is wrong as not holding.
-/

import CommitForm.When.Evaluation
import CommitForm.When.Parser

namespace CommitForm
namespace When

/-- What can be wrong with a when-clause: its characters, its tokens, or its evaluation, whichever
comes first. -/
inductive ClauseError where
  | lex (error : LexError)
  | parse (error : ParseError)
  | eval (fault : EvalFault)

/-- The message about a when-clause, as far as it can be told without the words of the engine of
regular expressions: a fault in the evaluation is told by its `EvalFault.text`. -/
def ClauseError.message : ClauseError → String
  | lex e => e.message
  | parse e => e.message
  | eval f => f.text

/-- A source text with the expression read from it.  The text is kept for messages. -/
structure Clause where
  source : String
  expr : Expr

namespace Clause

/-- Reads a when-clause: the source is cut into tokens, and these are read as one expression. -/
def ofSource (source : String) : Except ClauseError Clause :=
  match tokenize source with
  | .error e => .error (.lex e)
  | .ok tokens =>
    match parseTokens tokens with
    | .error e => .error (.parse e)
    | .ok expr => .ok ⟨source, expr⟩

/-- The names that a clause reads, from left to right and with repetitions, whether or not the
evaluation will get to them. -/
def identifiers (c : Clause) : List String := c.expr.identifiers

end Clause

/-- Whether a when-clause holds, or the first thing that is wrong with it.  The clause is read
afresh each time. -/
def tryHolds (source : String) (names : Values) : Except ClauseError Bool :=
  match Clause.ofSource source with
  | .error e => .error e
  | .ok clause => (clause.expr.holds names).mapError .eval

/-- Whether a when-clause holds.  One with anything wrong with it does not: a broken condition hides
a field and never shows it. -/
def holds (source : String) (names : Values) : Bool :=
  match tryHolds source names with
  | .ok b => b
  | .error _ => false

end When
end CommitForm
