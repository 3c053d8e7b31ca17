/-
# Reading expressions

From the loosest to the tightest binding:

```
either   := both ('||' both)*
both     := relation ('&&' relation)*
relation := unary (op unary)*           op one of == != < <= > >= in =~
unary    := '!' unary | primary
primary  := '(' either ')' | '[' (primary (',' primary)*)? ']' | literal | name
```

Chains group to the left.  No more than `maxDepth` of the tokens `!`, `(` and `[` may be open at
once, and no tree may be higher than `maxDepth`.

A `Parser` is a place in a list of tokens together with the room that is left for opening tokens.
It can be asked again after an answer.  A reading that fails between an opening token and its end
does not give back the room that the token took.
-/

import CommitForm.When.Expr
import CommitForm.When.Lexer

namespace CommitForm
namespace When

/-- The greatest height of a tree, and the greatest number of opening tokens open at once. -/
def maxDepth : Nat := 128

/-- What can be wrong with a list of tokens.  The last two are not about the grammar: a literal that
cannot be split into body and flags, and nesting beyond the limit. -/
inductive ParseFault where
  | endOfExpression
  | unexpected (token : Token)
  | unclosedParen
  | unclosedBracket
  | badPattern (literal : String)
  | tooDeep
deriving DecidableEq

/-- The fault in words.  An unexpected token is named by its text; a missing bracket by the
bracket. -/
def ParseFault.message : ParseFault → String
  | endOfExpression => "unexpected end of expression"
  | unexpected t => "unexpected token: " ++ t.text
  | unclosedParen => "expected ')'"
  | unclosedBracket => "expected ']'"
  | badPattern s => "invalid regex literal: " ++ s
  | tooDeep => "expression nested too deeply"

/-- A fault and the index of the token it is found at, counted from zero. -/
structure ParseError where
  fault : ParseFault
  position : Nat
deriving DecidableEq

/-- The whole message of a parse error, which names the index of the token before the fault
itself. -/
def ParseError.message (e : ParseError) : String :=
  "parse error at token " ++ toString e.position ++ ": " ++ e.fault.message

/-- A place in a list of tokens: the tokens from it on, and how many lie before it. -/
structure Place where
  rest : List Token
  position : Nat
deriving DecidableEq

namespace Place

/-- The token at a place.  Behind the last token there is the end, however often it is asked for. -/
def token (p : Place) : Token := p.rest.head?.getD .eof

/-- The place behind the next token.  At the end the list stays empty while the index still counts
up. -/
def advance (p : Place) : Place := ⟨p.rest.tail, p.position + 1⟩

end Place

/-- A fault, the place it is found at and the room that was left there. -/
structure Failure where
  fault : ParseFault
  place : Place
  room : Nat
deriving DecidableEq

/-- What a rule of the grammar has read: an expression, its height as counted while reading, and the
place behind it. -/
structure Reading where
  expr : Expr
  height : Nat
  place : Place

/-- The result of reading one rule of the grammar: a reading, or a failure with the place and the
room that are left to the parser. -/
abbrev Outcome := Except Failure Reading

/-- Cuts `/body/flags` at its last slash; the body must not be empty.  There are no slashes among
flags, so the last one is where the body ends. -/
def splitPattern? (literal : String) : Option (String × String) :=
  match literal.toList with
  | '/' :: cs =>
    let flags := (cs.reverse.takeWhile (· ≠ '/')).reverse
    match (cs.reverse.dropWhile (· ≠ '/')).reverse.dropLast with
    | [] => none
    | body => some (String.ofList body, String.ofList flags)
  | _ => none

/-- Accepts a tree unless it is too high.  The height is passed along, so that it need not be
computed from the tree again. -/
def checked (room : Nat) (expr : Expr) (height : Nat) (place : Place) : Outcome :=
  if maxDepth < height then .error ⟨.tooDeep, place, room⟩ else .ok ⟨expr, height, place⟩

/-- Reads what follows `left` in a chain of operators of one level, at most `count` of them. -/
def chainFrom (level : Level) (operand : Place → Outcome) (room : Nat) : Nat → Reading → Outcome
  | 0, left => .ok left
  | count + 1, left =>
    match left.place.token with
    | .operator op =>
      if op.level = level then
        match operand left.place.advance with
        | .error e => .error e
        | .ok right =>
          match
            checked room (.binary op left.expr right.expr) (max left.height right.height + 1)
              right.place
          with
          | .error e => .error e
          | .ok both => chainFrom level operand room count both
      else .ok left
    | _ => .ok left

/-- Reads operands with operators of one level between them.  They are grouped to the left as they
are read. -/
def chain (level : Level) (operand : Place → Outcome) (room : Nat) (p : Place) : Outcome :=
  match operand p with
  | .error e => .error e
  | .ok left => chainFrom level operand room p.rest.length left

/-- Reads an expression of any level out of operands of the tightest: relations inside conjunctions
inside disjunctions. -/
def either (unary : Place → Outcome) (room : Nat) : Place → Outcome :=
  chain .either (chain .both (chain .relation unary room) room) room

/-- The elements of an array as they have been read: the expressions, their greatest height, and the
place behind them. -/
structure Elements where
  items : List Expr
  height : Nat
  place : Place

/-- Reads the elements that follow, each behind a comma, at most `count` of them. -/
def elementsFrom (element : Place → Outcome) : Nat → Place → Except Failure Elements
  | 0, p => .ok ⟨[], 0, p⟩
  | count + 1, p =>
    match p.token with
    | .comma =>
      match element p.advance with
      | .error e => .error e
      | .ok first =>
        match elementsFrom element count first.place with
        | .error e => .error e
        | .ok more => .ok ⟨first.expr :: more.items, max first.height more.height, more.place⟩
    | _ => .ok ⟨[], 0, p⟩

/-- Reads the elements of an array up to its closing bracket, which is left to the caller.  A comma
before the bracket is an error, since an element has to follow. -/
def elements (element : Place → Outcome) (p : Place) : Except Failure Elements :=
  match p.token with
  | .closeBracket => .ok ⟨[], 0, p⟩
  | _ =>
    match element p with
    | .error e => .error e
    | .ok first =>
      match elementsFrom element p.rest.length first.place with
      | .error e => .error e
      | .ok more => .ok ⟨first.expr :: more.items, max first.height more.height, more.place⟩

/-- Reads an operand.  `room` opening tokens may still be opened; `negation` tells whether the
operand may start with `!`. -/
def operand : (room : Nat) → (negation : Bool) → Place → Outcome
  | room, negation, p =>
    let fail (fault : ParseFault) (place : Place) : Outcome := .error ⟨fault, place, room⟩
    match p.token with
    | .not =>
      if negation then
        match room with
        | 0 => fail .tooDeep p.advance
        | room' + 1 =>
          match operand room' true p.advance with
          | .error e => .error e
          | .ok r => checked room (.not r.expr) (r.height + 1) r.place
      else fail (.unexpected .not) p
    | .openParen =>
      match room with
      | 0 => fail .tooDeep p.advance
      | room' + 1 =>
        match either (operand room' true) room' p.advance with
        | .error e => .error e
        | .ok r =>
          match r.place.token with
          | .closeParen => .ok ⟨r.expr, r.height, r.place.advance⟩
          | _ => fail .unclosedParen r.place
    | .openBracket =>
      match room with
      | 0 => fail .tooDeep p.advance
      | room' + 1 =>
        match elements (operand room' false) p.advance with
        | .error e => .error e
        | .ok es =>
          match es.place.token with
          | .closeBracket => checked room (.array es.items) (es.height + 1) es.place.advance
          | _ => fail .unclosedBracket es.place
    | .pattern literal =>
      match splitPattern? literal with
      | some (body, flags) => .ok ⟨.pattern body flags, 1, p.advance⟩
      | none => fail (.badPattern literal) p
    | .string s => .ok ⟨.string s, 1, p.advance⟩
    | .number n => .ok ⟨.number n, 1, p.advance⟩
    | .identifier name => .ok ⟨.identifier name, 1, p.advance⟩
    | .eof => fail .endOfExpression p
    | t => fail (.unexpected t) p

/-- Reads an expression that ends at the end of the tokens.  Any token behind it is unexpected, and
is where the error points. -/
def expression (room : Nat) (p : Place) : Outcome :=
  match either (operand room true) room p with
  | .error e => .error e
  | .ok r =>
    match r.place.token with
    | .eof => .ok r
    | t => .error ⟨.unexpected t, r.place, room⟩

/-- A parser that can be asked repeatedly: its place and the room left for opening tokens. -/
structure Parser where
  place : Place
  room : Nat
deriving DecidableEq

namespace Parser

/-- A new parser over a list of tokens, at their beginning and with the full room for nesting. -/
def ofTokens (tokens : List Token) : Parser := ⟨⟨tokens, 0⟩, maxDepth⟩

/-- Reads an expression at the parser's place; the answer and the parser afterwards.  After an error
the parser stays where reading stopped, with the room it had left there. -/
def parse (p : Parser) : Except ParseError Expr × Parser :=
  match expression p.room p.place with
  | .ok r => (.ok r.expr, ⟨r.place, p.room⟩)
  | .error e => (.error ⟨e.fault, e.place.position⟩, ⟨e.place, e.room⟩)

/-- The answers of `count` readings in a row, each by the parser that the one before has left
behind. -/
def answers : Nat → Parser → List (Except ParseError Expr)
  | 0, _ => []
  | count + 1, p => let (answer, p') := p.parse; answer :: answers count p'

end Parser

/-- Reads a list of tokens as an expression, by a new parser that is asked once. -/
def parseTokens (tokens : List Token) : Except ParseError Expr := (Parser.ofTokens tokens).parse.1

end When
end CommitForm
