/-
# Regular expressions

A pattern with its flags applied.  It describes a relation between places of a subject, from the
place where a match begins to the place where it ends:

| node | relates a place to |
| --- | --- |
| `empty` | itself |
| `set s` | the next place, over a character of `s` |
| `look k` | itself, where `k` holds |
| `group r` | what `r` relates it to |
| `cat r s` | what `s` relates to a place that `r` relates it to |
| `alt r s` | what `r` or `s` relates it to |
| `repeated r n m` | what a chain of at least `n` and at most `m` steps of `r` relates it to |

The empty set relates nothing to anything and stands for what never matches.
-/

import CommitForm.Unicode.CharSet

namespace CommitForm
namespace Pattern

open Unicode (CharSet)

/-- Which characters count as line ends: the line feed alone, or also the carriage return, where
both in a row are one end. -/
inductive LineEnds where
  | feed | feedOrReturn
deriving DecidableEq, Repr

/-- Which characters make up words: letters, digits and the underscore of ASCII, or what Unicode
counts among them. -/
inductive WordKind where
  | ascii | unicode
deriving DecidableEq, Repr

/-- The conditions on a place, each decided by the characters before and behind it. -/
inductive Look where
  | textStart
  | textEnd
  | lineStart (ends : LineEnds)
  | lineEnd (ends : LineEnds)
  | boundary (words : WordKind)
  | notBoundary (words : WordKind)
  | wordStart (words : WordKind)
  | wordEnd (words : WordKind)
  | wordStartHalf (words : WordKind)
  | wordEndHalf (words : WordKind)
deriving DecidableEq, Repr

/-- A regular expression with the flags worked in.  Groups are kept because they count for the size
of an automaton. -/
inductive Regex where
  | empty
  | set (s : CharSet)
  | look (kind : Look)
  | group (inner : Regex)
  | cat (first second : Regex)
  | alt (first second : Regex)
  | repeated (inner : Regex) (least : Nat) (most : Option Nat)
deriving Inhabited

namespace Regex

/-- Whether every match of an expression takes a character, which decides how much a loop around it
needs. -/
def consumes : Regex → Bool
  | empty => false
  | set s => !s.isEmpty
  | look _ => false
  | group r => r.consumes
  | cat r s => r.consumes || s.consumes
  | alt r s => r.consumes && s.consumes
  | repeated r least _ => r.consumes && least != 0

/-- Whether every match of an expression is empty; a repetition of such an expression is written
more simply. -/
def isEmptyOnly : Regex → Bool
  | empty => true
  | set _ => false
  | look _ => true
  | group r => r.isEmptyOnly
  | cat r s => r.isEmptyOnly && s.isEmptyOnly
  | alt r s => r.isEmptyOnly && s.isEmptyOnly
  | repeated r _ most => r.isEmptyOnly || most == some 0

/-- The expression whose unbounded repetition an unbounded repetition of `r` is: repetitions that
allow one step, and groups around them, are taken off. -/
def kernel : Regex → Regex
  | group r => r.kernel
  | repeated r least most =>
    if least ≤ 1 ∧ (most = none ∨ most = some 1) then r.kernel else repeated r least most
  | r => r

/-- Repeats an expression.  What matches the empty text only is repeated at most once, and repeating
an optional or repeated expression without bound is repeating what it repeats. -/
def repeatOf (r : Regex) (least : Nat) (most : Option Nat) : Regex :=
  let (least, most) :=
    if r.isEmptyOnly then (min least 1, some ((most.map (min · 1)).getD 1)) else (least, most)
  if most = some 0 then empty
  else if least = 1 ∧ most = some 1 then r
  else
    match r with
    | repeated _ l m =>
      if l = 0 ∧ least ≤ 1 ∧ (m = none ∨ m = some 1) then
        if most = none then repeated r.kernel 0 none
        else if most = some 1 then r
        else repeated r least most
      else repeated r least most
    | group _ => if least = 0 ∧ most = none then repeated r.kernel 0 none else repeated r least most
    | r => repeated r least most

/-- The parts one after the other, empty ones left out, as an engine would see them; no parts make
the empty expression. -/
def catAll : List Regex → Regex
  | [] => empty
  | [r] => r
  | empty :: rs => catAll rs
  | r :: rs =>
    match catAll rs with
    | empty => r
    | s => cat r s

/-- The set of a single character's expression; a choice between such expressions is one set. -/
def set? : Regex → Option CharSet
  | set s => some s
  | _ => none

/-- A choice between branches.  A choice between single characters is a set, and a choice without
branches matches nothing. -/
def altAll (rs : List Regex) : Regex :=
  match rs.mapM set? with
  | some sets => set (.ofRanges (sets.flatMap fun s => s.ranges.toList))
  | none =>
    match rs.reverse with
    | [] => set .empty
    | last :: rest => rest.foldl (fun r s => alt s r) last

end Regex

end Pattern
end CommitForm
