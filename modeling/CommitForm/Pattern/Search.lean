/-
# Searching a text

The places of a subject of `n` characters are `0` to `n`; a set of places is a natural number whose
bit `i` tells whether `i` belongs to it.  On a given subject every leaf of a regular expression is a
set of places: those before a character of a set, or those where a condition holds.  A `Plan` is the
expression with these sets at its leaves, and `Plan.reach` carries a set of places to all places
that the expression relates to one of them.

A chain of steps visits at most `n + 1` different places, and a chain that stays at a place can do
so any number of times.  So the places reached by exactly `k` steps are the same for all `k` above
`n`, and repetitions need no more rounds than that.
-/

import CommitForm.Pattern.Footprint
import CommitForm.Pattern.Reader
import CommitForm.Pattern.Setting

namespace CommitForm
namespace Pattern

/-- Whether a character belongs to words, in one of the two senses of a word. -/
def WordKind.has (words : WordKind) (c : Char) : Bool :=
  match words with
  | .ascii => c.isAlphanum || c == '_'
  | .unicode => Unicode.wordChars.contains c

/-- Whether a condition holds between two neighbouring characters; at the ends of a text one is
missing. -/
def Look.holds (kind : Look) (before after : Option Char) : Bool :=
  let word (words : WordKind) (c : Option Char) : Bool := c.any words.has
  match kind with
  | .textStart => before.isNone
  | .textEnd => after.isNone
  | .lineStart .feed => before.isNone || before == some '\n'
  | .lineEnd .feed => after.isNone || after == some '\n'
  | .lineStart .feedOrReturn =>
    before.isNone || before == some '\n' || (before == some '\r' && after != some '\n')
  | .lineEnd .feedOrReturn =>
    after.isNone || after == some '\r' || (after == some '\n' && before != some '\r')
  | .boundary w => word w before != word w after
  | .notBoundary w => word w before == word w after
  | .wordStart w => !word w before && word w after
  | .wordEnd w => word w before && !word w after
  | .wordStartHalf w => !word w before
  | .wordEndHalf w => !word w after

/-- The set of the places `i` for which the entry `i` of a list holds. -/
def placesOf : List Bool → Nat
  | [] => 0
  | b :: bs => (if b then 1 else 0) + 2 * placesOf bs

/-- For each place of a subject what a test says of the characters around it. -/
def around (test : Option Char → Option Char → Bool) : Option Char → List Char → List Bool
  | before, [] => [test before none]
  | before, c :: cs => test before (some c) :: around test (some c) cs

/-- A regular expression on a subject: its sets and conditions have become the places of the subject
where they hold. -/
inductive Plan where
  | empty
  /-- Moves on from the given places. -/
  | step (places : Nat)
  /-- Stays at the given places. -/
  | stay (places : Nat)
  | cat (first second : Plan)
  | alt (first second : Plan)
  | repeated (inner : Plan) (least : Nat) (most : Option Nat)
deriving Inhabited

/-- The plan of an expression on a subject; groups disappear, since nothing asks for what they
match. -/
def Regex.plan (subject : List Char) : Regex → Plan
  | .empty => .empty
  | .set s => .step (placesOf (subject.map s.contains))
  | .look kind => .stay (placesOf (around kind.holds none subject))
  | .group r => r.plan subject
  | .cat r s => .cat (r.plan subject) (s.plan subject)
  | .alt r s => .alt (r.plan subject) (s.plan subject)
  | .repeated r least most => .repeated (r.plan subject) least most

/-- The places after exactly `rounds` rounds, fewer if nothing changes any more, since the rounds
left over would not change anything either. -/
def exactly (f : Nat → Nat) : Nat → Nat → Nat
  | 0, places => places
  | rounds + 1, places =>
    let next := f places
    if next = places then places else exactly f rounds next

/-- All places after at most `rounds` rounds, those of no round at all among them. -/
def atMost (f : Nat → Nat) : Nat → Nat → Nat
  | 0, places => places
  | rounds + 1, places =>
    let next := places ||| f places
    if next = places then places else atMost f rounds next

/-- The places reached from some of the given places.  `limit` is the number of places. -/
def Plan.reach (limit : Nat) : Plan → Nat → Nat
  | .empty, places => places
  | .step starts, places => (places &&& starts) <<< 1
  | .stay held, places => places &&& held
  | .cat p q, places => q.reach limit (p.reach limit places)
  | .alt p q, places => p.reach limit places ||| q.reach limit places
  | .repeated p least most, places =>
    let start := exactly (p.reach limit) (min least limit) places
    match most with
    | none => atMost (p.reach limit) limit start
    | some most => atMost (p.reach limit) (min (most - least) limit) start

/-- Whether an expression matches somewhere in a text: whether any place is reached when a match may
begin at every place. -/
def Regex.occursIn (r : Regex) (text : String) : Bool :=
  let subject := text.toList
  let limit := subject.length + 1
  (r.plan subject).reach limit (Nat.pow 2 limit - 1) != 0

/-- The regular expression of a pattern; `none` if the pattern is refused, as it is read, as the
flags are worked in, or for its size. -/
def compile? (setting : Setting) (pattern : String) : Option Regex :=
  (((readTree? pattern).bind fun t => t.toRegex? setting).map Prod.fst).filter Regex.fits

end Pattern
end CommitForm
