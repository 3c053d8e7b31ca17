/-
# The size of a pattern

A pattern is refused when an automaton for it would be too large.  Two automata are counted, one
that reads a text forward and one that reads it backward, both over the bytes of the UTF-8 encoding.

| part | states | extra |
| --- | --- | --- |
| character | one for each byte | |
| ASCII set | 2 | a transition for each range |
| other set, forward | the states of its minimal automaton and one | their transitions |
| other set, backward | 2, and one for each beginning of its byte sequences | a branch for each |
| assertion, empty text | 1 | |
| group | 2, forward only | |
| choice | 2 | a branch for each alternative |
| repetition | one copy for each step that is counted, and the loops | two branches for each loop |

A state takes 32 bytes, a transition 8, a branch 4.
-/

import CommitForm.Pattern.Regex

namespace CommitForm
namespace Pattern

open Unicode (CharSet)

/-- The number of bytes an automaton may take, ten mebibytes; a pattern whose automaton needs more
is refused. -/
def maxFootprint : Nat := 10485760

/-! ## Byte sequences -/

/-- The greatest code point with an encoding of at most the given number of bytes. -/
def maxOfLength : Nat → Nat
  | 1 => 0x7F
  | 2 => 0x7FF
  | 3 => 0xFFFF
  | _ => 0x10FFFF

/-- The number of bytes of the encoding of a code point in UTF-8, between one and four. -/
def encodedLength (n : Nat) : Nat :=
  if n ≤ 0x7F then 1 else if n ≤ 0x7FF then 2 else if n ≤ 0xFFFF then 3 else 4

/-- The bytes of the encoding of a code point in UTF-8: a first byte that tells the length, and the
rest six bits at a time. -/
def encode (n : Nat) : List Nat :=
  let tail (shift : Nat) : Nat := 0x80 + n / Nat.pow 2 shift % 64
  match encodedLength n with
  | 1 => [n]
  | 2 => [0xC0 + n / Nat.pow 2 6, tail 0]
  | 3 => [0xE0 + n / Nat.pow 2 12, tail 6, tail 0]
  | _ => [0xF0 + n / Nat.pow 2 18, tail 12, tail 6, tail 0]

/-- Where a range of code points has to be cut so that its encodings are all combinations of bytes
from one range for each place; `none` if it need not be cut.  Answers the last code point of the
first part. -/
def cut? (lo hi : Nat) : Option Nat :=
  match [1, 2, 3].find? fun i => lo ≤ maxOfLength i && maxOfLength i < hi with
  | some i => some (maxOfLength i)
  | none =>
    if hi ≤ 0x7F then none
    else
      [6, 12, 18].findSome? fun shift =>
        let m := Nat.pow 2 shift
        if lo / m = hi / m then none
        else if lo % m ≠ 0 then some (lo / m * m + (m - 1))
        else if hi % m ≠ m - 1 then some (hi / m * m - 1)
        else none

/-- The sequences of byte ranges whose combinations encode a range of code points, the surrogates
left out; the fuel bounds the cuts. -/
def sequencesOf : Nat → Nat → Nat → List (List (Nat × Nat))
  | 0, _, _ => []
  | fuel + 1, lo, hi =>
    if hi < lo then []
    else if lo < 0xE000 ∧ 0xD7FF < hi then
      sequencesOf fuel lo 0xD7FF ++ sequencesOf fuel 0xE000 hi
    else
      match cut? lo hi with
      | some last => sequencesOf fuel lo last ++ sequencesOf fuel (last + 1) hi
      | none => [(encode lo).zip (encode hi)]

/-- The sequences of byte ranges of a set, range by range in ascending order. -/
def sequences (s : CharSet) : List (List (Nat × Nat)) :=
  s.ranges.toList.flatMap fun (lo, hi) => sequencesOf 32 lo hi

/-- A tree of byte ranges, in which the sequences of a set share their common beginnings. -/
inductive ByteTree where
  | node (children : List ((Nat × Nat) × ByteTree))
deriving Inhabited, BEq

namespace ByteTree

/-- Adds a sequence behind the last of the sequences of a tree, sharing with that one as long a
beginning as it can. -/
def add : List (Nat × Nat) → ByteTree → ByteTree
  | [], t => t
  | r :: rs, node children =>
    match children.getLast? with
    | some (last, child) =>
      if last = r then node (children.dropLast ++ [(r, child.add rs)])
      else node (children ++ [(r, add rs (node []))])
    | none => node [(r, add rs (node []))]
termination_by rs => rs.length

mutual

/-- The different trees below and including a tree that are no leaf, each once: the states of the
minimal automaton. -/
def shared (seen : List ByteTree) : ByteTree → List ByteTree
  | node [] => seen
  | node children =>
    let seen := sharedBelow seen children
    if seen.contains (node children) then seen else node children :: seen

/-- The different trees among the children of a tree and below them, added to those that were seen
before. -/
def sharedBelow (seen : List ByteTree) : List ((Nat × Nat) × ByteTree) → List ByteTree
  | [] => seen
  | (_, t) :: rest => sharedBelow (t.shared seen) rest

end

mutual

/-- The number of trees below a tree, each counted as often as it occurs, since nothing is shared
backward. -/
def size : ByteTree → Nat
  | node children => sizeBelow children

/-- The number of trees among the children of a tree and below them, the children themselves
included. -/
def sizeBelow : List ((Nat × Nat) × ByteTree) → Nat
  | [] => 0
  | (_, t) :: rest => t.size + 1 + sizeBelow rest

end

/-- The number of trees directly below a tree, which is the number of transitions of its state. -/
def width : ByteTree → Nat
  | node children => children.length

end ByteTree

/-! ## Counting -/

/-- The bytes that an automaton takes, reading forward and reading backward; either of them may be
the larger. -/
structure Footprint where
  forward : Nat
  backward : Nat
deriving DecidableEq, Repr

namespace Footprint

instance : Add Footprint := ⟨fun a b => ⟨a.forward + b.forward, a.backward + b.backward⟩⟩

/-- The same number of bytes for both directions, as most parts of an expression need. -/
def both (n : Nat) : Footprint := ⟨n, n⟩

/-- The bytes of as many copies of a part, in each of the directions. -/
def times (n : Nat) (a : Footprint) : Footprint := ⟨n * a.forward, n * a.backward⟩

/-- Whether neither automaton is too large; it is enough to refuse a pattern that one of them is. -/
def fits (a : Footprint) : Bool := a.forward ≤ maxFootprint && a.backward ≤ maxFootprint

end Footprint

/-- The only member of a set, if it has just one; such a set is written as the bytes of its
encoding. -/
def single? (s : CharSet) : Option Nat :=
  match s.ranges with
  | #[(lo, hi)] => if lo = hi then some lo else none
  | _ => none

/-- The size of a set: one state for each byte of a single character, two for a set of ASCII, and
what its byte sequences need otherwise. -/
def setFootprint (s : CharSet) : Footprint :=
  match single? s with
  | some n => .both (32 * encodedLength n)
  | none =>
    if s.isEmpty then .both 32
    else if s.isAscii then .both (64 + 8 * s.ranges.size)
    else
      let all := sequences s
      let tree := all.foldl (fun t seq => t.add seq) (ByteTree.node [])
      let nodes := tree.shared []
      ⟨nodes.foldl (fun n t => n + 32 + 8 * t.width) 32, 64 + 32 * tree.size + 4 * all.length⟩

/-- The size of a repetition of an expression of a given size: a copy for each round that is
counted, and branches for the loops around them. -/
def repeatFootprint (inner : Footprint) (consumes : Bool) (least : Nat) (most : Option Nat) :
    Footprint :=
  let fixed := if least = 0 then .both 32 else inner.times least
  match most with
  | some most =>
    if least = 0 ∧ most = 1 then inner + .both 72
    else if least = most then fixed
    else fixed + .both 32 + (inner + .both 40).times (most - least)
  | none =>
    if least = 0 then inner + .both (if consumes then 40 else 112)
    else inner.times least + .both 40

/-- The size of an expression.  The branches of a choice are counted along its right spine, with the
states of the choice at its end. -/
def Regex.footprint : Regex → Footprint
  | .empty => .both 32
  | .set s => setFootprint s
  | .look _ => .both 32
  | .group r => r.footprint + ⟨64, 0⟩
  | .cat r s => r.footprint + s.footprint
  | .alt r s =>
    match s with
    | .alt _ _ => r.footprint + s.footprint + .both 4
    | _ => r.footprint + s.footprint + .both 72
  | .repeated r least most => repeatFootprint r.footprint r.consumes least most

/-- Whether the automata for a whole pattern are small enough: the expression, the bounds of the
match and the search for its beginning.  The branches of a choice are counted one by one; where all
of them begin alike, an engine that shares the common beginning needs less and takes patterns a
little beyond the limit found here. -/
def Regex.fits (r : Regex) : Bool := (r.footprint + ⟨224, 160⟩).fits

end Pattern
end CommitForm
