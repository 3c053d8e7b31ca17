/-
# Sets of characters

A set is a list of ranges of code points, both ends included, in increasing order and apart from
each other, so that membership is a binary search.  Tables of ranges are written as text:
`41-5A 5F 61-7A` is the set of the ASCII letters and the underscore.

| operation | members |
| --- | --- |
| `union a b` | of `a` or of `b` |
| `compl a` | outside `a` |
| `inter a b` | of both |
| `diff a b` | of `a` and not of `b` |
| `symmDiff a b` | of exactly one |
-/

namespace CommitForm
namespace Unicode

/-- The largest code point; complements are taken within the code points up to this one. -/
def maxCodePoint : Nat := 0x10FFFF

/-- A set of code points, as ranges with both ends included, in ascending order and with a gap
between any two of them. -/
structure CharSet where
  ranges : Array (Nat × Nat)
deriving DecidableEq, Inhabited

namespace CharSet

/-- Joins the ranges that overlap or touch, given in order of their lower ends. -/
def joinTouching : List (Nat × Nat) → List (Nat × Nat)
  | (a, b) :: (c, d) :: rest =>
    if c ≤ b + 1 then joinTouching ((a, max b d) :: rest)
    else (a, b) :: joinTouching ((c, d) :: rest)
  | rest => rest
termination_by ranges => ranges.length

/-- The set of all code points in some of the ranges, which may come in any order and overlap. -/
def ofRanges (ranges : List (Nat × Nat)) : CharSet :=
  ⟨(joinTouching ((ranges.filter fun r => r.1 ≤ r.2).mergeSort fun r s => r.1 ≤ s.1)).toArray⟩

/-- The set of one range with both ends included; the surrogates in it match nothing, since no text
holds them. -/
def range (lo hi : Nat) : CharSet := ofRanges [(lo, hi)]

/-- The set of one code point, as a character that stands for itself has it. -/
def single (c : Char) : CharSet := range c.toNat c.toNat

/-- The set without members, which no character is in and which matches nothing. -/
def empty : CharSet := ⟨#[]⟩

/-- All code points, the surrogates among them, which no text can hold. -/
def all : CharSet := range 0 maxCodePoint

/-- Whether some range at an index in `[lo, hi)` holds the code point, by halving; the fuel bounds
the number of halvings. -/
def search (ranges : Array (Nat × Nat)) (n : Nat) : Nat → Nat → Nat → Bool
  | 0, _, _ => false
  | fuel + 1, lo, hi =>
    if lo < hi then
      let mid := (lo + hi) / 2
      match ranges[mid]? with
      | none => false
      | some (a, b) =>
        if n < a then search ranges n fuel lo mid
        else if b < n then search ranges n fuel (mid + 1) hi
        else true
    else false

/-- Whether a code point belongs to a set, found by halving since the ranges are in order. -/
def containsCode (s : CharSet) (n : Nat) : Bool :=
  search s.ranges n (s.ranges.size.log2 + 2) 0 s.ranges.size

/-- Whether a character belongs to a set, asked once for each character of a subject. -/
def contains (s : CharSet) (c : Char) : Bool := s.containsCode c.toNat

/-- The members of either set; the ranges of both are put in order and joined where they touch. -/
def union (s t : CharSet) : CharSet := ofRanges (s.ranges.toList ++ t.ranges.toList)

/-- The ranges between the given ones, from code point `start` on up to the largest one. -/
def gaps (start : Nat) : List (Nat × Nat) → List (Nat × Nat)
  | [] => if start ≤ maxCodePoint then [(start, maxCodePoint)] else []
  | (a, b) :: rest => if start < a then (start, a - 1) :: gaps (b + 1) rest else gaps (b + 1) rest

/-- The code points outside of a set, which are the gaps between its ranges. -/
def compl (s : CharSet) : CharSet := ⟨(gaps 0 s.ranges.toList).toArray⟩

/-- The members of both sets, by way of their complements. -/
def inter (s t : CharSet) : CharSet := (s.compl.union t.compl).compl

/-- The members of the first set that are not in the second one. -/
def diff (s t : CharSet) : CharSet := s.inter t.compl

/-- The members of just one of the two sets: those of either, without those of both. -/
def symmDiff (s t : CharSet) : CharSet := (s.union t).diff (s.inter t)

/-- Whether every member is an ASCII character, and so a single byte of a text. -/
def isAscii (s : CharSet) : Bool := s.ranges.all fun r => r.2 < 0x80

/-- Whether a set has no members, which is so when it has no ranges. -/
def isEmpty (s : CharSet) : Bool := s.ranges.isEmpty

/-! ## Tables -/

/-- The value of a hexadecimal digit, in either case; no value for another character. -/
def hexDigit? (c : Char) : Option Nat :=
  if '0' ≤ c ∧ c ≤ '9' then some (c.toNat - 48)
  else if 'a' ≤ c ∧ c ≤ 'f' then some (c.toNat - 87)
  else if 'A' ≤ c ∧ c ≤ 'F' then some (c.toNat - 55)
  else none

/-- Reads the ranges of a table, which stand apart from each other by spaces and line ends.  `lo` is
the lower end read before a hyphen, `n` the number being read. -/
def readTable : List Char → Option Nat → Option Nat → List (Nat × Nat)
  | [], _, none => []
  | [], lo, some n => [(lo.getD n, n)]
  | c :: rest, lo, n =>
    match hexDigit? c, n with
    | some d, n => readTable rest lo (some (16 * n.getD 0 + d))
    | none, none => readTable rest none none
    | none, some n =>
      if c = '-' then readTable rest (some n) none
      else (lo.getD n, n) :: readTable rest none none

/-- The set that a table of increasing ranges describes; the tables are written so that nothing has
to be put in order. -/
def ofTable (table : String) : CharSet := ⟨(readTable table.toList none none).toArray⟩

example : ofTable "41-5A 5F" = ⟨#[(0x41, 0x5A), (0x5F, 0x5F)]⟩ := by decide

end CharSet

end Unicode
end CommitForm
