/-
# Folding of cases

A set is closed under folding when it holds, with a character, every character that differs from it
in case only.
-/

import CommitForm.Unicode.CharSet
import CommitForm.Unicode.Folding

namespace CommitForm
namespace Unicode

/-- The code points of an orbit, given as hexadecimal numbers joined by hyphens.
Other characters do not count. -/
def readOrbit (text : String) : List Nat :=
  (text.splitOn "-").map fun digits =>
    digits.toList.foldl (fun n c => ((CharSet.hexDigit? c).map (16 * n + ·)).getD n) 0

/-- The groups of characters that differ in case only, by simple folding; no character belongs to
two of them. -/
def orbits : List (List Nat) := ((foldingOrbits.splitOn " ").filter (!·.isEmpty)).map readOrbit

/-- The groups of ASCII letters that differ in case only, a capital and its small letter each. -/
def asciiOrbits : List (List Nat) := (List.range 26).map fun i => [0x41 + i, 0x61 + i]

/-- A set with all members of the groups that it meets; a set that meets none is left as it is. -/
def CharSet.closeUnder (groups : List (List Nat)) (s : CharSet) : CharSet :=
  match groups.filter (·.any s.containsCode) with
  | [] => s
  | met => .ofRanges (s.ranges.toList ++ met.flatMap fun g => g.map fun n => (n, n))

/-- A set closed under folding, so that it holds every case of a character that it holds one case
of. -/
def CharSet.foldCase (s : CharSet) : CharSet := s.closeUnder orbits

/-- A set closed under the folding of ASCII letters; letters outside ASCII keep their case, also
where one of theirs is ASCII. -/
def CharSet.foldAsciiCase (s : CharSet) : CharSet := s.closeUnder asciiOrbits

end Unicode
end CommitForm
