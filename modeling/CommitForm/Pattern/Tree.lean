/-
# Syntax trees of patterns

The form of a regular expression as written, before the flags are applied.  A pattern is read with
a flag that decides whether blanks and comments count; the other flags are kept in the tree, where a
change of flags holds to the end of the group it stands in.

| written | node |
| --- | --- |
| `a`, `\x41`, `\u{41}` | `literal` |
| `.` | `dot` |
| `^`, `\b`, `\A` | `look` |
| `\d`, `\W` | `shorthand` |
| `\pL`, `\P{Greek}`, `\p{sc=Greek}` | `property` |
| `[a-z&&[^aeiou]]` | `bracket` |
| `x*`, `x{2,5}` | `repeated` |
| `(x)`, `(?i:x)` | `group` |
| `(?i)` | `flags` |
-/

namespace CommitForm
namespace Pattern

/-- The flags a pattern can change in its text; `verbose` is settled while the text is read, the
others when the tree is turned into an expression. -/
inductive Flag where
  | ignoreCase | multiLine | dotAll | swapGreed | unicode | crlf | verbose
deriving DecidableEq, Repr

/-- The flag of a letter; any other letter makes a pattern refused wherever flags are written. -/
def Flag.ofLetter? : Char → Option Flag
  | 'i' => some .ignoreCase
  | 'm' => some .multiLine
  | 's' => some .dotAll
  | 'U' => some .swapGreed
  | 'u' => some .unicode
  | 'R' => some .crlf
  | 'x' => some .verbose
  | _ => none

/-- A flag that is switched on or off, as it is written between a group's question mark and its
colon. -/
structure FlagChange where
  flag : Flag
  on : Bool
deriving DecidableEq, Repr

/-- A character that stands for itself.  `isByte` marks the escapes with two hexadecimal digits,
which denote a byte where the flag `u` is off. -/
structure Literal where
  char : Char
  isByte : Bool
deriving DecidableEq, Repr

/-- The conditions on a place that an assertion can ask for, before the flags are applied. -/
inductive Assertion where
  | lineStart | lineEnd | textStart | textEnd
  | boundary | notBoundary | wordStart | wordEnd | wordStartHalf | wordEndHalf
deriving DecidableEq, Repr

/-- The classes with a letter of their own, whose capital negates them; what belongs to them depends
on the flag `u`. -/
inductive Shorthand where
  | digit | space | word
deriving DecidableEq, Repr

/-- What a property escape asks for, by a name alone or by a property and a value; the names are not
looked up here. -/
inductive Query where
  | named (name : List Char)
  | valued (property value : List Char)
deriving DecidableEq, Repr

/-- The operators of bracket classes, which take what has been read of the class so far as their
left operand. -/
inductive SetOperator where
  | inter | diff | symmDiff
deriving DecidableEq, Repr

/-- The content of a bracket class as written: its parts, classes inside of it, and operators
between them. -/
inductive ClassTree where
  | literal (l : Literal)
  | range (lo hi : Literal)
  | posix (name : String) (negated : Bool)
  | shorthand (kind : Shorthand) (negated : Bool)
  | property (query : Query) (negated : Bool)
  | bracket (negated : Bool) (inner : ClassTree)
  | items (parts : List ClassTree)
  | operation (op : SetOperator) (left right : ClassTree)
deriving Inhabited

/-- A pattern as written.  A sequence or a choice of a single part is that part, so `concat` and
`alternate` stand for two parts or more. -/
inductive Tree where
  | empty
  | flags (changes : List FlagChange)
  | literal (l : Literal)
  | dot
  | look (kind : Assertion)
  | shorthand (kind : Shorthand) (negated : Bool)
  | property (query : Query) (negated : Bool)
  | bracket (negated : Bool) (inner : ClassTree)
  | repeated (inner : Tree) (least : Nat) (most : Option Nat)
  | group (captures : Bool) (changes : List FlagChange) (inner : Tree)
  | concat (parts : List Tree)
  | alternate (branches : List Tree)
deriving Inhabited

mutual

/-- How deep the parts of a bracket class are nested: brackets, operators and two or more parts side
by side add a level each.  An operand without any part, as in `[a&&]`, is a leaf. -/
def ClassTree.depth : ClassTree → Nat
  | .bracket _ inner => inner.depth + 1
  | .items [] => 0
  | .items parts => ClassTree.depths parts + 1
  | .operation _ l r => max l.depth r.depth + 1
  | _ => 0

/-- The greatest depth of some parts of a bracket class, which stand side by side or on both sides
of an operator; 0 where there is none. -/
def ClassTree.depths : List ClassTree → Nat
  | [] => 0
  | t :: ts => max t.depth (depths ts)

end

mutual

/-- How deep the parts of a pattern are nested: classes, repetitions, groups, sequences and choices
add a level each. -/
def Tree.depth : Tree → Nat
  | .bracket _ inner => inner.depth + 1
  | .repeated inner _ _ => inner.depth + 1
  | .group _ _ inner => inner.depth + 1
  | .concat parts => Tree.depths parts + 1
  | .alternate branches => Tree.depths branches + 1
  | _ => 0

/-- The greatest depth of the parts of a branch or of the branches of a choice; 0 where there is
none. -/
def Tree.depths : List Tree → Nat
  | [] => 0
  | t :: ts => max t.depth (depths ts)

end

/-- The greatest depth of a pattern; one that is nested deeper is refused whatever it means. -/
def maxNesting : Nat := 250

/-- The parts of a branch as one tree: a single part stands for itself. -/
def Tree.ofParts : List Tree → Tree
  | [] => .empty
  | [t] => t
  | ts => .concat ts

/-- The branches of an alternation as one tree: a single branch stands for itself. -/
def Tree.ofBranches : List Tree → Tree
  | [t] => t
  | ts => .alternate ts

/-- The parts of a bracket class as one tree: a single part stands for itself.  An operand of `&&`,
`--` or `~~` may have no part at all; it is the class of no character. -/
def ClassTree.ofParts : List ClassTree → ClassTree
  | [t] => t
  | ts => .items ts

end Pattern
end CommitForm
