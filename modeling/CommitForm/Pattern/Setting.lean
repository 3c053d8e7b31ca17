/-
# Applying the flags of a pattern

`Tree.toRegex?` turns the tree of a pattern into a regular expression.  The flags in force are
passed from each part to the next; a change of flags holds to the end of its group, later branches
included.

| flag | effect |
| --- | --- |
| `i` | letters and sets are closed under folding |
| `m` | `^` and `$` hold at lines and not only at the ends of the text |
| `s` | the dot takes line ends too |
| `R` | a line ends with a carriage return, a line feed or both |
| `u` | shorthands, folding and word boundaries know more than ASCII |

With `u` off, what could take a part of a character is refused: the dot, every negated class,
properties, bytes from `80` on, and characters beyond ASCII in brackets.  The flags `U` and `x` do
not change what matches.
-/

import CommitForm.Pattern.Regex
import CommitForm.Pattern.Tree
import CommitForm.Unicode.CaseFold
import CommitForm.Unicode.Sets

namespace CommitForm
namespace Pattern

open Unicode (CharSet)

/-- The flags in force at a place of a pattern, as far as they change what its parts mean. -/
structure Setting where
  ignoreCase : Bool
  multiLine : Bool
  dotAll : Bool
  unicode : Bool
  crlf : Bool
deriving DecidableEq, Repr

namespace Setting

/-- The flags in force at the start of a pattern unless asked otherwise: the flag `u` is on and all
others are off. -/
def plain : Setting := ⟨false, false, false, true, false⟩

/-- Switches a flag on or off; the greed of repetitions and the reading of blanks change nothing
here. -/
def change (s : Setting) (c : FlagChange) : Setting :=
  match c.flag with
  | .ignoreCase => { s with ignoreCase := c.on }
  | .multiLine => { s with multiLine := c.on }
  | .dotAll => { s with dotAll := c.on }
  | .unicode => { s with unicode := c.on }
  | .crlf => { s with crlf := c.on }
  | .swapGreed => s
  | .verbose => s

/-- Switches flags one after the other, from left to right, so the last change of a flag counts. -/
def changeAll (s : Setting) (cs : List FlagChange) : Setting := cs.foldl change s

/-- The characters that make up words for the assertions about them, all of Unicode's or those of
ASCII. -/
def words (s : Setting) : WordKind := if s.unicode then .unicode else .ascii

/-- The characters that end lines for the dot and for the assertions about lines, by the flag
`R`. -/
def lineEnds (s : Setting) : LineEnds := if s.crlf then .feedOrReturn else .feed

/-- Closes a set under folding, so that it takes a letter in either case; with `u` off only the
letters of ASCII are folded. -/
def fold (s : Setting) (set : CharSet) : CharSet :=
  if s.unicode then set.foldCase else set.foldAsciiCase

/-- Closes a set under folding if the case of letters does not count, and leaves it as it is
otherwise. -/
def foldIf (s : Setting) (set : CharSet) : CharSet := if s.ignoreCase then s.fold set else set

/-- Negates a set on demand.  With `u` off the complement would hold bytes that are no characters,
and is refused. -/
def negateIf? (s : Setting) (negated : Bool) (set : CharSet) : Option CharSet :=
  if negated then (if s.unicode then some set.compl else none) else some set

end Setting

/-! ## Sets -/

/-- The ASCII characters of a shorthand, which are all of its characters where the flag `u` is
off. -/
def Shorthand.ascii : Shorthand → CharSet
  | digit => .ofTable "30-39"
  | space => .ofTable "9-D 20"
  | word => .ofTable "30-39 41-5A 5F 61-7A"

/-- The characters of a shorthand, by the properties of Unicode or, with `u` off, those of ASCII. -/
def Shorthand.set (unicode : Bool) (kind : Shorthand) : CharSet :=
  if unicode then
    match kind with
    | digit => Unicode.digits
    | space => Unicode.spaces
    | word => Unicode.wordChars
  else kind.ascii

/-- The characters of a class written `[:name:]`, which are ASCII whatever the flags say; a name
without a class is refused while the text is read. -/
def posixSet : String → CharSet
  | "alnum" => .ofTable "30-39 41-5A 61-7A"
  | "alpha" => .ofTable "41-5A 61-7A"
  | "ascii" => .ofTable "0-7F"
  | "blank" => .ofTable "9 20"
  | "cntrl" => .ofTable "0-1F 7F"
  | "digit" => .ofTable "30-39"
  | "graph" => .ofTable "21-7E"
  | "lower" => .ofTable "61-7A"
  | "print" => .ofTable "20-7E"
  | "punct" => .ofTable "21-2F 3A-40 5B-60 7B-7E"
  | "space" => .ofTable "9-D 20"
  | "upper" => .ofTable "41-5A"
  | "word" => .ofTable "30-39 41-5A 5F 61-7A"
  | "xdigit" => .ofTable "30-39 41-46 61-66"
  | _ => .empty

/-- The characters that a query asks for, its names compared without regard to case, blanks, hyphens
and underscores; none if nothing has that name. -/
def Query.set? : Query → Option CharSet
  | named name => Unicode.named? (String.ofList (Unicode.reduceName name))
  | valued property value =>
    Unicode.valued? (String.ofList (Unicode.reduceName property))
      (String.ofList (Unicode.reduceName value))

/-- The character that a literal stands for outside brackets: with `u` off, a byte from `80` on is
none. -/
def Literal.char? (s : Setting) (l : Literal) : Option Char :=
  if !s.unicode && l.isByte && 0x80 ≤ l.char.toNat then none else some l.char

/-- The character that a literal stands for in brackets: with `u` off, only ASCII has one. -/
def Literal.member? (s : Setting) (l : Literal) : Option Char :=
  if !s.unicode && 0x80 ≤ l.char.toNat then none else some l.char

namespace Setting

/-- The characters of a shorthand that may be negated; folding changes none of them, so none is
done. -/
def shorthand? (s : Setting) (kind : Shorthand) (negated : Bool) : Option CharSet :=
  s.negateIf? negated (kind.set s.unicode)

/-- The characters of a property, folded before they are negated; it is refused with `u` off. -/
def property? (s : Setting) (query : Query) (negated : Bool) : Option CharSet :=
  if s.unicode then query.set?.bind fun set => s.negateIf? negated (s.foldIf set) else none

end Setting

mutual

/-- The characters of the content of a bracket class, before the brackets fold and negate it. -/
def ClassTree.set? (s : Setting) : ClassTree → Option CharSet
  | .literal l => (l.member? s).map .single
  | .range lo hi =>
    match lo.member? s, hi.member? s with
    | some a, some b => some (.range a.toNat b.toNat)
    | _, _ => none
  | .posix name negated => s.negateIf? negated (s.foldIf (posixSet name))
  | .shorthand kind negated => s.shorthand? kind negated
  | .property query negated => s.property? query negated
  | .bracket negated inner => (inner.set? s).bind fun set => s.negateIf? negated (s.foldIf set)
  | .items parts => ClassTree.union? s parts
  | .operation op left right =>
    match left.set? s, right.set? s with
    | some l, some r =>
      let l := s.foldIf l
      let r := s.foldIf r
      match op with
      | .inter => some (l.inter r)
      | .diff => some (l.diff r)
      | .symmDiff => some (l.symmDiff r)
    | _, _ => none

/-- The characters of some of the given parts, refused if one of the parts is; no parts have no
characters. -/
def ClassTree.union? (s : Setting) : List ClassTree → Option CharSet
  | [] => some .empty
  | t :: ts =>
    match t.set? s, ClassTree.union? s ts with
    | some a, some b => some (a.union b)
    | _, _ => none

end

/-! ## The whole tree -/

/-- The characters that the dot takes: all, or all but those that end lines. -/
def Setting.dot (s : Setting) : CharSet :=
  if s.dotAll then .all
  else
    match s.lineEnds with
    | .feed => (CharSet.single '\n').compl
    | .feedOrReturn => ((CharSet.single '\n').union (.single '\r')).compl

/-- The condition that an assertion asks for: the flags decide about lines and about words. -/
def Setting.lookOf (s : Setting) : Assertion → Look
  | .lineStart => if s.multiLine then .lineStart s.lineEnds else .textStart
  | .lineEnd => if s.multiLine then .lineEnd s.lineEnds else .textEnd
  | .textStart => .textStart
  | .textEnd => .textEnd
  | .boundary => .boundary s.words
  | .notBoundary => .notBoundary s.words
  | .wordStart => .wordStart s.words
  | .wordEnd => .wordEnd s.words
  | .wordStartHalf => .wordStartHalf s.words
  | .wordEndHalf => .wordEndHalf s.words

mutual

/-- The regular expression of a tree, and the flags in force behind it; a change of flags holds to
the end of the group it stands in. -/
def Tree.toRegex? (s : Setting) : Tree → Option (Regex × Setting)
  | .empty => some (.empty, s)
  | .flags changes => some (.empty, s.changeAll changes)
  | .literal l => (l.char? s).map fun c => (.set (s.foldIf (.single c)), s)
  | .dot => if s.unicode then some (.set s.dot, s) else none
  | .look kind => some (.look (s.lookOf kind), s)
  | .shorthand kind negated => (s.shorthand? kind negated).map fun set => (.set set, s)
  | .property query negated => (s.property? query negated).map fun set => (.set set, s)
  | .bracket negated inner =>
    ((inner.set? s).bind fun set => s.negateIf? negated (s.foldIf set)).map fun set => (.set set, s)
  | .repeated inner least most =>
    (inner.toRegex? s).map fun (r, s) => (r.repeatOf least most, s)
  | .group captures changes inner =>
    (inner.toRegex? (s.changeAll changes)).map fun (r, _) => (if captures then .group r else r, s)
  | .concat parts => (Tree.toRegexes? s parts).map fun (rs, s) => (.catAll rs, s)
  | .alternate branches => (Tree.toRegexes? s branches).map fun (rs, s) => (.altAll rs, s)

/-- The regular expressions of trees, read from left to right, each with the flags that the ones
before it leave in force. -/
def Tree.toRegexes? (s : Setting) : List Tree → Option (List Regex × Setting)
  | [] => some ([], s)
  | t :: ts =>
    match t.toRegex? s with
    | none => none
    | some (r, s) =>
      match Tree.toRegexes? s ts with
      | none => none
      | some (rs, s) => some (r :: rs, s)

end

end Pattern
end CommitForm
