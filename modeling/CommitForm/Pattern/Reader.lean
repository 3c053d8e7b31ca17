/-
# Reading patterns

`readTree?` reads the text of a pattern into a tree, or answers `none` where the text is no pattern.
There is no look-around and no back-reference.

| construct | rule |
| --- | --- |
| repetition | needs something before it that is no change of flags |
| `{` | always begins a counted repetition; counts lie below `2 ^ 32` and do not decrease |
| group names | differ from each other; letters, digits, `_`, `.`, `[`, `]`, no digit in front |
| flags | `i m s U u R x`, each once, one hyphen at most and not at the end |
| escapes | every ASCII character that is no letter, digit, `<` or `>` may be escaped |
| brackets | `&&`, `--` and `~~` group to the left and bind looser than juxtaposition |
| depth | at most `maxNesting` |

While the flag `x` is on, blanks and comments between the parts are skipped.
-/

import CommitForm.Pattern.Tree
import CommitForm.Text.Between
import CommitForm.Text.Blank
import CommitForm.Unicode.Sets

namespace CommitForm
namespace Pattern

/-- Skips blanks, and comments from `#` to the end of the line; an end of the text ends a comment
too. -/
def skipComments (inComment : Bool) : List Char → List Char
  | [] => []
  | c :: cs =>
    if inComment then skipComments (c ≠ '\n') cs
    else if c = '#' then skipComments true cs
    else if Text.isBlank c then skipComments false cs
    else c :: cs

/-- Skips what does not count: nothing, unless the flag `x` is on, and blanks and comments then. -/
def skip (verbose : Bool) (cs : List Char) : List Char :=
  if verbose then skipComments false cs else cs

/-! ## Escapes -/

/-- The characters with a meaning of their own somewhere in a pattern, which a backslash takes from
them. -/
def isMeta (c : Char) : Bool := "\\.+*?()|[]\x7b\x7d^$#&-~".toList.contains c

/-- The characters that may stand behind a backslash to denote themselves: all of ASCII but letters,
digits and angle brackets. -/
def isEscapable (c : Char) : Bool :=
  isMeta c || (c.toNat < 0x80 && !c.isAlphanum && c != '<' && c != '>')

/-- The character of a code point, if there is one; surrogates and what lies beyond the last code
point are none. -/
def charOf? (n : Nat) : Option Char := if n.isValidChar then some (Char.ofNat n) else none

/-- The number that hexadecimal digits denote; `none` if one is no such digit or it is too large for
a code point. -/
def hexValue? (ds : List Char) : Option Nat :=
  (ds.foldlM (fun n c => (Unicode.CharSet.hexDigit? c).map fun d => min (16 * n + d) 0x110000) 0)

/-- Reads `count` hexadecimal digits, skipping what does not count behind each; fewer digits make
the pattern refused. -/
def readHexDigits (verbose : Bool) : Nat → List Char → Option (List Char × List Char)
  | 0, cs => some ([], cs)
  | _ + 1, [] => none
  | n + 1, c :: cs =>
    if (Unicode.CharSet.hexDigit? c).isSome then
      (readHexDigits verbose n (skip verbose cs)).map fun (ds, rest) => (c :: ds, rest)
    else none

/-- Reads up to a closing brace, skipping what does not count: the text before it and behind it. -/
def readBraced (verbose : Bool) : Nat → List Char → Option (List Char × List Char)
  | 0, _ => none
  | fuel + 1, cs =>
    match skip verbose cs with
    | [] => none
    | '\x7d' :: rest => some ([], rest)
    | c :: rest => (readBraced verbose fuel rest).map fun (ds, rest) => (c :: ds, rest)

/-- Reads the code point of an escape behind its letter, which takes `count` digits or any number of
them in braces. -/
def readCodePoint (verbose : Bool) (count : Nat) (cs : List Char) : Option (Char × List Char) := do
  let (ds, rest) ←
    match skip verbose cs with
    | '\x7b' :: cs => do
      let (ds, rest) ← readBraced verbose (cs.length + 1) cs
      if ds = [] then none else some (ds, skip verbose rest)
    | cs => readHexDigits verbose count cs
  let c ← charOf? (← hexValue? ds)
  some (c, rest)

/-- Cuts a text at the first occurrence of a separator, which belongs to neither part; none if it
does not occur. -/
def splitAt? (sep : List Char) : List Char → Option (List Char × List Char)
  | [] => none
  | c :: cs =>
    match Text.dropStart? sep (c :: cs) with
    | some rest => some ([], rest)
    | none => (splitAt? sep cs).map fun (l, r) => (c :: l, r)

/-- The query of the text between the braces of a property escape.  Name and value may be joined by
`!=`, `:` or `=`, which all mean the same: only `\P` negates. -/
def queryOf (name : List Char) : Query :=
  match splitAt? ['!', '='] name with
  | some (p, v) => .valued p v
  | none =>
    match splitAt? [':'] name with
    | some (p, v) => .valued p v
    | none =>
      match splitAt? ['='] name with
      | some (p, v) => .valued p v
      | none => .named name

/-- Reads a property escape behind its letter: a single letter, or a query between braces. -/
def readProperty (verbose : Bool) (cs : List Char) : Option (Query × List Char) :=
  match skip verbose cs with
  | [] => none
  | '\x7b' :: cs => do
    let (name, rest) ← readBraced verbose (cs.length + 1) cs
    some (queryOf name, rest)
  | '\\' :: _ => none
  | c :: cs => some (.named [c], skip verbose cs)

/-- What an escape, or a single character, stands for, inside brackets and outside of them. -/
inductive Primitive where
  | literal (l : Literal)
  | dot
  | look (kind : Assertion)
  | shorthand (kind : Shorthand) (negated : Bool)
  | property (query : Query) (negated : Bool)

/-- The special word boundaries, by the name between the braces behind `\b`; another name is refused
by the caller. -/
def specialBoundary? (name : List Char) : Option Assertion :=
  if name = "start".toList then some .wordStart
  else if name = "end".toList then some .wordEnd
  else if name = "start-half".toList then some .wordStartHalf
  else if name = "end-half".toList then some .wordEndHalf
  else none

/-- Reads a word boundary behind its letter: `{start}` and the like belong to it, while a brace with
anything but a letter or a hyphen behind it begins a repetition. -/
def readBoundary (verbose : Bool) (cs : List Char) : Option (Primitive × List Char) :=
  match cs with
  | '\x7b' :: inner =>
    match skip verbose inner with
    | [] => none
    | c :: _ =>
      if c.isAlpha ∨ c = '-' then do
        let (name, rest) ← readBraced verbose (inner.length + 1) inner
        if name.all fun c => c.isAlpha || c == '-' then
          let kind ← specialBoundary? name
          some (.look kind, rest)
        else none
      else some (.look .boundary, cs)
  | _ => some (.look .boundary, cs)

/-- Reads an escape behind its backslash: a code point, a class, an assertion, or a character that
denotes itself. -/
def readEscape (verbose : Bool) : List Char → Option (Primitive × List Char)
  | [] => none
  | c :: cs =>
    let plain (c : Char) : Option (Primitive × List Char) := some (.literal ⟨c, false⟩, cs)
    let look (k : Assertion) : Option (Primitive × List Char) := some (.look k, cs)
    let shorthand (k : Shorthand) (n : Bool) : Option (Primitive × List Char) :=
      some (.shorthand k n, cs)
    match c with
    | 'x' => do
      let braced := (skip verbose cs).head? == some '\x7b'
      let (c, rest) ← readCodePoint verbose 2 cs
      some (.literal ⟨c, !braced⟩, rest)
    | 'u' => (readCodePoint verbose 4 cs).map fun (c, rest) => (.literal ⟨c, false⟩, rest)
    | 'U' => (readCodePoint verbose 8 cs).map fun (c, rest) => (.literal ⟨c, false⟩, rest)
    | 'p' => (readProperty verbose cs).map fun (q, rest) => (.property q false, rest)
    | 'P' => (readProperty verbose cs).map fun (q, rest) => (.property q true, rest)
    | 'd' => shorthand .digit false
    | 'D' => shorthand .digit true
    | 's' => shorthand .space false
    | 'S' => shorthand .space true
    | 'w' => shorthand .word false
    | 'W' => shorthand .word true
    | 'a' => plain '\x07'
    | 'f' => plain '\x0c'
    | 't' => plain '\t'
    | 'n' => plain '\n'
    | 'r' => plain '\r'
    | 'v' => plain '\x0b'
    | 'A' => look .textStart
    | 'z' => look .textEnd
    | 'b' => readBoundary verbose cs
    | 'B' => look .notBoundary
    | '<' => look .wordStart
    | '>' => look .wordEnd
    | c => if isEscapable c then plain c else none

/-! ## Bracket classes -/

/-- The names of the classes written `[:name:]`; brackets around any other name are read as a class
of characters. -/
def posixNames : List String :=
  ["alnum", "alpha", "ascii", "blank", "cntrl", "digit", "graph", "lower", "print", "punct",
   "space", "upper", "word", "xdigit"]

/-- Reads a class written `[:name:]` behind its opening bracket, or nothing if what follows is not
of that form. -/
def readPosix? : List Char → Option (ClassTree × List Char)
  | ':' :: cs => do
    let (negated, cs) := match cs with
      | '^' :: cs => (true, cs)
      | cs => (false, cs)
    let name := String.ofList (cs.takeWhile (· ≠ ':'))
    let rest ← Text.dropStart? [':', ']'] (cs.dropWhile (· ≠ ':'))
    if posixNames.contains name then some (.posix name negated, rest) else none
  | _ => none

/-- Reads one element of a bracket class: an escape or a character, whatever that would mean outside
of brackets. -/
def readElement (verbose : Bool) : List Char → Option (Primitive × List Char)
  | [] => none
  | '\\' :: cs => readEscape verbose cs
  | c :: cs => some (.literal ⟨c, false⟩, cs)

/-- The class of an element; assertions and the dot have none, and make the pattern refused inside
brackets. -/
def Primitive.toClass? : Primitive → Option ClassTree
  | .literal l => some (.literal l)
  | .shorthand k n => some (.shorthand k n)
  | .property q n => some (.property q n)
  | _ => none

/-- The character of an element that bounds a range; a class on either side of the hyphen is
refused. -/
def Primitive.literal? : Primitive → Option Literal
  | .literal l => some l
  | _ => none

/-- The character that is taken to follow a hyphen in a bracket class, which decides whether the
hyphen joins a range.  While the flag `x` is on, blanks are passed over; so is the sign of a
comment, but not the comment behind it, so that `[a-#]` ends in a hyphen whatever stands on the next
line. Where the text runs out this way, it is the very next character. -/
def seenBehindHyphen (verbose : Bool) (cs : List Char) : Option Char :=
  if verbose then
    match cs.dropWhile Text.isBlank with
    | '#' :: comment => (comment.dropWhile Text.isBlank).head?.or cs.head?
    | rest => rest.head?.or cs.head?
  else cs.head?

/-- Reads an element or a range of a bracket class.  A hyphen that is followed by a closing bracket
or by another hyphen is left to be read as the next element. -/
def readRange (verbose : Bool) (cs : List Char) : Option (ClassTree × List Char) := do
  let (first, rest) ← readElement verbose cs
  match skip verbose rest with
  | [] => none
  | '-' :: rest' =>
    let ahead := seenBehindHyphen verbose rest'
    if ahead = some ']' ∨ ahead = some '-' then
      some (← first.toClass?, '-' :: rest')
    else
      let (second, rest) ← readElement verbose (skip verbose rest')
      let lo ← first.literal?
      let hi ← second.literal?
      if lo.char ≤ hi.char then some (.range lo hi, rest) else none
  | rest => some (← first.toClass?, rest)

/-- A bracket class being read: whether it is negated, its parts so far, last first, and the
operator and left operand before them. -/
structure OpenClass where
  negated : Bool
  parts : List ClassTree
  pending : Option (SetOperator × ClassTree)

namespace OpenClass

/-- The left operand of a pending operator applied to the parts read since, or these parts alone if
no operator is pending. -/
def content (c : OpenClass) : ClassTree :=
  let right := ClassTree.ofParts c.parts.reverse
  match c.pending with
  | none => right
  | some (op, left) => .operation op left right

/-- The class with one more part, put in front, since the parts are kept in reverse. -/
def add (c : OpenClass) (t : ClassTree) : OpenClass := { c with parts := t :: c.parts }

/-- The class with an operator behind what has been read, all of which becomes the operator's left
operand. -/
def operator (c : OpenClass) (op : SetOperator) : OpenClass :=
  { c with parts := [], pending := some (op, c.content) }

end OpenClass

/-- Reads hyphens in front of a bracket class, which denote themselves there and begin no range. -/
def readHyphens (verbose : Bool) : Nat → List ClassTree → List Char → List ClassTree × List Char
  | fuel + 1, parts, '-' :: cs =>
    readHyphens verbose fuel (.literal ⟨'-', false⟩ :: parts) (skip verbose cs)
  | _, parts, cs => (parts, cs)

/-- Reads the opening of a bracket class behind its bracket: a negation, hyphens, and a closing
bracket that denotes itself when nothing stands before it. -/
def readClassOpening (verbose : Bool) (cs : List Char) : OpenClass × List Char :=
  let cs := skip verbose cs
  let (negated, cs) := match cs with
    | '^' :: cs => (true, skip verbose cs)
    | cs => (false, cs)
  let (parts, cs) := readHyphens verbose cs.length [] cs
  match parts, cs with
  | [], ']' :: cs => (⟨negated, [.literal ⟨']', false⟩], none⟩, skip verbose cs)
  | parts, cs => (⟨negated, parts, none⟩, cs)

/-- Reads a bracket class to its end.  `outer` holds the classes that enclose the one being read. -/
def readClassFrom (verbose : Bool) :
    Nat → OpenClass → List OpenClass → List Char → Option (Bool × ClassTree × List Char)
  | 0, _, _, _ => none
  | fuel + 1, here, outer, cs =>
    match skip verbose cs with
    | [] => none
    | '[' :: cs =>
      match readPosix? cs with
      | some (t, rest) => readClassFrom verbose fuel (here.add t) outer rest
      | none =>
        let (inner, rest) := readClassOpening verbose cs
        readClassFrom verbose fuel inner (here :: outer) rest
    | ']' :: cs =>
      match outer with
      | [] => some (here.negated, here.content, cs)
      | parent :: outer =>
        readClassFrom verbose fuel (parent.add (.bracket here.negated here.content)) outer cs
    | '&' :: '&' :: cs => readClassFrom verbose fuel (here.operator .inter) outer cs
    | '-' :: '-' :: cs => readClassFrom verbose fuel (here.operator .diff) outer cs
    | '~' :: '~' :: cs => readClassFrom verbose fuel (here.operator .symmDiff) outer cs
    | cs => do
      let (t, rest) ← readRange verbose cs
      readClassFrom verbose fuel (here.add t) outer rest

/-- Reads a bracket class behind its opening bracket: whether it is negated, its content, and the
text behind it. -/
def readClass (verbose : Bool) (cs : List Char) : Option (Bool × ClassTree × List Char) :=
  let (here, rest) := readClassOpening verbose cs
  readClassFrom verbose (rest.length + 1) here [] rest

/-! ## Groups and repetitions -/

/-- Reads the flags of a group up to the colon or the closing parenthesis, which is answered too.
`seen` holds the flags read before, `on` whether no hyphen has been read. -/
def readFlags (on : Bool) (seen : List Flag) :
    List Char → Option (List FlagChange × Char × List Char)
  | [] => none
  | c :: cs =>
    if c = ':' ∨ c = ')' then some ([], c, cs)
    else if c = '-' then
      match on, cs with
      | true, d :: ds =>
        if d = ':' ∨ d = ')' then none else readFlags false seen (d :: ds)
      | _, _ => none
    else do
      let flag ← Flag.ofLetter? c
      if seen.contains flag then none
      else
        let (changes, stop, rest) ← readFlags on (flag :: seen) cs
        some (⟨flag, on⟩ :: changes, stop, rest)

/-- The first characters of group names: the underscore and the letters of Unicode. -/
def isGroupNameStart (c : Char) : Bool := c == '_' || Unicode.letters.contains c

/-- The characters of group names behind the first one, among them digits of all kinds, the dot and
the brackets. -/
def isGroupNameChar (c : Char) : Bool :=
  c == '_' || c == '.' || c == '[' || c == ']' || Unicode.letters.contains c ||
    Unicode.numbers.contains c

/-- Reads a group name behind its opening angle bracket; the name is used only to refuse a second
group of it. -/
def readGroupName (cs : List Char) : Option (List Char × List Char) :=
  let name := cs.takeWhile (· ≠ '>')
  match name, cs.dropWhile (· ≠ '>') with
  | c :: name, _ :: rest =>
    if isGroupNameStart c ∧ name.all isGroupNameChar then some (c :: name, rest) else none
  | _, _ => none

/-- Reads a natural number below `2 ^ 32` with blanks around it, as a bound of a counted
repetition. -/
def readCount (verbose : Bool) (cs : List Char) : Option (Nat × List Char) :=
  let cs := Text.trimStart cs
  let rec digits : Nat → List Char → List Char × List Char
    | fuel + 1, c :: cs =>
      if c.isDigit then
        let (ds, rest) := digits fuel (skip verbose cs)
        (c :: ds, rest)
      else ([], c :: cs)
    | _, cs => ([], cs)
  let (ds, rest) := digits cs.length cs
  let n := ds.foldl (fun n c => min (10 * n + (c.toNat - 48)) (Nat.pow 2 32)) 0
  let rec blanks : Nat → List Char → List Char
    | fuel + 1, c :: cs => if Text.isBlank c then blanks fuel (skip verbose cs) else c :: cs
    | _, cs => cs
  if ds = [] ∨ Nat.pow 2 32 ≤ n then none else some (n, blanks rest.length rest)

/-- Drops the sign that makes a repetition lazy, which does not change what is matched at all. -/
def dropLazy : List Char → List Char
  | '?' :: cs => cs
  | cs => cs

/-- Reads a counted repetition behind its opening brace: the least and the greatest count. -/
def readCounts (verbose : Bool) (cs : List Char) : Option ((Nat × Option Nat) × List Char) := do
  let (least, rest) ← readCount verbose (skip verbose cs)
  match rest with
  | '\x7d' :: rest => some ((least, some least), dropLazy (skip verbose rest))
  | ',' :: rest =>
    match skip verbose rest with
    | '\x7d' :: rest => some ((least, none), dropLazy (skip verbose rest))
    | rest =>
      let (most, rest) ← readCount verbose rest
      match rest with
      | '\x7d' :: rest =>
        if least ≤ most then some ((least, some most), dropLazy (skip verbose rest)) else none
      | _ => none
  | _ => none

/-! ## The whole pattern -/

/-- A group, or the whole pattern, while it is read: its finished branches and the parts of the one
being read. -/
structure Level where
  /-- The finished branches, last first. -/
  branches : List Tree
  /-- The parts of the branch being read, last first. -/
  parts : List Tree

namespace Level

/-- The beginning of a group or of a pattern, with no branch finished and no part read. -/
def start : Level := ⟨[], []⟩

/-- The level with one more part in the branch that is being read. -/
def add (l : Level) (t : Tree) : Level := { l with parts := t :: l.parts }

/-- The level with the branch being read finished; the next part begins another branch. -/
def branch (l : Level) : Level := ⟨Tree.ofParts l.parts.reverse :: l.branches, []⟩

/-- The tree of a finished level, a choice between its branches if it has more than one. -/
def tree (l : Level) : Tree := Tree.ofBranches l.branch.branches.reverse

/-- The level with its last part repeated; `none` if there is nothing to repeat. -/
def repeatLast? (l : Level) (least : Nat) (most : Option Nat) : Option Level :=
  match l.parts with
  | [] => none
  | .empty :: _ => none
  | .flags _ :: _ => none
  | t :: ts => some { l with parts := .repeated t least most :: ts }

end Level

/-- A level that is waiting for a group inside it, with what the group's opening says and the flag
`x` that its end restores. -/
structure Waiting where
  level : Level
  captures : Bool
  changes : List FlagChange
  verbose : Bool

/-- A pattern while it is read: the innermost open level, the levels around it, whether blanks are
skipped, and the group names seen. -/
structure State where
  level : Level
  outer : List Waiting
  verbose : Bool
  names : List (List Char)

namespace State

/-- The beginning of a pattern: no group is open, blanks count, and no name is taken. -/
def start : State := ⟨.start, [], false, []⟩

/-- The state with one more part in the innermost group that is open. -/
def add (s : State) (t : Tree) : State := { s with level := s.level.add t }

/-- The state inside a new group, with the flag `x` as the group's opening changes it, if it
does. -/
def openGroup (s : State) (captures : Bool) (changes : List FlagChange) : State :=
  let verbose := ((changes.find? (·.flag = .verbose)).map (·.on)).getD s.verbose
  { s with level := .start, outer := ⟨s.level, captures, changes, s.verbose⟩ :: s.outer, verbose }

/-- The state behind a group, which has become a part of the level around it; `none` if no group is
open. -/
def closeGroup? (s : State) : Option State :=
  match s.outer with
  | [] => none
  | w :: outer =>
    some { s with
      level := w.level.add (.group w.captures w.changes s.level.tree), outer, verbose := w.verbose }

/-- The tree of the whole pattern; `none` if a group is open, since its parenthesis is missing. -/
def finish? (s : State) : Option Tree :=
  if s.outer.isEmpty then some s.level.tree else none

/-- Reads the opening of a group behind its parenthesis: a name, changes of flags, or nothing
special, in which case the group captures. -/
def readGroup? (s : State) (cs : List Char) : Option (State × List Char) :=
  let cs := skip s.verbose cs
  let named (cs : List Char) : Option (State × List Char) := do
    let (name, rest) ← readGroupName cs
    if s.names.contains name then none
    else some ({ s.openGroup true [] with names := name :: s.names }, rest)
  match cs with
  | '?' :: '=' :: _ => none
  | '?' :: '!' :: _ => none
  | '?' :: '<' :: '=' :: _ => none
  | '?' :: '<' :: '!' :: _ => none
  | '?' :: 'P' :: '<' :: cs => named cs
  | '?' :: '<' :: cs => named cs
  | '?' :: cs => do
    let (changes, stop, rest) ← readFlags true [] cs
    if stop = ')' then
      if changes = [] then none
      else
        let verbose := ((changes.find? (·.flag = .verbose)).map (·.on)).getD s.verbose
        some ({ s.add (.flags changes) with verbose }, rest)
    else some (s.openGroup false changes, rest)
  | cs => some (s.openGroup true [], cs)

end State

/-- The part of a pattern that a primitive is outside of brackets, where each of them has a
meaning. -/
def Primitive.toTree : Primitive → Tree
  | .literal l => .literal l
  | .dot => .dot
  | .look k => .look k
  | .shorthand k n => .shorthand k n
  | .property q n => .property q n

/-- Reads one part of a pattern, which starts with `c`: a group or its end, a bar, a repetition of
the last part, a class, an escape or a character. -/
def State.step? (s : State) (c : Char) (cs : List Char) : Option (State × List Char) :=
  let part (t : Tree) (rest : List Char) : Option (State × List Char) := some (s.add t, rest)
  let repetition (least : Nat) (most : Option Nat) (rest : List Char) :
      Option (State × List Char) :=
    (s.level.repeatLast? least most).map fun level => ({ s with level }, rest)
  match c with
  | '(' => s.readGroup? cs
  | ')' => s.closeGroup?.map (·, cs)
  | '|' => some ({ s with level := s.level.branch }, cs)
  | '[' => (readClass s.verbose cs).bind fun (negated, t, rest) => part (.bracket negated t) rest
  | '?' => repetition 0 (some 1) (dropLazy cs)
  | '*' => repetition 0 none (dropLazy cs)
  | '+' => repetition 1 none (dropLazy cs)
  | '\x7b' =>
    (readCounts s.verbose cs).bind fun ((least, most), rest) => repetition least most rest
  | '\\' => (readEscape s.verbose cs).bind fun (p, rest) => part p.toTree rest
  | '.' => part .dot cs
  | '^' => part (.look .lineStart) cs
  | '$' => part (.look .lineEnd) cs
  | c => part (.literal ⟨c, false⟩) cs

/-- Reads parts to the end of the text.  Each part takes a character, so `fuel` of one more than the
length suffices. -/
def State.run? : Nat → State → List Char → Option Tree
  | 0, _, _ => none
  | fuel + 1, s, cs =>
    match skip s.verbose cs with
    | [] => s.finish?
    | c :: cs => (s.step? c cs).bind fun (s, rest) => run? fuel s rest

/-- The tree of a pattern; `none` if the text is no pattern or is nested too deep. -/
def readTree? (text : String) : Option Tree :=
  (State.start.run? (text.toList.length + 1) text.toList).filter (·.depth ≤ maxNesting)

end Pattern
end CommitForm
