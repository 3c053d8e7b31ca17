/-
# Scalars of YAML texts

| scalar | is cut into words by | ends |
| --- | --- | --- |
| plain | blanks and breaks | before `: `, ` #`, flow punctuation or a line indented too little |
| quoted | blanks and breaks | at its quote |
| block | breaks | before a line that is indented too little |

In plain and quoted scalars the blanks between two words of a line stay, and blanks around breaks
go.  Of the breaks between two words the first goes if it is a line feed, or becomes a blank if it
is the only one.  A folded block scalar does so between lines that do not begin with a blank.
-/

import CommitForm.Yaml.Cursor

namespace CommitForm
namespace Yaml

/-- How a scalar is written.  The style decides whether a text without a tag may stand for anything
but a text. -/
inductive Style where
  | plain
  | singleQuoted
  | doubleQuoted
  | literal
  | folded
deriving DecidableEq, Repr

/-! ## Between words -/

/-- What stands between two words: blanks, or the first break and the further breaks. -/
structure Gap where
  blanks : List Char
  broken : Bool
  first : List Char
  further : List Char
deriving DecidableEq, Repr

/-- No gap, as it is before the first word of a scalar: no blanks, no break, and nothing to
contribute. -/
def Gap.none : Gap := ⟨[], false, [], []⟩

/-- A gap at an escaped break, which counts as broken but contributes no character of its own, so
that the next line joins the last one. -/
def Gap.escaped : Gap := ⟨[], true, [], []⟩

/-- What a gap contributes to the scalar: its blanks within a line, one space for a single break,
and for more breaks all but the first. -/
def Gap.text (g : Gap) : List Char :=
  if g.broken then
    if g.first = ['\n'] then if g.further = [] then [' '] else g.further
    else g.first ++ g.further
  else g.blanks

/-- Reads blanks and breaks.  A tab behind a break and before the margin is a fault. -/
def readGap (margin : Nat) : Nat → Gap → Cursor → Outcome Gap
  | 0, g, c => .ok (g, c)
  | fuel + 1, g, c =>
    match c.peek with
    | some a =>
      if isBlank a then
        if g.broken then
          if a = '\t' ∧ c.place.column < margin then c.fail .tabInIndentation
          else readGap margin fuel g (c.skip 1)
        else readGap margin fuel { g with blanks := g.blanks ++ [a] } (c.skip 1)
      else if isBreak a then
        let (b, c) := c.readBreak
        readGap margin fuel
          (if g.broken then { g with further := g.further ++ b } else ⟨[], true, b, []⟩) c
      else .ok (g, c)
    | none => .ok (g, c)

/-! ## Plain scalars -/

/-- A plain scalar that has been read: its text, where it ends, and whether breaks follow. -/
structure Plain where
  text : List Char
  stop : Place
  broken : Bool
deriving DecidableEq, Repr

/-- Whether a character ends a plain scalar inside brackets: the comma and the four brackets
themselves, wherever they stand in a word. -/
def isFlowEnd (c : Char) : Bool := c == ',' || c == '[' || c == ']' || c == '\x7b' || c == '\x7d'

/-- A word of a plain scalar, and whether a colon that must not stand there follows. -/
def takeWord (inFlow : Bool) : List Char → List Char × Bool
  | [] => ([], false)
  | c :: cs =>
    if isSpace c then ([], false)
    else if inFlow && c == ':' && cs.head?.any fun a => isFlowEnd a || a == '?' then ([], true)
    else if (c == ':' && cs.head?.all isSpace) || (inFlow && isFlowEnd c) then ([], false)
    else
      let (w, colon) := takeWord inFlow cs
      (c :: w, colon)

/-- Reads a plain scalar, or what remains of it, from the gap before it on. -/
def readPlain (inFlow : Bool) (margin : Nat) : Nat → Gap → Place → Cursor → Outcome Plain
  | 0, g, stop, c => .ok (⟨[], stop, g.broken⟩, c)
  | fuel + 1, g, stop, c =>
    if c.atDocumentMarker || c.peek == some '#' then .ok (⟨[], stop, g.broken⟩, c)
    else
      let (word, colon) := takeWord inFlow c.rest
      let behind := c.skip word.length
      if colon then behind.fail .colonInPlain
      else
        let before := if word = [] then [] else g.text
        let stop := if word = [] then stop else behind.place
        let g := if word = [] then g else .none
        if behind.sees isSpace then
          match readGap margin behind.rest.length g behind with
          | .error e => .error e
          | .ok (g, c) =>
            if !inFlow && c.place.column < margin then
              .ok (⟨before ++ word, stop, g.broken⟩, c)
            else
              (readPlain inFlow margin fuel g stop c).map fun (p, c) =>
                ({ p with text := before ++ word ++ p.text }, c)
        else .ok (⟨before ++ word, stop, g.broken⟩, behind)

/-! ## Quoted scalars -/

/-- The number of hexadecimal digits that an escape takes, by its letter; an escape with another
letter takes none. -/
def escapeWidth? : Char → Option Nat
  | 'x' => some 2
  | 'u' => some 4
  | 'U' => some 8
  | _ => none

/-- The character of an escape without digits, by its letter; the space, the quotes, both slashes
and the breaks of Unicode are among them. -/
def escaped? : Char → Option Char
  | '0' => some '\x00'
  | 'a' => some '\x07'
  | 'b' => some '\x08'
  | 't' => some '\t'
  | '\t' => some '\t'
  | 'n' => some '\n'
  | 'v' => some '\x0b'
  | 'f' => some '\x0c'
  | 'r' => some '\r'
  | 'e' => some '\x1b'
  | ' ' => some ' '
  | '"' => some '"'
  | '/' => some '/'
  | '\\' => some '\\'
  | 'N' => some '\x85'
  | '_' => some '\xa0'
  | 'L' => some '\u2028'
  | 'P' => some '\u2029'
  | _ => none

/-- Reads the digits of an escape and gives their character.  A number that is no character is
refused, also where two of them would make a pair of surrogates. -/
def readCodePoint (width : Nat) (c : Cursor) : Outcome Char :=
  match (c.rest.take width).mapM hexDigit? with
  | some ds =>
    if ds.length < width then c.fail .hexExpected
    else
      let n := ds.foldl (fun n d => 16 * n + d) 0
      if n.isValidChar then .ok (Char.ofNat n, c.skip width) else c.fail .badCodePoint
  | none => c.fail .hexExpected

/-- Reads an escape whose backslash comes next: a letter with digits, or a letter alone; anything
else is refused at the backslash. -/
def readEscape (c : Cursor) : Outcome Char :=
  match c.rest with
  | _ :: a :: _ =>
    match escapeWidth? a with
    | some width => readCodePoint width (c.skip 2)
    | none =>
      match escaped? a with
      | some b => .ok (b, c.skip 2)
      | none => c.fail .badEscape
  | _ => c.fail .badEscape

/-- Reads the characters of a quoted scalar up to a gap or its quote.  The gap is one at an escaped
break, or none. -/
def readRun (quote : Char) : Nat → Cursor → Outcome (List Char × Gap)
  | 0, c => .ok (([], .none), c)
  | fuel + 1, c =>
    let more (a : Char) (c : Cursor) : Outcome (List Char × Gap) :=
      (readRun quote fuel c).map fun ((cs, g), c) => ((a :: cs, g), c)
    match c.rest with
    | [] => .ok (([], .none), c)
    | a :: cs =>
      if isSpace a then .ok (([], .none), c)
      else if a = quote then
        if quote = '\'' ∧ cs.head? = some '\'' then more '\'' (c.skip 2)
        else .ok (([], .none), c)
      else if quote = '"' ∧ a = '\\' then
        if cs.head?.any isBreak then .ok (([], .escaped), (c.skip 1).skipBreak)
        else
          match readEscape c with
          | .error e => .error e
          | .ok (b, c) => more b c
      else more a (c.skip 1)

/-- Reads a quoted scalar behind its first quote, up to and with its last. -/
def readQuoted (quote : Char) : Nat → Cursor → Outcome (List Char)
  | 0, c => c.fail .endInQuoted
  | fuel + 1, c =>
    if c.atDocumentMarker then c.fail .documentMarker
    else if c.rest = [] then c.fail .endInQuoted
    else
      match readRun quote c.rest.length c with
      | .error e => .error e
      | .ok ((run, g), c) =>
        if c.peek = some quote then .ok (run, c.skip 1)
        else
          match readGap 0 c.rest.length g c with
          | .error e => .error e
          | .ok (g, c) =>
            (readQuoted quote fuel c).map fun (cs, c) => (run ++ g.text ++ cs, c)

/-! ## Block scalars -/

/-- What happens to the breaks at the end of a block scalar: all are dropped, one is left, or all
are kept. -/
inductive Chomping where
  | strip
  | clip
  | keep
deriving DecidableEq, Repr

/-- A block scalar that has been read: its text with the breaks of its lines as they count, and
where it ends. -/
structure Block where
  text : List Char
  stop : Place
deriving DecidableEq, Repr

/-- Reads a sign of chomping if there is one; it may stand on either side of the digit of
indentation. -/
def readChomping (c : Cursor) : Option Chomping × Cursor :=
  match c.peek with
  | some '+' => (some .keep, c.skip 1)
  | some '-' => (some .strip, c.skip 1)
  | _ => (none, c)

/-- Reads a digit of indentation; zero stands for none, since a written zero is refused. -/
def readIncrement (c : Cursor) : Outcome Nat :=
  match c.peek with
  | some a =>
    if a.isDigit then
      if a = '0' then c.fail .zeroIndentation else .ok (a.toNat - 48, c.skip 1)
    else .ok (0, c)
  | none => .ok (0, c)

/-- Reads the header of a block scalar behind its first character: chomping and indentation in
either order. -/
def readHeader (c : Cursor) : Outcome (Chomping × Nat) :=
  match readChomping c with
  | (some chomping, c) => (readIncrement c).map fun (n, c) => ((chomping, n), c)
  | (none, c) =>
    match readIncrement c with
    | .error e => .error e
    | .ok (0, c) => .ok ((.clip, 0), c)
    | .ok (n + 1, c) =>
      let (chomping, c) := readChomping c
      .ok ((chomping.getD .clip, n + 1), c)

/-- The breaks before a line of a block scalar, together with what has been learned about its
indentation on the way. -/
structure Margin where
  breaks : List Char
  /-- The greatest column reached by the indentation of a line. -/
  widest : Nat
  /-- The place behind the last break. -/
  stop : Place

/-- Reads indentation and empty lines; indentation zero stands for one that is not known yet. -/
def readMargin (indentation : Nat) : Nat → Margin → Cursor → Outcome Margin
  | 0, m, c => .ok (m, c)
  | fuel + 1, m, c =>
    let spaces := (c.rest.takeWhile (· == ' ')).length
    let c :=
      c.skip (if indentation = 0 then spaces else min spaces (indentation - c.place.column))
    let m := { m with widest := max m.widest c.place.column }
    if (indentation = 0 ∨ c.place.column < indentation) ∧ c.peek = some '\t' then
      c.fail .tabInIndentation
    else if c.sees isBreak then
      let (b, c) := c.readBreak
      readMargin indentation fuel { m with breaks := m.breaks ++ b, stop := c.place } c
    else .ok (m, c)

/-- What the break between two lines of a block scalar contributes: itself and all breaks behind it,
or a space where the style folds and neither line begins with a blank. -/
def joint (style : Style) (lead breaks : List Char) (blankBefore blankAfter : Bool) : List Char :=
  if style = .folded ∧ lead = ['\n'] ∧ ¬blankBefore ∧ ¬blankAfter then
    if breaks = [] then [' '] else breaks
  else lead ++ breaks

/-- Reads the lines of a block scalar.  `lead` is the break before the line, `m` what follows it. -/
def readLines (style : Style) (chomping : Chomping) (indentation : Nat) :
    Nat → (lead : List Char) → (blankBefore : Bool) → Margin → Cursor → Outcome Block
  | 0, _, _, m, c => .ok (⟨[], m.stop⟩, c)
  | fuel + 1, lead, blankBefore, m, c =>
    if c.place.column = indentation ∧ c.rest ≠ [] then
      let blank := c.sees isBlank
      let before := joint style lead m.breaks blankBefore blank
      let (line, c) := c.takeWhile fun a => !isBreak a
      let (lead, c) := c.readBreak
      match readMargin indentation (c.rest.length + 1) ⟨[], 0, c.place⟩ c with
      | .error e => .error e
      | .ok (m, c) =>
        (readLines style chomping indentation fuel lead blank m c).map fun (b, c) =>
          ({ b with text := before ++ line ++ b.text }, c)
    else
      let tail :=
        match chomping with
        | .strip => []
        | .clip => lead
        | .keep => lead ++ m.breaks
      .ok (⟨tail, m.stop⟩, c)

/-- Reads a block scalar behind its first character.  `least` is the least column of its lines. -/
def readBlock (style : Style) (least : Nat) (c : Cursor) : Outcome Block :=
  match readHeader c with
  | .error e => .error e
  | .ok ((chomping, increment), c) =>
    match readLineEnd c with
    | .error e => .error e
    | .ok ((), c) =>
      let given := if increment = 0 then 0 else least - 1 + increment
      match readMargin given (c.rest.length + 1) ⟨[], 0, c.place⟩ c with
      | .error e => .error e
      | .ok (m, c) =>
        let indentation := if given = 0 then max m.widest (max least 1) else given
        readLines style chomping indentation (c.rest.length + 1) [] false m c

end Yaml
end CommitForm
