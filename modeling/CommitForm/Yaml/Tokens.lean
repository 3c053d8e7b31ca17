/-
# Cutting YAML texts into tokens

Where a key is written without a question mark, the tokens that begin the map and the key come
before its own token, and are known only at the colon behind it.  So a token that may be a key is
remembered until the colon, the end of its line or a limit of `keyLimit` characters; a key is
required where a map already stands at its column.

`Tokens.ofText` answers the tokens that are settled before the first fault, and that fault.  A token
is settled when no key may begin at it any more.

A text with a control character has no tokens at all.  libyaml comes to the same end for a text of
at most 16384 bytes.  It reads longer ones in pieces of this size, looks for control characters when
it begins with a piece, and keeps the tokens of the pieces before.
-/

import CommitForm.Yaml.Token

namespace CommitForm
namespace Yaml

/-- A token that may turn out to be a key: its number, where it begins, and whether it has to be
one. -/
structure PendingKey where
  number : Nat
  index : Nat
  place : Place
  required : Bool
deriving DecidableEq, Repr

/-- The greatest number of characters between the begin of a key and its colon. -/
def keyLimit : Nat := 1024

/-- How far a text has been cut, with all that decides how the next characters are read: open blocks
and brackets, what may still turn out to be a key, and whether one may begin. -/
structure Scanner where
  cursor : Cursor
  tokens : Array Token
  /-- The columns of the open blocks, innermost first. -/
  columns : List Nat
  /-- What may be a key in the innermost bracket, or outside of all. -/
  pending : Option PendingKey
  /-- What may be keys further out, one for each open bracket. -/
  outer : List (Option PendingKey)
  /-- Whether the next token may be a key. -/
  keyAllowed : Bool
  /-- Whether the text has ended. -/
  ended : Bool

namespace Scanner

/-- The beginning of a text, where no token has been cut, no block is open and a key may begin. -/
def start (text : String) : Scanner := ⟨.start text, #[], [], none, [], true, false⟩

/-- Whether brackets are open; inside them indentation means nothing, and a tab separates like a
space. -/
def inFlow (s : Scanner) : Bool := !s.outer.isEmpty

/-- The least column of a line of a scalar: one to the right of the innermost block, and zero
outside of all. -/
def margin (s : Scanner) : Nat :=
  match s.columns with
  | [] => 0
  | column :: _ => column + 1

/-- Adds a token behind those that were cut; the cursor stays where it is. -/
def push (s : Scanner) (lexeme : Lexeme) (start stop : Place) : Scanner :=
  { s with tokens := s.tokens.push ⟨lexeme, start, stop⟩ }

/-- Adds a token of the next `n` characters, which lie on one line, and goes behind them. -/
def pushNext (s : Scanner) (lexeme : Lexeme) (n : Nat) : Scanner :=
  let behind := s.cursor.skip n
  { s.push lexeme s.cursor.place behind.place with cursor := behind }

/-- Puts a token without characters before the token of a number, which is how a key is revealed by
the colon behind it. -/
def insert (s : Scanner) (number : Nat) (lexeme : Lexeme) (place : Place) : Scanner :=
  { s with tokens := s.tokens.insertIdxIfInBounds number ⟨lexeme, place, place⟩ }

/-! ## Keys -/

/-- Whether a pending key is too far behind to be one: on an earlier line, or more than the limit of
characters back. -/
def isStale (s : Scanner) (k : PendingKey) : Bool :=
  k.place.line < s.cursor.place.line || k.index + keyLimit < s.cursor.index

/-- What remains of a pending key when stale ones are dropped; one that has to be a key cannot be
dropped and is a fault. -/
def freshen (s : Scanner) (k : Option PendingKey) : Except Error (Option PendingKey) :=
  match k with
  | some k =>
    if s.isStale k then if k.required then s.cursor.fail .colonExpected else .ok none
    else .ok (some k)
  | none => .ok none

/-- Drops the pending keys that are too far behind, in all open brackets; this is done before and
behind every token. -/
def dropStale (s : Scanner) : Except Error Scanner := do
  let outer ← s.outer.mapM s.freshen
  let pending ← s.freshen s.pending
  return { s with outer, pending }

/-- Drops the innermost pending key, since the next token shows that it is none; one that has to be
a key is a fault. -/
def dropKey (s : Scanner) : Except Error Scanner :=
  if s.pending.any (·.required) then s.cursor.fail .colonExpected
  else .ok { s with pending := none }

/-- Remembers that a key may begin with the next token.  Outside brackets, in the column of the
innermost block, it has to be one. -/
def saveKey (s : Scanner) : Except Error Scanner :=
  if s.keyAllowed then
    let required := !s.inFlow && s.columns.head? == some s.cursor.place.column
    s.dropKey.map fun t =>
      { t with pending := some ⟨s.tokens.size, s.cursor.index, s.cursor.place, required⟩ }
  else .ok s

/-! ## Blocks -/

/-- Whether a column lies to the right of the innermost block, so that a token there opens another
block. -/
def isDeeper (s : Scanner) (column : Nat) : Bool := s.columns.head?.all (· < column)

/-- Opens a block at a column, its token at a number, if it lies deeper. -/
def openBlock (s : Scanner) (column number : Nat) (lexeme : Lexeme) (place : Place) : Scanner :=
  if !s.inFlow && s.isDeeper column then
    { s.insert number lexeme place with columns := column :: s.columns }
  else s

/-- Opens a block at the cursor, before the next token, if the cursor is to the right of the blocks
that are open. -/
def openBlockHere (s : Scanner) (lexeme : Lexeme) : Scanner :=
  s.openBlock s.cursor.place.column s.tokens.size lexeme s.cursor.place

/-- Closes the blocks that stay open no longer, innermost first, each with a token of its own;
brackets keep all blocks open. -/
def closeBlocks (s : Scanner) (stays : Nat → Bool) : Scanner :=
  if s.inFlow then s
  else
    let closed := s.columns.takeWhile fun column => !stays column
    let here := s.cursor.place
    { s with
      columns := s.columns.drop closed.length
      tokens := s.tokens ++ List.replicate closed.length (Token.mk .blockEnd here here) }

/-! ## Tokens -/

/-- Closes all blocks where a document may end, and forgets the pending key; what follows cannot be
a key on the same line. -/
def leaveDocument (s : Scanner) : Except Error Scanner :=
  (s.closeBlocks fun _ => false).dropKey.map fun s => { s with keyAllowed := false }

/-- Ends the text: what was open is closed on a line of its own, and the last token says that there
is nothing more. -/
def endText (s : Scanner) : Except Error Scanner :=
  let c := s.cursor
  let s := { s with cursor := if c.place.column = 0 then c else c.newLine 0 }
  s.leaveDocument.map fun s => { s.pushNext .streamEnd 0 with ended := true }

/-- A directive, from the percent sign in the first column to the end of its line; where it may
stand is for the parser to decide. -/
def directive (s : Scanner) : Except Error Scanner := do
  let s ← s.leaveDocument
  let (d, c) ← readDirective (s.cursor.skip 1)
  return { s.push (.directive d) s.cursor.place c.place with cursor := c }

/-- The mark of a document's begin or end, which closes all blocks before it is cut off. -/
def documentMarker (s : Scanner) (lexeme : Lexeme) : Except Error Scanner := do
  let s ← s.leaveDocument
  return s.pushNext lexeme 3

/-- An opening bracket, which may itself begin a key; the key that was pending outside waits until
the bracket is closed. -/
def openFlow (s : Scanner) (lexeme : Lexeme) : Except Error Scanner := do
  let s ← s.saveKey
  return { s.pushNext lexeme 1 with
    outer := s.pending :: s.outer, pending := none, keyAllowed := true }

/-- A closing bracket: what was pending outside of it comes back, since the bracket as a whole may
turn out to be a key. -/
def closeFlow (s : Scanner) (lexeme : Lexeme) : Except Error Scanner := do
  let s ← s.dropKey
  let s := s.pushNext lexeme 1
  match s.outer with
  | pending :: outer => return { s with pending, outer, keyAllowed := false }
  | [] => return { s with keyAllowed := false }

/-- A comma between the items of brackets, behind which a key may begin again. -/
def flowEntry (s : Scanner) : Except Error Scanner := do
  let s ← s.dropKey
  return { s.pushNext .flowEntry 1 with keyAllowed := true }

/-- The hyphen of an item of a list; outside brackets it may open a list, and only where a key may
stand. -/
def entry (s : Scanner) : Except Error Scanner := do
  if !s.inFlow && !s.keyAllowed then s.cursor.fail .entryNotAllowed
  else
    let s ← (s.openBlockHere .listStart).dropKey
    return { s.pushNext .entry 1 with keyAllowed := true }

/-- The question mark of a key that is written out; outside brackets it may open a map, and only
where a key may stand. -/
def key (s : Scanner) : Except Error Scanner := do
  if !s.inFlow && !s.keyAllowed then s.cursor.fail .keyNotAllowed
  else
    let s ← (s.openBlockHere .mapStart).dropKey
    return { s.pushNext .key 1 with keyAllowed := !s.inFlow }

/-- The colon before a value.  If something is pending, that was the key, and its token is put
before it now, with that of a new map if the column asks for one. -/
def value (s : Scanner) : Except Error Scanner :=
  match s.pending with
  | some k =>
    let s := (s.insert k.number .key k.place).openBlock k.place.column k.number .mapStart k.place
    .ok { s.pushNext .value 1 with pending := none, keyAllowed := false }
  | none =>
    if !s.inFlow && !s.keyAllowed then s.cursor.fail .valueNotAllowed
    else .ok { (s.openBlockHere .mapStart).pushNext .value 1 with keyAllowed := !s.inFlow }

/-- An anchor or an alias, whose name must not be empty and has to end at a separation or an
indicator. -/
def reference (s : Scanner) (lexeme : List Char → Lexeme) : Except Error Scanner := do
  let s ← s.saveKey
  let (name, c) := (s.cursor.skip 1).takeWhile isNameChar
  if name ≠ [] ∧ (c.atSpace || c.sees fun a => "?:,]\x7d%@`".toList.contains a) then
    return { s.push (lexeme name) s.cursor.place c.place with cursor := c, keyAllowed := false }
  else c.fail .anchorNameExpected

/-- A tag, which may begin a key like the scalar behind it. -/
def tag (s : Scanner) : Except Error Scanner := do
  let s ← s.saveKey
  let (t, c) ← readTag s.inFlow s.cursor
  return { s.push (.tag t) s.cursor.place c.place with cursor := c, keyAllowed := false }

/-- A block scalar, whose lines lie to the right of the innermost block; it cannot be a key, so what
was pending is dropped. -/
def block (s : Scanner) (style : Style) : Except Error Scanner := do
  let s ← s.dropKey
  let (b, c) ← readBlock style s.margin (s.cursor.skip 1)
  return { s.push (.scalar style b.text) s.cursor.place b.stop with
    cursor := c, keyAllowed := true }

/-- A scalar between quotes of either kind, which may be a key if it stays on one line. -/
def quoted (s : Scanner) (style : Style) (quote : Char) : Except Error Scanner := do
  let s ← s.saveKey
  let (text, c) ← readQuoted quote (s.cursor.rest.length + 1) (s.cursor.skip 1)
  return { s.push (.scalar style text) s.cursor.place c.place with
    cursor := c, keyAllowed := false }

/-- A scalar without quotes.  Where it goes over several lines, a key may begin behind it, since it
ends a line. -/
def plain (s : Scanner) : Except Error Scanner := do
  let s ← s.saveKey
  let start := s.cursor.place
  let (p, c) ← readPlain s.inFlow s.margin (s.cursor.rest.length + 1) .none start s.cursor
  return { s.push (.scalar .plain p.text) start p.stop with cursor := c, keyAllowed := p.broken }

/-- Whether a plain scalar may begin with a character before another one: most indicators may not,
and a hyphen, a question mark or a colon only with something other than a separation behind it. -/
def beginsPlain (s : Scanner) (a : Char) (next : Option Char) : Bool :=
  !(isSpace a || "-?:,[]\x7b\x7d#&*!|>'\"%@`".toList.contains a) ||
    (a == '-' && !next.any isBlank) ||
    (!s.inFlow && (a == '?' || a == ':') && !next.all isSpace)

/-- The place of the next token: blanks, comments and breaks are skipped, and outside brackets a
break allows a key again. -/
def skipToToken : Nat → Scanner → Scanner
  | 0, s => s
  | fuel + 1, s =>
    let c := s.cursor
    let c := if c.place.column = 0 ∧ c.peek = some '\ufeff' then c.skip 1 else c
    let c := c.skipWhile fun a => a == ' ' || (a == '\t' && (s.inFlow || !s.keyAllowed))
    let c := if c.peek = some '#' then c.skipLine else c
    if c.sees isBreak then
      skipToToken fuel { s with cursor := c.skipBreak, keyAllowed := s.keyAllowed || !s.inFlow }
    else { s with cursor := c }

/-- Cuts off the token that the cursor is at, chosen by the next character, by whether a separation
follows it, and by the column. -/
def cutHere (s : Scanner) : Except Error Scanner :=
  let c := s.cursor
  match c.rest with
  | [] => s.endText
  | a :: rest =>
    let spaced := rest.head?.all isSpace
    if a = '%' ∧ c.place.column = 0 then s.directive
    else if c.atMarker '-' then s.documentMarker .documentStart
    else if c.atMarker '.' then s.documentMarker .documentEnd
    else if a = '[' then s.openFlow .flowListStart
    else if a = '\x7b' then s.openFlow .flowMapStart
    else if a = ']' then s.closeFlow .flowListEnd
    else if a = '\x7d' then s.closeFlow .flowMapEnd
    else if a = ',' then s.flowEntry
    else if a = '-' ∧ spaced then s.entry
    else if a = '?' ∧ (s.inFlow || spaced) then s.key
    else if a = ':' ∧ (s.inFlow || spaced) then s.value
    else if a = '*' then s.reference .again
    else if a = '&' then s.reference .anchor
    else if a = '!' then s.tag
    else if a = '|' ∧ !s.inFlow then s.block .literal
    else if a = '>' ∧ !s.inFlow then s.block .folded
    else if a = '\'' then s.quoted .singleQuoted a
    else if a = '"' then s.quoted .doubleQuoted a
    else if s.beginsPlain a rest.head? then s.plain
    else c.fail .noToken

/-- Cuts off the next token, and the tokens without characters before it: the ends of the blocks
that its column closes. -/
def cut (s : Scanner) : Except Error Scanner := do
  let s ← (skipToToken (s.cursor.rest.length + 1) s).dropStale
  let s ← (s.closeBlocks fun column => column ≤ s.cursor.place.column).cutHere
  s.dropStale

/-- The number of settled tokens, those before every pending key; a token may still be put in behind
them. -/
def settled (s : Scanner) : Nat :=
  (s.pending :: s.outer).foldl (fun n k => match k with | some k => min n k.number | none => n)
    s.tokens.size

end Scanner

/-- The tokens of a text, and the fault behind them if it has one; the tokens before the fault still
count, since the parser reads as it goes. -/
structure Tokens where
  list : List Token
  fault : Option Error

/-- Cuts a text from a state on.  Each round takes a character or ends the text. -/
def Tokens.ofScanner : Nat → Scanner → Tokens
  | 0, s => ⟨s.tokens.toList, none⟩
  | fuel + 1, s =>
    match s.cut with
    | .error e => ⟨s.tokens.toList.take s.settled, some e⟩
    | .ok t => if t.ended then ⟨t.tokens.toList, none⟩ else Tokens.ofScanner fuel t

/-- The tokens of a text.  Control characters are looked for before anything is cut, in the whole
text at once; see the head of the file for what this means beyond 16384 bytes. -/
def Tokens.ofText (text : String) : Tokens :=
  if text.toList.all isPrintable then Tokens.ofScanner (text.length + 2) (.start text)
  else ⟨[], some ⟨.controlCharacter, ⟨0, 0⟩⟩⟩

end Yaml
end CommitForm
