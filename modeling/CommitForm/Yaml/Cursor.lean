/-
# Places in YAML texts

A cursor holds what remains of a text and where that begins.  Lines and columns count from zero, and
a column is a number of characters.

| break | content |
| --- | --- |
| line feed, carriage return, both together, next line | a line feed |
| line separator, paragraph separator | itself |
-/

namespace CommitForm
namespace Yaml

/-- A place in a text: a line and a column, both counted from zero in characters; messages print
them counted from one. -/
structure Place where
  line : Nat
  column : Nat
deriving DecidableEq, Repr, Inhabited

/-- What can be wrong with the form of a YAML text, for the scanner and the parser alike.  Each
fault has one message, whatever it was that was being read. -/
inductive Fault where
  | controlCharacter
  | documentMarker
  | endInQuoted
  | badEscape
  | hexExpected
  | badCodePoint
  | colonInPlain
  | tabInIndentation
  | zeroIndentation
  | lineEndExpected
  | directiveNameExpected
  | badDirectiveName
  | unknownDirective
  | versionExpected
  | versionTooLong
  | versionPointExpected
  | repeatedVersion
  | unknownVersion
  | repeatedTagHandle
  | blankExpected
  | tagHandleExpected
  | tagExpected
  | tagBracketExpected
  | badTagEscape
  | unknownTagHandle
  | anchorNameExpected
  | entryNotAllowed
  | keyNotAllowed
  | valueNotAllowed
  | colonExpected
  | noToken
  | documentStartExpected
  | nodeExpected
  | entryExpected
  | keyExpected
  | listEndExpected
  | mapEndExpected
  | unknownAnchor
  | manyDocuments
deriving DecidableEq, Repr

/-- What is wrong with a text, in words.  Only the problem itself is told: for some faults of the
scanner and the parser libyaml also says what it was doing and where that began, as in `, while
parsing a block mapping at line 2 column 1`, and this part is left out here. -/
def Fault.message : Fault → String
  | controlCharacter => "control characters are not allowed"
  | documentMarker => "found unexpected document indicator"
  | endInQuoted => "found unexpected end of stream"
  | badEscape => "found unknown escape character"
  | hexExpected => "did not find expected hexdecimal number"
  | badCodePoint => "found invalid Unicode character escape code"
  | colonInPlain => "found unexpected ':'"
  | tabInIndentation => "found a tab character that violates indentation"
  | zeroIndentation => "found an indentation indicator equal to 0"
  | lineEndExpected => "did not find expected comment or line break"
  | directiveNameExpected => "could not find expected directive name"
  | badDirectiveName => "found unexpected non-alphabetical character"
  | unknownDirective => "found unknown directive name"
  | versionExpected => "did not find expected version number"
  | versionTooLong => "found extremely long version number"
  | versionPointExpected => "did not find expected digit or '.' character"
  | repeatedVersion => "found duplicate %YAML directive"
  | unknownVersion => "found incompatible YAML document"
  | repeatedTagHandle => "found duplicate %TAG directive"
  | blankExpected => "did not find expected whitespace or line break"
  | tagHandleExpected => "did not find expected '!'"
  | tagExpected => "did not find expected tag URI"
  | tagBracketExpected => "did not find the expected '>'"
  | badTagEscape => "did not find URI escaped octet"
  | unknownTagHandle => "found undefined tag handle"
  | anchorNameExpected => "did not find expected alphabetic or numeric character"
  | entryNotAllowed => "block sequence entries are not allowed in this context"
  | keyNotAllowed => "mapping keys are not allowed in this context"
  | valueNotAllowed => "mapping values are not allowed in this context"
  | colonExpected => "could not find expected ':'"
  | noToken => "found character that cannot start any token"
  | documentStartExpected => "did not find expected <document start>"
  | nodeExpected => "did not find expected node content"
  | entryExpected => "did not find expected '-' indicator"
  | keyExpected => "did not find expected key"
  | listEndExpected => "did not find expected ',' or ']'"
  | mapEndExpected => "did not find expected ',' or '\x7d'"
  | unknownAnchor => "unknown anchor"
  | manyDocuments => "deserializing from YAML containing more than one document is not supported"

/-- A fault and its place, which is where the reader stood when it gave up and not where the part it
was reading begins. -/
structure Error where
  fault : Fault
  place : Place
deriving DecidableEq, Repr

/-- A place in words, with a leading blank; nothing for the beginning of the text. -/
def Place.phrase (p : Place) : String :=
  if p = ⟨0, 0⟩ then ""
  else " at line " ++ toString (p.line + 1) ++ " column " ++ toString (p.column + 1)

/-- The message about a fault: the problem and its place, without libyaml's part on what was being
read. -/
def Error.message (e : Error) : String := e.fault.message ++ e.place.phrase

/-! ## Characters -/

/-- Whether a character breaks a line: the two of ASCII, the next line of Latin-1, and the
separators of lines and paragraphs. -/
def isBreak (c : Char) : Bool :=
  c == '\n' || c == '\r' || c == '\x85' || c == '\u2028' || c == '\u2029'

/-- Whether a character is a space or a tab, the two that separate tokens within a line; indentation
is told from separation by the scanner. -/
def isBlank (c : Char) : Bool := c == ' ' || c == '\t'

/-- Whether a character is a blank or breaks a line, which is what may stand behind an indicator or
at the end of a token. -/
def isSpace (c : Char) : Bool := isBlank c || isBreak c

/-- Whether a character may stand in the name of an anchor, a handle or a directive: letters and
digits of ASCII, the underscore and the hyphen. -/
def isNameChar (c : Char) : Bool := c.isAlphanum || c == '_' || c == '-'

/-- Whether a character may stand in a YAML text at all; the others are refused while the text is
decoded, before any token is cut. -/
def isPrintable (c : Char) : Bool :=
  c == '\t' || c == '\n' || c == '\r' || c == '\x85' ||
    (' ' ≤ c && c ≤ '~') || ('\xa0' ≤ c && c ≤ '\ufffd') || '\uffff' < c

/-- The value of a hexadecimal digit in either case, for the escapes of quoted scalars and of tags;
no value for any other character. -/
def hexDigit? (c : Char) : Option Nat :=
  if '0' ≤ c ∧ c ≤ '9' then some (c.toNat - 48)
  else if 'a' ≤ c ∧ c ≤ 'f' then some (c.toNat - 87)
  else if 'A' ≤ c ∧ c ≤ 'F' then some (c.toNat - 55)
  else none

/-! ## Cursors -/

/-- What remains of a text, and where it begins: a place and the number of characters before it,
each line break counting as one. -/
structure Cursor where
  rest : List Char
  index : Nat
  place : Place
deriving DecidableEq, Repr

namespace Cursor

/-- The beginning of a text: nothing has been read, and both the index and the place are zero. -/
def start (text : String) : Cursor := ⟨text.toList, 0, ⟨0, 0⟩⟩

/-- The next character, or none at the end of the text; looking at it leaves the cursor where it
is. -/
def peek (c : Cursor) : Option Char := c.rest.head?

/-- Whether the next character has a property.  The end of the text has none, so this is false
there. -/
def sees (c : Cursor) (p : Char → Bool) : Bool := c.peek.any p

/-- Whether the text ends or goes on with a blank or a break.  Unlike `sees`, this counts the end of
the text as a separation. -/
def atSpace (c : Cursor) : Bool := c.peek.all isSpace

/-- Whether the line ends here, by a break or because the text ends; trailing blanks are not looked
through. -/
def atLineEnd (c : Cursor) : Bool := c.peek.all isBreak

/-- The place behind the next `n` characters of a line.  None of them may break the line, since only
the column is counted on. -/
def skip (n : Nat) (c : Cursor) : Cursor :=
  ⟨c.rest.drop n, c.index + n, ⟨c.place.line, c.place.column + n⟩⟩

/-- The next characters of a line that have a property, and the place behind them. -/
def takeWhile (c : Cursor) (p : Char → Bool) : List Char × Cursor :=
  let cs := c.rest.takeWhile p
  (cs, c.skip cs.length)

/-- The place behind the next characters of a line that have a property, for callers who do not need
the characters themselves. -/
def skipWhile (c : Cursor) (p : Char → Bool) : Cursor := (c.takeWhile p).2

/-- The place behind a break of `n` characters: the first column of the next line, whether the break
is one character or two. -/
def newLine (n : Nat) (c : Cursor) : Cursor :=
  ⟨c.rest.drop n, c.index + n, ⟨c.place.line + 1, 0⟩⟩

/-- The content of the break that follows, if one does, and the place behind it. -/
def readBreak (c : Cursor) : List Char × Cursor :=
  match c.rest with
  | '\r' :: '\n' :: _ => (['\n'], c.newLine 2)
  | a :: _ =>
    if isBreak a then
      (if a = '\u2028' ∨ a = '\u2029' then [a] else ['\n'], c.newLine 1)
    else ([], c)
  | [] => ([], c)

/-- The place behind the break that follows, if one does; a carriage return with a line feed behind
it is one break. -/
def skipBreak (c : Cursor) : Cursor := c.readBreak.2

/-- The place at the end of the line, in front of its break, which is how a comment is passed
over. -/
def skipLine (c : Cursor) : Cursor := c.skipWhile fun a => !isBreak a

/-- Whether a line begins with three times the character `a` and then a blank or its end. -/
def atMarker (a : Char) (c : Cursor) : Bool :=
  c.place.column == 0 && c.rest.take 3 == [a, a, a] && (c.rest[3]?).all isSpace

/-- Whether a line begins with the mark of a document's begin or end, three hyphens or three dots in
the first column with a separation behind them. -/
def atDocumentMarker (c : Cursor) : Bool := c.atMarker '-' || c.atMarker '.'

end Cursor

/-- What reading a part gives: a result and the place behind it, or the fault that ends the whole
text. -/
abbrev Outcome (α : Type) := Except Error (α × Cursor)

/-- A failure at the cursor, with the place where the reader stands now; nothing that was read
before it is kept. -/
def Cursor.fail {α : Type} (c : Cursor) (f : Fault) : Except Error α := .error ⟨f, c.place⟩

/-- Reads the rest of a line that holds nothing but blanks and a comment, and its break. -/
def readLineEnd (c : Cursor) : Outcome Unit :=
  let c := c.skipWhile isBlank
  let c := if c.peek = some '#' then c.skipLine else c
  if c.atLineEnd then .ok ((), c.skipBreak) else c.fail .lineEndExpected

end Yaml
end CommitForm
