/-
# Places in JSON texts

A cursor holds what remains of a text and where that begins: lines count from one, columns are the
number of bytes before the place on its line.  A fault is reported either at the cursor or one byte
further, so that it includes the byte that it is found in.
-/

import CommitForm.Document.Mismatch

namespace CommitForm
namespace Json

/-- What can be wrong with the form of a JSON text, or with what it holds. -/
inductive Fault where
  | endInList
  | endInObject
  | endInString
  | endInValue
  | colonExpected
  | commaExpectedInList
  | commaExpectedInObject
  | wordExpected
  | valueExpected
  | badEscape
  | badNumber
  | numberTooLarge
  | loneSurrogate
  | shortEscape
  | keyExpected
  | controlCharacter
  | trailingComma
  | trailingCharacters
  | tooDeep
  | mismatch (m : Document.Mismatch)
deriving DecidableEq

/-- How JSON names what is found: nothing is `null`, and fractions are written as they are in
JSON. -/
def wording : Document.Wording := ⟨"null", Decimal.jsonLayout⟩

/-- What is wrong with a JSON text, in words. -/
def Fault.message : Fault → String
  | endInList => "EOF while parsing a list"
  | endInObject => "EOF while parsing an object"
  | endInString => "EOF while parsing a string"
  | endInValue => "EOF while parsing a value"
  | colonExpected => "expected `:`"
  | commaExpectedInList => "expected `,` or `]`"
  | commaExpectedInObject => "expected `,` or `\x7d`"
  | wordExpected => "expected ident"
  | valueExpected => "expected value"
  | badEscape => "invalid escape"
  | badNumber => "invalid number"
  | numberTooLarge => "number out of range"
  | loneSurrogate => "lone leading surrogate in hex escape"
  | shortEscape => "unexpected end of hex escape"
  | keyExpected => "key must be a string"
  | controlCharacter => "control character (\\u0000-\\u001F) found while parsing a string"
  | trailingComma => "trailing comma"
  | trailingCharacters => "trailing characters"
  | tooDeep => "recursion limit exceeded"
  | mismatch m => m.message wording

/-- Whether a fault is one of the text's form, and not of what it holds. -/
def Fault.isFormal : Fault → Bool
  | mismatch _ => false
  | _ => true

/-- A place: a line counted from 1, and a column in bytes, which is that of the character read
last. -/
structure Position where
  line : Nat
  column : Nat
deriving DecidableEq, Repr

/-- A fault and its place; a fault without a place is reported without one. -/
structure Error where
  fault : Fault
  position : Option Position
deriving DecidableEq

/-- The message about a fault, with its place if it has one. -/
def Error.message (e : Error) : String :=
  match e.position with
  | some p =>
    e.fault.message ++ " at line " ++ toString p.line ++ " column " ++ toString p.column
  | none => e.fault.message

/-- What remains of a text, and the place where it begins. -/
structure Cursor where
  rest : List Char
  position : Position
deriving DecidableEq, Repr

namespace Position

/-- The place behind a character: a line feed begins a new line, other characters are as wide as
their bytes. -/
def after (p : Position) (c : Char) : Position :=
  if c = '\n' then ⟨p.line + 1, 0⟩ else ⟨p.line, p.column + c.utf8Size⟩

/-- The place behind the first `count` bytes of characters, or behind all of them. -/
def afterBytes (p : Position) : Nat → List Char → Position
  | 0, _ => p
  | _, [] => p
  | count, c :: cs =>
    if count < c.utf8Size then ⟨p.line, p.column + count⟩
    else afterBytes (p.after c) (count - c.utf8Size) cs
termination_by _ cs => cs.length

end Position

namespace Cursor

/-- The beginning of a text, in front of the first column of the first line. -/
def start (text : String) : Cursor := ⟨text.toList, ⟨1, 0⟩⟩

/-- The place behind the next character; at the end there is none, and the place stays. -/
def advance (c : Cursor) : Cursor :=
  match c.rest with
  | [] => c
  | a :: rest => ⟨rest, c.position.after a⟩

/-- The place behind the next `n` characters, or the end if there are fewer. -/
def advanceBy : Nat → Cursor → Cursor
  | 0, c => c
  | n + 1, c => advanceBy n c.advance

/-- Whether a character is blank between the parts of a text; JSON knows four such characters. -/
def isBlank (c : Char) : Bool := c == ' ' || c == '\n' || c == '\t' || c == '\r'

/-- The place behind the blanks that follow. -/
def skipBlanks (c : Cursor) : Cursor := c.advanceBy (c.rest.takeWhile isBlank).length

/-- The next character, if the text has not ended. -/
def peek (c : Cursor) : Option Char := c.rest.head?

/-- The next character, as something that is no character of any part at the end of the text. -/
def peekOrNull (c : Cursor) : Char := c.peek.getD '\x00'

/-- The number of digits that follow up to the first other character. -/
def digitCount (c : Cursor) : Nat := (c.rest.takeWhile Char.isDigit).length

/-- The place behind the digits that follow. -/
def skipDigits (c : Cursor) : Cursor := c.advanceBy c.digitCount

/-- A fault at the cursor, that is, at the character read last. -/
def faultHere (c : Cursor) (f : Fault) : Error := ⟨f, some c.position⟩

/-- A fault in the next byte, which has been looked at but not read. -/
def faultNext (c : Cursor) (f : Fault) : Error := ⟨f, some (c.position.afterBytes 1 c.rest)⟩

end Cursor

/-- A fault that has its place, or a mismatch found by the enclosing list or record, which has none
before that is closed. -/
inductive Failure where
  | placed (e : Error)
  | unplaced (m : Document.Mismatch) (cursor : Cursor)

/-- What reading a part gives: a result and the place behind it, or a failure. -/
abbrev Outcome (α : Type) := Except Failure (α × Cursor)

/-- A failure at the cursor, with its place. -/
def Cursor.failHere {α : Type} (c : Cursor) (f : Fault) : Outcome α :=
  .error (.placed (c.faultHere f))

/-- A failure in the next byte, with its place. -/
def Cursor.failNext {α : Type} (c : Cursor) (f : Fault) : Outcome α :=
  .error (.placed (c.faultNext f))

/-- A mismatch at the cursor; the reader of what encloses it may still move it. -/
def Cursor.mismatch {α : Type} (c : Cursor) (m : Document.Mismatch) : Outcome α :=
  c.failHere (.mismatch m)

end Json
end CommitForm
