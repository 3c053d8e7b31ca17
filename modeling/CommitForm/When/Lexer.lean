/-
# Cutting a when-clause into tokens

A `Cursor` is a place in a source: the characters before it, nearest first, and those after it.
`Cursor.next` answers the next token or a fault and the place it stopped at.

| at the cursor | answer | stops |
| --- | --- | --- |
| nothing but blanks | `eof` | at the end |
| a lexeme | its token | after it |
| `=`, `&`, `\|` without its partner | a fault | after the character |
| an open string or pattern | a fault | at the end |
| any other character | a fault | before it |

A slash opens a pattern only when some character other than a slash stands directly before it.
`tokenize` gives all tokens of a source, or the first fault with its place.
-/

import CommitForm.Number.Literal
import CommitForm.Text.Size
import CommitForm.When.Token

namespace CommitForm
namespace When

/-- What can be wrong with the characters of a source: a character that begins nothing, half of a
two-character operator, or a literal that is never closed. -/
inductive LexFault where
  | unexpected (c : Char)
  | loneEquals
  | loneAmpersand
  | loneBar
  | openPattern
  | openString
deriving DecidableEq, Repr

/-- The fault in words.  A half operator is told by the operator that was expected; a literal
without an end by its kind. -/
def LexFault.message : LexFault → String
  | unexpected c => "unexpected character: '" ++ String.singleton c ++ "'"
  | loneEquals => "expected '==' or '=~' operator"
  | loneAmpersand => "expected '&&' operator"
  | loneBar => "expected '||' operator"
  | openPattern => "unterminated regular expression"
  | openString => "unterminated string"

/-- A fault and where it was found: the byte offset at which the lexeme begins, blanks before it not
included. -/
structure LexError where
  fault : LexFault
  position : Nat
deriving DecidableEq, Repr

/-- The whole message of a lexical error, which names the byte offset before the fault itself. -/
def LexError.message (e : LexError) : String :=
  "lex error at position " ++ toString e.position ++ ": " ++ e.fault.message

/-- A place in a source, as the characters on both sides of it.  What lies before is kept because
one character of look-behind decides how a slash is read. -/
structure Cursor where
  /-- The characters before the place, nearest first. -/
  before : List Char
  /-- The characters after the place. -/
  after : List Char
deriving DecidableEq, Repr

namespace Cursor

/-- The beginning of a source: nothing has been read and everything is still ahead. -/
def start (source : List Char) : Cursor := ⟨[], source⟩

/-- The source a cursor stands in.  Reading moves the place and leaves this text as it is. -/
def source (c : Cursor) : List Char := c.before.reverse ++ c.after

/-- The byte offset of the place in the UTF-8 encoding of the source. -/
def offset (c : Cursor) : Nat := Text.byteLength c.before

/-- The place behind `lexeme`, where `rest` is what follows it.  Both parts are given, so that a
reader that has just split the text need not measure it again. -/
def past (c : Cursor) (lexeme rest : List Char) : Cursor := ⟨lexeme.reverse ++ c.before, rest⟩

/-- The place behind the blanks that follow.  Blanks are those of Unicode, not only those of
ASCII. -/
def skipBlanks (c : Cursor) : Cursor :=
  c.past (c.after.takeWhile Text.isBlank) (c.after.dropWhile Text.isBlank)

end Cursor

/-- The letters that are taken as flags behind the closing slash of a pattern literal.  Reading
stops at the first other character. -/
def isFlag (c : Char) : Bool :=
  c == 'g' || c == 'i' || c == 'm' || c == 's' || c == 'u' || c == 'v' || c == 'y'

/-- The characters that names begin with: ASCII letters and the underscore. -/
def isNameStart (c : Char) : Bool :=
  ('a' ≤ c && c ≤ 'z') || ('A' ≤ c && c ≤ 'Z') || c == '_'

/-- The characters that names go on with: those they begin with, and digits. -/
def isNameChar (c : Char) : Bool := isNameStart c || Literal.isDigit c

/-- Cuts at the first `stop` that is not behind a backslash: the text before it and the text after
it.  A backslash and the character after it belong together. -/
def splitUnescaped? (stop : Char) : List Char → Option (List Char × List Char)
  | [] => none
  | '\\' :: rest =>
    match rest with
    | [] => none
    | c :: rest => (splitUnescaped? stop rest).map fun (body, rest) => ('\\' :: c :: body, rest)
  | c :: rest =>
    if c = stop then some ([], rest)
    else (splitUnescaped? stop rest).map fun (body, rest) => (c :: body, rest)

/-- The token of a word.  Only `in` is an operator; all other words are names, `true` and `false`
included. -/
def wordToken (word : List Char) : Token :=
  if word = ['i', 'n'] then .operator .isIn else .identifier (String.ofList word)

/-- What is read at a place: a token or a fault, its lexeme and what follows.  `none` stands for a
character that starts no lexeme. -/
structure Lexeme where
  outcome : Except LexFault Token
  text : List Char
  rest : List Char

/-- A lexeme that opens with `q` and runs to the next `q` that is not behind a backslash; without
one it runs to the end and is a fault. -/
def delimited (q : Char) (fault : LexFault) (close : List Char → List Char → Lexeme)
    (after : List Char) : Lexeme :=
  match splitUnescaped? q after with
  | none => ⟨.error fault, q :: after, []⟩
  | some (body, rest) => close body rest

/-- Reads a string literal behind its opening quote.  A backslash protects the character behind it
and stays in the text of the literal. -/
def stringLexeme (q : Char) : List Char → Lexeme :=
  delimited q .openString fun body rest =>
    ⟨.ok (.string (String.ofList body)), q :: body ++ [q], rest⟩

/-- Reads a pattern literal behind its opening slash, with the flags behind its closing one.  The
token keeps slashes and flags; the parser takes them apart. -/
def patternLexeme : List Char → Lexeme :=
  delimited '/' .openPattern fun body rest =>
    let literal := '/' :: body ++ '/' :: rest.takeWhile isFlag
    ⟨.ok (.pattern (String.ofList literal)), literal, rest.dropWhile isFlag⟩

/-- Reads a lexeme of one or two fixed characters: `long` if `second` follows, else `short`. -/
def oneOrTwo (first second : Char) (long : Token) (short : Except LexFault Token) :
    List Char → Lexeme
  | c :: rest =>
    if c = second then ⟨.ok long, [first, second], rest⟩ else ⟨short, [first], c :: rest⟩
  | [] => ⟨short, [first], []⟩

/-- Reads a lexeme behind a sign of equality, `==` or `=~`.  A lone sign is a fault, but it is
consumed all the same. -/
def equalsLexeme : List Char → Lexeme
  | '=' :: rest => ⟨.ok (.operator .eq), ['=', '='], rest⟩
  | '~' :: rest => ⟨.ok (.operator .isMatch), ['=', '~'], rest⟩
  | rest => ⟨.error .loneEquals, ['='], rest⟩

/-- Reads the lexeme that starts with `c`, where `previous` stands before it and `rest` after it. -/
def lexeme? (previous : Option Char) (c : Char) (rest : List Char) : Option Lexeme :=
  let single (t : Token) : Option Lexeme := some ⟨.ok t, [c], rest⟩
  match c with
  | '/' => if previous = none ∨ previous = some '/' then none else some (patternLexeme rest)
  | '"' => some (stringLexeme '"' rest)
  | '\'' => some (stringLexeme '\'' rest)
  | '=' => some (equalsLexeme rest)
  | '!' => some (oneOrTwo '!' '=' (.operator .ne) (.ok .not) rest)
  | '<' => some (oneOrTwo '<' '=' (.operator .le) (.ok (.operator .lt)) rest)
  | '>' => some (oneOrTwo '>' '=' (.operator .ge) (.ok (.operator .gt)) rest)
  | '&' => some (oneOrTwo '&' '&' (.operator .both) (.error .loneAmpersand) rest)
  | '|' => some (oneOrTwo '|' '|' (.operator .either) (.error .loneBar) rest)
  | '(' => single .openParen
  | ')' => single .closeParen
  | '[' => single .openBracket
  | ']' => single .closeBracket
  | ',' => single .comma
  | c =>
    if Literal.isDigit c then
      let digits := c :: rest.takeWhile Literal.isDigit
      some ⟨.ok (.number (Literal.digitRun digits)), digits, rest.dropWhile Literal.isDigit⟩
    else if isNameStart c then
      let word := c :: rest.takeWhile isNameChar
      some ⟨.ok (wordToken word), word, rest.dropWhile isNameChar⟩
    else none

/-- The next token or fault, and the place reading stopped at.  A character that begins no lexeme is
left where it is, so that asking again meets it again; every other fault consumes what was looked
at. -/
def Cursor.next (cursor : Cursor) : Except LexError Token × Cursor :=
  let here := cursor.skipBlanks
  match here.after with
  | [] => (.ok .eof, here)
  | c :: rest =>
    match lexeme? here.before.head? c rest with
    | none => (.error ⟨.unexpected c, here.offset⟩, here)
    | some l => (l.outcome.mapError (⟨·, here.offset⟩), here.past l.text l.rest)

/-! ## Reading moves forward -/

/-- What follows the closing delimiter is shorter than the text, because the delimiter itself is
taken. -/
theorem length_of_splitUnescaped? {stop : Char} {cs body rest : List Char}
    (h : splitUnescaped? stop cs = some (body, rest)) : rest.length < cs.length := by
  fun_induction splitUnescaped? stop cs generalizing body rest with
  | case1 => simp at h
  | case2 => simp at h
  | case3 c cs ih =>
    obtain ⟨⟨b, r⟩, hb, he⟩ := Option.map_eq_some_iff.1 h
    simp only [Prod.mk.injEq] at he
    have := ih hb
    simp only [List.length_cons, ← he.2]
    omega
  | case4 cs hs => simp_all
  | case5 c cs hs hc ih =>
    obtain ⟨⟨b, r⟩, hb, he⟩ := Option.map_eq_some_iff.1 h
    simp only [Prod.mk.injEq] at he
    have := ih hb
    simp only [List.length_cons, ← he.2]
    omega

/-- A pattern literal leaves no more than it was given.  With its siblings this makes repeated
reading end. -/
theorem length_patternLexeme (cs : List Char) : (patternLexeme cs).rest.length ≤ cs.length := by
  unfold patternLexeme delimited
  split
  · simp
  · next body rest h =>
    have hbody := length_of_splitUnescaped? h
    have hflags : (rest.dropWhile isFlag).length ≤ rest.length :=
      (List.dropWhile_sublist isFlag).length_le
    simp only
    omega

/-- A string literal leaves no more than it was given, closed or not. -/
theorem length_stringLexeme (q : Char) (cs : List Char) :
    (stringLexeme q cs).rest.length ≤ cs.length := by
  unfold stringLexeme delimited
  split
  · simp
  · next h => have := length_of_splitUnescaped? h; simp only; omega

/-- An operator of one or two characters leaves no more than it was given. -/
theorem length_oneOrTwo (a b : Char) (t : Token) (s : Except LexFault Token) (cs : List Char) :
    (oneOrTwo a b t s cs).rest.length ≤ cs.length := by
  cases cs with
  | nil => simp [oneOrTwo]
  | cons c cs => simp only [oneOrTwo]; split <;> simp

/-- A lexeme that begins with a sign of equality leaves no more than it was given. -/
theorem length_equalsLexeme (cs : List Char) : (equalsLexeme cs).rest.length ≤ cs.length := by
  unfold equalsLexeme
  split <;> simp

/-- A lexeme holds at least its first character: what it leaves is no longer than what stood behind
that character. -/
theorem length_lexeme? {p : Option Char} {c : Char} {cs : List Char} {l : Lexeme}
    (h : lexeme? p c cs = some l) : l.rest.length ≤ cs.length := by
  unfold lexeme? at h
  split at h
  case h_1 =>
    split at h
    · simp at h
    · cases h; exact length_patternLexeme cs
  case h_15 =>
    split at h
    · cases h; exact (List.dropWhile_sublist _).length_le
    · split at h
      · cases h; exact (List.dropWhile_sublist _).length_le
      · simp at h
  all_goals
    cases h
    first
      | exact length_stringLexeme _ cs
      | exact length_equalsLexeme cs
      | exact length_oneOrTwo _ _ _ _ cs
      | exact Nat.le_refl _

/-- **Reading a token moves forward:** unless it is the end of the source, less remains. -/
theorem Cursor.length_next {c c' : Cursor} {t : Token} (h : c.next = (.ok t, c')) (ht : t ≠ .eof) :
    c'.after.length < c.after.length := by
  have hle : c.skipBlanks.after.length ≤ c.after.length :=
    (List.dropWhile_sublist Text.isBlank).length_le
  unfold Cursor.next at h
  simp only at h
  split at h
  · simp only [Prod.mk.injEq, Except.ok.injEq] at h
    exact absurd h.1.symm ht
  · next d ds hd =>
    split at h
    · simp at h
    · next l hl =>
      have := length_lexeme? hl
      simp only [Prod.mk.injEq] at h
      rw [← h.2]
      simp only [Cursor.past]
      rw [hd] at hle
      simp only [List.length_cons] at hle
      omega

/-- The tokens from a place on, the end of the source included, or the first fault. -/
def Cursor.tokens (c : Cursor) : Except LexError (List Token) :=
  match _read : c.next with
  | (.error e, _) => .error e
  | (.ok t, c') => if _end : t = .eof then .ok [.eof] else (tokens c').map (t :: ·)
termination_by c.after.length
decreasing_by exact Cursor.length_next _read _end

/-- The tokens of a source, which end with `eof`, or its first fault. -/
def tokenize (source : String) : Except LexError (List Token) :=
  (Cursor.start source.toList).tokens

end When
end CommitForm
