/-
# Blank characters

A character is blank when it has the Unicode property `White_Space`.  Trimming removes the blank
characters at both ends of a text and keeps those inside.
-/

namespace CommitForm
namespace Text

/-- The characters with the property `White_Space`, written out by their code points. -/
def isBlank (c : Char) : Bool :=
  let n := c.toNat
  (9 ≤ n && n ≤ 13) || n == 0x20 || n == 0x85 || n == 0xA0 || n == 0x1680 ||
    (0x2000 ≤ n && n ≤ 0x200A) || n == 0x2028 || n == 0x2029 || n == 0x202F || n == 0x205F ||
    n == 0x3000

/-- The white space of ASCII text is blank, so that what the standard library skips is skipped here
too. -/
theorem isBlank_of_isWhitespace {c : Char} (h : c.isWhitespace = true) : isBlank c = true := by
  simp only [Char.isWhitespace, Bool.or_eq_true, decide_eq_true_eq] at h
  rcases h with ((rfl | rfl) | rfl) | rfl <;> decide

/-- Removes the blank characters in front of a list of characters. -/
def trimStart (cs : List Char) : List Char := cs.dropWhile isBlank

/-- Removes the blank characters at the end of a list of characters. -/
def trimEnd (cs : List Char) : List Char := (cs.reverse.dropWhile isBlank).reverse

/-- Removes the blank characters at both ends; blanks inside stay. -/
def trimChars (cs : List Char) : List Char := trimEnd (trimStart cs)

/-- Removes the blank characters at both ends of a text; a text of blanks becomes empty. -/
def trim (s : String) : String := String.ofList (trimChars s.toList)

/-- Whether a text has no character that is not blank; the empty text has none. -/
def isAllBlank (s : String) : Bool := s.toList.all isBlank

/-- The lower-case form of a character as far as ASCII is concerned: the ASCII letters, the Kelvin
sign and the capital `I` with a dot have an ASCII letter in their lower-case form, and no other
character has. -/
def lowerChar (c : Char) : List Char :=
  if c.toNat = 0x212A then ['k']
  else if c.toNat = 0x130 then ['i', Char.ofNat 0x307]
  else [c.toLower]

/-- The lower-case form of a text, for comparison with ASCII words: characters whose lower-case form
holds no ASCII letter stay as they are. -/
def lowerForAscii (s : String) : String := String.ofList (s.toList.flatMap lowerChar)

end Text
end CommitForm
