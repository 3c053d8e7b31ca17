/-
# Lines

Two ways to cut a text into lines.  `splitLines` cuts at every line feed, so that joining gives the
text back and the text after the last line feed is a line, empty or not.  `sourceLines` is the view
of a reader of source text: a line feed ends a line, a carriage return before it belongs to the line
break, and there is no line after a final line feed.
-/

namespace CommitForm
namespace Text

/-- Cuts at every occurrence of a character.  There is always one piece more than there are
occurrences, so that pieces may be empty. -/
def splitAtChar (sep : Char) : List Char → List (List Char)
  | [] => [[]]
  | c :: cs =>
    if c = sep then [] :: splitAtChar sep cs
    else
      match splitAtChar sep cs with
      | [] => [[c]]
      | l :: ls => (c :: l) :: ls

/-- Joins pieces with a character between each two, and with none in front or behind. -/
def joinWithChar (sep : Char) : List (List Char) → List Char
  | [] => []
  | [l] => l
  | l :: m :: ls => l ++ sep :: joinWithChar sep (m :: ls)

/-- Cutting leaves at least one piece, which is the empty one for the empty text. -/
theorem splitAtChar_ne_nil (sep : Char) (cs : List Char) : splitAtChar sep cs ≠ [] := by
  cases cs with
  | nil => simp [splitAtChar]
  | cons c cs =>
    simp only [splitAtChar]
    split
    · simp
    · split <;> simp

/-- **Nothing is lost:** joining the pieces with the character they were cut at gives the text
back. -/
theorem joinWithChar_splitAtChar (sep : Char) (cs : List Char) :
    joinWithChar sep (splitAtChar sep cs) = cs := by
  induction cs with
  | nil => rfl
  | cons c cs ih =>
    simp only [splitAtChar]
    split
    · next h =>
      subst h
      cases hs : splitAtChar c cs with
      | nil => exact absurd hs (splitAtChar_ne_nil c cs)
      | cons l ls => rw [hs] at ih; simp [joinWithChar, ih]
    · cases hs : splitAtChar sep cs with
      | nil => exact absurd hs (splitAtChar_ne_nil sep cs)
      | cons l ls =>
        rw [hs] at ih
        cases ls with
        | nil => simpa [joinWithChar] using ih
        | cons m ms => simpa [joinWithChar] using ih

/-- The lines of a text, cut at every line feed.  A text that ends with one has an empty line behind
it; carriage returns stay in their lines. -/
def splitLines (s : String) : List String := (splitAtChar '\n' s.toList).map String.ofList

/-- The text of lines joined by line feeds; `splitLines` takes it apart again where no line holds a
line feed. -/
def joinLines (lines : List String) : String :=
  String.ofList (joinWithChar '\n' (lines.map String.toList))

/-- Drops a final carriage return, one only, as it stands before a line feed in some texts. -/
def dropFinalReturn : List Char → List Char
  | [] => []
  | ['\r'] => []
  | c :: cs => c :: dropFinalReturn cs

/-- The lines of a source text.  `line` holds the characters of the current line in reverse. -/
def readSourceLines (line : List Char) : List Char → List (List Char)
  | [] => if line.isEmpty then [] else [line.reverse]
  | '\n' :: cs => dropFinalReturn line.reverse :: readSourceLines [] cs
  | c :: cs => readSourceLines (c :: line) cs

/-- The lines of a source text, without their line breaks.  Unlike `splitLines` there is no empty
line behind a final line feed. -/
def sourceLines (s : String) : List String := (readSourceLines [] s.toList).map String.ofList

example : sourceLines "a\r\nb\n" = ["a", "b"] := by decide
example : splitLines "a\n\n" = ["a", "", ""] := by decide

end Text
end CommitForm
