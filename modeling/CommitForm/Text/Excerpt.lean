/-
# Excerpts of source texts

A few lines around a place, each with its number; the line of the place is marked, and a caret below
it points at the column.

```
     1 | template:
>    2 |   - x: [
       |      ^
     3 | tokens:
```
-/

import CommitForm.Text.Lines

namespace CommitForm
namespace Text

/-- The number `n` with blanks in front up to four characters; greater numbers are wider and move
what follows. -/
def padNumber (n : Nat) : String :=
  let digits := Nat.toDigits 10 n
  String.ofList (List.replicate (4 - digits.length) ' ' ++ digits)

/-- The row of a line: its number and its text, with a mark in front if it is the line in
question. -/
def sourceRow (marked : Bool) (number : Nat) (line : String) : String :=
  (if marked then ">" else " ") ++ " " ++ padNumber number ++ " | " ++ line ++ "\n"

/-- The row with a caret below a column.  Its gutter is that of a line number of four digits. -/
def caretRow (column : Nat) : String :=
  "       | " ++ String.ofList (List.replicate (column - 1) ' ') ++ "^\n"

/-- The rows of a line of an excerpt around the given place: the line, and the caret below it if it
is the line in question and has a column. -/
def excerptRows (line column : Nat) (text : String) (number : Nat) : String :=
  sourceRow (number = line) number text ++
    if number = line ∧ 0 < column then caretRow column else ""

/-- The excerpt of `around` lines before and behind a line.  Line and column count from one; line
zero stands for no line, column zero for no column. -/
def excerpt (source : String) (line column around : Nat) : String :=
  let lines := sourceLines source
  let first := line - (around + 1)
  let last := min (line + around) lines.length
  String.join (((lines.zipIdx 1).take last).drop first |>.map fun (text, number) =>
    excerptRows line column text number)

end Text
end CommitForm
