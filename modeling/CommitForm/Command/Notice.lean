/-
# Notices

What the program tells its user besides its output.  Notices go to the error stream, each on a line
of its own, with colours; excerpts of sources have lines of their own and no colours.

| notice | looks |
| --- | --- |
| `status` | the action in bold cyan, aligned to the right in twelve columns, and what it is about |
| `success`, `passed` | a bold or plain green check mark |
| `warning`, `hint` | a yellow `!`, a cyan `i` |
| `failure` | a bold red `error:` |
| `muted` | all of the line dim |

A report of errors numbers them; the lines of an error after its first one are indented.
-/

import CommitForm.Text.Lines

namespace CommitForm
namespace Command

/-- A notice, which tells what the program is doing or what it has found.  Notices are no part of
the output. -/
inductive Notice where
  | status (action about : String)
  | success (text : String)
  | passed (text : String)
  | warning (text : String)
  | hint (text : String)
  | failure (text : String)
  | muted (text : String)
  | excerpt (text : String)
deriving DecidableEq, Repr

/-- A text between the codes of a colour and of no colour, or by itself where colours are not asked
for. -/
def painted (coloured : Bool) (code text : String) : String :=
  if coloured then "\x1b[" ++ code ++ "m" ++ text ++ "\x1b[0m" else text

/-- A text with blanks in front up to a width; longer texts are left as they are. -/
def padLeft (width : Nat) (text : String) : String :=
  String.ofList (List.replicate (width - text.length) ' ') ++ text

/-- A text with blanks behind up to a width; longer texts are left as they are. -/
def padRight (width : Nat) (text : String) : String :=
  text ++ String.ofList (List.replicate (width - text.length) ' ')

/-- The text of a notice, with its line break.  Excerpts have their own. -/
def Notice.text (coloured : Bool) : Notice → String
  | status action about => painted coloured "1;36" (padLeft 12 action) ++ " " ++ about ++ "\n"
  | success t => painted coloured "1;32" "  ✓" ++ " " ++ t ++ "\n"
  | passed t => painted coloured "32" "  ✓" ++ " " ++ t ++ "\n"
  | warning t => painted coloured "33" "  !" ++ " " ++ t ++ "\n"
  | hint t => painted coloured "36" "  i" ++ " " ++ t ++ "\n"
  | failure t => painted coloured "1;31" "error:" ++ " " ++ t ++ "\n"
  | muted t => painted coloured "2" t ++ "\n"
  | excerpt t => t

/-- The text of notices one after the other. -/
def Notice.texts (coloured : Bool) (ns : List Notice) : String :=
  String.join (ns.map (Notice.text coloured))

/-! ## Reports -/

/-- A line of an error after its first one.  An empty line is not indented unless it is the last. -/
def indentedLines : List String → List String
  | [] => []
  | [last] => ["      " ++ last]
  | line :: rest => (if line = "" then "" else "      " ++ line) :: indentedLines rest

/-- The text of an error with its number in a report; its further lines are indented below the
first. -/
def reportEntry (number : Nat) (message : String) : String :=
  match Text.splitLines message with
  | [] => ""
  | first :: rest =>
    String.intercalate "\n" ((padLeft 4 (toString number) ++ ": " ++ first) :: indentedLines rest)

/-- The text of a chain of errors, each the cause of the one before. -/
def reportText (chain : List String) : String :=
  String.intercalate "\n" ((chain.zipIdx).map fun (message, number) => reportEntry number message)

example : reportEntry 0 "a\n\nb\n" = "   0: a\n\n      b\n      " := by decide

end Command
end CommitForm
