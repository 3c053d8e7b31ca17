/-
# Errors in reading forms

An error says what is wrong and where, shows the source around the place and may make a suggestion.
-/

import CommitForm.Text.Excerpt

namespace CommitForm

/-- The kinds of errors in reading a form, by what has to be mended: the text, the form in it, or
the file. -/
inductive ReadErrorKind where
  /-- The text is not a document of its format. -/
  | malformed
  /-- The document is not a form. -/
  | schema
  /-- The file cannot be read. -/
  | file
deriving DecidableEq, Repr

/-- An error in reading a form.  Line and column count from one; zero stands for an unknown one. -/
structure ReadError where
  kind : ReadErrorKind
  message : String
  line : Nat
  column : Nat
  /-- The source around the place. -/
  context : String
  suggestion : Option String
deriving DecidableEq, Repr

namespace ReadError

/-- An error without a view of the source and without a suggestion, which may be put in later. -/
def bare (kind : ReadErrorKind) (message : String) (line column : Nat) : ReadError :=
  ⟨kind, message, line, column, "", none⟩

/-- The error with a view of the source: the line of the error and `around` lines on each side of
it. -/
def inSource (e : ReadError) (source : String) (around : Nat) : ReadError :=
  { e with context := Text.excerpt source e.line e.column around }

/-- The error as it is shown: the message, the place if there is one, the view of the source, and
what may help. -/
def display (e : ReadError) : String :=
  "error: " ++ e.message ++ "\n" ++
    (if 0 < e.line then
      "  --> line " ++ toString e.line ++ ":" ++ toString e.column ++ "\n"
    else "") ++
    (if e.context = "" then "" else "\n" ++ e.context) ++
    match e.suggestion with
    | some s => "\nhelp: " ++ s ++ "\n"
    | none => ""

end ReadError

end CommitForm
