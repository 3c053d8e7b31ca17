/-
# Assignments

A value is given as `NAME=VALUE`.  The name ends at the first `=` and has no blanks around it; the
value is taken as it stands.  A name that is given once has a single value, a name that is given
more often has the list of its values.
-/

import CommitForm.Text.Blank
import CommitForm.Values

namespace CommitForm
namespace Command

/-- A value given to a name.  The value is kept as it is, blanks and further signs of equality
included. -/
structure Assignment where
  name : String
  value : String
deriving DecidableEq, Repr

/-- What can be wrong with an assignment, with the text of the argument. -/
inductive AssignmentError where
  | noEqualsSign (text : String)
  | noName (text : String)
deriving DecidableEq, Repr

/-- What is wrong with an assignment, in words that quote the argument. -/
def AssignmentError.message : AssignmentError → String
  | noEqualsSign text => "expected NAME=VALUE, got '" ++ text ++ "'"
  | noName text => "missing field name in '" ++ text ++ "'"

namespace Assignment

/-- Reads an assignment, which is cut at its first sign of equality.  Blanks around the name do not
belong to it. -/
def ofText (text : String) : Except AssignmentError Assignment :=
  match text.toList.span (· ≠ '=') with
  | (_, []) => .error (.noEqualsSign text)
  | (name, _ :: value) =>
    let name := Text.trim (String.ofList name)
    if name = "" then .error (.noName text) else .ok ⟨name, String.ofList value⟩

/-- Reads assignments up to the first that is wrong, which is the one that is reported. -/
def ofTexts (texts : List String) : Except AssignmentError (List Assignment) := texts.mapM ofText

/-- A value with another one behind it: a single text becomes a list of two. -/
def extend (value : FieldValue) (more : String) : FieldValue :=
  match value with
  | .single first => .multiple [first, more]
  | .multiple items => .multiple (items ++ [more])

/-- Adds an assignment to the values of names, which stand in the order of their first one. -/
def add (a : Assignment) : List (String × FieldValue) → List (String × FieldValue)
  | [] => [(a.name, .single a.value)]
  | (name, value) :: rest =>
    if name = a.name then (name, extend value a.value) :: rest else (name, value) :: add a rest

/-- The values of names, in the order of the first assignment to each.  A name that is assigned to
more than once has all its values in a list. -/
def grouped (as : List Assignment) : List (String × FieldValue) :=
  as.foldl (fun groups a => add a groups) []

end Assignment

/-- Reads assignments and groups them by their names, or answers what is wrong with the first that
is. -/
def readAssignments (texts : List String) : Except AssignmentError (List (String × FieldValue)) :=
  (Assignment.ofTexts texts).map Assignment.grouped

example :
    (readAssignments ["a=1", "b=x=y", " a =2"]).toOption =
      some [("a", .multiple ["1", "2"]), ("b", .single "x=y")] := by decide

end Command
end CommitForm
