/-
# Forms in YAML

Reading a form from YAML.  The messages of mismatches are put in terms of forms:

| message | becomes |
| --- | --- |
| ``missing field `x` `` | `missing required field 'x'` |
| ``unknown variant `x` `` and the known ones | `unknown variant 'x'` |
| `invalid type: x, expected y at …` | `expected y, but found x` |

A suggestion is made for what is missing, and else for what the line of the error holds.
-/

import CommitForm.Form.Json
import CommitForm.Text.Between
import CommitForm.Text.Blank
import CommitForm.Yaml.Reader

namespace CommitForm
namespace ReadError

/-- A message in terms of forms, if it is one about a mismatch.  What was missing, unknown or found
is cut out of the reader's own words, so that a text in the document which looks like such words is
taken for them. -/
def reworded? (message : String) : Option String :=
  let missing := (Text.between? message "missing field `" "`").map fun field =>
    "missing required field '" ++ field ++ "'"
  let unknown := (Text.between? message "unknown variant `" "`").map fun variant =>
    "unknown variant '" ++ variant ++ "'"
  let wrong := do
    let found ← Text.between? message "invalid type: " ","
    let expected ← Text.between? message "expected " " at"
    some ("expected " ++ expected ++ ", but found " ++ found)
  missing <|> unknown <|> wrong

/-- Whether a message is one about a form and not about YAML, as told by how it begins. -/
def isAboutForm (message : String) : Bool :=
  ["missing required field", "unknown variant", "expected "].any fun start =>
    (Text.dropStart? start.toList message.toList).isSome

/-- Words that look like keys of forms, in lower case, and the keys that are meant. -/
def likelyKeys : List (String × String) := [
  ("dependson", "dependsOn"),
  ("linkedtoken", "dependsOn"),
  ("matchvalue", "matchExpression"),
  ("showif", "shown"),
  ("reduceemptylines", "reduceEmptyLines"),
  ("maxlinelength", "maxLineLength")]

/-- What may help after an error with a message in a line.  The first rule that applies is the one
that is shown. -/
def suggestionFor (message line : String) : Option String :=
  if Text.hasPart message "missing field `name`" then
    some "every token needs a 'name' matching its \x7bplaceholder\x7d"
  else if Text.hasPart message "unknown variant" && Text.hasPart message "dynamic-enum" then
    some "token type must be one of: text, enum, boolean, dynamic-enum"
  else if line.toList.head? = some '\t' then
    some "YAML prefers spaces over tabs for indentation. Replace tabs with spaces."
  else
    let line := Text.lowerForAscii line
    (likelyKeys.find? fun (word, _) => Text.hasPart line word).map fun (_, key) =>
      "did you mean '" ++ key ++ "'?"

end ReadError

/-- The report of a failure to read a YAML text.  Its kind follows from the message that is shown,
its suggestion from the reader's own one and the line. -/
def Yaml.Failure.report (f : Yaml.Failure) (source : String) : ReadError :=
  let line := f.place.line + 1
  let message := (ReadError.reworded? f.message).getD f.message
  let kind := if ReadError.isAboutForm message then .schema else .malformed
  { (ReadError.bare kind message line (f.place.column + 1)).inSource source 2 with
    suggestion := ReadError.suggestionFor f.message ((Text.sourceLines source).getD (line - 1) "") }

/-- Reads a form from YAML, or reports the first thing that is wrong with the text, with the lines
around it. -/
def Form.ofYaml (source : String) : Except ReadError Form :=
  match Yaml.read Form.shape source with
  | .error f => .error (f.report source)
  | .ok d =>
    match Form.ofDatum? d with
    | some form => .ok form
    | none => .error .meaningless

end CommitForm
