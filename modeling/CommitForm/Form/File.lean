/-
# Forms in files

A file is read as JSON when its extension is `json` in any case, and else as YAML.
-/

import CommitForm.Files
import CommitForm.Form.Problem
import CommitForm.Form.Yaml

namespace CommitForm

/-- The extension of a file name: what comes behind its last point, unless that is its first
character. -/
def extension? (name : String) : Option String :=
  match name.toList.reverse.span (· ≠ '.') with
  | (ext, _ :: _ :: _) => some (String.ofList ext.reverse)
  | _ => none

example : extension? "a.b.json" = some "json" := by decide
example : extension? ".json" = none := by decide

/-- Whether a path is one of a JSON file: its last component has the extension `json`, in letters of
either case. -/
def isJsonPath (path : String) : Bool :=
  ((components path).getLast?.bind extension?).any fun ext => ext.map Char.toLower = "json"

/-- Reads a form from the file of a path, as JSON if the path says so and as YAML otherwise.  A file
that cannot be read is an error without a place. -/
def Form.ofFile (s : Spot) (path : String) : Except ReadError Form :=
  match s.read path with
  | .error f =>
    .error (.bare .file ("failed to read file '" ++ path ++ "': " ++ f.message) 0 0)
  | .ok source => if isJsonPath path then Form.ofJson source else Form.ofYaml source

/-- Why a form is not to be used: it cannot be read, or it can and has problems. -/
inductive LoadError where
  | unreadable (e : ReadError)
  | invalid (problems : List Problem)

/-- Reads a form from a file and refuses it if it has problems; then all of them are reported, in
the order of the check. -/
def Form.load (s : Spot) (path : String) : Except LoadError Form :=
  match Form.ofFile s path with
  | .error e => .error (.unreadable e)
  | .ok form =>
    match form.problems with
    | [] => .ok form
    | problems => .error (.invalid problems)

end CommitForm
