/-
# Forms in JSON

Reading a form from JSON, and the JSON tree of a form.
-/

import CommitForm.Form.ReadError
import CommitForm.Form.Shape
import CommitForm.Json.Reader
import CommitForm.Json.Tree

namespace CommitForm

/-- The report of an error in a JSON text.  Whether it is about the text or about the form is told
by the fault, and its place is that of the reader. -/
def Json.Error.report (e : Json.Error) (source : String) : ReadError :=
  let p := e.position.getD ⟨0, 0⟩
  (ReadError.bare (if e.fault.isFormal then .malformed else .schema) e.message p.line
    p.column).inSource source 2

/-- What is reported when a datum of a shape has no meaning; no shape of this library has such data.
-/
def ReadError.meaningless : ReadError := .bare .schema "" 0 0

/-- Reads a form from JSON, or reports the first thing that is wrong with the text, with the lines
around it. -/
def Form.ofJson (source : String) : Except ReadError Form :=
  match Json.read Form.shape source with
  | .error e => .error (e.report source)
  | .ok d =>
    match Form.ofDatum? d with
    | some form => .ok form
    | none => .error .meaningless

/-- The JSON tree of an option, as it is written among the options of a field. -/
def EnumOption.toJson (o : EnumOption) : Json.Tree :=
  (Json.tree? EnumOption.shape o.toDatum).getD (.object [])

/-- The JSON tree of a field: the entries of its shape, those left out that are absent. -/
def Field.toJson (f : Field) : Json.Tree := (Json.tree? Field.shape f.toDatum).getD (.object [])

/-- The JSON tree of a form, which is what a form is stored as. -/
def Form.toJson (form : Form) : Json.Tree :=
  (Json.tree? Form.shape form.toDatum).getD (.object [])

end CommitForm
