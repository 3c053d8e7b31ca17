/-
# Forms

A form is a template for a text and the fields that fill it.
-/

import CommitForm.Form.Field
import CommitForm.Text.Lines

namespace CommitForm

/-- A template, written as a list of lines or as one text.  Both ways are kept apart, so that a form
can be written again as it was. -/
inductive TemplateSource where
  | lines (lines : List String)
  | text (text : String)
deriving DecidableEq, Repr

/-- The lines of a template.  A text is cut at its line breaks, and joining the lines gives it
back. -/
def TemplateSource.toLines : TemplateSource → List String
  | lines ls => ls
  | text t => Text.splitLines t

/-- A form: a template, the fields that fill it in, and whether empty lines are to be reduced in the
result. -/
structure Form where
  template : TemplateSource
  /-- The fields in the order they are shown in. -/
  fields : List Field
  /-- Whether runs of empty lines are shortened. -/
  reduceEmptyLines : Bool
deriving DecidableEq, Repr

namespace Form

/-- The first field of a name.  Where names repeat, this is not the field that fills placeholders
in: that is the last one. -/
def field? (form : Form) (name : String) : Option Field := form.fields.find? (·.name = name)

end Form

end CommitForm
