/-
# Resolving fields

A field without dependencies is always shown.  A field with dependencies is shown when its condition
holds for the values of the names it depends on; without a condition it never is.

| field | is shown | contributes |
| --- | --- | --- |
| shown, with a value that is not empty | yes | the value between what stands before and behind it |
| shown, with an empty value | yes | nothing |
| not shown | no | nothing |
-/

import CommitForm.Form.Basic
import CommitForm.When.Clause

namespace CommitForm
namespace Field

/-- The values of the names that a field depends on, blank ones for names without a value. -/
def dependencyValues (f : Field) (values : Values) : Values :=
  .ofList (f.dependencies.map fun name => (name, (values.get? name).getD .blank))

/-- Whether a field is shown.  A field with dependencies is shown only if its expression holds for
their values; without an expression, or with one that is wrong, it is hidden. -/
def gate (f : Field) (values : Values) : Bool :=
  if f.isConditional then
    match f.matchExpression with
    | some source => source ≠ "" && When.holds source (f.dependencyValues values)
    | none => false
  else true

/-- The text of the value of a field, the items of a list joined by its separator. -/
def rawText (f : Field) (values : Values) : String :=
  ((values.get? f.name).map fun v => v.raw (f.separator.getD "")).getD ""

/-- What a field contributes to the text of a form: its value between the texts before and after it,
or nothing if it is hidden or its value is empty. -/
def contribution (f : Field) (values : Values) : String :=
  let raw := f.rawText values
  if f.gate values && raw ≠ "" then f.before.getD "" ++ raw ++ f.after.getD "" else ""

end Field

/-- The fields that are shown, in the order of the form. -/
def visibleFields (fields : List Field) (values : Values) : List Field :=
  fields.filter (·.gate values)

end CommitForm
