/-
# Input of forms

What the widgets of a form report is turned into values of its fields: every field gets a value, and
only a field that takes several options keeps a list.

| kind | text | list |
| --- | --- | --- |
| `text` | the text, unless it is `undefined` | the items as lines |
| `boolean` | the text | the first item |
| `enum`, `dynamicEnum` | the text | the list if several may be chosen, else the first item |
-/

import CommitForm.Form.Basic

namespace CommitForm

/-- The value that a field takes from what its widget reports, where `none` is a widget that has
reported nothing.  Texts drop the word `undefined`, a list becomes lines of a text, and only a field
of several options keeps a list. -/
def Field.accept (f : Field) (input : Option FieldValue) : FieldValue :=
  match f.kind, input with
  | _, none => .blank
  | .text, some (.single t) => if t = "undefined" then .blank else .single t
  | .text, some (.multiple items) => .single (String.intercalate "\n" items)
  | .boolean, some (.single t) => .single t
  | .boolean, some (.multiple items) => .single (items.head?.getD "")
  | _, some (.single t) => .single t
  | _, some (.multiple items) =>
    if f.multiple then .multiple items else .single (items.head?.getD "")

namespace Field

/-- A text is taken as it is, except for one that a text field drops. -/
theorem accept_single (f : Field) (text : String) :
    f.accept (some (.single text)) =
      if f.kind = .text ∧ text = "undefined" then .blank else .single text := by
  cases hkind : f.kind <;> simp [accept, hkind]

end Field

/-- The values of fields taken from what their widgets report.  Each field is bound, and names that
no field has are dropped. -/
def Values.ofInput (fields : List Field) (raw : Values) : Values :=
  .ofList (fields.map fun f => (f.name, f.accept (raw.get? f.name)))

end CommitForm
