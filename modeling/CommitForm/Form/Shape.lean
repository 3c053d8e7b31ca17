/-
# Forms as documents

The shape of the documents that describe forms, and the way from a form to its datum and back.

| record | entries |
| --- | --- |
| form | `template`, `tokens` (or `fields`), `reduceEmptyLines` |
| field | `name` and the entries of `Field`, `type` being the kind |
| option | `label`, `value`, `description` |

Only the name of a field and the label of an option have to be given.
-/

import CommitForm.Document.Shape
import CommitForm.Form.Basic

namespace CommitForm

open Document

/-! ## Shapes -/

/-- A text or a list of texts, in this order of preference.  The title is what a message calls the
choice. -/
def textOrList (title : String) : Shape := .either title [.text, .list .text]

/-- An entry that may be left out and is then absent.  It is left out again when it is written. -/
def optionalEntry (key : String) (aliases : List String) (shape : Shape) : Entry :=
  .mk key aliases (.optional shape) (some .absent) true

/-- An entry that may be left out and is then off.  Unlike what is absent, it is always written. -/
def flagEntry (key : String) : Entry := .mk key [] .flag (some (.flag false)) false

/-- What a document has to hold for an option: a label, and a value and a description that may be
left out. -/
def EnumOption.shape : Shape :=
  .record "EnumOption" [
    .mk "label" [] .text none false,
    optionalEntry "value" [] .text,
    optionalEntry "description" [] .text]

/-- What a document has to hold for a field, entry by entry in the order in which they are written.
Only the name has no default. -/
def Field.shape : Shape :=
  .record "Field" [
    .mk "name" [] .text none false,
    .mk "label" [] .text (some (.text "")) false,
    .mk "type" [] (.choice "FieldKind" (FieldKind.all.map FieldKind.name))
      (some (.variant FieldKind.text.name)) false,
    optionalEntry "description" [] .text,
    .mk "options" [] (.list EnumOption.shape) (some (.list [])) true,
    flagEntry "multiple",
    flagEntry "combobox",
    optionalEntry "separator" [] .text,
    optionalEntry "prefix" [] .text,
    optionalEntry "suffix" [] .text,
    optionalEntry "value" [] .text,
    flagEntry "multiline",
    flagEntry "monospace",
    optionalEntry "lines" [] .count,
    optionalEntry "maxLines" [] .count,
    optionalEntry "maxLength" [] .count,
    optionalEntry "maxLineLength" [] .count,
    optionalEntry "provider" [] .text,
    optionalEntry "dependsOn" ["linkedToken"] (textOrList "DependsOn"),
    optionalEntry "matchExpression" ["shown", "matchValue"] .text]

/-- What a document has to hold for a form.  The fields may also stand under the key `fields`, and
everything has a default. -/
def Form.shape : Shape :=
  .record "FormDefinition" [
    .mk "template" [] (.either "TemplateSource" [.list .text, .text]) (some (.list [])) false,
    .mk "tokens" ["fields"] (.list Field.shape) (some (.list [])) false,
    .mk "reduceEmptyLines" [] .flag (some (.flag true)) false]

/-- What a document has to hold for the values of fields: an object with a text or a list of texts
for each name. -/
def Values.shape : Shape := .map (textOrList "ContextValue")

/-! ## From data -/

/-- The option of a datum that has the shape of one.  Other data have none, but reading never
produces them there. -/
def EnumOption.ofDatum? : Datum → Option EnumOption
  | .record [label, value, description] => do
    some {
      label := ← label.text?
      value := ← value.optional? Datum.text?
      description := ← description.optional? Datum.text? }
  | _ => none

/-- The kind of a datum that is the name of one; a name that is none has been refused when the datum
was read. -/
def FieldKind.ofDatum? : Datum → Option FieldKind
  | .variant name => ofName? name
  | _ => none

/-- The dependencies of a datum: a single text stays one name, a list of texts becomes a list of
names. -/
def DependsOn.ofDatum? : Datum → Option DependsOn
  | .text s => some (.one s)
  | d => d.texts?.map .many

/-- The template of a datum: a text stays a text, a list of texts becomes a list of lines. -/
def TemplateSource.ofDatum? : Datum → Option TemplateSource
  | .text s => some (.text s)
  | d => d.texts?.map .lines

/-- The value of a datum: a text becomes a single text, a list of texts a list of them. -/
def FieldValue.ofDatum? : Datum → Option FieldValue
  | .text s => some (.single s)
  | d => d.texts?.map .multiple

/-- The field of a datum that has the shape of one, its parts in the order of `Field.shape`. -/
def Field.ofDatum? : Datum → Option Field
  | .record [name, label, kind, description, .list options, multiple, combobox, separator, before,
      after, value, multiline, monospace, lines, maxLines, maxLength, maxLineLength, provider,
      dependsOn, matchExpression] => do
    some {
      name := ← name.text?
      label := ← label.text?
      kind := ← FieldKind.ofDatum? kind
      description := ← description.optional? Datum.text?
      options := ← options.mapM EnumOption.ofDatum?
      multiple := ← multiple.flag?
      combobox := ← combobox.flag?
      separator := ← separator.optional? Datum.text?
      before := ← before.optional? Datum.text?
      after := ← after.optional? Datum.text?
      value := ← value.optional? Datum.text?
      multiline := ← multiline.flag?
      monospace := ← monospace.flag?
      lines := ← lines.optional? Datum.count?
      maxLines := ← maxLines.optional? Datum.count?
      maxLength := ← maxLength.optional? Datum.count?
      maxLineLength := ← maxLineLength.optional? Datum.count?
      provider := ← provider.optional? Datum.text?
      dependsOn := ← dependsOn.optional? DependsOn.ofDatum?
      matchExpression := ← matchExpression.optional? Datum.text? }
  | _ => none

/-- The form of a datum that has the shape of one, its parts in the order of `Form.shape`. -/
def Form.ofDatum? : Datum → Option Form
  | .record [template, .list fields, reduce] => do
    some {
      template := ← TemplateSource.ofDatum? template
      fields := ← fields.mapM Field.ofDatum?
      reduceEmptyLines := ← reduce.flag? }
  | _ => none

/-- The values of a datum that is a map.  A name that occurs more than once has its last value. -/
def Values.ofDatum? : Datum → Option Values
  | .map bindings =>
    (bindings.mapM fun b => (FieldValue.ofDatum? b.2).map fun v => (b.1, v)).map NameMap.ofList
  | _ => none

/-! ## To data -/

/-- The datum of an option, which has the shape of one. -/
def EnumOption.toDatum (o : EnumOption) : Datum :=
  .record [.text o.label, .ofOption .text o.value, .ofOption .text o.description]

/-- The datum of dependencies; one name by itself stays a text. -/
def DependsOn.toDatum : DependsOn → Datum
  | one s => .text s
  | many ss => .ofTexts ss

/-- The datum of a template; one text stays a text and is not cut into lines. -/
def TemplateSource.toDatum : TemplateSource → Datum
  | lines ls => .ofTexts ls
  | text s => .text s

/-- The datum of a field, its parts in the order of `Field.shape`. -/
def Field.toDatum (f : Field) : Datum :=
  .record [
    .text f.name, .text f.label, .variant f.kind.name, .ofOption .text f.description,
    .list (f.options.map EnumOption.toDatum), .flag f.multiple, .flag f.combobox,
    .ofOption .text f.separator, .ofOption .text f.before, .ofOption .text f.after,
    .ofOption .text f.value, .flag f.multiline, .flag f.monospace, .ofOption .count f.lines,
    .ofOption .count f.maxLines, .ofOption .count f.maxLength, .ofOption .count f.maxLineLength,
    .ofOption .text f.provider, .ofOption DependsOn.toDatum f.dependsOn,
    .ofOption .text f.matchExpression]

/-- The datum of a form, its parts in the order of `Form.shape`; reading it back gives the form. -/
def Form.toDatum (form : Form) : Datum :=
  .record [form.template.toDatum, .list (form.fields.map Field.toDatum),
    .flag form.reduceEmptyLines]

end CommitForm
