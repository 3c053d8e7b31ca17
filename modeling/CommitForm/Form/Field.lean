/-
# Fields

A field is one blank of a form: its name stands in the template, its kind says what it takes, and
what it depends on decides whether it is shown.

| kind | takes |
| --- | --- |
| `text` | a text |
| `enum` | one of the options, or several |
| `boolean` | the field's value, or nothing |
| `dynamicEnum` | like `enum`, the options coming from a provider |
-/

import CommitForm.Values

namespace CommitForm

/-- What a field takes: free text, one or several of its own options, yes or no, or options that a
provider names. -/
inductive FieldKind where
  | text | enum | boolean | dynamicEnum
deriving DecidableEq, Repr, Inhabited

namespace FieldKind

/-- The name of a kind, as it is written in a form. -/
def name : FieldKind → String
  | text => "text"
  | enum => "enum"
  | boolean => "boolean"
  | dynamicEnum => "dynamic-enum"

/-- All kinds, in the order in which messages list their names. -/
def all : List FieldKind := [text, enum, boolean, dynamicEnum]

/-- The kind of a name, if there is one; names are compared as they are written. -/
def ofName? (s : String) : Option FieldKind := all.find? (·.name = s)

/-- Each kind is found by its own name, so writing and reading a kind are inverse. -/
theorem ofName?_name (k : FieldKind) : ofName? k.name = some k := by cases k <;> decide

end FieldKind

/-- One option of a field: what is shown for it, what it stands for if that is something else, and a
description. -/
structure EnumOption where
  label : String
  value : Option String
  description : Option String
deriving DecidableEq, Repr

/-- What an option stands for: its value, or its label if it has none. -/
def EnumOption.effectiveValue (o : EnumOption) : String := o.value.getD o.label

/-- The names that a field depends on, as written: one name by itself, or a list of names. -/
inductive DependsOn where
  | one (name : String)
  | many (names : List String)
deriving DecidableEq, Repr

/-- The names that count: empty ones do not.  A name of blanks is not empty and counts. -/
def DependsOn.names : DependsOn → List String
  | one name => [name].filter (· ≠ "")
  | many names => names.filter (· ≠ "")

/-- A field of a form, with all that a form may say about it.  What is left out in the form has the
value of its default here. -/
structure Field where
  name : String
  label : String
  kind : FieldKind
  description : Option String
  options : List EnumOption
  /-- Several options may be chosen. -/
  multiple : Bool
  /-- Texts that are no option may be entered. -/
  combobox : Bool
  /-- Stands between the items of a list. -/
  separator : Option String
  /-- Stands before a value that is not empty. -/
  before : Option String
  /-- Stands behind a value that is not empty. -/
  after : Option String
  /-- The value of a checked box. -/
  value : Option String
  multiline : Bool
  monospace : Bool
  lines : Option UInt32
  maxLines : Option UInt32
  maxLength : Option UInt32
  maxLineLength : Option UInt32
  /-- Where the options of a `dynamicEnum` come from. -/
  provider : Option String
  dependsOn : Option DependsOn
  /-- The when-clause that decides whether the field is shown. -/
  matchExpression : Option String
deriving DecidableEq, Repr

namespace Field

/-- A field of a name and a kind with nothing else set; it is labelled by its name. -/
def ofKind (name : String) (kind : FieldKind) : Field where
  name := name
  label := name
  kind := kind
  description := none
  options := []
  multiple := false
  combobox := false
  separator := none
  before := none
  after := none
  value := none
  multiline := false
  monospace := false
  lines := none
  maxLines := none
  maxLength := none
  maxLineLength := none
  provider := none
  dependsOn := none
  matchExpression := none

/-- The field shown on a condition on the values of names; what it said about its condition before
is replaced. -/
def dependingOn (f : Field) (names : DependsOn) (condition : String) : Field :=
  { f with dependsOn := some names, matchExpression := some condition }

/-- The names that a field depends on, none for a field without condition, in the order in which
they are written. -/
def dependencies (f : Field) : List String := (f.dependsOn.map DependsOn.names).getD []

/-- Whether a field is shown on a condition only.  A field that names no dependency is always shown,
whatever its expression says. -/
def isConditional (f : Field) : Bool := !f.dependencies.isEmpty

end Field

end CommitForm
