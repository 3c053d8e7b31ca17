/-
# Problems of forms

What can be wrong with a form that has been read.  Every problem is reported, in this order:

| found in | problems |
| --- | --- |
| each field | its name is blank or taken; options or provider are missing |
| each field with dependencies | one is unknown; its condition is missing, wrong or reads too much |
| each line of the template | a placeholder names no field |
-/

import CommitForm.Form.Template

namespace CommitForm

/-- A problem as it is reported: what is wrong, where, and what might be done about it. -/
structure Problem where
  message : String
  /-- Where in the form the problem lies. -/
  path : String
  suggestion : Option String
deriving DecidableEq, Repr

namespace Problem

/-- The report of a problem on one line, the suggestion in parentheses behind it. -/
def display (p : Problem) : String :=
  "validation error at '" ++ p.path ++ "': " ++ p.message ++
    match p.suggestion with
    | some s => " (" ++ s ++ ")"
    | none => ""

/-- The report of a form that is refused for its problems: how many there are, and each of them. -/
def summary (ps : List Problem) : String :=
  "form has " ++ toString ps.length ++ " validation error(s): " ++
    String.intercalate "; " (ps.map display)

end Problem

/-- What can be wrong with the field of an index, or with a line of the template. -/
inductive Violation where
  | blankName (field : Nat)
  | takenName (field : Nat) (name : String)
  | noOptions (field : Nat)
  | noProvider (field : Nat)
  | ownDependency (field : Nat) (name : String)
  | unknownDependency (field : Nat) (dependency : String)
  | noExpression (field : Nat) (name : String)
  | badExpression (field : Nat) (error : When.ClauseError)
  | undeclaredName (field : Nat) (identifier : String)
  | unknownPlaceholder (line : Nat) (name : String)

namespace Violation

/-- The path of a part of the field of an index, as reports name it. -/
def fieldPath (field : Nat) (part : String) : String := "tokens[" ++ toString field ++ "]." ++ part

/-- How a violation is reported: its message, the path of the part of the form that it is about, and
a suggestion where there is one. -/
def problem : Violation → Problem
  | blankName i =>
    ⟨"token name must not be empty", fieldPath i "name",
      some "the name is used as \x7bname\x7d in the template"⟩
  | takenName i name => ⟨"duplicate token name '" ++ name ++ "'", fieldPath i "name", none⟩
  | noOptions i =>
    ⟨"enum token has no options", fieldPath i "options",
      some "add options, or set 'combobox: true' to allow free text"⟩
  | noProvider i =>
    ⟨"dynamic-enum token has no provider", fieldPath i "provider",
      some "set 'provider' to the id of a registered options provider"⟩
  | ownDependency i name =>
    ⟨"token '" ++ name ++ "' depends on itself", fieldPath i "dependsOn", none⟩
  | unknownDependency i dependency =>
    ⟨"unknown dependency '" ++ dependency ++ "'", fieldPath i "dependsOn",
      some ("declare a token named '" ++ dependency ++ "'")⟩
  | noExpression i name =>
    ⟨"token '" ++ name ++
        "' declares dependencies but no match expression, so it is never shown",
      fieldPath i "matchExpression",
      some "add a when-clause such as \"issue_type == 'bug'\""⟩
  | badExpression i e =>
    ⟨"invalid match expression: " ++ e.message, fieldPath i "matchExpression", none⟩
  | undeclaredName i identifier =>
    ⟨"match expression reads '" ++ identifier ++ "', which is not a declared dependency",
      fieldPath i "matchExpression",
      some ("add '" ++ identifier ++
        "' to dependsOn; undeclared names are always undefined")⟩
  | unknownPlaceholder line name =>
    ⟨"placeholder '\x7b" ++ name ++ "\x7d' does not name a token",
      "template[" ++ toString line ++ "]", none⟩

end Violation

namespace Field

/-- What is wrong with the name of a field, given the names of the fields before it. -/
def nameViolations (i : Nat) (f : Field) (taken : List String) : List Violation :=
  if Text.isAllBlank f.name then [.blankName i]
  else if taken.contains f.name then [.takenName i f.name]
  else []

/-- What a field lacks to offer its options: a field of options needs some unless free text is
allowed, and one of a provider needs its name. -/
def optionViolations (i : Nat) (f : Field) : List Violation :=
  match f.kind with
  | .enum => if f.options.isEmpty && !f.combobox then [.noOptions i] else []
  | .dynamicEnum => if f.provider.all Text.isAllBlank then [.noProvider i] else []
  | _ => []

/-- What is wrong with the condition of a field that has dependencies.  Names that the expression
reads without their being declared are reported once each. -/
def conditionViolations (i : Nat) (f : Field) : List Violation :=
  match f.matchExpression.filter (!Text.isAllBlank ·) with
  | none => [.noExpression i f.name]
  | some source =>
    match When.Clause.ofSource source with
    | .error e => [.badExpression i e]
    | .ok clause =>
      (clause.identifiers.filter (!f.dependencies.contains ·)).eraseDups.map (.undeclaredName i)

/-- What is wrong with a name that a field depends on, given the names of all fields. -/
def dependencyViolations (i : Nat) (f : Field) (names : List String) (dependency : String) :
    List Violation :=
  if dependency = f.name then [.ownDependency i f.name]
  else if names.contains dependency then []
  else [.unknownDependency i dependency]

/-- What is wrong with the dependencies and the condition of a field.  A field without dependencies
is not looked at, not even its expression. -/
def linkViolations (i : Nat) (f : Field) (names : List String) : List Violation :=
  if f.isConditional then
    f.dependencies.flatMap (f.dependencyViolations i names) ++ f.conditionViolations i
  else []

end Field

namespace Form

/-- What is wrong with the names and options of fields.  `taken` holds the names before them, `i` is
the index of the first. -/
def fieldViolations (taken : List String) (i : Nat) : List Field → List Violation
  | [] => []
  | f :: fs =>
    f.nameViolations i taken ++ f.optionViolations i ++
      fieldViolations (taken ++ [f.name]) (i + 1) fs

/-- What is wrong with a line of the template: its placeholders that no field fills in, from left to
right and repeated as they occur. -/
def lineViolations (form : Form) (i : Nat) (line : String) : List Violation :=
  ((Template.placeholderNames line).filter fun name => (form.field? name).isNone).map
    (.unknownPlaceholder i)

/-- All that is wrong with a form: first each field by itself, then its links to other fields, then
the lines of the template. -/
def violations (form : Form) : List Violation :=
  let names := form.fields.map (·.name)
  fieldViolations [] 0 form.fields ++
    form.fields.zipIdx.flatMap (fun (f, i) => f.linkViolations i names) ++
    form.template.toLines.zipIdx.flatMap fun (line, i) => form.lineViolations i line

/-- The problems of a form, as they are reported, in the order in which the violations are found. -/
def problems (form : Form) : List Problem := form.violations.map Violation.problem

end Form

end CommitForm
