/-
# Templates

A placeholder is an opening brace, a name without braces and a closing brace.  Filling a template
replaces the placeholders that name a field by what the field contributes, all at once: nothing that
has been put in is read again, and other placeholders stay as they are.

| text | placeholders |
| --- | --- |
| `{a}{b}` | `a`, `b` |
| `{{a}}` | `a` |
| `{a{b}` | `b` |
| `{}` | the empty name |
| `{a` | none |
-/

import CommitForm.Form.Resolution
import CommitForm.Text.Size

namespace CommitForm
namespace Template

/-- A part of a template: a character that stands for itself, or a placeholder. -/
inductive Piece where
  | char (c : Char)
  | slot (name : List Char)
deriving DecidableEq, Repr

/-- How a part is written in the template; a placeholder stands between braces. -/
def Piece.written : Piece → List Char
  | char c => [c]
  | slot name => '\x7b' :: name ++ ['\x7d']

/-- Neither an opening nor a closing brace: the characters that names of placeholders are made
of. -/
def isPlain (c : Char) : Bool := c ≠ '\x7b' && c ≠ '\x7d'

/-- The parts of a text, placeholders as long as they are.  An opening brace that is not followed by
a closing one, with plain characters in between, stands for itself. -/
def pieces : List Char → List Piece
  | [] => []
  | c :: cs =>
    if c = '\x7b' then
      match _rest : cs.dropWhile isPlain with
      | '\x7d' :: rest => .slot (cs.takeWhile isPlain) :: pieces rest
      | _ => .char c :: pieces cs
    else .char c :: pieces cs
termination_by cs => cs.length
decreasing_by
  · have h := (List.dropWhile_sublist isPlain (l := cs)).length_le
    rw [_rest] at h
    simp only [List.length_cons] at h ⊢
    omega
  · simp
  · simp

/-- A placeholder with the byte offsets where it begins and where it ends, braces included. -/
structure Placeholder where
  name : String
  start : Nat
  stop : Nat
deriving DecidableEq, Repr

/-- The placeholders among parts, the first of which begins at `offset`; the offsets of the others
follow from what is written before them. -/
def placeholdersFrom (offset : Nat) : List Piece → List Placeholder
  | [] => []
  | p :: ps =>
    let stop := offset + Text.byteLength p.written
    match p with
    | .char _ => placeholdersFrom stop ps
    | .slot name => ⟨String.ofList name, offset, stop⟩ :: placeholdersFrom stop ps

/-- The placeholders of a text from left to right, each as often as it occurs. -/
def placeholders (text : String) : List Placeholder := placeholdersFrom 0 (pieces text.toList)

/-- The names of the placeholders of a text from left to right, with repetitions and without the
braces. -/
def placeholderNames (text : String) : List String := (placeholders text).map (·.name)

/-- Replaces placeholders by texts; those without a text stay as they are.  The texts are not looked
at again, so braces in them fill nothing in. -/
def substitute (textOf? : String → Option String) (text : String) : String :=
  String.ofList ((pieces text.toList).flatMap fun
    | .char c => [c]
    | .slot name =>
      match textOf? (String.ofList name) with
      | some t => t.toList
      | none => (Piece.slot name).written)

/-- What the last field of a name contributes, which may be nothing at all; `none` if no field has
the name. -/
def contribution? (fields : List Field) (values : Values) (name : String) : Option String :=
  (fields.reverse.find? (·.name = name)).map (·.contribution values)

/-! ## Empty lines -/

/-- Keeps two line feeds of each run of them.  `run` is the number of line feeds just before. -/
def shortenRuns (run : Nat) : List Char → List Char
  | [] => []
  | c :: cs =>
    if c = '\n' then
      if run < 2 then c :: shortenRuns (run + 1) cs else shortenRuns (run + 1) cs
    else c :: shortenRuns 0 cs

/-- Shortens runs of empty lines to one empty line and drops the line feeds at the end. -/
def reduceEmptyLines (text : String) : String :=
  String.ofList ((shortenRuns 0 text.toList).reverse.dropWhile (· == '\n')).reverse

end Template

/-- A template with the fields that fill it, and whether empty lines are reduced in the result. -/
structure Composer where
  template : String
  fields : List Field
  reduce : Bool

namespace Composer

/-- The composer of template lines, which are joined by line breaks.  It reduces empty lines unless
told otherwise. -/
def ofLines (lines : List String) (fields : List Field) : Composer :=
  ⟨Text.joinLines lines, fields, true⟩

/-- The composer of a form, with the form's own word on empty lines. -/
def ofForm (form : Form) : Composer :=
  { ofLines form.template.toLines form.fields with reduce := form.reduceEmptyLines }

/-- The composer with the shortening of empty lines switched on or off on demand. -/
def withReduce (c : Composer) (reduce : Option Bool) : Composer :=
  { c with reduce := reduce.getD c.reduce }

/-- The text of a template with its fields filled in, once for all placeholders, and reduced
afterwards if that is asked for. -/
def compose (c : Composer) (values : Values) : String :=
  let text := Template.substitute (Template.contribution? c.fields values) c.template
  if c.reduce then Template.reduceEmptyLines text else text

end Composer

end CommitForm
