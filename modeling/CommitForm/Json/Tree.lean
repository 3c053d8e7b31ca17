/-
# JSON trees

The values that are written as JSON, and their text: without blanks, entries in the order of the
tree, and in strings an escape for quotes, backslashes and control characters only.
-/

import CommitForm.Document.Shape
import CommitForm.Text.Quoted

namespace CommitForm
namespace Json

/-- A value to be written: what forms are made of, without fractions and without nothing. -/
inductive Tree where
  | flag (b : Bool)
  | count (n : Nat)
  | text (s : String)
  | list (items : List Tree)
  | object (entries : List (String × Tree))
deriving Inhabited

/-- A character as it stands in a string: an escape for quotes, backslashes and control characters,
and itself otherwise. -/
def escapedChar (c : Char) : List Char :=
  match c with
  | '"' => ['\\', '"']
  | '\\' => ['\\', '\\']
  | '\x08' => ['\\', 'b']
  | '\x0c' => ['\\', 'f']
  | '\n' => ['\\', 'n']
  | '\r' => ['\\', 'r']
  | '\t' => ['\\', 't']
  | c =>
    if c.toNat < 0x20 then
      let digits := Text.hexDigits c.toNat
      '\\' :: 'u' :: List.replicate (4 - digits.length) '0' ++ digits
    else [c]

/-- A string with its quotes, as it is written for texts and for keys alike. -/
def renderText (s : String) : List Char := '"' :: s.toList.flatMap escapedChar ++ ['"']

mutual

/-- The text of a tree, without blanks between its parts. -/
def Tree.render : Tree → List Char
  | .flag b => if b then "true".toList else "false".toList
  | .count n => Nat.toDigits 10 n
  | .text s => renderText s
  | .list [] => ['[', ']']
  | .list (t :: ts) => '[' :: t.render ++ Tree.renderItems ts
  | .object [] => ['\x7b', '\x7d']
  | .object ((k, t) :: es) => '\x7b' :: renderText k ++ ':' :: t.render ++ Tree.renderEntries es

/-- The text of the items that follow another one, each behind its comma, with the closing
bracket. -/
def Tree.renderItems : List Tree → List Char
  | [] => [']']
  | t :: ts => ',' :: t.render ++ Tree.renderItems ts

/-- The text of the entries that follow another one, each behind its comma, with the closing
bracket. -/
def Tree.renderEntries : List (String × Tree) → List Char
  | [] => ['\x7d']
  | (k, t) :: es => ',' :: renderText k ++ ':' :: t.render ++ Tree.renderEntries es

end

open Document

/-- Whether an entry with this datum may be left out: one that is absent, or an empty list. -/
def isBlank : Datum → Bool
  | .absent => true
  | .list [] => true
  | _ => false

/-- The tree of a text or of a list of texts, the only data that an alternative can have. -/
def plainTree? : Datum → Option Tree
  | .text s => some (.text s)
  | d => d.texts?.map fun ss => .list (ss.map .text)

mutual

/-- The tree of a datum of a shape; `none` if the datum is not of the shape. -/
def tree? : Shape → Datum → Option Tree
  | .text, .text s => some (.text s)
  | .flag, .flag b => some (.flag b)
  | .count, .count n => some (.count n.toNat)
  | .optional s, .present d => tree? s d
  | .list s, .list ds => (ds.mapM (tree? s)).map .list
  | .map s, .map bs => (bs.mapM fun b => (tree? s b.2).map fun t => (b.1, t)).map .object
  | .choice _ names, .variant name => if names.contains name then some (.text name) else none
  | .either _ _, d => plainTree? d
  | .record _ es, .record ds => (entryTrees? es ds).map .object
  | _, _ => none

/-- The entries of a record, those left out that may be and have nothing to say. -/
def entryTrees? : List Entry → List Datum → Option (List (String × Tree))
  | [], [] => some []
  | .mk key _ shape _ omitted :: es, d :: ds =>
    if omitted && isBlank d then entryTrees? es ds
    else
      match tree? shape d, entryTrees? es ds with
      | some t, some ts => some ((key, t) :: ts)
      | _, _ => none
  | _, _ => none

end

section

-- One equation for each shape with parts, so that a proof unfolds one step of the recursion only.

variable (title : String) (shape : Shape)

/-- A datum that is present is written by the shape inside. -/
theorem tree?_optional (d : Datum) : tree? (.optional shape) (.present d) = tree? shape d := rfl

/-- A list is written item by item, if each of them can be. -/
theorem tree?_list (ds : List Datum) :
    tree? (.list shape) (.list ds) = (ds.mapM (tree? shape)).map .list := rfl

/-- A map is written entry by entry, in the order of its bindings, with the names for keys. -/
theorem tree?_map (bs : List (String × Datum)) :
    tree? (.map shape) (.map bs) =
      (bs.mapM fun b => (tree? shape b.2).map fun t => (b.1, t)).map .object := rfl

/-- A choice is written as its name, if that is one of the names it can have. -/
theorem tree?_choice (name : String) (names : List String) :
    tree? (.choice title names) (.variant name) =
      if names.contains name then some (.text name) else none := rfl

/-- An alternative is written by what it holds, whichever branch that came from. -/
theorem tree?_either (branches : List Shape) (d : Datum) :
    tree? (.either title branches) d = plainTree? d := rfl

/-- A record is written as an object of the entries that are not left out. -/
theorem tree?_record (es : List Entry) (ds : List Datum) :
    tree? (.record title es) (.record ds) = (entryTrees? es ds).map .object := rfl

end

end Json
end CommitForm
