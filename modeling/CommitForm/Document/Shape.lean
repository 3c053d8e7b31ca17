/-
# Shapes of documents

A document is read along a shape, which says what it has to hold; what has been read is a datum.

| shape | datum |
| --- | --- |
| `text` | `text` |
| `flag` | `flag` |
| `count` | `count`, below `2 ^ 32` |
| `optional s` | `absent`, or `present` with a datum of `s` |
| `list s` | `list` of data of `s` |
| `map s` | `map` from keys to data of `s` |
| `choice` | `variant`, one of the names |
| `either` | a datum of the first branch that fits |
| `record` | `record` with a datum for each entry |

An entry of a record has a key and may have other keys that mean the same.  An entry that a document
leaves out has its default; without a default it must not be left out.
-/

namespace CommitForm
namespace Document

/-- What has been read from a document, in the shape that was asked for: the entries of a record
stand in the order of the shape, without their keys. -/
inductive Datum where
  | text (s : String)
  | flag (b : Bool)
  | count (n : UInt32)
  | absent
  | present (d : Datum)
  | list (items : List Datum)
  | map (bindings : List (String × Datum))
  | variant (name : String)
  | record (fields : List Datum)
deriving Inhabited

namespace Datum

/-- The text of a datum that is one, and nothing of any other. -/
def text? : Datum → Option String
  | text s => some s
  | _ => none

/-- The value of a datum that is a flag, and nothing of any other. -/
def flag? : Datum → Option Bool
  | flag b => some b
  | _ => none

/-- The value of a datum that is a count, and nothing of any other. -/
def count? : Datum → Option UInt32
  | count n => some n
  | _ => none

/-- The texts of a datum that is a list of texts; one item of another kind spoils the list. -/
def texts? : Datum → Option (List String)
  | list ds => ds.mapM text?
  | _ => none

/-- What an optional datum holds: nothing, or what is read from the datum that is present. -/
def optional? {α : Type} (read : Datum → Option α) : Datum → Option (Option α)
  | absent => some none
  | present d => (read d).map some
  | _ => none

/-- The datum of an optional value: absent, or present with the datum of the value. -/
def ofOption {α : Type} (write : α → Datum) : Option α → Datum
  | none => .absent
  | some a => .present (write a)

/-- The datum of a list of texts, which `texts?` reads back. -/
def ofTexts (ss : List String) : Datum := .list (ss.map .text)

end Datum

mutual

/-- What a document has to hold.  A choice is told by a name, an alternative by the first branch
that fits, a record by its keys. -/
inductive Shape where
  | text
  | flag
  | count
  | optional (inner : Shape)
  | list (item : Shape)
  | map (item : Shape)
  | choice (title : String) (names : List String)
  | either (title : String) (branches : List Shape)
  | record (title : String) (entries : List Entry)

/-- An entry of a record: its key, the other keys that mean the same, its shape, its default, and
whether it is left out in writing when it has its default. -/
inductive Entry where
  | mk (key : String) (aliases : List String) (shape : Shape) (missing : Option Datum)
      (omitted : Bool)

end

/-- A record's entry with a reader in the stead of its shape, so that filling the slots does not
depend on how the entries are read. -/
structure Slot (Reader : Type) where
  key : String
  aliases : List String
  missing : Option Datum
  read : Reader

/-- Whether a key stands for a slot: its own key, or one of its aliases. -/
def Slot.hasKey {Reader : Type} (s : Slot Reader) (key : String) : Bool :=
  s.key == key || s.aliases.contains key

/-- The data read into the slots of a record so far, one place for each slot; a place without a
datum has met no key yet. -/
abbrev Filled := List (Option Datum)

/-! ## Any document -/

/-- As much of any document as the branches of a choice look at: texts and lists of texts, and that
there is something else. -/
inductive Content where
  | text (s : String)
  | list (items : List Content)
  | other
deriving Inhabited

/-- The text of a content that is one, and nothing of any other. -/
def Content.text? : Content → Option String
  | text s => some s
  | _ => none

/-- The datum of a text or a list of texts, if that is the shape asked for.  No other shape is a
branch of a choice. -/
def Content.fit? : Content → Shape → Option Datum
  | text s, .text => some (.text s)
  | list items, .list .text => (items.mapM Content.text?).map fun ts => .list (ts.map .text)
  | _, _ => none

/-- The datum of the first shape that fits, in the order of the branches. -/
def Content.firstFit? (c : Content) (branches : List Shape) : Option Datum :=
  branches.findSome? c.fit?

end Document
end CommitForm
