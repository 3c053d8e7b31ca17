/-
# Where a document does not fit

What can be wrong with a well-formed document, and how it is said.  The word for an empty value and
the layout of numbers differ from format to format.
-/

import CommitForm.Document.Shape
import CommitForm.Number.Decimal
import CommitForm.Text.Quoted

namespace CommitForm
namespace Document

/-- What was found in a document where something else was expected. -/
inductive Found where
  | empty
  | flag (b : Bool)
  | whole (n : Int)
  /-- A whole number beyond 64 bits. -/
  | wide (n : Int)
  | fraction (x : Binary64)
  | text (s : String)
  | list
  | map
deriving DecidableEq

/-- What can be wrong with a well-formed document: values of another type or out of range, entries
that are missing or repeated, and names and branches that nobody knows. -/
inductive Mismatch where
  | wrongType (found : Found) (expected : String)
  | wrongValue (found : Found) (expected : String)
  | wrongLength (found : Nat) (expected : String)
  | missing (key : String)
  | repeated (key : String)
  | unknownVariant (name : String) (known : List String)
  | noBranch (title : String)
  /-- A tag where a branch is chosen by what fits. -/
  | taggedBranch
deriving DecidableEq

/-- How a format names what is found: its word for nothing, and its way to write fractions. -/
structure Wording where
  empty : String
  numbers : Decimal.Layout

/-- What was found, in words.  Numbers beyond 64 bits are told by the type that would hold them. -/
def Found.describe (w : Wording) : Found → String
  | empty => w.empty
  | flag b => "boolean `" ++ (if b then "true" else "false") ++ "`"
  | whole n => "integer `" ++ toString n ++ "`"
  | wide n => "integer `" ++ toString n ++ "` as " ++ (if n < 0 then "i128" else "u128")
  | fraction x => "floating point `" ++ w.numbers.text x ++ "`"
  | text s => "string " ++ Text.quote s
  | list => "sequence"
  | map => "map"

/-- The names of variants, in words, which change with how many there are. -/
def oneOf : List String → String
  | [] => "there are no variants"
  | [a] => "expected `" ++ a ++ "`"
  | [a, b] => "expected `" ++ a ++ "` or `" ++ b ++ "`"
  | names => "expected one of " ++ String.intercalate ", " (names.map fun n => "`" ++ n ++ "`")

/-- A mismatch in the words of the format it was found in, without the place. -/
def Mismatch.message (w : Wording) : Mismatch → String
  | wrongType found expected =>
    "invalid type: " ++ found.describe w ++ ", expected " ++ expected
  | wrongValue found expected =>
    "invalid value: " ++ found.describe w ++ ", expected " ++ expected
  | wrongLength found expected =>
    "invalid length " ++ toString found ++ ", expected " ++ expected
  | missing key => "missing field `" ++ key ++ "`"
  | repeated key => "duplicate field `" ++ key ++ "`"
  | unknownVariant name known => "unknown variant `" ++ name ++ "`, " ++ oneOf known
  | noBranch title => "data did not match any variant of untagged enum " ++ title
  | taggedBranch => "untagged and internally tagged enums do not support enum input"

/-! ## Filling the slots of a record -/

/-- What a record with `size` entries and a title is called where a list is too short for it. -/
def recordOfSize (title : String) (size : Nat) : String :=
  "struct " ++ title ++ " with " ++ toString size ++ (if size = 1 then " element" else " elements")

/-- The data of a record, defaults put in for the entries that were left out. -/
def complete {Reader : Type} : List (Slot Reader) → Filled → Except Mismatch (List Datum)
  | [], _ => .ok []
  | s :: ss, filled =>
    match filled.head?.join, s.missing with
    | some d, _ => (complete ss filled.tail).map (d :: ·)
    | none, some d => (complete ss filled.tail).map (d :: ·)
    | none, none => .error (.missing s.key)

/-- Fills the slot of an index with a datum; slots are told apart by their places, not by their
keys. -/
def fill (filled : Filled) (i : Nat) (d : Datum) : Filled := filled.set i (some d)

/-- The datum of a number read for a `count`, or the mismatch with a number that 32 bits do not
hold. -/
def countOf (n : Int) : Except Mismatch Datum :=
  if 0 ≤ n ∧ n < Nat.pow 2 32 then .ok (.count (UInt32.ofNat n.toNat))
  else .error (.wrongValue (.whole n) "u32")

end Document
end CommitForm
