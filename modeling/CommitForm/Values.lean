/-
# Values of fields

The value of a field is a text or a list of texts.
-/

import CommitForm.NameMap

namespace CommitForm

/-- The value of a field: a single text, or the list of the texts that have been chosen. -/
inductive FieldValue where
  | single (text : String)
  | multiple (items : List String)
deriving DecidableEq, Repr

namespace FieldValue

/-- The value of a field nobody has filled in.  It is bound like any other value, so that it may
differ from none at all. -/
def blank : FieldValue := single ""

instance : Inhabited FieldValue := ⟨blank⟩

/-- The text of a value, a list joined by a separator.  The separator plays no part for a single
text. -/
def raw (separator : String) : FieldValue → String
  | single text => text
  | multiple items => String.intercalate separator items

end FieldValue

/-- The values of fields by their names.  A field without an entry has not been reported at all. -/
abbrev Values := NameMap FieldValue

end CommitForm
