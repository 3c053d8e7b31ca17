/-
# Sets of characters by name

Names of categories, scripts and properties are compared in their reduced form: without spaces,
hyphens, underscores and a leading `is`, in lower case.

| name | set |
| --- | --- |
| a two-letter general category, or its long name | its table |
| a one-letter general category, or `LC` | the union of its two-letter ones |
| `Any`, `ASCII`, `Assigned` | all, the first 128, all but the unassigned |
| a script, a script extension, a binary property | its table |
| a version number as an age | the tables up to that version |

The tables are those of Unicode 15.  What later versions assigned, as the scripts and letters of
Unicode 16, is unassigned here, and the names of those scripts are unknown.
-/

import CommitForm.Unicode.Age
import CommitForm.Unicode.Category
import CommitForm.Unicode.CharSet
import CommitForm.Unicode.Property
import CommitForm.Unicode.Script
import CommitForm.Unicode.ScriptExtension
import CommitForm.Unicode.Segmentation

namespace CommitForm
namespace Unicode

/-- Drops spaces, hyphens, underscores and characters outside ASCII, and turns to lower case; names
are compared in this form. -/
def reduceChars (cs : List Char) : List Char :=
  (cs.filter fun c => c ≠ ' ' ∧ c ≠ '_' ∧ c ≠ '-' ∧ c.toNat < 0x80).map Char.toLower

/-- The reduced form of a name.  A leading `is` is dropped, except that `isc` keeps it: that is the
short name of a property of its own and not the category `C`. -/
def reduceName (name : List Char) : List Char :=
  match name with
  | i :: s :: rest =>
    if i.toLower = 'i' ∧ s.toLower = 's' then
      let reduced := reduceChars rest
      if reduced = ['c'] then ['i', 's', 'c'] else reduced
    else reduceChars name
  | _ => reduceChars name

/-- The table of a name in a list of named tables, where every entry may have several names with
spaces between them. -/
def lookUp? (tables : List (String × String)) (name : String) : Option CharSet :=
  (tables.find? fun entry => (entry.1.splitOn " ").contains name).map fun entry =>
    .ofTable entry.2

/-- The union of the tables with the given names; a name without a table adds nothing. -/
def unionOf (tables : List (String × String)) (names : List String) : CharSet :=
  .ofRanges (names.flatMap fun name => ((lookUp? tables name).getD .empty).ranges.toList)

/-- The two-letter categories of the general category groups, by the short and the long names of a
group. -/
def categoryGroup? : String → Option (List String)
  | "c" | "other" => some ["cc", "cf", "cn", "co"]
  | "l" | "letter" => some ["ll", "lm", "lo", "lt", "lu"]
  | "lc" | "casedletter" => some ["ll", "lt", "lu"]
  | "m" | "mark" | "combiningmark" => some ["mc", "me", "mn"]
  | "n" | "number" => some ["nd", "nl", "no"]
  | "p" | "punctuation" | "punct" => some ["pc", "pd", "pe", "pf", "pi", "po", "ps"]
  | "s" | "symbol" => some ["sc", "sk", "sm", "so"]
  | "z" | "separator" => some ["zl", "zp", "zs"]
  | _ => none

/-- The set of a general category, of a group of them, or of one of the three names that stand for
all, ASCII and assigned characters. -/
def category? (name : String) : Option CharSet :=
  if name = "any" then some .all
  else if name = "ascii" then some (.range 0 0x7F)
  else if name = "assigned" then some (unionOf categories ["cn"]).compl
  else
    match categoryGroup? name with
    | some names => some (unionOf categories names)
    | none => lookUp? categories name

/-- The characters that a version of the standard knows: those that are new in it or in any version
before. -/
def age? (name : String) : Option CharSet :=
  match ages.findIdx? fun entry => (entry.1.splitOn " ").contains name with
  | some i =>
    some (.ofRanges ((ages.take (i + 1)).flatMap fun e => (CharSet.ofTable e.2).ranges.toList))
  | none => none

/-- The set that a single name denotes: a binary property, a general category or a script, in this
order.  The names `cf`, `sc` and `lc` denote categories. -/
def named? (name : String) : Option CharSet :=
  match lookUp? binaryProperties name with
  | some s => some s
  | none =>
    match category? name with
    | some s => some s
    | none => lookUp? scripts name

/-- The set of the characters for which a property has a value.  The value `Other` of the break
properties, or `XX`, has no table of its own: it is refused like a name that nobody knows. -/
def valued? (property value : String) : Option CharSet :=
  match property with
  | "gc" | "generalcategory" => category? value
  | "sc" | "script" => lookUp? scripts value
  | "scx" | "scriptextensions" => lookUp? scriptExtensions value
  | "age" => age? value
  | "gcb" | "graphemeclusterbreak" => lookUp? graphemeBreaks value
  | "wb" | "wordbreak" => lookUp? wordBreaks value
  | "sb" | "sentencebreak" => lookUp? sentenceBreaks value
  | _ => none

/-! ## The sets with a letter of their own -/

/-- The decimal digits of all scripts, which are the shorthand's digits unless the flag `u` is
off. -/
def digits : CharSet := unionOf categories ["nd"]

/-- The white space of the standard, which are the shorthand's spaces unless the flag `u` is off. -/
def spaces : CharSet := .ofTable whiteSpace

/-- The word characters: letters, marks, decimal digits, connectors and joiners, as the standard
recommends for patterns. -/
def wordChars : CharSet :=
  ((CharSet.ofTable alphabetic).union
    (unionOf categories ["mc", "me", "mn", "nd", "pc"])).union (.range 0x200C 0x200D)

/-- The letters of identifiers, with which the name of a group may begin. -/
def letters : CharSet := .ofTable alphabetic

/-- The characters that stand for numbers, digits or not, which may follow in the name of a
group. -/
def numbers : CharSet := unionOf categories ["nd", "nl", "no"]

/-- The characters that are not shown as themselves: controls, formats, separators other than the
space, and code points without a character. -/
def unprintable : CharSet :=
  (unionOf categories ["cc", "cf", "cn", "co", "zl", "zp", "zs"]).diff (.single ' ')

/-- The marks that attach to the character before them, which cannot be seen by themselves and are
escaped where a text is quoted. -/
def attaching : CharSet := .ofTable graphemeExtend

end Unicode
end CommitForm
