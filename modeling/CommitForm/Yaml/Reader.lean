/-
# Reading YAML along a shape

`read` reads the first document of a text as a datum of a shape, or answers what is wrong first.

| shape | YAML |
| --- | --- |
| `text` | any scalar, as it is written |
| `flag`, `count` | a plain scalar that spells one |
| `optional s` | a plain scalar that spells nothing, or what `s` takes |
| `list s` | a list, or nothing |
| `map s`, `record` | a map, or nothing |
| `choice` | the name as a scalar, or as the tag of nothing |
| `either` | any value without a tag of the text's own, compared with the branches in order |

A mismatch is reported at the node that does not fit, with the path that leads to it.  One that
concerns a whole record is reported where the record begins.  Lists and maps nested more than
`maxDepth` deep are refused, and so are documents that follow aliases more than `aliasLimit` times
for each node.
-/

import CommitForm.Document.Mismatch
import CommitForm.Yaml.Core
import CommitForm.Yaml.Node

namespace CommitForm
namespace Yaml

open Document

/-- How YAML names what is found in a message: an empty value as a unit, and fractions without a
superfluous point. -/
def wording : Wording := ⟨"unit value", Decimal.plainFraction⟩

/-- How many lists and maps may be open at once, aliases looked through; one more is refused where
it begins. -/
def maxDepth : Nat := 128

/-- How often aliases may be followed for each begin, end, scalar or alias of a document. -/
def aliasLimit : Nat := 100

/-! ## Paths and failures -/

/-- The way from the root of a document to a node, by indices and keys, as messages name it. -/
inductive Path where
  | root
  | item (list : Path) (index : Nat)
  | entry (map : Path) (key : String)
  /-- A value whose key is no scalar. -/
  | unnamed (map : Path)
deriving DecidableEq, Repr

namespace Path

/-- The text of a path, with a dot before each key but the first and the index of an item in
brackets. -/
def text : Path → String
  | root => "."
  | item list index => list.text ++ "[" ++ toString index ++ "]"
  | entry root key => key
  | entry map key => map.text ++ "." ++ key
  | unnamed root => "?"
  | unnamed map => map.text ++ ".?"

/-- The text of a path in front of a message; nothing for the root. -/
def label (p : Path) : String := if p.text = "." then "" else p.text ++ ": "

end Path

/-- Why a text cannot be read: a fault of its form, a limit of the reader, or a value that does not
fit the shape. -/
inductive Failure where
  /-- A fault of the text. -/
  | fault (e : Error)
  /-- The document is cut off. -/
  | cut
  | tooDeep (place : Place)
  | tooManyAliases
  | mismatch (m : Mismatch) (path : Path) (place : Place)
  /-- A mismatch found by the enclosing list or record, which has not been placed yet. -/
  | unplaced (m : Mismatch)
deriving DecidableEq

namespace Failure

/-- The message of a failure.  A mismatch is preceded by the path to its node, unless that is the
root, and followed by the place. -/
def message : Failure → String
  | fault e => e.message
  | cut => "EOF while parsing a value"
  | tooDeep place => "recursion limit exceeded" ++ place.phrase
  | tooManyAliases => "repetition limit exceeded"
  | mismatch m path place => path.label ++ m.message wording ++ place.phrase
  | unplaced m => m.message wording

/-- The place of a failure; the beginning of the text if it has none of its own. -/
def place : Failure → Place
  | fault e => e.place
  | tooDeep place => place
  | mismatch _ _ place => place
  | _ => ⟨0, 0⟩

end Failure

/-- What reading a node gives: a result, and how often aliases have been followed. -/
abbrev Counted (α : Type) := Except Failure (α × Nat)

/-- A node that is read: the way to it, and how many lists and maps may be opened in it. -/
structure Site where
  node : Node
  path : Path
  depth : Nat

/-- The site of another node, reached by the same path at the same depth, which is what following an
alias comes to. -/
def Site.to (s : Site) (n : Node) : Site := { s with node := n }

/-- Reads the node of a site, given the source that aliases lead into and the number of aliases that
have been followed. -/
abbrev Reader := Source → Site → (followed : Nat) → Counted Datum

/-- Places a mismatch that has no place yet at a path and a node; one that was placed further inside
keeps its place. -/
def placing {α : Type} (path : Path) (place : Place) : Counted α → Counted α
  | .error (.unplaced m) => .error (.mismatch m path place)
  | r => r

/-- Follows an alias to its node, which is never another alias; every alias that is followed counts
against a limit by the size of the document. -/
def Source.follow (source : Source) (n : Node) (followed : Nat) : Counted Node :=
  match n with
  | .again number _ =>
    if aliasLimit * source.size < followed + 1 then .error .tooManyAliases
    else
      match source.anchored.lookup number with
      | some target => .ok (target, followed + 1)
      | none => .error .cut
  | .cut => .error .cut
  | n => .ok (n, followed)

namespace Node

/-- Where a node begins, its anchor and tag included; a cut node has no place of its own. -/
def place : Node → Place
  | scalar _ _ _ place => place
  | again _ place => place
  | list _ _ place => place
  | map _ _ place => place
  | cut => ⟨0, 0⟩

/-- The name that a tag of the text's own gives a node, by which a variant may be chosen; an alias
has no tag. -/
def ownTag? : Node → Option String
  | scalar (some (.own name)) _ _ _ => name
  | list (some (.own name)) _ _ => name
  | map (some (.own name)) _ _ => name
  | _ => none

/-- Whether a node is left out, as a plain empty scalar is; the readers of lists, maps and records
take such a node for an empty one. -/
def isAbsent : Node → Bool
  | scalar _ style text _ => style == .plain && text == ""
  | _ => false

/-- The mismatch of a node that is not of the expected type, by what the node stands for; a scalar
that belies its tag has that for its mismatch. -/
def wrongType (n : Node) (expected : String) : Mismatch :=
  match n with
  | scalar tag style text _ =>
    match foundScalar tag style text with
    | .ok f => .wrongType f expected
    | .error m => m
  | list .. => .wrongType .list expected
  | map .. => .wrongType .map expected
  | again .. | cut => .wrongType .empty expected

mutual

/-- Whether a node is not cut off: no part of it stands where the events ended too early.  An alias
is whole, since it is not followed. -/
def isWhole : Node → Bool
  | list _ items _ => areWhole items
  | map _ entries _ => entriesAreWhole entries
  | cut => false
  | _ => true

/-- Whether the nodes of a list are all whole, item by item, so that the recursion follows the
tree. -/
def areWhole : List Node → Bool
  | [] => true
  | n :: ns => n.isWhole && areWhole ns

/-- Whether the keys and values of a map are all whole, entry by entry, so that the recursion
follows the tree. -/
def entriesAreWhole : List (Node × Node) → Bool
  | [] => true
  | e :: es => entryIsWhole e && entriesAreWhole es

/-- Whether the key and the value of an entry are both whole; a key whose value is missing has a cut
one. -/
def entryIsWhole : Node × Node → Bool
  | (key, value) => key.isWhole && value.isWhole

end

end Node

/-! ## Scalars -/

/-- Whether a scalar may spell the value that a tag asks for: plain ones may, and literal ones with
that tag. -/
def maySpell (tag : Tag) (given : Option Tag) (style : Style) : Bool :=
  style == .plain || (style == .literal && given == some tag)

/-- Reads a scalar as it is written, whatever it would stand for without quotes: a number where a
text is expected is its digits. -/
def readText (expected : String) (source : Source) (s : Site) (followed : Nat) :
    Counted String :=
  match source.follow s.node followed with
  | .error e => .error e
  | .ok (n, followed) =>
    placing s.path n.place <|
      match n with
      | .scalar _ _ text _ => .ok (text, followed)
      | n => .error (.unplaced (n.wrongType expected))

/-- Reads a scalar that spells a value of a type, where its tag and style let it; everything else is
a mismatch by what the node stands for. -/
def readSpelled (tag : Tag) (expected : String)
    (spelled : String → Option (Except Mismatch Datum)) :
    Reader := fun source s followed =>
  match source.follow s.node followed with
  | .error e => .error e
  | .ok (n, followed) =>
    placing s.path n.place <|
      match n with
      | .scalar given style text _ =>
        match if maySpell tag given style then spelled text else none with
        | some (.ok d) => .ok (d, followed)
        | some (.error m) => .error (.unplaced m)
        | none => .error (.unplaced (n.wrongType expected))
      | n => .error (.unplaced (n.wrongType expected))

/-- Reads a flag, a plain `true` or `false` in one of the spellings of the core schema. -/
def readFlag : Reader :=
  readSpelled .flag "a boolean" fun text => (flagOf? text).map fun b => .ok (.flag b)

/-- The count that a text spells, if it spells a whole number of at most 64 bits without a minus
sign; whether it is small enough is then decided. -/
def countOf? (text : String) : Option (Except Mismatch Datum) :=
  let cs := text.toList
  if cs.head? = some '-' then none
  else ((wholeOf? cs).filter fun n : Int => n < Nat.pow 2 64).map countOf

/-- Reads a count, a plain whole number, which has to fit the 32 bits that the field has. -/
def readCount : Reader := readSpelled .whole "u32" countOf?

/-! ## Options and choices -/

/-- Whether a node spells nothing; a node with the tag of nothing has to. -/
def Node.isNothing (n : Node) : Except Mismatch Bool :=
  match n with
  | .scalar tag style text _ =>
    if style ≠ .plain then .ok false
    else
      match tag with
      | none => .ok (text == "" || isNull text)
      | some .null =>
        if isNull text then .ok true else .error (.wrongValue (.text text) "null")
      | some _ => .ok false
  | _ => .ok false

/-- Reads nothing, or what a reader takes; a node that is left out and a plain word for nothing are
both nothing. -/
def readOptional (read : Reader) : Reader := fun source s followed =>
  match source.follow s.node followed with
  | .error e => .error e
  | .ok (n, followed) =>
    match n.isNothing with
    | .error m => .error (.unplaced m)
    | .ok true => .ok (.absent, followed)
    | .ok false =>
      (read source (s.to n) followed).map fun (d, followed) => (.present d, followed)

/-- Checks that a node with a variant's name as its tag holds nothing, by being left out or by
spelling it. -/
def checkNothing (n : Node) : Except Mismatch Unit :=
  match n with
  | .scalar _ style text _ =>
    if style = .plain ∧ (text = "" ∨ isNull text) then .ok ()
    else .error (.wrongValue (.text text) "null")
  | n => .error (n.wrongType "unit")

/-- Reads a variant from a node that is no alias: by a tag of its own, behind which nothing may
stand, or else by the text of a scalar. -/
def readVariant (names : List String) (s : Site) (followed : Nat) : Counted Datum :=
  let known (name : String) : Except Failure Unit :=
    if names.contains name then .ok () else .error (.unplaced (.unknownVariant name names))
  let here (r : Except Failure Datum) : Counted Datum :=
    placing s.path s.node.place (r.map fun d => (d, followed))
  match s.node.ownTag? with
  | some name =>
    match known name with
    | .error e => .error e
    | .ok () =>
      here <|
        match checkNothing s.node with
        | .ok () => .ok (.variant name)
        | .error m => .error (.unplaced m)
  | none =>
    here <|
      match s.node with
      | .scalar _ _ text _ => (known text).map fun () => .variant text
      | n => .error (.unplaced (n.wrongType "a YAML tag starting with '!'"))

/-- Reads a variant.  A tag with an unknown name has no place of its own; behind an alias it is
placed at the alias. -/
def readChoice (names : List String) : Reader := fun source s followed =>
  match source.follow s.node followed with
  | .error e => .error e
  | .ok (n, followed) =>
    match s.node with
    | .again _ place => placing s.path place (readVariant names (s.to n) followed)
    | _ => readVariant names (s.to n) followed

/-! ## Lists and maps -/

/-- Opens a list or map if fewer than the greatest number are open, and reads on with one less
allowed. -/
def opening {α : Type} (s : Site) (read : (depth : Nat) → Counted α) : Counted α :=
  match s.depth with
  | 0 => .error (.tooDeep s.node.place)
  | depth + 1 => read depth

/-- Reads the items of a list from an index on, in order, with the number of aliases that were
followed handed along. -/
def readItems {α : Type} (read : Site → Nat → Counted α) (list : Path) (depth : Nat) :
    Nat → List Node → Nat → Counted (List α)
  | _, [], followed => .ok ([], followed)
  | index, n :: ns, followed =>
    match read ⟨n, .item list index, depth⟩ followed with
    | .error e => .error e
    | .ok (a, followed) =>
      (readItems read list depth (index + 1) ns followed).map fun (as, followed) =>
        (a :: as, followed)

/-- The way to the value of a key; a key that is no scalar gives a step without a name. -/
def Path.at (map : Path) : (key : Node) → Path
  | .scalar _ _ text _ => .entry map text
  | _ => .unnamed map

/-- Reads the entries of a map: each key and its value, the key at the path of the map and the value
at a path of its own. -/
def readBindings {α β : Type} (readKey : Site → Nat → Counted α)
    (readValue : Site → Nat → Counted β) (map : Path) (depth : Nat) :
    List (Node × Node) → Nat → Counted (List (α × β))
  | [], followed => .ok ([], followed)
  | (key, value) :: es, followed =>
    match readKey ⟨key, map, depth⟩ followed with
    | .error e => .error e
    | .ok (a, followed) =>
      match readValue ⟨value, map.at key, depth⟩ followed with
      | .error e => .error e
      | .ok (b, followed) =>
        (readBindings readKey readValue map depth es followed).map fun (bs, followed) =>
          ((a, b) :: bs, followed)

/-- Reads a list; a node that is left out is an empty one, and anything else is of the wrong
type. -/
def readList (item : Reader) : Reader := fun source s followed =>
  match source.follow s.node followed with
  | .error e => .error e
  | .ok (n, followed) =>
    placing s.path n.place <|
      match n with
      | .list _ items _ =>
        opening (s.to n) fun depth =>
          (readItems (item source) s.path depth 0 items followed).map fun (ds, followed) =>
            (.list ds, followed)
      | n =>
        if n.isAbsent then .ok (.list [], followed)
        else .error (.unplaced (n.wrongType "a sequence"))

/-- Reads the entries of a map; a node that is left out has none. -/
def readEntriesOf (expected : String)
    (read : (depth : Nat) → List (Node × Node) → Nat → Counted Datum) : Reader :=
  fun source s followed =>
    match source.follow s.node followed with
    | .error e => .error e
    | .ok (n, followed) =>
      placing s.path n.place <|
        match n with
        | .map _ entries _ => opening (s.to n) fun depth => read depth entries followed
        | n =>
          if n.isAbsent then read s.depth [] followed
          else .error (.unplaced (n.wrongType expected))

/-- Reads a map whose keys are texts; whether a key may be bound twice is decided where the map is
filled. -/
def readMap (value : Reader) : Reader := fun source s =>
  readEntriesOf "a map" (fun depth entries followed =>
    (readBindings (readText "a string" source) (value source) s.path depth entries followed).map
      fun (ds, followed) => (.map ds, followed)) source s

/-! ## Any value -/

/-- What a scalar is to the branches of a choice, which look only at texts; a number beyond 64 bits
is a mismatch already here. -/
def contentOf : Found → Except Mismatch Content
  | .text s => .ok (.text s)
  | .wide n => .error (.wrongType (.wide n) "any value")
  | _ => .ok .other

/-- Reads any value for a choice between branches, one level of nesting after the other; a tag of
the text's own is refused wherever it stands in it. -/
def readContent (source : Source) : (depth : Nat) → Node → Path → Nat → Counted Content
  | depth, n, path, followed =>
    match source.follow n followed with
    | .error e => .error e
    | .ok (n, followed) =>
      placing path n.place <|
        if n.ownTag?.isSome then .error (.unplaced .taggedBranch)
        else
          match n with
          | .scalar tag style text _ =>
            match (foundScalar tag style text).bind contentOf with
            | .ok content => .ok (content, followed)
            | .error m => .error (.unplaced m)
          | .list _ items place =>
            match depth with
            | 0 => .error (.tooDeep place)
            | depth + 1 =>
              (readItems (fun s => readContent source depth s.node s.path) path depth 0 items
                followed).map fun (cs, followed) => (.list cs, followed)
          | .map _ entries place =>
            match depth with
            | 0 => .error (.tooDeep place)
            | depth + 1 =>
              (readBindings (fun s => readContent source depth s.node s.path)
                (fun s => readContent source depth s.node s.path) path depth entries
                followed).map fun (_, followed) => (.other, followed)
          | .again .. | .cut => .error .cut

/-- Reads any value and compares it with branches, of which the first that fits is taken; the title
names them all in the mismatch. -/
def readEither (title : String) (branches : List Shape) : Reader := fun source s followed =>
  match readContent source s.depth s.node s.path followed with
  | .error e => .error e
  | .ok (content, followed) =>
    match content.firstFit? branches with
    | some d => .ok (d, followed)
    | none => .error (.unplaced (.noBranch title))

/-! ## Records -/

/-- Reads the entries of a record.  Keys without a slot are passed over with their values. -/
def readSlots (slots : List (Slot Reader)) (source : Source) (record : Path) (depth : Nat) :
    Filled → List (Node × Node) → Nat → Counted Filled
  | filled, [], followed => .ok (filled, followed)
  | filled, (key, value) :: es, followed =>
    match readText "field identifier" source ⟨key, record, depth⟩ followed with
    | .error e => .error e
    | .ok (name, followed) =>
      match slots.zipIdx.find? fun (slot, _) => slot.hasKey name with
      | none =>
        if value.isWhole then readSlots slots source record depth filled es followed
        else .error .cut
      | some (slot, i) =>
        if (filled[i]?).join.isSome then .error (.unplaced (.repeated slot.key))
        else
          match slot.read source ⟨value, record.at key, depth⟩ followed with
          | .error e => .error e
          | .ok (d, followed) =>
            readSlots slots source record depth (fill filled i d) es followed

/-- Reads a record from a map: each known key fills its slot, unknown keys are passed over, and the
slots are completed at the end. -/
def readRecord (title : String) (slots : List (Slot Reader)) : Reader := fun source s =>
  readEntriesOf ("struct " ++ title) (fun depth entries followed =>
    match readSlots slots source s.path depth (slots.map fun _ => none) entries followed with
    | .error e => .error e
    | .ok (filled, followed) =>
      match complete slots filled with
      | .ok ds => .ok (.record ds, followed)
      | .error m => .error (.unplaced m)) source s

/-! ## Shapes -/

mutual

/-- Reads a node of a shape, by recursion on the shape: every kind of shape has its own reader, and
the readers of its parts are handed down to it. -/
def readShape : Shape → Reader
  | .text => fun source s followed =>
    (readText "a string" source s followed).map fun (t, followed) => (.text t, followed)
  | .flag => readFlag
  | .count => readCount
  | .optional s => readOptional (readShape s)
  | .list s => readList (readShape s)
  | .map s => readMap (readShape s)
  | .choice _ names => readChoice names
  | .either title branches => readEither title branches
  | .record title es => readRecord title (slotsOf es)

/-- The slots of the entries of a record: the keys by which an entry is found, what its absence
means, and the reader of its shape. -/
def slotsOf : List Entry → List (Slot Reader)
  | [] => []
  | .mk key aliases shape missing _ :: es => ⟨key, aliases, missing, readShape shape⟩ :: slotsOf es

end

/-- Reads the only document of a source.  A fault of the text counts only where the reader found no
other failure before it. -/
def Source.read (source : Source) (shape : Shape) : Except Failure Datum :=
  match readShape shape source ⟨source.root, .root, maxDepth⟩ 0, source.faultOf with
  | .ok (d, _), none => .ok d
  | .ok _, some e => .error (.fault e)
  | .error .cut, some e => .error (.fault e)
  | .error f, _ => .error f

/-- Reads a text with a single document: the text is made a source, and the root of that is read as
a node of the shape. -/
def read (shape : Shape) (text : String) : Except Failure Datum := (Source.ofText text).read shape

end Yaml
end CommitForm
