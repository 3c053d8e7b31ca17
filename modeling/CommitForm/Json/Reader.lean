/-
# Reading JSON along a shape

`read` reads a text as a datum of a shape, or answers the first fault.

| shape | JSON |
| --- | --- |
| `text`, `flag`, `count` | a string, a boolean, a number |
| `optional s` | `null`, or what `s` takes |
| `list s` | an array |
| `map s` | an object |
| `choice` | the name as a string, or as the only key of an object with the value `null` |
| `either` | any value, compared with the branches in order |
| `record` | an object, or an array of the entries in order |

A mismatch is reported behind the value that it is found in; one that concerns a whole array or
object is reported where that ends, after its closing bracket if it has one.  Values nested more
than `maxDepth` deep are refused where they are built.
-/

import CommitForm.Json.Skip

namespace CommitForm
namespace Json

open Document

/-- How many brackets may be open at once, and one more: the bracket of this number is refused. -/
def maxDepth : Nat := 128

/-! ## Brackets -/

/-- Expects the end of an array: the place behind it, or a fault at the place where it is missing.
-/
def endList (c : Cursor) : Option Fault × Cursor :=
  let c := c.skipBlanks
  match c.peek with
  | none => (some .endInList, c)
  | some ']' => (none, c.advance)
  | some ',' =>
    let c := c.advance.skipBlanks
    (some (if c.peek = some ']' then .trailingComma else .trailingCharacters), c)
  | some _ => (some .trailingCharacters, c)

/-- Expects the end of an object behind its last entry, and tells the fault if it is not there. -/
def endObject (c : Cursor) : Option Fault × Cursor :=
  let c := c.skipBlanks
  match c.peek with
  | none => (some .endInObject, c)
  | some '\x7d' => (none, c.advance)
  | some ',' => (some .trailingComma, c)
  | some _ => (some .trailingCharacters, c)

/-- Closes an array or object after its content has been read.  A mismatch of the content is placed
where the closing bracket has been looked for. -/
def closing {α : Type} (close : Cursor → Option Fault × Cursor) : Outcome α → Outcome α
  | .error (.placed e) => .error (.placed e)
  | .error (.unplaced m c) => (close c).2.mismatch m
  | .ok (a, c) =>
    match close c with
    | (none, c) => .ok (a, c)
    | (some f, c) => c.failNext f

/-- Whether another item of an array follows; `first` tells that none has been read. -/
def hasItem (first : Bool) (c : Cursor) : Outcome Bool :=
  let c := c.skipBlanks
  match c.peek with
  | none => c.failNext .endInList
  | some ']' => .ok (false, c)
  | some a =>
    if first then .ok (true, c)
    else if a = ',' then
      let c := c.advance.skipBlanks
      match c.peek with
      | none => c.failNext .endInValue
      | some ']' => c.failNext .trailingComma
      | some _ => .ok (true, c)
    else c.failNext .commaExpectedInList

/-- Whether another entry of an object follows, and the place of its key if so.  A comma that no
entry follows is a fault of its own. -/
def hasEntry (first : Bool) (c : Cursor) : Outcome Bool :=
  let c := c.skipBlanks
  match c.peek with
  | none => c.failNext .endInObject
  | some '\x7d' => .ok (false, c)
  | some a =>
    if first then if a = '"' then .ok (true, c) else c.failNext .keyExpected
    else if a = ',' then
      let c := c.advance.skipBlanks
      match c.peek with
      | none => c.failNext .endInValue
      | some '"' => .ok (true, c)
      | some '\x7d' => c.failNext .trailingComma
      | some _ => c.failNext .keyExpected
    else c.failNext .commaExpectedInObject

/-- Reads the colon behind a key, with the blanks in front of it; an end of the text here is an end
inside an object, and any other character has its own fault. -/
def readColon (c : Cursor) : Outcome Unit :=
  let c := c.skipBlanks
  match c.peek with
  | none => c.failNext .endInObject
  | some ':' => .ok ((), c.advance)
  | some _ => c.failNext .colonExpected

/-- Reads the items of an array, up to its closing bracket, which is left.  Each round takes a
character. -/
def readItems {α : Type} (item : Cursor → Outcome α) : Nat → Bool → Cursor → Outcome (List α)
  | 0, _, c => c.failNext .endInList
  | fuel + 1, first, c =>
    match hasItem first c with
    | .error e => .error e
    | .ok (false, c) => .ok ([], c)
    | .ok (true, c) =>
      match item c with
      | .error e => .error e
      | .ok (a, c) => (readItems item fuel false c).map fun (as, c) => (a :: as, c)

/-- Reads the entries of an object: each key, the colon and what belongs to the key. -/
def readBindings {α : Type} (value : Cursor → Outcome α) :
    Nat → Bool → Cursor → Outcome (List (String × α))
  | 0, _, c => c.failNext .endInObject
  | fuel + 1, first, c =>
    match hasEntry first c with
    | .error e => .error e
    | .ok (false, c) => .ok ([], c)
    | .ok (true, c) =>
      match readString c.advance with
      | .error e => .error e
      | .ok (key, c) =>
        match readColon c with
        | .error e => .error e
        | .ok ((), c) =>
          match value c with
          | .error e => .error e
          | .ok (a, c) =>
            (readBindings value fuel false c).map fun (as, c) => ((key, a) :: as, c)

/-! ## Values that do not fit -/

/-- The failure of a value that is not of the expected type.  The value is read as far as it is
needed to name it. -/
def wrongType {α : Type} (expected : String) (c : Cursor) : Outcome α :=
  let report (found : Found) (c : Cursor) : Outcome α := c.mismatch (.wrongType found expected)
  let word (w : List Char) (found : Found) : Outcome α :=
    match readWord w c.advance with
    | .error e => .error e
    | .ok ((), c) => report found c
  let numeral (r : Outcome Numeral) : Outcome α :=
    match r with
    | .error e => .error e
    | .ok (n, c) => report n.found c
  match c.peekOrNull with
  | 'n' => word ['u', 'l', 'l'] .empty
  | 't' => word ['r', 'u', 'e'] (.flag true)
  | 'f' => word ['a', 'l', 's', 'e'] (.flag false)
  | '-' => numeral (readNumeral false c.advance)
  | '"' =>
    match readString c.advance with
    | .error e => .error e
    | .ok (s, c) => report (.text s) c
  | '[' => report .list c
  | '\x7b' => report .map c
  | a => if a.isDigit then numeral (readNumeral true c) else c.failNext .valueExpected

/-- Skips blanks and reads a value that has to follow, given the character that it begins with. -/
def readValue {α : Type} (read : Char → Cursor → Outcome α) (c : Cursor) : Outcome α :=
  let c := c.skipBlanks
  match c.peek with
  | none => c.failNext .endInValue
  | some a => read a c

/-! ## Scalars -/

/-- Reads a text; `expected` is what a message says was expected where there is none. -/
def readText (expected : String) : Cursor → Outcome String :=
  readValue fun a c => if a = '"' then readString c.advance else wrongType expected c

/-- Reads a flag, `true` or `false`, letter by letter, so that a word cut short is reported where it
breaks off; any other value is not of the expected type. -/
def readFlag : Cursor → Outcome Datum :=
  readValue fun a c =>
    if a = 't' then (readWord ['r', 'u', 'e'] c.advance).map fun ((), c) => (.flag true, c)
    else if a = 'f' then
      (readWord ['a', 'l', 's', 'e'] c.advance).map fun ((), c) => (.flag false, c)
    else wrongType "a boolean" c

/-- The count that a number stands for; fractions stand for none, not even whole ones. -/
def countOfNumeral : Numeral → Except Mismatch Datum
  | .whole n => countOf n
  | .fraction x => .error (.wrongType (.fraction x) "u32")

/-- Reads a count.  A number out of range is a mismatch behind the number. -/
def readCount : Cursor → Outcome Datum :=
  readValue fun a c =>
    let numeral (r : Outcome Numeral) : Outcome Datum :=
      match r with
      | .error e => .error e
      | .ok (n, c) =>
        match countOfNumeral n with
        | .ok d => .ok (d, c)
        | .error m => c.mismatch m
    if a = '-' then numeral (readNumeral false c.advance)
    else if a.isDigit then numeral (readNumeral true c)
    else wrongType "u32" c

/-- Reads the name of a variant, a text that has to be one of those that are given; the mismatch
lists them all, as the message does. -/
def readName (names : List String) (c : Cursor) : Outcome String :=
  match readText "variant identifier" c with
  | .error e => .error e
  | .ok (name, c) =>
    if names.contains name then .ok (name, c) else c.mismatch (.unknownVariant name names)

/-- Reads `null`, which is all that may stand as the content of a variant that carries none when it
is written as an object. -/
def readNull : Cursor → Outcome Unit :=
  readValue fun a c => if a = 'n' then readWord ['u', 'l', 'l'] c.advance else wrongType "unit" c

/-- Opens a bracket if fewer than the greatest number are open, and reads on with one less to be
opened. -/
def opening {α : Type} (depth : Nat) (c : Cursor) (read : Nat → Cursor → Outcome α) : Outcome α :=
  match depth with
  | depth + 2 => read (depth + 1) c.advance
  | _ => c.failNext .tooDeep

/-- Reads a variant: its name by itself, or an object with this name for its key and `null` behind
it. -/
def readChoice (names : List String) (depth : Nat) (c : Cursor) : Outcome Datum :=
  let c := c.skipBlanks
  match c.peek with
  | none => c.failNext .endInValue
  | some '"' => (readName names c).map fun (name, c) => (.variant name, c)
  | some '\x7b' =>
    opening depth c fun _ c =>
      match readName names c with
      | .error e => .error e
      | .ok (name, c) =>
        match readColon c with
        | .error e => .error e
        | .ok ((), c) =>
          match readNull c with
          | .error e => .error e
          | .ok ((), c) =>
            let c := c.skipBlanks
            match c.peek with
            | none => c.failHere .endInObject
            | some '\x7d' => .ok (.variant name, c.advance)
            | some _ => c.failHere .valueExpected
  | some _ => c.failNext .valueExpected

/-! ## Any value -/

/-- Reads any value, and keeps of it what the branches of an alternative look at.  `depth` brackets
less one may still be opened. -/
def readContent : (depth : Nat) → Cursor → Outcome Content
  | depth, c =>
    let c := c.skipBlanks
    let other (r : Outcome Unit) : Outcome Content := r.map fun ((), c) => (.other, c)
    let numeral (r : Outcome Numeral) : Outcome Content := r.map fun (_, c) => (.other, c)
    match c.peek with
    | none => c.failNext .endInValue
    | some 'n' => other (readWord ['u', 'l', 'l'] c.advance)
    | some 't' => other (readWord ['r', 'u', 'e'] c.advance)
    | some 'f' => other (readWord ['a', 'l', 's', 'e'] c.advance)
    | some '-' => numeral (readNumeral false c.advance)
    | some '"' => (readString c.advance).map fun (s, c) => (.text s, c)
    | some '[' =>
      match depth with
      | depth + 2 =>
        closing endList <|
          (readItems (readContent (depth + 1)) (c.rest.length + 1) true c.advance).map
            fun (items, c) => (.list items, c)
      | _ => c.failNext .tooDeep
    | some '\x7b' =>
      match depth with
      | depth + 2 =>
        closing endObject <|
          (readBindings (readContent (depth + 1)) (c.rest.length + 1) true c.advance).map
            fun (_, c) => (.other, c)
      | _ => c.failNext .tooDeep
    | some a => if a.isDigit then numeral (readNumeral true c) else c.failNext .valueExpected

/-! ## Records -/

/-- Reads the value at a cursor when brackets may be opened to a depth. -/
abbrev Reader := (depth : Nat) → Cursor → Outcome Datum

/-- Reads the entries of a record from an object.  Keys without a slot are skipped. -/
def readEntries (slots : List (Slot Reader)) (depth : Nat) :
    Nat → Bool → Filled → Cursor → Outcome Filled
  | 0, _, _, c => c.failNext .endInObject
  | fuel + 1, first, filled, c =>
    match hasEntry first c with
    | .error e => .error e
    | .ok (false, c) => .ok (filled, c)
    | .ok (true, c) =>
      match readString c.advance with
      | .error e => .error e
      | .ok (key, c) =>
        match slots.zipIdx.find? fun (s, _) => s.hasKey key with
        | none =>
          match readColon c with
          | .error e => .error e
          | .ok ((), c) =>
            match skipValue c with
            | .error e => .error e
            | .ok ((), c) => readEntries slots depth fuel false filled c
        | some (s, i) =>
          if (filled[i]?).join.isSome then .error (.unplaced (.repeated s.key) c)
          else
            match readColon c with
            | .error e => .error e
            | .ok ((), c) =>
              match s.read depth c with
              | .error e => .error e
              | .ok (d, c) => readEntries slots depth fuel false (fill filled i d) c

/-- Reads the entries of a record from an array, in the order of the slots; missing entries are a
mismatch in length. -/
def readPositional (title : String) (size : Nat) (depth : Nat) :
    (slots : List (Slot Reader)) → (index : Nat) → Cursor → Outcome (List Datum)
  | [], _, c => .ok ([], c)
  | s :: ss, index, c =>
    match hasItem (index = 0) c with
    | .error e => .error e
    | .ok (true, c) =>
      match s.read depth c with
      | .error e => .error e
      | .ok (d, c) =>
        (readPositional title size depth ss (index + 1) c).map fun (ds, c) => (d :: ds, c)
    | .ok (false, c) =>
      match s.missing with
      | some d =>
        (readPositional title size depth ss (index + 1) c).map fun (ds, c) => (d :: ds, c)
      | none => .error (.unplaced (.wrongLength index (recordOfSize title size)) c)

/-- Reads a record, from an object by the names of its fields or from an array by their order; the
nesting is counted in both, and what is no longer needed has to end there. -/
def readRecord (title : String) (slots : List (Slot Reader)) (depth : Nat) :
    Cursor → Outcome Datum :=
  readValue fun a c =>
    if a = '[' then
      opening depth c fun depth c =>
        closing endList <|
          (readPositional title slots.length depth slots 0 c).map fun (ds, c) => (.record ds, c)
    else if a = '\x7b' then
      opening depth c fun depth c =>
        closing endObject <|
          match readEntries slots depth (c.rest.length + 1) true (slots.map fun _ => none) c with
          | .error e => .error e
          | .ok (filled, c) =>
            match complete slots filled with
            | .ok ds => .ok (.record ds, c)
            | .error m => .error (.unplaced m c)
    else wrongType ("struct " ++ title) c

/-! ## Shapes -/

/-- Reads `null`, or what a reader takes.  A single `n` decides for `null`, so a misspelt word is a
fault of the text and not of the type. -/
def readOptional (read : Reader) : Reader := fun depth c =>
  let c := c.skipBlanks
  if c.peek = some 'n' then
    (readWord ['u', 'l', 'l'] c.advance).map fun ((), c) => (.absent, c)
  else (read depth c).map fun (d, c) => (.present d, c)

/-- Reads an array whose items are all read by one reader, one level deeper; the number of
characters that are left bounds the number of items. -/
def readList (item : Reader) : Reader := fun depth =>
  readValue fun a c =>
    if a = '[' then
      opening depth c fun depth c =>
        closing endList <|
          (readItems (item depth) (c.rest.length + 1) true c).map fun (ds, c) => (.list ds, c)
    else wrongType "a sequence" c

/-- Reads an object of any keys whose values are all read by one reader, one level deeper; what a
key bound twice means is left to the map. -/
def readMap (value : Reader) : Reader := fun depth =>
  readValue fun a c =>
    if a = '\x7b' then
      opening depth c fun depth c =>
        closing endObject <|
          (readBindings (value depth) (c.rest.length + 1) true c).map fun (ds, c) => (.map ds, c)
    else wrongType "a map" c

/-- Reads any value whole, with no shape in mind, and compares it with the branches one after the
other; the first that fits is taken, and the title names them all in the mismatch. -/
def readEither (title : String) (branches : List Shape) : Reader := fun depth c =>
  match readContent depth c with
  | .error e => .error e
  | .ok (content, c) =>
    match content.firstFit? branches with
    | some d => .ok (d, c)
    | none => .error (.unplaced (.noBranch title) c)

mutual

/-- Reads a value of a shape, by recursion on the shape: every kind of shape has its own reader, and
the readers of its parts are handed down to it. -/
def readShape : Shape → Reader
  | .text => fun _ c => (readText "a string" c).map fun (s, c) => (.text s, c)
  | .flag => fun _ => readFlag
  | .count => fun _ => readCount
  | .optional s => readOptional (readShape s)
  | .list s => readList (readShape s)
  | .map s => readMap (readShape s)
  | .choice _ names => readChoice names
  | .either title branches => readEither title branches
  | .record title es => readRecord title (slotsOf es)

/-- The slots of the entries of a record: the keys by which an entry is found, what its absence
means, and the reader of its shape. -/
def slotsOf : List Entry → List (Slot Reader)
  | [] => []
  | .mk key aliases shape missing _ :: es => ⟨key, aliases, missing, readShape shape⟩ :: slotsOf es

end

/-- Reads a text that holds a value of a shape and nothing else but blanks around it.  A mismatch
without a place is reported without one. -/
def read (shape : Shape) (text : String) : Except Error Datum :=
  match readShape shape maxDepth (.start text) with
  | .error (.placed e) => .error e
  | .error (.unplaced m _) => .error ⟨.mismatch m, none⟩
  | .ok (d, c) =>
    let c := c.skipBlanks
    match c.peek with
    | none => .ok d
    | some _ => .error (c.faultNext .trailingCharacters)

end Json
end CommitForm
