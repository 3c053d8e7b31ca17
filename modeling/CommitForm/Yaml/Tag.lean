/-
# Tags of YAML texts

A tag is written as a handle and a suffix; the handle stands for the beginning of the tag.

| written | handle | suffix |
| --- | --- | --- |
| `!<text>` | none | `text` |
| `!name!text` | `!name!` | `text` |
| `!text` | `!` | `text` |
| `!` | none | `!` |

Directives say what handles stand for; without one `!` stands for itself and `!!` for the tags of
the core schema.  Escapes in suffixes name octets, so that tags are octet sequences.
-/

import CommitForm.Yaml.Cursor

namespace CommitForm
namespace Yaml

/-- What a tag says about a node: a type of the core schema, or a name that the text gives it. -/
inductive Tag where
  | null
  | flag
  | whole
  | fraction
  /-- A tag of the text's own, without its exclamation mark; unreadable ones have no name. -/
  | own (name : Option String)
  | other
deriving DecidableEq, Repr

/-- The tag that is only an exclamation mark, which keeps a scalar a text whatever it spells and
names no variant. -/
def Tag.bare : Tag := .own (some "!")

/-- The octets of a text in UTF-8.  Tags are compared as octets, because their escapes spell octets
and not characters. -/
def octets (s : String) : List UInt8 := s.toUTF8.toList

/-- The beginning of the tags of the core schema, which is what the handle of two exclamation marks
stands for. -/
def coreTags : List UInt8 := octets "tag:yaml.org,2002:"

/-- The octet of an exclamation mark, with which the tags of the text's own begin. -/
def mark : UInt8 := 33

/-- The text of octets, if they are UTF-8; a tag whose escapes spell anything else has no name. -/
def textOf? (os : List UInt8) : Option String := String.fromUTF8? ⟨os.toArray⟩

/-- The meaning of a tag whose handle has been replaced: a name of the text's own behind an
exclamation mark, one of the types of the core schema, or another tag. -/
def Tag.ofOctets (os : List UInt8) : Tag :=
  match os with
  | o :: name =>
    if o = mark then .own (if name = [] then some "!" else textOf? name)
    else if os = coreTags ++ octets "null" then .null
    else if os = coreTags ++ octets "bool" then .flag
    else if os = coreTags ++ octets "int" then .whole
    else if os = coreTags ++ octets "float" then .fraction
    else .other
  | [] => .other

/-- A tag as it is written: the handle, empty in a tag between angle brackets, and the octets behind
it. -/
structure WrittenTag where
  handle : List Char
  suffix : List UInt8
deriving DecidableEq, Repr

/-- What a handle stands for in a document, from a directive at its head or by default. -/
structure TagDirective where
  handle : List Char
  stem : List UInt8
deriving DecidableEq, Repr

/-- What handles stand for without a directive: one mark stands for itself, and two of them for the
core schema. -/
def TagDirective.defaults : List TagDirective :=
  [⟨['!'], [mark]⟩, ⟨['!', '!'], coreTags⟩]

/-- The meaning of a written tag: the stem of its handle with the suffix behind it.  A handle that
nothing declares has none. -/
def WrittenTag.resolve? (directives : List TagDirective) (t : WrittenTag) : Option Tag :=
  if t.handle = [] then some (.ofOctets t.suffix)
  else (directives.find? (·.handle = t.handle)).map fun d => .ofOctets (d.stem ++ t.suffix)

/-! ## Reading -/

/-- Whether a character may stand in a tag unescaped, the brackets and the comma left out, which the
wide form admits too. -/
def isTagChar (c : Char) : Bool :=
  isNameChar c || ";/?:@&=+$.%!~*'()".toList.contains c

/-- Whether a character may stand in a tag between angle brackets or in a directive. -/
def isWideTagChar (c : Char) : Bool := isTagChar c || c == ',' || c == '[' || c == ']'

/-- The number of octets of a character that begins with an octet, and zero for one that begins no
character. -/
def octetCount (o : Nat) : Nat :=
  if o < 0x80 then 1
  else if o < 0xc0 then 0
  else if o < 0xe0 then 2
  else if o < 0xf0 then 3
  else if o < 0xf8 then 4
  else 0

/-- Reads an escaped octet, a percent sign and two hexadecimal digits; anything else at this place
is a fault of the tag. -/
def readOctet (c : Cursor) : Outcome Nat :=
  match c.rest with
  | '%' :: a :: b :: _ =>
    match hexDigit? a, hexDigit? b with
    | some m, some n => .ok (16 * m + n, c.skip 3)
    | _, _ => c.fail .badTagEscape
  | _ => c.fail .badTagEscape

/-- Reads the further octets of an escaped character, as many as the first one asks for; each must
be one that continues a character. -/
def readFurtherOctets : Nat → Cursor → Outcome (List UInt8)
  | 0, c => .ok ([], c)
  | n + 1, c =>
    match readOctet c with
    | .error e => .error e
    | .ok (o, behind) =>
      if o / 64 = 2 then
        (readFurtherOctets n behind).map fun (os, c) => (UInt8.ofNat o :: os, c)
      else c.fail .badTagEscape

/-- Reads an escaped character, all its octets one after the other, each written as an escape of its
own. -/
def readTagEscape (c : Cursor) : Outcome (List UInt8) :=
  match readOctet c with
  | .error e => .error e
  | .ok (o, behind) =>
    match octetCount o with
    | 0 => c.fail .badTagEscape
    | n + 1 => (readFurtherOctets n behind).map fun (os, c) => (UInt8.ofNat o :: os, c)

/-- Reads the characters of a tag up to the first that cannot stand in it, escapes decoded; the fuel
is the number of characters left. -/
def readTagChars (isChar : Char → Bool) : Nat → Cursor → Outcome (List UInt8)
  | 0, c => .ok ([], c)
  | fuel + 1, c =>
    match c.peek with
    | some '%' =>
      match readTagEscape c with
      | .error e => .error e
      | .ok (os, c) => (readTagChars isChar fuel c).map fun (more, c) => (os ++ more, c)
    | some a =>
      if isChar a then
        (readTagChars isChar fuel (c.skip 1)).map fun (os, c) => (UInt8.ofNat a.toNat :: os, c)
      else .ok ([], c)
    | none => .ok ([], c)

/-- Reads what must not be empty, a suffix or a stem of a tag; an empty one is refused where it
should begin. -/
def readTagText (isChar : Char → Bool) (c : Cursor) : Outcome (List UInt8) :=
  match readTagChars isChar (c.rest.length + 1) c with
  | .ok ([], c) => c.fail .tagExpected
  | r => r

/-- Reads a handle: an exclamation mark, the name behind it and, if it is there, the mark that
closes the handle. -/
def readHandle (c : Cursor) : Outcome (List Char) :=
  if c.peek = some '!' then
    let (name, c) := (c.skip 1).takeWhile isNameChar
    if c.peek = some '!' then .ok ('!' :: name ++ ['!'], c.skip 1) else .ok ('!' :: name, c)
  else c.fail .tagHandleExpected

/-- Whether a handle ends as it begins.  An open one is a handle of one mark with the beginning of
the suffix behind it. -/
def isClosedHandle (handle : List Char) : Bool := 1 < handle.length && handle.getLast? == some '!'

/-- Reads a tag without what has to follow it: one between angle brackets, one with a closed handle,
or one whose handle is a single mark. -/
def readTagBody (c : Cursor) : Outcome WrittenTag :=
  if c.rest[1]? = some '<' then
    match readTagText isWideTagChar (c.skip 2) with
    | .error e => .error e
    | .ok (os, c) =>
      if c.peek = some '>' then .ok (⟨[], os⟩, c.skip 1) else c.fail .tagBracketExpected
  else
    match readHandle c with
    | .error e => .error e
    | .ok (handle, c) =>
      if isClosedHandle handle then
        (readTagText isTagChar c).map fun (os, c) => (⟨handle, os⟩, c)
      else
        match readTagChars isTagChar (c.rest.length + 1) c with
        | .error e => .error e
        | .ok (os, c) =>
          let suffix := octets (String.ofList (handle.drop 1)) ++ os
          .ok (if suffix = [] then ⟨[], [mark]⟩ else ⟨['!'], suffix⟩, c)

/-- Reads a tag and looks at what follows it, which has to be a separation or, inside brackets, a
comma. -/
def readTag (inFlow : Bool) (c : Cursor) : Outcome WrittenTag :=
  match readTagBody c with
  | .error e => .error e
  | .ok (t, c) =>
    if c.atSpace || (inFlow && c.peek == some ',') then .ok (t, c) else c.fail .blankExpected

/-! ## Directives -/

/-- A directive that has been read: a version of the format, or what a handle stands for.  A
directive of another name is refused. -/
inductive Directive where
  | version (major minor : Nat)
  | tag (d : TagDirective)
deriving DecidableEq, Repr

/-- Reads a number of a version, of nine digits at most; which versions can be read is decided by
the parser. -/
def readVersionNumber (c : Cursor) : Outcome Nat :=
  let (ds, behind) := c.takeWhile Char.isDigit
  if ds = [] then c.fail .versionExpected
  else if 9 < ds.length then (c.skip 9).fail .versionTooLong
  else .ok (ds.foldl (fun n d => 10 * n + (d.toNat - 48)) 0, behind)

/-- Reads a version, two numbers with a dot between them, with blanks before the first one. -/
def readVersion (c : Cursor) : Outcome Directive :=
  match readVersionNumber (c.skipWhile isBlank) with
  | .error e => .error e
  | .ok (major, c) =>
    if c.peek = some '.' then
      (readVersionNumber (c.skip 1)).map fun (minor, c) => (.version major minor, c)
    else c.fail .versionPointExpected

/-- Reads a handle and what it stands for, with blanks between the two; the handle has to be a
single mark or closed. -/
def readTagDirective (c : Cursor) : Outcome Directive :=
  match readHandle (c.skipWhile isBlank) with
  | .error e => .error e
  | .ok (handle, c) =>
    if handle ≠ ['!'] ∧ ¬isClosedHandle handle then c.fail .tagHandleExpected
    else if c.sees isBlank then
      match readTagText isWideTagChar (c.skipWhile isBlank) with
      | .error e => .error e
      | .ok (stem, c) =>
        if c.atSpace then .ok (.tag ⟨handle, stem⟩, c) else c.fail .blankExpected
    else c.fail .blankExpected

/-- Reads a directive behind its percent sign, up to the end of its line. -/
def readDirective (c : Cursor) : Outcome Directive :=
  let (name, behind) := c.takeWhile isNameChar
  if name = [] then c.fail .directiveNameExpected
  else if !behind.atSpace then behind.fail .badDirectiveName
  else
    let value :=
      if name = "YAML".toList then readVersion behind
      else if name = "TAG".toList then readTagDirective behind
      else c.fail .unknownDirective
    match value with
    | .error e => .error e
    | .ok (d, c) => (readLineEnd c).map fun ((), c) => (d, c)

end Yaml
end CommitForm
