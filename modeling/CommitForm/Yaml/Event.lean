/-
# Events of YAML texts

Events are the begins and ends of documents, lists and maps, and the scalars and aliases in them, in
the order of the text.  `Events.ofTokens` answers the events before the first fault, and that fault.

Where a node is left out, an empty plain scalar stands for it.
-/

import CommitForm.Yaml.Tokens

namespace CommitForm
namespace Yaml

/-- What happens in a text in which anchors have names of a type.  `again` is an alias. -/
inductive Happening (Name : Type) where
  | documentStart
  | documentEnd
  | streamEnd
  | again (name : Name)
  | scalar (anchor : Option Name) (tag : Option Tag) (style : Style) (text : String)
  | listStart (anchor : Option Name) (tag : Option Tag)
  | listEnd
  | mapStart (anchor : Option Name) (tag : Option Tag)
  | mapEnd
deriving DecidableEq, Repr

/-- What happens, and where: the place at which a node or a document begins or ends, for
messages. -/
structure Event (Name : Type) where
  happening : Happening Name
  place : Place
deriving DecidableEq, Repr

/-- What a parser expects next, one case for each state of the grammar; what follows an open node
waits in a stack. -/
inductive Expectation where
  | firstDocument
  | document
  | documentContent
  | documentEnd
  | blockNode
  | blockEntry
  /-- An entry of a list that is no deeper than the map that it belongs to. -/
  | flatEntry
  | blockKey
  | blockValue
  | flowEntry (first : Bool)
  /-- The key, the value and the end of a map that is written as a single pair in a list. -/
  | pairKey
  | pairValue
  | pairEnd
  | flowKey (first : Bool)
  | flowValue
  | flowNoValue
  | nothing
deriving DecidableEq, Repr

/-- How far tokens have been parsed, with what is expected next and the handles of the document's
directives. -/
structure Parser where
  tokens : List Token
  /-- The fault behind the tokens. -/
  fault : Option Error
  expects : Expectation
  /-- What is expected behind the open nodes, innermost first. -/
  pending : List Expectation
  directives : List TagDirective

/-- What a parser answers: an event and how to go on, or the fault that ends the text. -/
abbrev Parsed := Except Error (Event String × Parser)

namespace Parser

/-- The next token, or, behind the last one, the fault that ended the scanner's work. -/
def peek (p : Parser) : Except Error Token :=
  match p.tokens with
  | t :: _ => .ok t
  | [] => .error (p.fault.getD ⟨.endInQuoted, ⟨0, 0⟩⟩)

/-- The parser behind the next token, everything else as it was. -/
def advance (p : Parser) : Parser := { p with tokens := p.tokens.tail }

/-- The parser that expects something else next; what waits behind the open nodes stays as it is. -/
def expecting (p : Parser) (e : Expectation) : Parser := { p with expects := e }

/-- The parser that expects a part and then another one, which waits until the part is finished. -/
def expectingThen (p : Parser) (e behind : Expectation) : Parser :=
  { p with expects := e, pending := behind :: p.pending }

/-- The parser behind a node: what was waiting innermost is expected now, and nothing more if
nothing waited. -/
def leave (p : Parser) : Parser :=
  match p.pending with
  | [] => p.expecting .nothing
  | e :: es => { p with expects := e, pending := es }

/-- An event at a place, together with the parser that goes on from it. -/
def emit (p : Parser) (h : Happening String) (place : Place) : Parsed := .ok (⟨h, place⟩, p)

/-- An empty scalar at a place, for a key, a value or an item that is left out. -/
def emitEmpty (p : Parser) (place : Place) : Parsed := p.emit (.scalar none none .plain "") place

/-- A failure at a token, placed where the token begins. -/
def fail {α : Type} (t : Token) (f : Fault) : Except Error α := .error ⟨f, t.start⟩

/-! ## Nodes -/

/-- The properties of a node, the place where the first begins and the place where the last ends. -/
structure Properties where
  anchor : Option String
  tag : Option (WrittenTag × Place)
  span : Option (Place × Place)

/-- Reads an anchor if the next token is one, and widens the span of the node's properties to it. -/
def readAnchor (p : Parser) (r : Properties) : Except Error (Properties × Parser) := do
  let t ← p.peek
  match t.lexeme with
  | .anchor name =>
    .ok ({ r with anchor := String.ofList name, span := ((r.span.map (·.1)).getD t.start, t.stop) },
      p.advance)
  | _ => .ok (r, p)

/-- Reads a tag if the next token is one, with the place where it begins, which a handle that cannot
be resolved is reported at. -/
def readTag (p : Parser) (r : Properties) : Except Error (Properties × Parser) := do
  let t ← p.peek
  match t.lexeme with
  | .tag tag =>
    let start := (r.span.map (·.1)).getD t.start
    .ok ({ r with tag := (tag, t.start), span := (start, t.stop) }, p.advance)
  | _ => .ok (r, p)

/-- Reads an anchor and a tag in either order, each at most once; a second one is left for the node
to refuse. -/
def readProperties (p : Parser) : Except Error (Properties × Parser) := do
  let (r, p) ← p.readAnchor ⟨none, none, none⟩
  let (r, p) ← p.readTag r
  if r.anchor.isNone then p.readAnchor r else return (r, p)

/-- The tag of a node, with its handle replaced by what the document's directives make of it. -/
def resolveTag (p : Parser) (r : Properties) : Except Error (Option Tag) :=
  match r.tag with
  | none => .ok none
  | some (t, place) =>
    match t.resolve? p.directives with
    | some tag => .ok (some tag)
    | none => .error ⟨.unknownTagHandle, place⟩

/-- Parses a node.  Block nodes are allowed or not, and so is a list that is no deeper than the map
that it belongs to. -/
def node (block flat : Bool) (p : Parser) : Parsed := do
  let t ← p.peek
  if let .again name := t.lexeme then
    p.leave.advance.emit (.again (String.ofList name)) t.start
  else
    let first := t.start
    let (r, p) ← p.readProperties
    let start := (r.span.map (·.1)).getD first
    let t ← p.peek
    let tag ← p.resolveTag r
    match t.lexeme with
    | .scalar style text =>
      p.leave.advance.emit
        (.scalar r.anchor (tag.filter (· ≠ .bare)) style (String.ofList text)) start
    | .flowListStart => (p.expecting (.flowEntry true)).advance.emit (.listStart r.anchor tag) start
    | .flowMapStart => (p.expecting (.flowKey true)).advance.emit (.mapStart r.anchor tag) start
    | lexeme =>
      if flat ∧ lexeme = .entry then
        (p.expecting .flatEntry).emit (.listStart r.anchor tag) start
      else if block ∧ lexeme = .listStart then
        (p.expecting .blockEntry).advance.emit (.listStart r.anchor tag) start
      else if block ∧ lexeme = .mapStart then
        (p.expecting .blockKey).advance.emit (.mapStart r.anchor tag) start
      else if r.span.isSome then p.leave.emit (.scalar r.anchor tag .plain "") start
      else fail t .nodeExpected

/-- Parses a node unless a token follows that shows that it is left out. -/
def nodeUnless (p : Parser) (absent : Lexeme → Bool) (block flat : Bool) (behind : Expectation)
    (place : Place) : Parsed := do
  let t ← p.peek
  if absent t.lexeme then (p.expecting behind).emitEmpty place
  else node block flat { p with pending := behind :: p.pending }

/-! ## Documents -/

/-- Whether a version of the format can be read, which is so of 1.1 and 1.2; all others are
refused. -/
def isKnownVersion (major minor : Nat) : Bool := major == 1 && (minor == 1 || minor == 2)

/-- Reads directives up to the mark behind them; `versioned` tells that a version has been read,
since a second one is a fault, as is a handle declared twice. -/
def readDirectives (versioned : Bool) (directives : List TagDirective) :
    Nat → Parser → Except Error (List TagDirective × Parser)
  | 0, p => .ok (directives, p)
  | fuel + 1, p => do
    let t ← p.peek
    match t.lexeme with
    | .directive (.version major minor) =>
      if versioned then fail t .repeatedVersion
      else if !isKnownVersion major minor then fail t .unknownVersion
      else readDirectives true directives fuel p.advance
    | .directive (.tag d) =>
      if directives.any (·.handle = d.handle) then fail t .repeatedTagHandle
      else readDirectives versioned (directives ++ [d]) fuel p.advance
    | _ => .ok (directives, p)

/-- The parser behind extra marks of documents' ends, which stand for nothing between two
documents. -/
def skipEnds (p : Parser) : Parser :=
  { p with tokens := p.tokens.dropWhile fun t => t.lexeme = .documentEnd }

/-- Whether a token begins a document that is marked, by a directive or by the three hyphens
themselves. -/
def opensDocument : Lexeme → Bool
  | .directive _ => true
  | .documentStart => true
  | _ => false

/-- Parses the begin of a document or the end of the text; only the first document may begin without
a mark. -/
def document (first : Bool) (p : Parser) : Parsed := do
  let p := if first then p else p.skipEnds
  let t ← p.peek
  match t.lexeme with
  | .streamEnd => (p.expecting .nothing).emit .streamEnd t.start
  | lexeme =>
    if first ∧ ¬opensDocument lexeme then
      let p := p.expectingThen .blockNode .documentEnd
      emit { p with directives := TagDirective.defaults } .documentStart t.start
    else
      let start := t.start
      let (directives, p) ← readDirectives false [] p.tokens.length p
      let t ← p.peek
      if t.lexeme = .documentStart then
        let p := p.advance.expectingThen .documentContent .documentEnd
        emit { p with directives := directives ++ TagDirective.defaults } .documentStart start
      else fail t .documentStartExpected

/-- Parses what a document holds behind its mark, an empty scalar if another document or the end
follows at once. -/
def documentContent (p : Parser) : Parsed := do
  let t ← p.peek
  match t.lexeme with
  | .directive _ | .documentStart | .documentEnd | .streamEnd => p.leave.emitEmpty t.start
  | _ => p.node true false

/-- Parses the end of a document, marked or not; the handles of its directives are forgotten. -/
def documentEnd (p : Parser) : Parsed := do
  let t ← p.peek
  let p := if t.lexeme = .documentEnd then p.advance else p
  emit { p with expects := .document, directives := [] } .documentEnd t.start

/-! ## Blocks -/

/-- An item of a list in a block of its own, or the end of the list where the block closes. -/
def blockEntry (p : Parser) : Parsed := do
  let t ← p.peek
  match t.lexeme with
  | .entry =>
    p.advance.nodeUnless (fun l => l = .entry ∨ l = .blockEnd) true false .blockEntry t.stop
  | .blockEnd => p.leave.advance.emit .listEnd t.start
  | _ => fail t .entryExpected

/-- An item of a list that is not indented more than the map it stands in, and so has no end of its
own. -/
def flatEntry (p : Parser) : Parsed := do
  let t ← p.peek
  match t.lexeme with
  | .entry =>
    p.advance.nodeUnless (fun l => l = .entry ∨ l = .key ∨ l = .value ∨ l = .blockEnd) true false
      .flatEntry t.stop
  | _ => p.leave.emit .listEnd t.start

/-- Whether a key or value of a block map is left out before a token. -/
def endsBlockPart (l : Lexeme) : Bool := l = .key ∨ l = .value ∨ l = .blockEnd

/-- A key of a map in a block, which may be empty, or the end of the map where the block closes. -/
def blockKey (p : Parser) : Parsed := do
  let t ← p.peek
  match t.lexeme with
  | .key => p.advance.nodeUnless endsBlockPart true true .blockValue t.stop
  | .blockEnd => p.leave.advance.emit .mapEnd t.start
  | _ => fail t .keyExpected

/-- The value behind a key in a block; where no colon follows, or nothing behind it, the value is an
empty scalar. -/
def blockValue (p : Parser) : Parsed := do
  let t ← p.peek
  match t.lexeme with
  | .value => p.advance.nodeUnless endsBlockPart true true .blockKey t.stop
  | _ => (p.expecting .blockKey).emitEmpty t.start

/-! ## Brackets -/

/-- Reads the comma before an item that is not the first; anything else there is a fault of the
brackets. -/
def readComma (first : Bool) (f : Fault) (p : Parser) : Except Error Parser := do
  let t ← p.peek
  if first then return p else if t.lexeme = .flowEntry then return p.advance else fail t f

/-- An item between brackets: a node, a single pair without braces of its own, or the end of the
list. -/
def flowEntry (first : Bool) (p : Parser) : Parsed := do
  let t ← p.peek
  if t.lexeme = .flowListEnd then p.leave.advance.emit .listEnd t.start
  else
    let p ← p.readComma first .listEndExpected
    let t ← p.peek
    match t.lexeme with
    | .key => (p.expecting .pairKey).advance.emit (.mapStart none none) t.start
    | .flowListEnd => p.leave.advance.emit .listEnd t.start
    | _ => node false false { p with pending := .flowEntry false :: p.pending }

/-- Parses the key of a single pair.  A token that shows that the key is left out is passed over. -/
def pairKey (p : Parser) : Parsed := do
  let t ← p.peek
  match t.lexeme with
  | .value | .flowEntry | .flowListEnd => (p.expecting .pairValue).advance.emitEmpty t.stop
  | _ => node false false { p with pending := .pairValue :: p.pending }

/-- The value of a single pair between brackets, an empty scalar where the colon is missing or
nothing follows it. -/
def pairValue (p : Parser) : Parsed := do
  let t ← p.peek
  let p := if t.lexeme = .value then p.advance else p
  let behind ← p.peek
  p.nodeUnless (fun l => t.lexeme ≠ .value ∨ l = .flowEntry ∨ l = .flowListEnd) false false .pairEnd
    behind.start

/-- The end of a single pair between brackets, which has no token of its own. -/
def pairEnd (p : Parser) : Parsed := do
  let t ← p.peek
  (p.expecting (.flowEntry false)).emit .mapEnd t.start

/-- A key between braces, the end of the map, or an item that is only a key, whose value is an empty
scalar. -/
def flowKey (first : Bool) (p : Parser) : Parsed := do
  let t ← p.peek
  if t.lexeme = .flowMapEnd then p.leave.advance.emit .mapEnd t.start
  else
    let p ← p.readComma first .mapEndExpected
    let t ← p.peek
    match t.lexeme with
    | .key =>
      let p := p.advance
      let t ← p.peek
      p.nodeUnless (fun l => l = .value ∨ l = .flowEntry ∨ l = .flowMapEnd) false false .flowValue
        t.start
    | .flowMapEnd => p.leave.advance.emit .mapEnd t.start
    | _ => node false false { p with pending := .flowNoValue :: p.pending }

/-- The value behind a key between braces, an empty scalar where the colon is missing or nothing
follows it. -/
def flowValue (p : Parser) : Parsed := do
  let t ← p.peek
  let p := if t.lexeme = .value then p.advance else p
  let behind ← p.peek
  p.nodeUnless (fun l => t.lexeme ≠ .value ∨ l = .flowEntry ∨ l = .flowMapEnd) false false
    (.flowKey false) behind.start

/-- The empty value of a key between braces that no colon follows, placed at the next token. -/
def flowNoValue (p : Parser) : Parsed := do
  let t ← p.peek
  (p.expecting (.flowKey false)).emitEmpty t.start

/-- The next event, by what is expected, one function for each expectation; an ended text answers
with its end again and again. -/
def next (p : Parser) : Parsed :=
  match p.expects with
  | .firstDocument => p.document true
  | .document => p.document false
  | .documentContent => p.documentContent
  | .documentEnd => p.documentEnd
  | .blockNode => p.node true false
  | .blockEntry => p.blockEntry
  | .flatEntry => p.flatEntry
  | .blockKey => p.blockKey
  | .blockValue => p.blockValue
  | .flowEntry first => p.flowEntry first
  | .pairKey => p.pairKey
  | .pairValue => p.pairValue
  | .pairEnd => p.pairEnd
  | .flowKey first => p.flowKey first
  | .flowValue => p.flowValue
  | .flowNoValue => p.flowNoValue
  | .nothing => p.emit .streamEnd ⟨0, 0⟩

end Parser

/-- The events of a text, and the fault behind them if it has one; readers see the events before it
first. -/
structure Events where
  list : List (Event String)
  fault : Option Error

/-- The events from a parser on, up to the end of the text or the first fault; the fuel bounds their
number. -/
def Events.ofParser : Nat → Parser → Events
  | 0, _ => ⟨[], none⟩
  | fuel + 1, p =>
    match p.next with
    | .error e => ⟨[], some e⟩
    | .ok (e, p) =>
      if e.happening = .streamEnd then ⟨[e], none⟩
      else
        let es := Events.ofParser fuel p
        { es with list := e :: es.list }

/-- The events of tokens.  A token belongs to at most six events, which is what the fuel is counted
by. -/
def Events.ofTokens (ts : Tokens) : Events :=
  Events.ofParser (6 * ts.list.length + 10) ⟨ts.list, ts.fault, .firstDocument, [], []⟩

end Yaml
end CommitForm
