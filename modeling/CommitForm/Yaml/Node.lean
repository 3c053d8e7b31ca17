/-
# Nodes of YAML texts

A document is a tree of nodes.  Behind a fault there is nothing but a `cut`: the lists and maps that
are open there end with one.

Anchors are numbered.  The number of an anchor is the number of names that are known before it, so
that a name given again takes the number of the next new name.  An alias has the number that its
name has at its place, and stands for the last node of that number in the document.
-/

import CommitForm.NameMap
import CommitForm.Yaml.Event

namespace CommitForm
namespace Yaml

/-- A node of a document, with its tag and place.  `again` is an alias of a node with a number, and
`cut` stands where the events end too early. -/
inductive Node where
  | scalar (tag : Option Tag) (style : Style) (text : String) (place : Place)
  | again (number : Nat) (place : Place)
  | list (tag : Option Tag) (items : List Node) (place : Place)
  | map (tag : Option Tag) (entries : List (Node × Node)) (place : Place)
  | cut
deriving Inhabited

/-- A list or map whose end has not been reached: what it holds so far, last first, and a key
without its value. -/
inductive Frame where
  | list (tag : Option Tag) (items : List Node) (place : Place)
  | map (tag : Option Tag) (entries : List (Node × Node)) (key : Option Node) (place : Place)

namespace Frame

/-- The frame with another node: an item of a list, or by turns a key and its value in a map. -/
def add (n : Node) : Frame → Frame
  | list tag items place => list tag (n :: items) place
  | map tag entries none place => map tag entries (some n) place
  | map tag entries (some key) place => map tag ((key, n) :: entries) none place

/-- The node of a frame, its parts in the order of the text; a key whose value is missing gets a cut
one. -/
def close : Frame → Node
  | list tag items place => .list tag items.reverse place
  | map tag entries none place => .map tag entries.reverse place
  | map tag entries (some key) place => .map tag ((key, .cut) :: entries).reverse place

end Frame

/-- The outermost node when the innermost one and the frames around it are given. -/
def Node.within : List Frame → Node → Node
  | [], n => n
  | f :: frames, n => within frames (f.add n).close

/-- The first node of events, in frames that are open around it; each event opens a frame, closes
one, or adds a node to the innermost. -/
def Node.ofEvents : List Frame → List (Event Nat) → Node
  | frames, [] => .within frames .cut
  | frames, e :: es =>
    let deliver (n : Node) (frames : List Frame) : Node :=
      match frames with
      | [] => n
      | f :: frames => ofEvents (f.add n :: frames) es
    match e.happening with
    | .documentStart | .documentEnd | .streamEnd => .within frames .cut
    | .again number => deliver (.again number e.place) frames
    | .scalar _ tag style text => deliver (.scalar tag style text e.place) frames
    | .listStart _ tag => ofEvents (.list tag [] e.place :: frames) es
    | .mapStart _ tag => ofEvents (.map tag [] none e.place :: frames) es
    | .listEnd | .mapEnd =>
      match frames with
      | [] => .cut
      | f :: frames => deliver f.close frames

/-! ## Anchors -/

/-- The names of anchors and their numbers, the last of a name in place of the earlier ones. -/
abbrev Names := NameMap Nat

/-- The names with an anchor's, and its number, which is the number of names before it; a node
without an anchor changes nothing. -/
def Names.give (ns : Names) : Option String → Names × Option Nat
  | none => (ns, none)
  | some name => (ns.insert name ns.size, some ns.size)

/-- Numbers the anchors and aliases of events, up to an alias of an unknown name. -/
def numbered : Names → List (Event String) → List (Event Nat) × Option Error
  | _, [] => ([], none)
  | ns, e :: es =>
    let go (ns : Names) (h : Happening Nat) : List (Event Nat) × Option Error :=
      let (es, fault) := numbered ns es
      (⟨h, e.place⟩ :: es, fault)
    match e.happening with
    | .documentStart => go ns .documentStart
    | .documentEnd => go ns .documentEnd
    | .streamEnd => go ns .streamEnd
    | .again name =>
      match ns.get? name with
      | some number => go ns (.again number)
      | none => ([], some ⟨.unknownAnchor, e.place⟩)
    | .scalar anchor tag style text =>
      let (ns, number) := ns.give anchor
      go ns (.scalar number tag style text)
    | .listStart anchor tag =>
      let (ns, number) := ns.give anchor
      go ns (.listStart number tag)
    | .listEnd => go ns .listEnd
    | .mapStart anchor tag =>
      let (ns, number) := ns.give anchor
      go ns (.mapStart number tag)
    | .mapEnd => go ns .mapEnd

/-- The number of the anchor of an event, which only the events that begin a node can carry. -/
def Event.anchor? (e : Event Nat) : Option Nat :=
  match e.happening with
  | .scalar anchor _ _ _ => anchor
  | .listStart anchor _ => anchor
  | .mapStart anchor _ => anchor
  | _ => none

/-- The nodes with anchors and their numbers, the last first, each read again from the event that
begins it. -/
def anchored (known : List (Nat × Node)) : List (Event Nat) → List (Nat × Node)
  | [] => known
  | e :: es =>
    match e.anchor? with
    | some number => anchored ((number, .ofEvents [] (e :: es)) :: known) es
    | none => anchored known es

/-! ## Documents -/

/-- The first document of a text, as its reader sees it: the root, the nodes that aliases lead to,
and what limits their use. -/
structure Source where
  root : Node
  /-- The nodes with anchors and their numbers, the last first. -/
  anchored : List (Nat × Node)
  /-- The number of begins, ends, scalars and aliases. -/
  size : Nat
  /-- The fault behind the last node. -/
  fault : Option Error
  /-- Whether anything follows the document. -/
  more : Bool

/-- Whether an event belongs to the content of a document and so counts for its size. -/
def Event.isContent {Name : Type} (e : Event Name) : Bool :=
  match e.happening with
  | .documentStart | .documentEnd | .streamEnd => false
  | _ => true

/-- The first document of events.  A text without a document has an empty one. -/
def Source.ofEvents (es : Events) : Source :=
  match es.list with
  | [⟨.streamEnd, place⟩] => ⟨.scalar none .plain "" place, [], 1, none, false⟩
  | first =>
    let inside := (first.drop 1).takeWhile Event.isContent
    let behind := (first.drop 1).dropWhile Event.isContent
    let (content, unknown) := numbered .empty inside
    let fault := if unknown.isSome then unknown else if behind = [] then es.fault else none
    { root := .ofEvents [] content
      anchored := Yaml.anchored [] content
      size := content.length
      fault
      more := (behind.drop 1).map (·.happening) ≠ [.streamEnd] }

/-- The first document of a text: the text is cut into tokens, the tokens make events, and these
make the nodes. -/
def Source.ofText (text : String) : Source := .ofEvents (.ofTokens (.ofText text))

/-- The first fault of the form of a text, with a second document as one; it is reported only if no
value of the first is at fault. -/
def Source.faultOf (s : Source) : Option Error :=
  match s.fault with
  | some e => some e
  | none => if s.more then some ⟨.manyDocuments, ⟨0, 0⟩⟩ else none

end Yaml
end CommitForm
