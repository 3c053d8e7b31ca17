/-
# Files

A tree of directories and files, and places in it.  A path is walked from a directory, or from the
root of the tree if it begins with a slash, one component after the other; every component but the
last has to be a directory.

| component | leads |
| --- | --- |
| empty, `.` | nowhere else |
| `..` | to the directory around, at the root nowhere else |
| a name | to the entry of that name |
-/

import CommitForm.Text.Lines

namespace CommitForm

/-- A file or a directory.  A file without a text holds bytes that are none. -/
inductive Node where
  | file (text : Option String)
  | dir (entries : List (String × Node))
deriving Inhabited

/-- Why a path leads to nothing or cannot be read: the faults that a tree of files can have, without
those of permissions and devices. -/
inductive FileFault where
  | missing | notADirectory | isADirectory | nameTooLong | badName | notText
deriving DecidableEq, Repr

/-- A fault in the words of the system, with its number where the system gives one. -/
def FileFault.message : FileFault → String
  | missing => "No such file or directory (os error 2)"
  | notADirectory => "Not a directory (os error 20)"
  | isADirectory => "Is a directory (os error 21)"
  | nameTooLong => "File name too long (os error 36)"
  | badName => "file name contained an unexpected NUL byte"
  | notText => "stream did not contain valid UTF-8"

namespace Node

/-- The entry of a name in a directory, the first if there are several; a file has none. -/
def entry? (name : String) : Node → Option Node
  | file _ => none
  | dir entries => (entries.find? (·.1 = name)).map Prod.snd

/-- A directory with nothing in it, as it is made on the way to a new file. -/
def emptyDir : Node := dir []

/-- Changes the node at a path.  Directories on the way are made, the node itself too. -/
def update (change : Node → Node) : List String → Node → Node
  | [], here => change here
  | name :: path, here =>
    let entries :=
      match here with
      | dir entries => entries
      | file _ => []
    let inner := update change path ((here.entry? name).getD emptyDir)
    if entries.any (·.1 = name) then
      dir (entries.map fun e => if e.1 = name then (name, inner) else e)
    else dir (entries ++ [(name, inner)])

/-- Writes a file, whose text is `none` for bytes that are no text; directories on the way are
made. -/
def write (path : List String) (text : Option String) (tree : Node) : Node :=
  tree.update (fun _ => file text) path

/-- Makes a directory unless something is there already, which is then left as it is. -/
def makeDir (path : List String) (tree : Node) : Node := tree.update id path

end Node

/-- The components of a path: what stands between its slashes, empty texts included. -/
def components (path : String) : List String :=
  (Text.splitAtChar '/' path.toList).map String.ofList

/-- A place in a tree: the node there, its name, and the directories around it from the inside out,
each with its name. -/
structure Spot where
  node : Node
  /-- The names of the node and of the directories around it, without the root. -/
  names : List String
  /-- The directories around the node. -/
  parents : List Node

namespace Spot

/-- The root of a tree, which has no name and nothing around it. -/
def root (tree : Node) : Spot := ⟨tree, [], []⟩

/-- The root of the tree that a place lies in, from where absolute paths are walked. -/
def top (s : Spot) : Spot := root (s.parents.getLast?.getD s.node)

/-- The longest name of an entry, in bytes; longer ones are a fault before anything is looked
for. -/
def maxNameLength : Nat := 255

/-- Follows one component of a path from a directory.  At the root, the directory around is the root
itself. -/
def step (s : Spot) (component : String) : Except FileFault Spot :=
  match s.node with
  | .file _ => .error .notADirectory
  | .dir _ =>
    if component = "" ∨ component = "." then .ok s
    else if component = ".." then
      match s.parents with
      | [] => .ok s
      | parent :: parents => .ok ⟨parent, s.names.tail, parents⟩
    else if maxNameLength < component.utf8ByteSize then .error .nameTooLong
    else
      match s.node.entry? component with
      | some node => .ok ⟨node, component :: s.names, s.node :: s.parents⟩
      | none => .error .missing

/-- Follows the components of a path one after the other, up to the first fault. -/
def walk (s : Spot) : List String → Except FileFault Spot
  | [] => .ok s
  | c :: cs =>
    match s.step c with
    | .ok s => walk s cs
    | .error f => .error f

/-- The longest path, in bytes; longer ones are a fault before they are walked. -/
def maxPathLength : Nat := 4095

/-- The place of a path, walked from here or from the root, or the first fault on the way. -/
def locate (s : Spot) (path : String) : Except FileFault Spot :=
  if path = "" then .error .missing
  else if path.toList.contains '\x00' then .error .badName
  else if maxPathLength < path.utf8ByteSize then .error .nameTooLong
  else if path.front = '/' then s.top.walk (components path)
  else s.walk (components path)

/-- The path of an entry of a given name, in the directory at a path: a slash is put between them
unless the path is empty or ends with one. -/
def join (path name : String) : String :=
  if path.toList.getLast?.all (· = '/') then path ++ name else path ++ "/" ++ name

/-- Whether a path leads to something, be it a file or a directory. -/
def leadsTo (s : Spot) (path : String) : Bool := (s.locate path).toBool

/-- The text of a file; a directory has none, and neither has a file of bytes that are no text. -/
def text : Spot → Except FileFault String
  | ⟨.dir _, _, _⟩ => .error .isADirectory
  | ⟨.file (some text), _, _⟩ => .ok text
  | ⟨.file none, _, _⟩ => .error .notText

/-- Reads the file of a path, or answers why it cannot be read. -/
def read (s : Spot) (path : String) : Except FileFault String :=
  match s.locate path with
  | .ok s => s.text
  | .error f => .error f

/-- The entries of a directory; a file has none and is a fault. -/
def entries : Spot → Except FileFault (List (String × Node))
  | ⟨.dir entries, _, _⟩ => .ok entries
  | ⟨.file _, _, _⟩ => .error .notADirectory

/-- The path of a place from the root of its tree, which begins with a slash. -/
def path (s : Spot) : String := "/" ++ String.intercalate "/" s.names.reverse

end Spot

end CommitForm
