/-
# Repositories and their branches

A directory with an entry `.git` is a repository.  Its branches are recorded in two ways:

| record | branches |
| --- | --- |
| a file below `.git/refs/heads` | its path from there |
| a line of `.git/packed-refs` with `refs/heads/` behind its first blank | what follows |

`Repository.branches` lists the branches of both in increasing order, each once.  It is given the
path of a repository, which need not be one: where no directory `.git` is found there, for whatever
reason, the path of that directory is said to be none.
-/

import CommitForm.Files
import CommitForm.NameMap
import CommitForm.Text.Between

namespace CommitForm
namespace Repository

/-- The name of the entry that marks a repository.  To be found from below it need not be a
directory; to list branches it has to be one. -/
def mark : String := ".git"

/-- The nearest repository among a directory and the directories around it, from the inside out. -/
def around : Node → (names : List String) → (parents : List Node) → Option Spot
  | node, names, [] => if (node.entry? mark).isSome then some ⟨node, names, []⟩ else none
  | node, names, parent :: parents =>
    if (node.entry? mark).isSome then some ⟨node, names, parent :: parents⟩
    else around parent names.tail parents

end Repository

/-- The repository that a place lies in: the place itself or the nearest directory around it with a
mark. -/
def Spot.repository? (s : Spot) : Option Spot := Repository.around s.node s.names s.parents

namespace Repository

/-! ## Branches -/

mutual

/-- The paths of the files among entries, in their order, each behind a given text.  Files in
directories are included. -/
def filesAmong (before : String) : List (String × Node) → List String
  | [] => []
  | e :: es => filesAt before e ++ filesAmong before es

/-- The paths of the files at an entry: the entry itself if it is a file, otherwise those below
it. -/
def filesAt (before : String) : String × Node → List String
  | (name, node) => filesOf (before ++ name) node

/-- The path of a file, or the paths of the files in a directory. -/
def filesOf (path : String) : Node → List String
  | .file _ => [path]
  | .dir entries => filesAmong (path ++ "/") entries

end

/-- The branch that a line of packed references names.  Comments, and lines about tags and remote
branches, name none. -/
def packedBranch? (line : String) : Option String :=
  match Text.behind? [' '] line.toList with
  | some reference => (Text.dropStart? "refs/heads/".toList reference).map String.ofList
  | none => none

/-- The branches that packed references name, line by line and with repetitions. -/
def packedBranches (text : String) : List String :=
  (Text.sourceLines text).filterMap packedBranch?

/-- Names in increasing order, each once.  Texts are ordered by their characters, which is also the
order of their bytes. -/
def inOrder (names : List String) : List String :=
  NameMap.names (NameMap.ofList (names.map fun name => (name, ())))

/-- What is read, or something else where nothing is there to be read.  All other faults remain. -/
def ifFound {α : Type} (absent : α) : Except FileFault α → Except FileFault α
  | .error .missing => .ok absent
  | r => r

/-- The entries of the directory at a path, or why there is no such directory. -/
def entriesAt (here : Spot) (path : String) : Except FileFault (List (String × Node)) :=
  (here.locate path).bind Spot.entries

/-- The path of the directory of heads, in a directory that marks a repository. -/
def headsPath (marked : String) : String := Spot.join (Spot.join marked "refs") "heads"

/-- The path of the packed references in a directory that marks a repository; they are one file. -/
def packedPath (marked : String) : String := Spot.join marked "packed-refs"

/-- The branches that are recorded in a directory that marks a repository, or why they cannot be
read.  Either record may be absent. -/
def recorded (here : Spot) (marked : String) : Except String (List String) := do
  let heads ←
    (ifFound [] (entriesAt here (headsPath marked))).mapError fun f =>
      "failed to read branches: " ++ f.message
  let packed ←
    (ifFound "" (here.read (packedPath marked))).mapError fun f =>
      "failed to read packed-refs: " ++ f.message
  return inOrder (filesAmong "" heads ++ packedBranches packed)

/-- The branches of the repository at a path, or why they cannot be listed.  Only a mark that is a
directory records branches. -/
def branches (here : Spot) (repository : String) : Except String (List String) :=
  let marked := Spot.join repository mark
  match entriesAt here marked with
  | .ok _ => recorded here marked
  | .error _ => .error (marked ++ " is not a git directory")

end Repository
end CommitForm
