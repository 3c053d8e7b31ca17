/-
# The program

The files that a call may read are read into a tree, the call is run on it, and what it leaves
behind is printed.
-/

import CommitForm.Command.Run

namespace CommitForm
namespace Command

/-- The names that lead from the root to a path, without looking at any file. -/
def namesTo (here : List String) (path : String) : List String :=
  let start := if path.startsWith "/" then [] else here
  ((components path).foldl (fun names c =>
    if c = "" ∨ c = "." then names else if c = ".." then names.tail else c :: names)
    start.reverse).reverse

/-- The paths that a call may read, so that these and no others are looked up. -/
def pathsOf (arguments : List String) : List String :=
  match Call.ofArguments arguments with
  | .ok ⟨_, .compile form values _⟩ => form :: values.file.toList
  | .ok ⟨_, .fields form values _ _⟩ => form :: values.file.toList
  | .ok ⟨_, .check form⟩ => [form]
  | _ => []

/-- Reads the file or directory at an entry; a link counts as what it leads to. -/
partial def readEntry (e : IO.FS.DirEntry) : IO Node := do
  if ← e.path.isDir then
    let entries ← e.path.readDir
    return .dir (← entries.toList.mapM fun e => return (e.fileName, ← readEntry e))
  else return .file (String.fromUTF8? (← IO.FS.readBinFile e.path))

/-- Adds what names lead to: the text of a file, or a directory without its entries. -/
def addNode (tree : Node) (names : List String) : IO Node := do
  let path := (← IO.currentDir) / ("/" ++ String.intercalate "/" names)
  if ← path.isDir then return tree.makeDir names
  else if ← path.pathExists then
    return tree.write names (String.fromUTF8? (← IO.FS.readBinFile path))
  else return tree

/-- The beginnings of a list, the shortest first and the list itself last. -/
def beginnings (names : List String) : List (List String) :=
  (List.range (names.length + 1)).map names.take

/-- Adds what names lead to, and the directories around it, from the root on. -/
def addPath (tree : Node) (names : List String) : IO Node :=
  (beginnings names).foldlM addNode tree

/-- Adds the record of the branches of a repository that a directory may be. -/
def addBranches (tree : Node) (directory : List String) : IO Node := do
  let marked := directory ++ [Repository.mark]
  let tree ← addPath tree (marked ++ ["packed-refs"])
  let refs := (← IO.currentDir) / ("/" ++ String.intercalate "/" (marked ++ ["refs"]))
  let tree ← addPath tree (marked ++ ["refs", "heads"])
  if ← (refs / "heads").isDir then
    let heads ← readEntry ⟨refs, "heads"⟩
    return tree.update (fun _ => heads) (marked ++ ["refs", "heads"])
  else return tree

/-- The working directory in a tree of the files that a call may read. -/
def readHere (arguments : List String) : IO Spot := do
  let here := namesTo [] (← IO.currentDir).toString
  let tree ← (pathsOf arguments).foldlM (fun tree path => addPath tree (namesTo here path))
    (Node.emptyDir.makeDir here)
  let tree ← (beginnings here).foldlM addBranches tree
  return ((Spot.root tree).walk here).toOption.getD (Spot.root tree)

/-- The values of the variables of the settings that are set. -/
def readVariables : IO (List (String × String)) := do
  let names := [levelVariable, timeoutVariable, reduceVariable]
  let values ← names.mapM fun name => return (name, ← IO.getEnv name)
  return values.filterMap fun (name, value) => value.map fun v => (name, v)

/-- Prints what a run leaves behind and answers its code; a report is printed behind the output. -/
def Transcript.print (t : Transcript) : IO UInt32 := do
  (← IO.getStderr).putStr (Notice.texts true t.notices)
  (← IO.getStdout).putStr t.output
  match t.ending with
  | .exit code => return code.toUInt32
  | .report chain =>
    (← IO.getStderr).putStr ("Error: \n" ++ reportText chain ++ "\n")
    return 1

end Command
end CommitForm

/-- The program, run on the files and variables of the machine. -/
def main (arguments : List String) : IO UInt32 := do
  let environment ← CommitForm.Command.readVariables
  let here ← CommitForm.Command.readHere arguments
  (CommitForm.Command.run here (List.lookup · environment) arguments).print
