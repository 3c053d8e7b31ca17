/-
# The branches of a repository

The options of the provider `git.branches`, against the records of a repository.

| record | names |
| --- | --- |
| entries below `.git/refs/heads` | `FileAt`: the path of each that is not a directory |
| lines of `.git/packed-refs` | `NamesBranch`: what follows `refs/heads/` behind the first blank |

The directories are read one after the other.  `Survey` is where such a reading stands: some entries
of the directory at hand are unread, and further directories wait, each with the text that its names
begin with.  What has been found and what is still to be found make up the same names all the time,
whichever entry is read next (`Survey.Step.perm`), so the order of the entries does not matter.
-/

import CommitForm.Command.Run
import CommitForm.Proofs.ByteOrder
import Mathlib.Logic.Relation

namespace CommitForm
namespace Repository

open Relation

variable {entries heads : List (String × Node)} {before name packed : String} {path : List String}
  {names : List String}

/-! ## Names in order -/

/-- Putting names in order neither adds a name nor loses one; repetitions do not show here. -/
theorem mem_inOrder : name ∈ inOrder names ↔ name ∈ names := by
  let bound := NameMap.ofList (names.map fun n => (n, ()))
  have hget : bound.get? name = if name ∈ names then some () else none :=
    NameMap.get?_ofList_map names (fun _ => ()) name
  have hentry : (name, ()) ∈ bound.entries ↔ bound.get? name = some () :=
    (NameMap.lookUp_eq_some_iff bound.increase).symm
  have hname : name ∈ inOrder names ↔ (name, ()) ∈ bound.entries := by
    show name ∈ bound.entries.map Prod.fst ↔ _
    simp [Unique.exists_iff]
  rw [hname, hentry, hget]
  split <;> simp_all

/-- Names in order ascend strictly, so each of them stands only once however often it was found. -/
theorem pairwise_inOrder (names : List String) : (inOrder names).Pairwise (· < ·) := by
  unfold inOrder NameMap.names
  exact List.pairwise_map.2 (NameMap.ofList _).increase

/-- Only which names there are counts for their order, not how often or where in the list they were
found. -/
theorem inOrder_congr {names names' : List String} (h : ∀ name, name ∈ names ↔ name ∈ names') :
    inOrder names = inOrder names' := by
  have hbound : NameMap.ofList (names.map fun n => (n, ())) =
      NameMap.ofList (names'.map fun n => (n, ())) := by
    ext name
    rw [NameMap.get?_ofList_map, NameMap.get?_ofList_map]
    simp only [h]
  unfold inOrder
  rw [hbound]

/-! ## Files below a directory -/

/-- Below a directory with some entries, a path leads to something that is not a directory. -/
inductive FileAt : (entries : List (String × Node)) → (path : List String) → Prop
  | here {entries : List (String × Node)} {name : String} {text : Option String}
      (h : (name, Node.file text) ∈ entries) : FileAt entries [name]
  | inside {entries inner : List (String × Node)} {name : String} {path : List String}
      (h : (name, Node.dir inner) ∈ entries) (hpath : FileAt inner path) :
      FileAt entries (name :: path)

/-- The path to a file has a name at least, that of the file itself, so a path can always be taken
apart. -/
theorem FileAt.ne_nil (h : FileAt entries path) : path ≠ [] := by
  cases h <;> exact List.cons_ne_nil _ _

/-- A file that is found among some entries is found among more of them by the same path. -/
theorem FileAt.mono {entries' : List (String × Node)} (h : FileAt entries path)
    (hsub : entries ⊆ entries') : FileAt entries' path := by
  cases h with
  | here h => exact .here (hsub h)
  | inside h hpath => exact .inside (hsub h) hpath

/-- The name of an entry, with the path from there behind it, is joined by one slash; an empty rest
would have none. -/
theorem intercalate_cons (h : path ≠ []) :
    String.intercalate "/" (name :: path) = name ++ "/" ++ String.intercalate "/" path := by
  cases path with
  | nil => exact absurd rfl h
  | cons next path => rw [String.intercalate_cons_cons]

/-- The files among entries are those of each entry in turn, which lets an entry be singled out. -/
theorem filesAmong_eq_flatMap (before : String) (entries : List (String × Node)) :
    filesAmong before entries = entries.flatMap (filesAt before) := by
  induction entries with
  | nil => rfl
  | cons e es ih => rw [filesAmong, ih, List.flatMap_cons]

/-- An entry may be taken out of its place, since the files are found in another order but are the
same. -/
theorem filesAmong_middle (before : String) (front back : List (String × Node))
    (e : String × Node) :
    (filesAmong before (front ++ e :: back)).Perm
      (filesAt before e ++ filesAmong before (front ++ back)) := by
  simp only [filesAmong_eq_flatMap]
  exact (List.perm_middle.flatMap_right _).trans (by rw [List.flatMap_cons])

mutual

/-- What is found among entries is the path of a file there, behind what the names begin with, by
recursion into the directories. -/
theorem fileAt_of_mem_filesAmong {before found : String} :
    (entries : List (String × Node)) → found ∈ filesAmong before entries →
      ∃ path, FileAt entries path ∧ found = before ++ String.intercalate "/" path
  | [], h => absurd h List.not_mem_nil
  | e :: es, h => by
    rw [filesAmong, List.mem_append] at h
    rcases h with hhere | hon
    · obtain ⟨path, hpath, hfound⟩ := fileAt_of_mem_filesAt e hhere
      exact ⟨path, hpath.mono (by simp), hfound⟩
    · obtain ⟨path, hpath, hfound⟩ := fileAt_of_mem_filesAmong es hon
      exact ⟨path, hpath.mono (List.subset_cons_self _ _), hfound⟩

/-- What is found at an entry is the path of a file: that of the entry, or of one that its directory
holds. -/
theorem fileAt_of_mem_filesAt {before found : String} :
    (e : String × Node) → found ∈ filesAt before e →
      ∃ path, FileAt [e] path ∧ found = before ++ String.intercalate "/" path
  | (name, .file text), h => by
    have hfound : found = before ++ name := List.mem_singleton.1 h
    exact ⟨[name], .here (List.mem_singleton_self _), by rw [hfound, String.intercalate_singleton]⟩
  | (name, .dir inner), h => by
    have hinner : found ∈ filesAmong (before ++ name ++ "/") inner := h
    obtain ⟨path, hpath, hfound⟩ := fileAt_of_mem_filesAmong inner hinner
    refine ⟨name :: path, .inside (List.mem_singleton_self _) hpath, ?_⟩
    rw [hfound, intercalate_cons hpath.ne_nil, String.append_assoc, String.append_assoc,
      String.append_assoc]

end

/-- **Each file below a directory is found,** with its path, and nothing else is. -/
theorem mem_filesAmong_iff {found : String} :
    found ∈ filesAmong before entries ↔
      ∃ path, FileAt entries path ∧ found = before ++ String.intercalate "/" path := by
  refine ⟨fileAt_of_mem_filesAmong entries, ?_⟩
  rintro ⟨path, hpath, rfl⟩
  induction hpath generalizing before with
  | @here entries name text h =>
    rw [filesAmong_eq_flatMap, String.intercalate_singleton]
    exact List.mem_flatMap.2 ⟨_, h, List.mem_singleton_self _⟩
  | @inside entries inner name path h hpath ih =>
    have hinner : before ++ String.intercalate "/" (name :: path) ∈
        filesAmong (before ++ name ++ "/") inner := by
      rw [intercalate_cons hpath.ne_nil, ← String.append_assoc, ← String.append_assoc]
      exact ih
    rw [filesAmong_eq_flatMap]
    exact List.mem_flatMap.2 ⟨_, h, hinner⟩

/-! ## Packed references -/

/-- A line names a branch behind its first blank, where `refs/heads/` has to follow at once; what
stands before the blank is not looked at. -/
def NamesBranch (line name : String) : Prop :=
  ∃ front, ' ' ∉ front.toList ∧ line = front ++ " refs/heads/" ++ name

/-- The branch that is read off a line is the one that the line names; a line with a tag or a
comment names none. -/
theorem packedBranch?_eq_some_iff {line : String} :
    packedBranch? line = some name ↔ NamesBranch line name := by
  unfold packedBranch?
  constructor
  · intro h
    split at h
    · next reference hreference =>
      obtain ⟨rest, hrest, rfl⟩ := Option.map_eq_some_iff.1 h
      obtain ⟨front, hfront, hline⟩ := Text.behind?_char_eq_some_iff.1 hreference
      have hreference := Text.eq_append_of_dropStart? hrest
      refine ⟨String.ofList front, by rwa [String.toList_ofList], String.toList_inj.1 ?_⟩
      simp [hline, hreference]
    · cases h
  · rintro ⟨front, hfront, rfl⟩
    have hbehind : Text.behind? [' '] (front ++ " refs/heads/" ++ name).toList =
        some ("refs/heads/".toList ++ name.toList) :=
      Text.behind?_char_eq_some_iff.2 ⟨front.toList, hfront, by simp⟩
    rw [hbehind]
    show (Text.dropStart? _ (_ ++ name.toList)).map String.ofList = some name
    rw [Text.dropStart?_append, Option.map_some, String.ofList_toList]

/-- The branches of a packed file are those that one of its lines names, one line after the
other. -/
theorem mem_packedBranches_iff :
    name ∈ packedBranches packed ↔ ∃ line ∈ Text.sourceLines packed, NamesBranch line name := by
  simp only [packedBranches, List.mem_filterMap, packedBranch?_eq_some_iff]

/-! ## Reading directories one after the other -/

mutual

/-- How many steps it takes to read entries: one for each, and one to turn to each directory. -/
def readsAmong : List (String × Node) → Nat
  | [] => 0
  | e :: es => readsAt e + readsAmong es

/-- How many steps it takes to read an entry with everything below it. -/
def readsAt : String × Node → Nat
  | (_, node) => readsOf node

/-- How many steps it takes to read a node: one for a file, and for a directory one to put it aside
and one to turn to it, besides its entries. -/
def readsOf : Node → Nat
  | .file _ => 1
  | .dir entries => readsAmong entries + 2

end

/-- How many steps it takes to turn to the directories that wait and to read them. -/
def readsWaiting : List (String × List (String × Node)) → Nat
  | [] => 0
  | (_, entries) :: pending => readsAmong entries + 1 + readsWaiting pending

/-- The steps that entries take do not depend on their order, so an entry may be counted by
itself. -/
theorem readsAmong_middle (front back : List (String × Node)) (e : String × Node) :
    readsAmong (front ++ e :: back) = readsAt e + readsAmong (front ++ back) := by
  induction front with
  | nil => rfl
  | cons f front ih =>
    simp only [List.cons_append, readsAmong, ih]
    omega

/-- Where a reading of directories stands: what is left in the directory at hand, what waits, and
what has been found. -/
structure Survey where
  /-- What the names in the directory at hand begin with. -/
  before : String
  /-- The entries of the directory at hand that have not been read. -/
  unread : List (String × Node)
  /-- The directories that wait, the one that was met last in front. -/
  pending : List (String × List (String × Node))
  /-- The names that have been found. -/
  found : List String

namespace Survey

/-- At the beginning one directory waits and nothing has been found; the names in it begin with
nothing. -/
def start (heads : List (String × Node)) : Survey := ⟨"", [], [("", heads)], []⟩

/-- Nothing is left to be read, neither in the directory at hand nor in one that waits. -/
def Done (s : Survey) : Prop := s.unread = [] ∧ s.pending = []

/-- One step: any entry of the directory at hand is read, or the next directory is turned to. -/
inductive Step : Survey → Survey → Prop
  | file {before name : String} {text : Option String} {front back : List (String × Node)}
      {pending : List (String × List (String × Node))} {found : List String} :
      Step ⟨before, front ++ (name, .file text) :: back, pending, found⟩
        ⟨before, front ++ back, pending, found ++ [before ++ name]⟩
  | dir {before name : String} {inner front back : List (String × Node)}
      {pending : List (String × List (String × Node))} {found : List String} :
      Step ⟨before, front ++ (name, .dir inner) :: back, pending, found⟩
        ⟨before, front ++ back, (before ++ name ++ "/", inner) :: pending, found⟩
  | next {before before' : String} {entries : List (String × Node)}
      {pending : List (String × List (String × Node))} {found : List String} :
      Step ⟨before, [], (before', entries) :: pending, found⟩ ⟨before', entries, pending, found⟩

/-- What is still to be found, below the directory at hand and below those that wait. -/
def outstanding (s : Survey) : List String :=
  filesAmong s.before s.unread ++ s.pending.flatMap fun p => filesAmong p.1 p.2

/-- The steps that are left, a number that does not depend on the order in which entries are
read. -/
def remaining (s : Survey) : Nat := readsAmong s.unread + readsWaiting s.pending

variable {s t : Survey}

/-- As long as something is left to be read, a step can be taken. -/
theorem exists_step (h : ¬s.Done) : ∃ t, Step s t := by
  obtain ⟨before, unread, pending, found⟩ := s
  match unread, pending with
  | (name, .file _) :: back, pending => exact ⟨_, @Step.file before name _ [] back pending found⟩
  | (name, .dir _) :: back, pending => exact ⟨_, @Step.dir before name _ [] back pending found⟩
  | [], _ :: _ => exact ⟨_, Step.next⟩
  | [], [] => exact absurd ⟨rfl, rfl⟩ h

/-- **A step finds what was to be found:** the names so far and those to come stay the same, but for
their order. -/
theorem Step.perm (h : Step s t) : (t.found ++ t.outstanding).Perm (s.found ++ s.outstanding) := by
  cases h with
  | @file before name text front back pending found =>
    let later := pending.flatMap fun p => filesAmong p.1 p.2
    let rest := filesAmong before (front ++ back)
    have hread : (filesAmong before (front ++ (name, .file text) :: back)).Perm
        ([before ++ name] ++ rest) := filesAmong_middle before front back (name, .file text)
    show (found ++ [before ++ name] ++ (rest ++ later)).Perm _
    rw [List.append_assoc, ← List.append_assoc [before ++ name]]
    exact (hread.symm.append_right later).append_left found
  | @dir before name inner front back pending found =>
    let later := pending.flatMap fun p => filesAmong p.1 p.2
    let rest := filesAmong before (front ++ back)
    let inside := filesAmong (before ++ name ++ "/") inner
    have hread : (filesAmong before (front ++ (name, .dir inner) :: back)).Perm (inside ++ rest) :=
      filesAmong_middle before front back (name, .dir inner)
    -- The inner directory waits, so its names come behind those of the directory at hand.
    have hwait : (rest ++ (inside ++ later)).Perm (inside ++ rest ++ later) :=
      (List.perm_append_comm_assoc rest inside later).trans (by rw [List.append_assoc])
    show (found ++ (rest ++ (inside ++ later))).Perm _
    exact (hwait.trans (hread.symm.append_right later)).append_left found
  | next => exact List.Perm.refl _

/-- Every step leaves one step less to be taken, whichever entry it reads. -/
theorem Step.remaining_eq (h : Step s t) : s.remaining = t.remaining + 1 := by
  cases h with
  | @file before name text front back pending found =>
    have hread : readsAmong (front ++ (name, .file text) :: back) =
        1 + readsAmong (front ++ back) := readsAmong_middle _ _ _
    simp only [remaining, hread]
    omega
  | @dir before name inner front back pending found =>
    have hread : readsAmong (front ++ (name, .dir inner) :: back) =
        readsAmong inner + 2 + readsAmong (front ++ back) := readsAmong_middle _ _ _
    simp only [remaining, hread, readsWaiting]
    omega
  | @next before before' entries pending found =>
    simp only [remaining, readsAmong, readsWaiting]
    omega

/-- The names found and those to come are kept along a reading, by induction on its steps, each of
which only moves names from one to the other. -/
theorem perm_of_run (h : ReflTransGen Step s t) :
    (t.found ++ t.outstanding).Perm (s.found ++ s.outstanding) := by
  induction h with
  | refl => exact .refl _
  | tail _ hstep ih => exact hstep.perm.trans ih

/-- At the end nothing is still to be found, so that all names have been. -/
theorem outstanding_of_done (h : s.Done) : s.outstanding = [] := by
  obtain ⟨before, unread, pending, found⟩ := s
  obtain ⟨rfl, rfl⟩ : unread = [] ∧ pending = [] := h
  rfl

/-- **A whole reading finds the files,** each with its path and once, in some order. -/
theorem found_perm (h : ReflTransGen Step (start heads) s) (hdone : s.Done) :
    s.found.Perm (filesAmong "" heads) := by
  have hkept := perm_of_run h
  have hstart : (start heads).found ++ (start heads).outstanding = filesAmong "" heads := by
    simp [start, outstanding, filesAmong]
  rwa [outstanding_of_done hdone, List.append_nil, hstart] at hkept

/-- **A reading can be brought to its end** from everywhere, by induction on the steps that are
left. -/
theorem exists_done (s : Survey) : ∃ t, ReflTransGen Step s t ∧ t.Done := by
  induction hcount : s.remaining generalizing s with
  | zero =>
    refine ⟨s, .refl, Classical.byContradiction fun hdone => ?_⟩
    obtain ⟨t, hstep⟩ := exists_step hdone
    have := hstep.remaining_eq
    omega
  | succ count ih =>
    by_cases hdone : s.Done
    · exact ⟨s, .refl, hdone⟩
    · obtain ⟨t, hstep⟩ := exists_step hdone
      have hless : t.remaining = count := by
        have := hstep.remaining_eq
        omega
      obtain ⟨u, hrun, hu⟩ := ih t hless
      exact ⟨u, .head hstep hrun, hu⟩

/-- **No reading goes on forever,** in whatever order it reads, since the number of steps that are
left would decrease without end. -/
theorem exists_not_step (stage : Nat → Survey) : ∃ i, ¬Step (stage i) (stage (i + 1)) := by
  refine Classical.byContradiction fun hnone => ?_
  have hall (i : Nat) : Step (stage i) (stage (i + 1)) :=
    Classical.not_not.1 fun hi => hnone ⟨i, hi⟩
  have hcount (i : Nat) : (stage i).remaining + i = (stage 0).remaining := by
    induction i with
    | zero => rfl
    | succ i ih =>
      have := (hall i).remaining_eq
      omega
  have := hcount ((stage 0).remaining + 1)
  omega

end Survey

/-! ## Options -/

/-- What is found, or what counts as found where nothing is: a record that is missing stands for an
empty one. -/
def Finds {α : Type} (absent found : α) (r : Except FileFault α) : Prop :=
  r = .ok found ∨ r = .error .missing ∧ found = absent

/-- Where a missing record counts as an empty one, looking it up gives what it holds or that empty
one. -/
theorem Finds.ifFound_eq {α : Type} {absent found : α} {r : Except FileFault α}
    (h : Finds absent found r) : ifFound absent r = .ok found := by
  rcases h with rfl | ⟨rfl, rfl⟩ <;> rfl

/-- What the repository at a path records: the entries of the directory of heads and the packed
references, each of which may be absent.  Its mark has to be a directory. -/
def Records (here : Spot) (repository : String) (heads : List (String × Node)) (packed : String) :
    Prop :=
  (∃ entries, entriesAt here (Spot.join repository mark) = .ok entries) ∧
    Finds [] heads (entriesAt here (headsPath (Spot.join repository mark))) ∧
      Finds "" packed (here.read (packedPath (Spot.join repository mark)))

variable {here : Spot} {repository : String}

/-- A tree with a repository at `/work`, which has given records of branches and nothing else. -/
def ofRecords (heads : List (String × Node)) (packed : String) : Spot :=
  Spot.root (.dir [("work", .dir [(mark,
    .dir [("refs", .dir [("heads", .dir heads)]), ("packed-refs", .file (some packed))])])])

/-- Records of every kind can be had, so that `Records` does not ask for the impossible. -/
theorem records_ofRecords (heads : List (String × Node)) (packed : String) :
    Records (ofRecords heads packed) "/work" heads packed := ⟨⟨_, rfl⟩, .inl rfl, .inl rfl⟩

/-- The branches that are listed are those of both records in increasing order; what is absent
counts as empty. -/
theorem Records.branches_eq (h : Records here repository heads packed) :
    branches here repository = .ok (inOrder (filesAmong "" heads ++ packedBranches packed)) := by
  obtain ⟨⟨entries, hmarked⟩, hheads, hpacked⟩ := h
  have hrecorded : recorded here (Spot.join repository mark) =
      .ok (inOrder (filesAmong "" heads ++ packedBranches packed)) := by
    rw [recorded, hheads.ifFound_eq, hpacked.ifFound_eq]
    rfl
  unfold branches
  simp only [hmarked]
  exact hrecorded

/-- **What is no repository is said to be none:** where the mark cannot be reached as a directory,
the failure names its path, whatever the fault was. -/
theorem branches_of_unmarked {f : FileFault}
    (h : entriesAt here (Spot.join repository mark) = .error f) :
    branches here repository =
      .error (Spot.join repository mark ++ " is not a git directory") := by
  unfold branches
  simp only [h]

/-- **The branches of a repository are offered in the order of their bytes,** each once: the paths
of the files below the directory of heads, and the names in the packed references.  Each way to read
the directories, one entry after the other, leads to the same options. -/
theorem options_of_records (h : Records here repository heads packed) :
    ∃ options : List EnumOption,
      (∀ values, ((Command.providers here).get? "git.branches").map (· ⟨some repository, values⟩) =
        some ⟨0, .options options⟩) ∧
      (options.map (·.label)).Pairwise (fun a b => Text.bytes a < Text.bytes b) ∧
      (∀ name, name ∈ options.map (·.label) ↔
        (∃ path, FileAt heads path ∧ name = String.intercalate "/" path) ∨
          ∃ line ∈ Text.sourceLines packed, NamesBranch line name) ∧
      (∃ s, ReflTransGen Survey.Step (Survey.start heads) s ∧ s.Done) ∧
      ∀ s, ReflTransGen Survey.Step (Survey.start heads) s → s.Done →
        inOrder (s.found ++ packedBranches packed) = options.map (·.label) := by
  let labels := inOrder (filesAmong "" heads ++ packedBranches packed)
  let options : List EnumOption := labels.map fun name => ⟨name, none, none⟩
  have hlabels : options.map (·.label) = labels := by
    simp [options, Function.comp_def]
  refine ⟨options, fun values => ?_, ?_, fun name => ?_, Survey.exists_done _,
    fun s hrun hdone => ?_⟩
  · rw [Command.providers, NameMap.get?_insert, if_pos rfl, Option.map_some, Command.branchProvider]
    simp only [h.branches_eq]
    rfl
  · rw [hlabels]
    exact (pairwise_inOrder _).imp Text.lt_iff_bytes_lt.1
  · rw [hlabels, mem_inOrder, List.mem_append, mem_filesAmong_iff, mem_packedBranches_iff]
    simp only [String.empty_append]
  · rw [hlabels]
    refine inOrder_congr fun name => ?_
    rw [List.mem_append, List.mem_append, (Survey.found_perm hrun hdone).mem_iff]

/-- Loose branches, one at the top and one in a directory, whose name is joined with a slash. -/
def sampleHeads : List (String × Node) :=
  [("main", .file (some "0000\n")), ("feature", .dir [("parser", .file (some "0000\n"))])]

/-- Packed branches, one of them loose too, and a tag, which is no branch and must not be listed. -/
def samplePacked : String :=
  "# pack-refs with: peeled\n1111 refs/heads/release\n2222 refs/tags/v1\n1111 refs/heads/main\n"

/-- Three branches, of which one is recorded twice and one lies in a directory. -/
theorem options_of_records_sample :
    Records (ofRecords sampleHeads samplePacked) "/work" sampleHeads samplePacked ∧
      ∃ options : List EnumOption,
        (∀ values, ((Command.providers (ofRecords sampleHeads samplePacked)).get?
          "git.branches").map (· ⟨some "/work", values⟩) = some ⟨0, .options options⟩) ∧
        options.map (·.label) = ["feature/parser", "main", "release"] ∧
        ∃ s, ReflTransGen Survey.Step (Survey.start sampleHeads) s ∧ s.Done ∧
          inOrder (s.found ++ packedBranches samplePacked) =
            ["feature/parser", "main", "release"] := by
  have hrecords := records_ofRecords sampleHeads samplePacked
  obtain ⟨options, hoffer, -, -, ⟨s, hrun, hdone⟩, hsame⟩ := options_of_records hrecords
  have hoptions : some ⟨0, .options options⟩ = some (⟨0, .options
      [⟨"feature/parser", none, none⟩, ⟨"main", none, none⟩, ⟨"release", none, none⟩]⟩ :
        Options.Run) := (hoffer .empty).symm.trans (by rfl)
  cases hoptions
  exact ⟨hrecords, _, hoffer, rfl, s, hrun, hdone, hsame s hrun hdone⟩

end Repository
end CommitForm
