/-
# Where a mismatch is reported

What reading a YAML node along a shape answers, for all nodes (`readShape_reads`).

| answer | what holds of it |
| --- | --- |
| a datum | it is of the shape |
| a mismatch with a path | the path leads on from the node, by indices and by words of the shape |
| a mismatch within a choice | its path may go on from there by any keys |

The words of a shape are its keys and the titles of its choices.
-/

import Mathlib.Data.List.Forall2
import CommitForm.Form.Yaml
import CommitForm.Proofs.Data

namespace CommitForm
namespace Document

/-! ## Words of a shape -/

mutual

/-- The keys and titles of a shape are known words.  A map has keys of its own. -/
def Shape.Knows (words : List String) : Shape → Prop
  | .text | .flag | .count | .choice _ _ => True
  | .optional shape => shape.Knows words
  | .list shape => shape.Knows words
  | .map _ => False
  | .either title _ => title ∈ words
  | .record _ es => Entry.Know words es

/-- The keys and titles of entries are known words: each entry with its aliases, and with the words
of the shape that its value is read along. -/
def Entry.Know (words : List String) : List Entry → Prop
  | [] => True
  | .mk key aliases shape _ _ :: es =>
    key ∈ words ∧ (∀ a ∈ aliases, a ∈ words) ∧ shape.Knows words ∧ Entry.Know words es

end

end Document

namespace Yaml

open Document

/-! ## Paths that lead on -/

/-- A path leads on from another one by indices and by steps that are allowed.  The step to the
value of a key that is no scalar is `none`. -/
inductive Path.Leads (allowed : Option String → Prop) (base : Path) : Path → Prop where
  | here : Leads allowed base base
  | item {p : Path} (h : Leads allowed base p) (index : Nat) : Leads allowed base (p.item index)
  | entry {p : Path} (h : Leads allowed base p) {key : String} (hkey : allowed (some key)) :
      Leads allowed base (p.entry key)
  | unnamed {p : Path} (h : Leads allowed base p) (hnone : allowed none) :
      Leads allowed base p.unnamed

variable {allowed : Option String → Prop} {p q r : Path}

/-- Paths lead on transitively: the steps to the inner path are taken behind the steps to the outer
one, so what is known of a part is known of the whole. -/
theorem Path.Leads.trans (h : q.Leads allowed r) (h' : p.Leads allowed q) : p.Leads allowed r := by
  induction h with
  | here => exact h'
  | item _ index ih => exact .item ih index
  | entry _ hkey ih => exact .entry ih hkey
  | unnamed _ hnone ih => exact .unnamed ih hnone

/-- The path to the value of a key, by the text of the key: an entry of that name, or an unnamed
step where the key is no scalar. -/
def Path.next (p : Path) : Option String → Path
  | some key => p.entry key
  | none => p.unnamed

/-- The value of a key lies one allowed step further on, whether the key has a text or not. -/
theorem Path.leads_next {step : Option String} (h : allowed step) (p : Path) :
    p.Leads allowed (p.next step) := by
  cases step with
  | none => exact .unnamed .here h
  | some key => exact .entry .here h

/-- The text of a key that is a scalar, as it is written in the document.  An alias, a list and a
map have none, even if the alias stands for a scalar. -/
def Node.text? : Node → Option String
  | .scalar _ _ text _ => some text
  | _ => none

/-- The path that the reader makes for the value of a key depends on nothing but the text of the
key, so it is a step by that text. -/
theorem Path.at_eq_next (p : Path) (key : Node) : p.at key = p.next key.text? := by
  cases key <;> rfl

/-- The steps by known words.  The value of a key that is an alias is reached without one. -/
def Path.byWords (words : List String) (step : Option String) : Prop := ∀ w ∈ step, w ∈ words

/-- The steps by any keys.  Inside the value of a choice the keys are the document's own, and no
shape says which of them may occur. -/
def Path.byAny (_ : Option String) : Prop := True

/-! ## Answers -/

/-- What holds of the result of reading, of mismatches without a place and of mismatches with a
path. -/
def Answers {α : Type} (result : α → Prop) (bare : Mismatch → Prop)
    (placed : Mismatch → Path → Prop) : Counted α → Prop
  | .ok (a, _) => result a
  | .error (.unplaced m) => bare m
  | .error (.mismatch m path _) => placed m path
  | .error _ => True

namespace Answers

variable {α β : Type} {result : α → Prop} {bare bare' : Mismatch → Prop}
  {placed placed' : Mismatch → Path → Prop} {r : Counted α}

/-- What fails inside fails outside.  A failure says the same of a reader of items as of the reader
of the list around them, whatever either one gives when it succeeds. -/
theorem error {e : Failure} {result' : β → Prop}
    (h : Answers result bare placed (.error e : Counted α)) :
    Answers result' bare placed (.error e : Counted β) := by
  cases e <;> exact h

/-- Answers may be told less precisely, in all three parts.  A reader that has been described for
its own path is described so for the path of a record around it. -/
theorem mono {result' : α → Prop} (h : Answers result bare placed r)
    (hresult : ∀ a, result a → result' a) (hbare : ∀ m, bare m → bare' m)
    (hplaced : ∀ m path, placed m path → placed' m path) : Answers result' bare' placed' r := by
  match r, h with
  | .ok (a, _), h => exact hresult a h
  | .error (.unplaced m), h => exact hbare m h
  | .error (.mismatch m path _), h => exact hplaced m path h
  | .error (.fault _), _ | .error .cut, _ | .error (.tooDeep _), _
  | .error .tooManyAliases, _ => trivial

/-- Where the datum is made up from what has been read, mismatches stay what they are and only the
condition on the result is carried over. -/
theorem map {result' : β → Prop} {f : α → β} (h : Answers result bare placed r)
    (hf : ∀ a, result a → result' (f a)) :
    Answers result' bare placed (r.map fun x => (f x.1, x.2)) := by
  match r, h with
  | .ok (a, _), h => exact hf a h
  | .error e, h => exact h.error

/-- A mismatch without a place gets one, here the path of the value that is being read.  One that
has a place already keeps it. -/
theorem placing {path : Path} {place : Place} (h : Answers result bare placed r)
    (hplaced : ∀ m, bare m → placed m path) :
    Answers result bare' placed (placing path place r) := by
  match r, h with
  | .ok _, h => exact h
  | .error (.unplaced m), h => exact hplaced m h
  | .error (.mismatch _ _ _), h => exact h
  | .error (.fault _), _ | .error .cut, _ | .error (.tooDeep _), _
  | .error .tooManyAliases, _ => trivial

/-- Following an alias finds no mismatch: it may end at a limit of the reader, which is a failure of
another kind, or lead to the node that stands behind the anchor. -/
theorem follow (bare : Mismatch → Prop) (placed : Mismatch → Path → Prop) (source : Source)
    (n : Node) (followed : Nat) :
    Answers (fun _ => True) bare placed (source.follow n followed) := by
  cases n with
  | again number place =>
    rw [Source.follow]
    split
    · trivial
    · split <;> trivial
  | _ => trivial

/-- A list or a map is opened at a depth that is one less, and the answers are those of what is read
inside.  At the last depth it fails without a mismatch. -/
theorem opening {s : Site} {read : (depth : Nat) → Counted α}
    (h : ∀ depth, Answers result bare placed (read depth)) :
    Answers result bare placed (opening s read) := by
  rw [Yaml.opening]
  split
  · trivial
  · exact h _

/-- Items of a list are read at the paths of their indices.  What holds of the answers at each item
holds of the list: all items, or the first mismatch among them. -/
theorem readItems {read : Site → Nat → Counted α} {list : Path} {depth : Nat}
    (h : ∀ n index followed,
      Answers result bare placed (read ⟨n, list.item index, depth⟩ followed))
    (index : Nat) (ns : List Node) (followed : Nat) :
    Answers (fun as => ∀ a ∈ as, result a) bare placed
      (readItems read list depth index ns followed) := by
  induction ns generalizing index followed with
  | nil => exact fun _ ha => absurd ha List.not_mem_nil
  | cons n ns ih =>
    have hn := h n index followed
    rw [Yaml.readItems]
    split
    · next he =>
      rw [he] at hn
      exact hn.error
    · next a followed' he =>
      rw [he] at hn
      exact (ih (index + 1) followed').map fun as has => List.forall_mem_cons.2 ⟨hn, has⟩

/-- Entries of a map are read at paths that lead on by any step. -/
theorem readBindings {readKey : Site → Nat → Counted α} {readValue : Site → Nat → Counted β}
    {map : Path} {depth : Nat} {key : α → Prop} {value : β → Prop}
    (hkey : ∀ n followed, Answers key bare placed (readKey ⟨n, map, depth⟩ followed))
    (hvalue : ∀ n k followed, Answers value bare placed (readValue ⟨n, map.at k, depth⟩ followed))
    (es : List (Node × Node)) (followed : Nat) :
    Answers (fun bs => ∀ b ∈ bs, key b.1 ∧ value b.2) bare placed
      (readBindings readKey readValue map depth es followed) := by
  induction es generalizing followed with
  | nil => exact fun _ hb => absurd hb List.not_mem_nil
  | cons e es ih =>
    obtain ⟨k, n⟩ := e
    have hk := hkey k followed
    rw [Yaml.readBindings]
    split
    · next he =>
      rw [he] at hk
      exact hk.error
    · next a followed' he =>
      rw [he] at hk
      have hn := hvalue n k followed'
      split
      · next he' =>
        rw [he'] at hn
        exact hn.error
      · next b followed'' he' =>
        rw [he'] at hn
        exact (ih followed'').map fun bs hbs => List.forall_mem_cons.2 ⟨⟨hk, hn⟩, hbs⟩

end Answers

/-! ## Choices -/

/-- The mismatches that a value may have where it is compared with branches: a tag on a branch, a
scalar that its tag forbids, a number too wide for any content. -/
def IsInner : Mismatch → Prop
  | .taggedBranch => True
  | .wrongValue (.text _) _ => True
  | .wrongType (.wide _) _ => True
  | _ => False

/-- A text that a core tag announces as something else is a wrong value, and this is all that
checking it can report. -/
theorem isInner_of_expected {text what : String} {f : Option Found} {m : Mismatch}
    (h : expected text what f = .error m) : IsInner m := by
  cases f with
  | none =>
    obtain rfl := Except.error.inj h
    trivial
  | some f => cases h

/-- Resolving a scalar fails only for a text that is not what its tag says: there are four tags of
which that can be said. -/
theorem isInner_of_foundScalar {tag : Option Tag} {style : Style} {text : String} {m : Mismatch}
    (h : foundScalar tag style text = .error m) : IsInner m := by
  match tag, h with
  | some .null, h | some .flag, h | some .whole, h | some .fraction, h =>
    exact isInner_of_expected h

/-- A scalar that has been resolved fails as content only if it is a number beyond 64 bits. -/
theorem isInner_of_contentOf {f : Found} {m : Mismatch} (h : contentOf f = .error m) :
    IsInner m := by
  cases f with
  | wide n =>
    obtain rfl := Except.error.inj h
    trivial
  | _ => cases h

/-- The two checks of a scalar one after the other, as they are made where a value is kept to be
compared with several branches. -/
theorem isInner_of_bind {tag : Option Tag} {style : Style} {text : String} {m : Mismatch}
    (h : (foundScalar tag style text).bind contentOf = .error m) : IsInner m := by
  cases hf : foundScalar tag style text with
  | error e =>
    rw [hf] at h
    obtain rfl := Except.error.inj h
    exact isInner_of_foundScalar hf
  | ok f =>
    rw [hf] at h
    exact isInner_of_contentOf h

/-- A mismatch in any value is reported at a path that leads on from it. -/
theorem readContent_answers (source : Source) (depth : Nat) (n : Node) (path : Path)
    (followed : Nat) :
    Answers (fun _ => True) IsInner (fun m q => IsInner m ∧ path.Leads Path.byAny q)
      (readContent source depth n path followed) := by
  induction depth using Nat.strongRecOn generalizing n path followed with
  | ind depth ih =>
    have hitem (d : Nat) (hd : d < depth) (n : Node) (q : Path) (hq : path.Leads Path.byAny q)
        (followed : Nat) : Answers (fun _ => True) IsInner
          (fun m q => IsInner m ∧ path.Leads Path.byAny q) (readContent source d n q followed) :=
      (ih d hd n q followed).mono (fun _ _ => trivial) (fun _ hm => hm)
        fun _ _ h => ⟨h.1, h.2.trans hq⟩
    have hfollow := Answers.follow IsInner (fun m q => IsInner m ∧ path.Leads Path.byAny q) source n
      followed
    rw [readContent]
    split
    · next he =>
      rw [he] at hfollow
      exact hfollow.error
    · next target followed' he =>
      refine Answers.placing ?_ fun m hm => ⟨hm, .here⟩
      split
      · trivial
      · split
        · split
          · trivial
          · next m hm => exact isInner_of_bind hm
        · next items _ _ =>
          split
          · trivial
          · next depth =>
            have hitems : Answers _ _ _ (readItems
                (fun s => readContent source depth s.node s.path) path depth 0 items followed') :=
              .readItems (fun n index => hitem depth (Nat.lt_succ_self _) n _ (.item .here index))
                0 items followed'
            exact hitems.map fun _ _ => trivial
        · next entries _ _ =>
          split
          · trivial
          · next depth =>
            have hat (k : Node) : path.Leads Path.byAny (path.at k) :=
              path.at_eq_next k ▸ path.leads_next trivial
            have hbindings : Answers _ _ _ (readBindings
                (fun s => readContent source depth s.node s.path)
                (fun s => readContent source depth s.node s.path) path depth entries followed') :=
              .readBindings (fun n => hitem depth (Nat.lt_succ_self _) n _ .here)
                (fun n k => hitem depth (Nat.lt_succ_self _) n _ (hat k)) entries followed'
            refine hbindings.map (f := fun _ => Content.other) ?_
            exact fun _ _ => trivial
        · trivial
        · trivial

/-! ## Shapes -/

/-- The key or title that a mismatch names is a known word, and numbers are compared with counts. -/
def Familiar (words : List String) : Mismatch → Prop
  | .repeated key => key ∈ words
  | .noBranch title => title ∈ words
  | .wrongValue (.whole _) expected => expected = "u32"
  | _ => True

/-- Where a mismatch in the value at a path is reported: at a path reached by known words, or, if it
is found inside a choice, anywhere further on from such a path. -/
def PlacedFrom (words : List String) (base : Path) (m : Mismatch) (path : Path) : Prop :=
  Familiar words m ∧
    ∃ p, base.Leads (Path.byWords words) p ∧ (path = p ∨ IsInner m ∧ p.Leads Path.byAny path)

variable {words : List String}

/-- A mismatch inside a choice names no key and no title, so it is familiar with respect to any list
of words. -/
theorem familiar_of_isInner {m : Mismatch} (h : IsInner m) : Familiar words m := by
  match m, h with
  | .taggedBranch, _ | .wrongValue (.text _) _, _ | .wrongType (.wide _) _, _ => trivial

/-- A node of the wrong type is a familiar mismatch: it names what has been found and what is
expected, and neither of them is a key. -/
theorem familiar_wrongType (n : Node) (what : String) : Familiar words (n.wrongType what) := by
  cases n with
  | scalar tag style text place =>
    cases hm : foundScalar tag style text with
    | ok f => simp [Node.wrongType, hm, Familiar]
    | error m =>
      simp only [Node.wrongType, hm]
      exact familiar_of_isInner (isInner_of_foundScalar hm)
  | _ => trivial

/-- A mismatch of the value itself is reported at the path of the value. -/
theorem PlacedFrom.here {base : Path} {m : Mismatch} (h : Familiar words m) :
    PlacedFrom words base m base := ⟨h, base, .here, .inl rfl⟩

/-- What is reported inside a part is reported inside the whole, if the part is reached by known
words. -/
theorem PlacedFrom.within {base base' : Path} {m : Mismatch} {path : Path}
    (h : PlacedFrom words base' m path) (hbase : base.Leads (Path.byWords words) base') :
    PlacedFrom words base m path := by
  obtain ⟨hfamiliar, p, hp, hpath⟩ := h
  exact ⟨hfamiliar, p, hp.trans hbase, hpath⟩

/-- The answers of reading the value at a path: mismatches without a place are familiar ones, and
those with a path are placed from this path on. -/
abbrev AnswersAt {α : Type} (words : List String) (result : α → Prop) (base : Path) :
    Counted α → Prop := Answers result (Familiar words) (PlacedFrom words base)

/-- What a reader answers is right for a shape: a datum of the shape, or a mismatch reported from
the site on, for every document, site and number of aliases followed before. -/
def Reads (words : List String) (shape : Shape) (read : Reader) : Prop :=
  ∀ source s followed, AnswersAt words (·.HasShape shape) s.path (read source s followed)

/-- The answers of reading a part are answers of reading the whole, as mismatches in the part are
placed from the whole on. -/
theorem AnswersAt.within {α : Type} {result : α → Prop} {base base' : Path} {r : Counted α}
    (h : AnswersAt words result base' r) (hbase : base.Leads (Path.byWords words) base') :
    AnswersAt words result base r :=
  h.mono (fun _ ha => ha) (fun _ hm => hm) fun _ _ hm => hm.within hbase

/-- Reading a text fails at the text itself.  Keys are read this way too, so a key that is no text
is reported at its record. -/
theorem readText_answers (expected : String) (source : Source) (s : Site) (followed : Nat) :
    Answers (fun _ => True) (Familiar words) (fun m path => Familiar words m ∧ path = s.path)
      (readText expected source s followed) := by
  have hfollow := Answers.follow (Familiar words) (fun m path => Familiar words m ∧ path = s.path)
    source s.node followed
  rw [readText]
  split
  · next he =>
    rw [he] at hfollow
    exact hfollow.error
  · next n followed' he =>
    refine Answers.placing ?_ fun m hm => ⟨hm, rfl⟩
    split
    · trivial
    · exact familiar_wrongType n expected

/-- A reader of scalars by their spelling reads along a shape if each spelling gives a datum of the
shape or a familiar mismatch.  Anything else has the wrong type. -/
theorem readSpelled_reads {shape : Shape} {tag : Tag} {expected : String}
    {spelled : String → Option (Except Mismatch Datum)}
    (hok : ∀ text d, spelled text = some (.ok d) → d.HasShape shape)
    (herror : ∀ text m, spelled text = some (.error m) → Familiar words m) :
    Reads words shape (readSpelled tag expected spelled) := by
  intro source s followed
  have hfollow := Answers.follow (Familiar words) (PlacedFrom words s.path) source s.node followed
  rw [readSpelled]
  split
  · next he =>
    rw [he] at hfollow
    exact hfollow.error
  · next n followed' he =>
    refine Answers.placing ?_ fun m => .here
    split
    · next given style text place =>
      split
      · next d hd =>
        split at hd
        · exact hok text d hd
        · cases hd
      · next m hm =>
        split at hm
        · exact herror text m hm
        · cases hm
      · exact familiar_wrongType (.scalar given style text place) expected
    · exact familiar_wrongType n expected

/-- The reader of flags: the spellings of `true` and `false` are flags, and no spelling of them is a
mismatch of its own. -/
theorem readFlag_reads : Reads words .flag readFlag := by
  refine readSpelled_reads (fun text d h => ?_) fun text m h => ?_
  · obtain ⟨b, -, hb⟩ := Option.map_eq_some_iff.1 h
    obtain rfl := Except.ok.inj hb
    exact .flag b
  · obtain ⟨b, -, hb⟩ := Option.map_eq_some_iff.1 h
    cases hb

/-- A spelling of a number is compared with the range of counts, however it is written: in decimal
or with one of the radix prefixes. -/
theorem countOf?_eq_some {text : String} {r : Except Mismatch Datum} (h : countOf? text = some r) :
    ∃ n, r = countOf n := by
  rw [countOf?] at h
  split at h
  · cases h
  · obtain ⟨n, -, hn⟩ := Option.map_eq_some_iff.1 h
    exact ⟨n, hn.symm⟩

/-- The reader of counts: a number in range is a count, and one out of range is the mismatch that
names the expected type. -/
theorem readCount_reads : Reads words .count readCount := by
  refine readSpelled_reads (fun text d h => ?_) fun text m h => ?_
  · obtain ⟨n, hn⟩ := countOf?_eq_some h
    rw [Document.countOf] at hn
    split at hn
    · obtain rfl := Except.ok.inj hn
      exact .count _
    · cases hn
  · obtain ⟨n, hn⟩ := countOf?_eq_some h
    rw [Document.countOf] at hn
    split at hn
    · cases hn
    · obtain rfl := Except.error.inj hn
      trivial

/-- Deciding if a value is absent fails only for a text that its tag announces as nothing and that
is not. -/
theorem isInner_of_isNothing {n : Node} {m : Mismatch} (h : n.isNothing = .error m) :
    IsInner m := by
  cases n with
  | scalar tag style text place =>
    dsimp only [Node.isNothing] at h
    split at h
    · cases h
    · split at h
      · cases h
      · split at h
        · cases h
        · obtain rfl := Except.error.inj h
          trivial
      · cases h
  | _ => cases h

/-- A value that may be absent: nothing is the absent datum, and anything else is read along the
shape inside, at the same path. -/
theorem readOptional_reads {shape : Shape} {read : Reader} (h : Reads words shape read) :
    Reads words (.optional shape) (readOptional read) := by
  intro source s followed
  have hfollow := Answers.follow (Familiar words) (PlacedFrom words s.path) source s.node followed
  rw [readOptional]
  split
  · next he =>
    rw [he] at hfollow
    exact hfollow.error
  · next n followed' he =>
    split
    · next m hm => exact familiar_of_isInner (isInner_of_isNothing hm)
    · exact .absent shape
    · exact (h source (s.to n) followed').map fun _ => .present

/-- Behind the name of a variant nothing may stand, and what stands there is a wrong value or has
the wrong type. -/
theorem familiar_of_checkNothing {n : Node} {m : Mismatch} (h : checkNothing n = .error m) :
    Familiar words m := by
  cases n with
  | scalar tag style text place =>
    dsimp only [checkNothing] at h
    split at h
    · cases h
    · obtain rfl := Except.error.inj h
      trivial
  | _ =>
    obtain rfl := Except.error.inj h
    exact familiar_wrongType _ _

/-- The two spellings of a variant, as a tag and as a text: both give one of the names of the
choice, or a mismatch at the choice. -/
theorem readVariant_answers (title : String) (names : List String) (s : Site) (followed : Nat) :
    AnswersAt words (·.HasShape (.choice title names)) s.path (readVariant names s followed) := by
  rw [readVariant]
  dsimp only
  split
  · next name _ =>
    split
    · next e he =>
      split at he
      · cases he
      · obtain rfl := Except.error.inj he
        trivial
    · next he =>
      refine Answers.placing ?_ fun m => .here
      split at he
      · next hname =>
        split
        · exact .choice (List.contains_iff_mem.1 hname)
        · next m hm => exact familiar_of_checkNothing hm
      · cases he
  · refine Answers.placing ?_ fun m => .here
    split
    · next text _ _ =>
      split
      · next hname => exact .choice (List.contains_iff_mem.1 hname)
      · trivial
    · exact familiar_wrongType _ _

/-- The reader of a choice by name, where an alias has been followed first. -/
theorem readChoice_reads (title : String) (names : List String) :
    Reads words (.choice title names) (readChoice names) := by
  intro source s followed
  have hfollow := Answers.follow (Familiar words) (PlacedFrom words s.path) source s.node followed
  rw [readChoice]
  split
  · next he =>
    rw [he] at hfollow
    exact hfollow.error
  · next n followed' he =>
    have hvariant : AnswersAt words (Datum.HasShape (.choice title names)) s.path _ :=
      readVariant_answers title names (s.to n) followed'
    split
    · exact hvariant.placing fun m => .here
    · exact hvariant

/-- The reader of lists: every item is read at the path of its index, and a node that is left out is
the empty list. -/
theorem readList_reads {shape : Shape} {read : Reader} (h : Reads words shape read) :
    Reads words (.list shape) (readList read) := by
  intro source s followed
  have hfollow := Answers.follow (Familiar words) (PlacedFrom words s.path) source s.node followed
  rw [readList]
  split
  · next he =>
    rw [he] at hfollow
    exact hfollow.error
  · next n followed' he =>
    refine Answers.placing ?_ fun m => .here
    split
    · next items _ =>
      refine Answers.opening fun depth => ?_
      have hitems : AnswersAt words (∀ d ∈ ·, d.HasShape shape) s.path
          (readItems (read source) s.path depth 0 items followed') :=
        .readItems (fun n index followed =>
          (h source ⟨n, s.path.item index, depth⟩ followed).within (.item .here index)) 0 items
          followed'
      exact hitems.map fun _ => .list
    · split
      · exact .list fun _ hd => absurd hd List.not_mem_nil
      · exact familiar_wrongType _ _

/-- Where a whole record is not at fault, a reader answers for the values of its keys. -/
theorem readEntriesOf_answers {result : Datum → Prop} {placed : Mismatch → Path → Prop}
    {expected : String} {read : (depth : Nat) → List (Node × Node) → Nat → Counted Datum}
    {source : Source} {s : Site} {followed : Nat} (hhere : ∀ m, Familiar words m → placed m s.path)
    (h : ∀ depth entries followed,
      Answers result (Familiar words) placed (read depth entries followed)) :
    Answers result (fun _ => False) placed (readEntriesOf expected read source s followed) := by
  have hfollow := Answers.follow (fun _ => False) placed source s.node followed
  rw [readEntriesOf]
  split
  · next he =>
    rw [he] at hfollow
    exact hfollow.error
  · next n followed' he =>
    refine Answers.placing ?_ hhere
    split
    · exact Answers.opening fun depth => h depth _ followed'
    · split
      · exact h s.depth [] followed'
      · exact familiar_wrongType _ _

/-- The reader of a choice by shape.  The value is kept as content and compared with the branches,
so that a mismatch is reported inside it, or at it under the title of the choice. -/
theorem readEither_reads {title : String} (htitle : title ∈ words) (branches : List Shape) :
    Reads words (.either title branches) (readEither title branches) := by
  intro source s followed
  have hcontent := readContent_answers source s.depth s.node s.path followed
  rw [readEither]
  split
  · next he =>
    rw [he] at hcontent
    exact hcontent.error.mono (fun _ h => h) (fun _ => familiar_of_isInner)
      fun m path h => ⟨familiar_of_isInner h.1, s.path, .here, .inr h⟩
  · next content followed' he =>
    split
    · next hd => exact Datum.hasShape_of_firstFit hd title
    · exact htitle

/-! ## Records -/

/-- A slot for an entry: its keys are known words, what it takes for a missing value is of the shape
of the entry, and so is what its reader answers. -/
structure SlotFor (words : List String) (e : Entry) (slot : Slot Reader) : Prop where
  key : slot.key ∈ words
  aliases : ∀ a ∈ slot.aliases, a ∈ words
  missing : ∀ d, slot.missing = some d → d.HasShape e.shape
  reads : Reads words e.shape slot.read

/-- A key that fits a slot is a known word, be it the key of the slot or one of the aliases. -/
theorem SlotFor.mem_of_hasKey {e : Entry} {slot : Slot Reader} (h : SlotFor words e slot)
    {key : String} (hkey : slot.hasKey key = true) : key ∈ words := by
  rw [Slot.hasKey, Bool.or_eq_true, beq_iff_eq, List.contains_iff_mem] at hkey
  rcases hkey with rfl | hkey
  · exact h.key
  · exact h.aliases key hkey

/-- Where a mismatch in a record is reported: at the record, or from the value of a key on. -/
def PlacedIn (words : List String) (record : Path) (m : Mismatch) (path : Path) : Prop :=
  Familiar words m ∧
    (path = record ∨ ∃ step, Path.byWords words step ∧ PlacedFrom words (record.next step) m path)

/-- A mismatch in a record is placed from the record on: the step to the value of a key is a step by
a known word. -/
theorem PlacedIn.placedFrom {record : Path} {m : Mismatch} {path : Path}
    (h : PlacedIn words record m path) : PlacedFrom words record m path := by
  obtain ⟨hfamiliar, rfl | ⟨step, hstep, hpath⟩⟩ := h
  · exact .here hfamiliar
  · exact hpath.within (Path.leads_next hstep record)

/-- A scalar is read as its text.  So a key that fits a slot has the text of a known word in the
path to its value as well. -/
theorem text_eq_of_readText {expected : String} {source : Source} {s : Site}
    {followed followed' : Nat} {name : String}
    (h : readText expected source s followed = .ok (name, followed')) {text : String}
    (htext : text ∈ s.node.text?) : text = name := by
  obtain ⟨n, path, depth⟩ := s
  cases n with
  | scalar tag style t place =>
    obtain rfl := Option.some.inj htext
    exact congrArg Prod.fst (Except.ok.inj h)
  | _ => cases htext

/-- The entries of a record fill its slots with data of the right shapes.  An unknown key is passed
over or reported at the record, and a repeated one is reported under the key of its slot. -/
theorem readSlots_answers {es : List Entry} {slots : List (Slot Reader)}
    (hslots : List.Forall₂ (SlotFor words) es slots) (source : Source) (record : Path)
    (depth : Nat) {filled : Filled} (hfilled : FitsEntries es filled)
    (entries : List (Node × Node)) (followed : Nat) :
    Answers (FitsEntries es) (Familiar words) (PlacedIn words record)
      (readSlots slots source record depth filled entries followed) := by
  induction entries generalizing filled followed with
  | nil => exact hfilled
  | cons entry entries ih =>
    obtain ⟨key, value⟩ := entry
    have hkey : Answers (fun _ => True) (Familiar words) _ _ :=
      readText_answers "field identifier" source ⟨key, record, depth⟩ followed
    rw [readSlots]
    split
    · next he =>
      rw [he] at hkey
      exact hkey.error.mono (fun _ h => h) (fun _ h => h) fun m path h => ⟨h.1, .inl h.2⟩
    · next name followed' he =>
      split
      · split
        · exact ih hfilled followed'
        · trivial
      · next slot i hfind =>
        have hmem := List.mem_of_find?_eq_some hfind
        rw [List.mk_mem_zipIdx_iff_getElem?] at hmem
        obtain ⟨e, hentry, hslot⟩ := exists_entry hslots hmem
        have hhas := List.find?_some hfind
        have hname : name ∈ words := hslot.mem_of_hasKey hhas
        split
        · exact hslot.key
        · have hstep : Path.byWords words key.text? := fun w hw => text_eq_of_readText he hw ▸ hname
          have hvalue := (hslot.reads source ⟨value, record.at key, depth⟩ followed').mono
            (fun _ h => h) (fun _ h => h)
            fun m path h => (⟨h.1, .inr ⟨key.text?, hstep, record.at_eq_next key ▸ h⟩⟩ :
              PlacedIn words record m path)
          split
          · next he' =>
            rw [he'] at hvalue
            exact hvalue.error
          · next d followed'' he' =>
            rw [he'] at hvalue
            exact ih (hfilled.set hentry hvalue) followed''

/-- A mismatch in a record is reported, at the record or from the value of a known key on. -/
theorem readRecord_answers {es : List Entry} {slots : List (Slot Reader)}
    (hslots : List.Forall₂ (SlotFor words) es slots) (title : String) (source : Source) (s : Site)
    (followed : Nat) :
    Answers (·.HasShape (.record title es)) (fun _ => False) (PlacedIn words s.path)
      (readRecord title slots source s followed) := by
  rw [readRecord]
  refine readEntriesOf_answers (fun m h => ⟨h, .inl rfl⟩) fun depth entries followed => ?_
  have hentries := readSlots_answers hslots source s.path depth (fitsEntries_none hslots) entries
    followed
  split
  · next he =>
    rw [he] at hentries
    exact hentries.error
  · next filled followed' he =>
    rw [he] at hentries
    split
    · next ds hds =>
      exact .record (hasEntries_of_complete (hslots.imp fun _ _ h => h.missing) hentries hds)
    · next m hm =>
      obtain ⟨key, rfl⟩ := eq_missing_of_complete hm
      trivial

mutual

/-- **What is read along a shape** is a datum of the shape, or a mismatch that is reported at a path
of known words. -/
theorem readShape_reads : (shape : Shape) → shape.Knows words → shape.IsSound →
    Reads words shape (readShape shape)
  | .text, _, _ => fun source s followed =>
    ((readText_answers "a string" source s followed).mono (fun _ h => h) (fun _ h => h)
      fun _ _ h => h.2 ▸ PlacedFrom.here h.1).map fun t _ => .text t
  | .flag, _, _ => readFlag_reads
  | .count, _, _ => readCount_reads
  | .optional shape, h, hs => readOptional_reads (readShape_reads shape h hs)
  | .list shape, h, hs => readList_reads (readShape_reads shape h hs)
  | .map _, h, _ => h.elim
  | .choice title names, _, _ => readChoice_reads title names
  | .either _ branches, h, _ => readEither_reads h branches
  | .record title es, h, hs => fun source s followed =>
    (readRecord_answers (slotsOf_slotFor es h hs) title source s followed).mono (fun _ h => h)
      (fun _ h => h.elim) fun _ _ h => h.placedFrom

/-- The slots that a record is read with are slots for its entries, one by one, since the values are
read along their shapes. -/
theorem slotsOf_slotFor : (es : List Entry) → Entry.Know words es → Entry.AreSound es →
    List.Forall₂ (SlotFor words) es (slotsOf es)
  | [], _, _ => .nil
  | .mk _ _ shape _ _ :: es, ⟨hkey, haliases, hshape, hes⟩, ⟨hmissing, hsound, hessound⟩ =>
    .cons ⟨hkey, haliases, hmissing, readShape_reads shape hshape hsound⟩
      (slotsOf_slotFor es hes hessound)

end

end Yaml
end CommitForm
