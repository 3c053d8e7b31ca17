/-
# A pattern inside a group

A pattern can be read with more levels around it (`State.within`).  Unless it meets a closing
parenthesis that closes no group of its own (`MeetsStray`), it is read there as it is read alone.
A closing parenthesis behind it closes the group around it, unless the pattern ends in a comment
(`State.run?_within`).
-/

import CommitForm.Proofs.PatternClasses
import CommitForm.Proofs.PatternCounts

namespace CommitForm
namespace Pattern

/-! ## Flags and names of groups -/

/-- The flags and the character behind them, read together, to have one result in front of the
rest. -/
def assocFlags (p : List FlagChange × Char × List Char) : (List FlagChange × Char) × List Char :=
  ((p.1, p.2.1), p.2.2)

/-- The parenthesis completes a change of flags, which it closes, with nothing left behind it. -/
def FlagsTaken (p : List FlagChange × Char) (rest : List Char) : Prop := p.2 = ')' ∧ rest = []

/-- Flags are read the same with a parenthesis behind the text, unless the text ends in them and the
parenthesis closes them. -/
theorem readFlags_append (on : Bool) (seen : List Flag) (cs : List Char) :
    Extends FlagsTaken cs.length ((readFlags on seen cs).map assocFlags)
      ((readFlags on seen (cs ++ [')'])).map assocFlags) := by
  induction cs generalizing on seen with
  | nil =>
    have htaken : FlagsTaken ([], ')') [] := ⟨rfl, rfl⟩
    have hparen : readFlags on seen [')'] = some ([], ')', []) := by
      rw [readFlags.eq_def]
      exact if_pos (.inr rfl)
    rw [List.nil_append, hparen]
    exact .taken _ _ htaken
  | cons c cs ih =>
    rw [List.cons_append, readFlags.eq_def, readFlags.eq_def on seen (c :: (cs ++ [')']))]
    dsimp only
    split
    · exact .kept ([], c) cs (Nat.le_succ _)
    · split
      · cases on with
        | false => exact .failed
        | true =>
          cases cs with
          | nil => exact .failed
          | cons d ds =>
            dsimp only [List.cons_append]
            split
            · exact .failed
            · exact (ih false seen).le (Nat.le_succ _)
      · cases Flag.ofLetter? c with
        | none => exact .failed
        | some flag =>
          simp only [Option.bind_eq_bind, Option.bind_some]
          split
          · exact .failed
          · have hmap (o : Option (List FlagChange × Char × List Char)) :
                (o.bind fun p => some (⟨flag, on⟩ :: p.1, p.2.1, p.2.2)).map assocFlags =
                  (o.map assocFlags).map fun p => ((⟨flag, on⟩ :: p.1.1, p.1.2), p.2) := by
              cases o <;> rfl
            rw [hmap, hmap]
            have hle (p : List FlagChange × Char) (rest : List Char) (h : FlagsTaken p rest) :
                FlagsTaken (⟨flag, on⟩ :: p.1, p.2) rest := h
            exact ((ih on (flag :: seen)).le (Nat.le_succ _)).map hle

/-- The name of a group is read the same with a parenthesis behind the text, which no name holds. -/
theorem readGroupName_append (cs : List Char) :
    Extends Never cs.length (readGroupName cs) (readGroupName (cs ++ [')'])) := by
  simp only [readGroupName]
  rcases cut_append '>' (by decide) cs with ⟨h, h'⟩ | ⟨rest, hlt, hdrop, hdrop', htake⟩
  · rw [h, h']
    generalize cs.takeWhile (· ≠ '>') = name
    generalize (cs ++ [')']).takeWhile (· ≠ '>') = name'
    cases name <;> cases name' <;> exact .failed
  · rw [hdrop, hdrop', htake]
    cases cs.takeWhile (· ≠ '>') with
    | nil => exact .failed
    | cons c name =>
      dsimp only
      split
      · exact .kept _ rest (Nat.le_of_lt hlt)
      · exact .failed

/-! ## More levels around a pattern -/

namespace State

/-- The state with more levels around it, as a pattern has it inside a group. -/
def within (s : State) (ws : List Waiting) : State := { s with outer := s.outer ++ ws }

/-- The rest of a text with the state around it, to compare a step alone with the step inside a
group. -/
def lift (ws : List Waiting) (p : State × List Char) : State × List Char := (p.1.within ws, p.2)

variable {s : State} {ws : List Waiting}

/-- The last part is repeated in the same way inside a group. -/
theorem repetition_within (least : Nat) (most : Option Nat) (rest : List Char) :
    ((s.within ws).level.repeatLast? least most).map
        (fun level => ({ s.within ws with level }, rest)) =
      ((s.level.repeatLast? least most).map fun level =>
        ({ s with level }, rest)).map (lift ws) := by
  rw [Option.map_map]
  rfl

/-- A group that is open in the pattern itself is closed in the same way inside a group. -/
theorem closeGroup?_within (h : s.outer ≠ []) (cs : List Char) :
    (s.within ws).closeGroup?.map (·, cs) = (s.closeGroup?.map (·, cs)).map (lift ws) := by
  obtain ⟨level, outer, verbose, names⟩ := s
  cases outer with
  | nil => exact absurd rfl h
  | cons w outer => rfl

/-- The opening of a group with a name, behind the angle bracket; a name that is taken is
refused. -/
def named? (s : State) (cs : List Char) : Option (State × List Char) :=
  (readGroupName cs).bind fun p =>
    if s.names.contains p.1 then none
    else some ({ s.openGroup true [] with names := p.1 :: s.names }, p.2)

/-- A change of flags, or the opening of a group with one, behind the question mark. -/
def flagged? (s : State) (cs : List Char) : Option (State × List Char) :=
  ((readFlags true [] cs).map assocFlags).bind fun p =>
    if p.1.2 = ')' then
      if p.1.1 = [] then none
      else
        some ({ s.add (.flags p.1.1) with
          verbose := ((p.1.1.find? (·.flag = .verbose)).map (·.on)).getD s.verbose }, p.2)
    else some (s.openGroup false p.1.1, p.2)

/-- Whether a text begins like a look-around, which is refused. -/
def looksAround (cs : List Char) : Bool :=
  [['?', '='], ['?', '!'], ['?', '<', '='], ['?', '<', '!']].any fun start =>
    (Text.dropStart? start cs).isSome

/-- The opening of a group behind what is skipped, by how the text begins there. -/
def groupBehind? (s : State) (cs : List Char) : Option (State × List Char) :=
  if looksAround cs then none
  else
    match Text.dropStart? ['?', 'P', '<'] cs with
    | some rest => s.named? rest
    | none =>
      match Text.dropStart? ['?', '<'] cs with
      | some rest => s.named? rest
      | none =>
        match Text.dropStart? ['?'] cs with
        | some rest => s.flagged? rest
        | none => some (s.openGroup true [], cs)

/-- A text that does not begin with a beginning has none to be dropped. -/
theorem dropStart?_eq_none (start : List Char) {cs : List Char}
    (h : ∀ rest, cs = start ++ rest → False) :
    Text.dropStart? start cs = none := by
  cases hstart : Text.dropStart? start cs with
  | none => rfl
  | some rest => exact (h rest (Text.eq_append_of_dropStart? hstart)).elim

/-- The opening of a group is read behind what is skipped. -/
theorem readGroup?_eq (cs : List Char) :
    s.readGroup? cs = s.groupBehind? (skip s.verbose cs) := by
  rw [readGroup?]
  dsimp only
  generalize skip s.verbose cs = cs
  split
  · rfl
  · rfl
  · rfl
  · rfl
  · rfl
  · next hequal hnot =>
    rename_i rest
    have hequal := dropStart?_eq_none ['='] hequal
    have hnot := dropStart?_eq_none ['!'] hnot
    have hgroup : s.groupBehind? ('?' :: '<' :: rest) = s.named? rest := by
      simp [groupBehind?, looksAround, Text.dropStart?, hequal, hnot]
    rw [hgroup]
    rfl
  · next hequal hnot hbehindEqual hbehindNot hnamed hnamed' =>
    rename_i rest
    have hequal := dropStart?_eq_none ['='] hequal
    have hnot := dropStart?_eq_none ['!'] hnot
    have hbehindEqual := dropStart?_eq_none ['<', '='] hbehindEqual
    have hbehindNot := dropStart?_eq_none ['<', '!'] hbehindNot
    have hnamed := dropStart?_eq_none ['P', '<'] hnamed
    have hnamed' := dropStart?_eq_none ['<'] hnamed'
    have hgroup : s.groupBehind? ('?' :: rest) = s.flagged? rest := by
      simp [groupBehind?, looksAround, Text.dropStart?, hequal, hnot, hbehindEqual, hbehindNot,
        hnamed, hnamed']
    rw [hgroup]
    cases hflags : readFlags true [] rest with
    | none => simp [flagged?, hflags]
    | some p => simp [flagged?, hflags, assocFlags]
  · next hquestion =>
    cases cs with
    | nil => rfl
    | cons c cs =>
      have hc : '?' ≠ c := fun hc => hquestion cs (by rw [hc])
      simp [groupBehind?, looksAround, Text.dropStart?, hc]

/-- The opening of a group is read in the same way inside another one. -/
theorem readGroup?_within (cs : List Char) :
    (s.within ws).readGroup? cs = (s.readGroup? cs).map (lift ws) := by
  have hverbose : (s.within ws).verbose = s.verbose := rfl
  have hnames : (s.within ws).names = s.names := rfl
  have hnamed (cs : List Char) : (s.within ws).named? cs = (s.named? cs).map (lift ws) := by
    rw [named?, named?, hnames, Option.map_bind]
    refine Option.bind_congr fun p _ => ?_
    simp only [Function.comp]
    split
    · rfl
    · rfl
  have hflagged (cs : List Char) : (s.within ws).flagged? cs = (s.flagged? cs).map (lift ws) := by
    rw [flagged?, flagged?, Option.map_bind]
    refine Option.bind_congr fun p _ => ?_
    simp only [Function.comp]
    split
    · split
      · rfl
      · rfl
    · rfl
  rw [readGroup?_eq, readGroup?_eq, hverbose, groupBehind?, groupBehind?]
  split
  · rfl
  · cases Text.dropStart? ['?', 'P', '<'] (skip s.verbose cs) with
    | some rest => exact hnamed rest
    | none =>
      cases Text.dropStart? ['?', '<'] (skip s.verbose cs) with
      | some rest => exact hnamed rest
      | none =>
        cases Text.dropStart? ['?'] (skip s.verbose cs) with
        | some rest => exact hflagged rest
        | none => rfl

/-- A part is read in the same way inside a group, unless it is a parenthesis that closes the group
itself. -/
theorem step?_within {c : Char} (h : c = ')' → s.outer ≠ []) (cs : List Char) :
    (s.within ws).step? c cs = (s.step? c cs).map (lift ws) := by
  rw [step?.eq_def, step?.eq_def s]
  dsimp only
  split
  · exact readGroup?_within cs
  · exact closeGroup?_within (h rfl) cs
  · rfl
  · rw [Option.map_bind]
    rfl
  · exact repetition_within 0 (some 1) _
  · exact repetition_within 0 none _
  · exact repetition_within 1 none _
  · rw [Option.map_bind]
    exact Option.bind_congr fun p _ => repetition_within _ _ _
  · rw [Option.map_bind]
    rfl
  · rfl
  · rfl
  · rfl
  · rfl

/-! ## One part with the parenthesis behind the text -/

/-- What the parenthesis completes to a part of a pattern: no group is opened or closed, and nothing
is left but a brace that begins no repetition. -/
def StepTaken (s s' : State) (rest : List Char) : Prop :=
  s'.outer = s.outer ∧
    (rest = [] ∨ ∃ inner, rest = '\x7b' :: inner ∧ skip s'.verbose inner = [')'])

/-- Whether a text begins like a look-around does not change with a parenthesis behind it. -/
theorem looksAround_append (cs : List Char) : looksAround (cs ++ [')']) = looksAround cs := by
  simp [looksAround, dropStart?_append_paren]

/-- The opening of a group with a name is read the same with a parenthesis behind the text. -/
theorem named?_append (cs : List Char) :
    Extends (StepTaken s) cs.length (s.named? cs) (s.named? (cs ++ [')'])) := by
  rw [named?, named?]
  refine (readGroupName_append cs).bind (fun name rest hn => ?_) (fun name => ?_)
    fun _ _ h => h.elim
  · dsimp only
    split
    · exact .failed
    · exact .kept _ rest hn
  · dsimp only
    split
    · exact .failed
    · exact .skipped _

/-- The opening of a group with flags is read the same with a parenthesis behind the text, unless
that closes a change of flags. -/
theorem flagged?_append (cs : List Char) :
    Extends (StepTaken s) cs.length (s.flagged? cs) (s.flagged? (cs ++ [')'])) := by
  rw [flagged?, flagged?]
  refine (readFlags_append true [] cs).bind (fun flags rest hn => ?_) (fun flags => ?_)
    fun flags rest htaken => ?_
  · dsimp only
    split
    · split
      · exact .failed
      · exact .kept _ rest hn
    · exact .kept _ rest hn
  · dsimp only
    split
    · split
      · exact .failed
      · exact .skipped _
    · exact .skipped _
  · obtain ⟨hstop, rfl⟩ := htaken
    dsimp only
    rw [if_pos hstop]
    split
    · exact .failed
    · exact .taken _ _ ⟨rfl, .inl rfl⟩

/-- Dropping a beginning does not make a text longer. -/
theorem length_of_dropStart? {start cs rest : List Char}
    (h : Text.dropStart? start cs = some rest) :
    rest.length ≤ cs.length := by
  rw [Text.eq_append_of_dropStart? h, List.length_append]
  exact Nat.le_add_left _ _

/-- The opening of a group is read the same behind what is skipped, unless the parenthesis completes
it. -/
theorem groupBehind?_append (cs : List Char) :
    Extends (StepTaken s) cs.length (s.groupBehind? cs) (s.groupBehind? (cs ++ [')'])) := by
  have hlook : ')' ∉ ['?', 'P', '<'] ∧ ')' ∉ ['?', '<'] ∧ ')' ∉ ['?'] := by decide
  rw [groupBehind?, groupBehind?, looksAround_append, dropStart?_append_paren hlook.1,
    dropStart?_append_paren hlook.2.1, dropStart?_append_paren hlook.2.2]
  split
  · exact .failed
  · cases hnamed : Text.dropStart? ['?', 'P', '<'] cs with
    | some rest => exact (named?_append rest).le (length_of_dropStart? hnamed)
    | none =>
      cases hangle : Text.dropStart? ['?', '<'] cs with
      | some rest => exact (named?_append rest).le (length_of_dropStart? hangle)
      | none =>
        cases hflags : Text.dropStart? ['?'] cs with
        | some rest => exact (flagged?_append rest).le (length_of_dropStart? hflags)
        | none => exact .kept _ cs (Nat.le_refl _)

/-- The opening of a group is read the same with a parenthesis behind the text, unless that
completes it. -/
theorem readGroup?_append (cs : List Char) :
    Extends (StepTaken s) cs.length (s.readGroup? cs) (s.readGroup? (cs ++ [')'])) := by
  rw [readGroup?_eq, readGroup?_eq]
  refine .of_skip ((groupBehind?_append _).le (length_skip_le s.verbose cs))
    fun _ => .skipped _

/-- A repetition is read the same with a parenthesis behind the text, if what follows it is. -/
theorem repetition_append (least : Nat) (most : Option Nat) {rest rest' : List Char} {n : Nat}
    (h : Extends Never n (some ((), rest)) (some ((), rest'))) :
    Extends (StepTaken s) n
      ((s.level.repeatLast? least most).map fun level => ({ s with level }, rest))
      ((s.level.repeatLast? least most).map fun level => ({ s with level }, rest')) := by
  cases s.level.repeatLast? least most with
  | none => exact .failed
  | some level => exact h.map (f := fun _ => { s with level }) fun _ _ h => h.elim

/-- A part of a pattern is read the same with a parenthesis behind the text, unless that completes
it or stands where it is read. -/
theorem step?_append (c : Char) (cs : List Char) :
    Extends (StepTaken s) cs.length (s.step? c cs) (s.step? c (cs ++ [')'])) := by
  rw [step?.eq_def, step?.eq_def s]
  dsimp only
  split
  · exact readGroup?_append cs
  · exact .ofOption _ s.closeGroup? (Nat.le_refl _)
  · exact .kept _ cs (Nat.le_refl _)
  · have hclass (o : Option (Bool × ClassTree × List Char)) :
        (o.bind fun p => some (s.add (.bracket p.1 p.2.1), p.2.2)) =
          (o.map assoc).map fun p => (s.add (.bracket p.1.1 p.1.2), p.2) := by
      cases o <;> rfl
    rw [hclass, hclass]
    exact (readClass_append cs).map (f := fun p => s.add (.bracket p.1 p.2)) fun _ _ h => h.elim
  · exact repetition_append 0 (some 1) (dropLazy_append () cs)
  · exact repetition_append 0 none (dropLazy_append () cs)
  · exact repetition_append 1 none (dropLazy_append () cs)
  · exact (readCounts_append cs).bind
      (fun counts rest hn => repetition_append _ _ (.kept () rest hn))
      (fun counts => repetition_append _ _ (.skipped ())) fun _ _ h => h.elim
  · refine (readEscape_append cs).bind (fun p rest hn => .kept _ rest hn) (fun p => .skipped _)
      fun p rest htaken => .taken _ rest ⟨rfl, ?_⟩
    exact htaken.imp_right fun h => h.2
  · exact .kept _ cs (Nat.le_refl _)
  · exact .kept _ cs (Nat.le_refl _)
  · exact .kept _ cs (Nat.le_refl _)
  · exact .kept _ cs (Nat.le_refl _)

/-! ## The whole text -/

/-- Reading a text meets a closing parenthesis where no group is open, at once or behind some
parts. -/
inductive MeetsStray : State → List Char → Prop where
  | here {s : State} {cs rest : List Char} (hskip : skip s.verbose cs = ')' :: rest)
      (houter : s.outer = []) : MeetsStray s cs
  | later {s s' : State} {c : Char} {cs rest rest' : List Char}
      (hskip : skip s.verbose cs = c :: rest) (hstep : s.step? c rest = some (s', rest'))
      (hrest : MeetsStray s' rest') : MeetsStray s cs

/-- Where nothing is left but what is skipped, the pattern is finished. -/
theorem run?_of_nil {n : Nat} {cs : List Char} (h : skip s.verbose cs = []) :
    s.run? (n + 1) cs = s.finish? := by
  simp only [run?, h]

/-- Where a character is left, the part that it begins is read and reading goes on behind it. -/
theorem run?_of_cons {n : Nat} {c : Char} {cs rest : List Char}
    (h : skip s.verbose cs = c :: rest) :
    s.run? (n + 1) cs = (s.step? c rest).bind fun p => p.1.run? n p.2 := by
  simp only [run?, h]

/-- A closing parenthesis is refused where no group is open. -/
theorem step?_stray (h : s.outer = []) (rest : List Char) : s.step? ')' rest = none := by
  rw [step?, closeGroup?, h]
  rfl

/-- A pattern with a stray closing parenthesis is none, so what is spliced around it decides what
becomes of it. -/
theorem MeetsStray.run?_eq_none {cs : List Char} (h : MeetsStray s cs) (n : Nat) :
    s.run? n cs = none := by
  induction h generalizing n with
  | @here s cs rest hskip houter =>
    cases n with
    | zero => rfl
    | succ n => rw [run?_of_cons hskip, step?_stray houter, Option.bind_none]
  | later hskip hstep hrest ih =>
    cases n with
    | zero => rfl
    | succ n => rw [run?_of_cons hskip, hstep, Option.bind_some, ih]

/-- A pattern is not finished while a group is open. -/
theorem finish?_eq_none (h : s.outer ≠ []) : s.finish? = none := by
  rw [finish?, if_neg]
  rwa [List.isEmpty_iff]

/-- A pattern is finished with its tree if no group is open. -/
theorem finish?_eq_some_iff {t : Tree} : s.finish? = some t ↔ s.outer = [] ∧ s.level.tree = t := by
  rw [finish?, Option.ite_none_right_eq_some, List.isEmpty_iff, Option.some_inj]

/-- What only the parenthesis completes is no part of a pattern that is closed. -/
theorem StepTaken.run?_eq_none {s' : State} {rest : List Char} (h : StepTaken s s' rest)
    (houter : s.outer ≠ []) (n : Nat) : s'.run? n rest = none := by
  obtain ⟨hsame, hrest⟩ := h
  cases n with
  | zero => rfl
  | succ n =>
    rcases hrest with rfl | ⟨inner, rfl, hinner⟩
    · rw [run?_of_nil (skip_nil _), finish?_eq_none (hsame ▸ houter)]
    · have hstep : s'.step? '\x7b' inner = none := by
        rw [step?, readCounts_eq, hinner, readCount_paren]
        rfl
      rw [run?_of_cons (skip_cons_of_ne (by decide) (by decide) inner), hstep, Option.bind_none]

/-- The tree that a closing parenthesis makes of the tree of a pattern with levels around it. -/
def closing? (ws : List Waiting) (t : Tree) : Option Tree :=
  match ws with
  | [] => none
  | w :: ws =>
    if ws = [] then some (w.level.add (.group w.captures w.changes t)).tree else none

/-- A pattern without open groups has just the given levels around it inside a group. -/
theorem within_of_outer (h : s.outer = []) : (s.within ws).outer = ws := by
  rw [within, h, List.nil_append]

/-- Inside a group a group is open, whatever the pattern itself has opened. -/
theorem outer_within_ne (hws : ws ≠ []) : (s.within ws).outer ≠ [] := by
  rw [within]
  exact List.append_ne_nil_of_right_ne_nil s.outer hws

/-- The parenthesis behind a finished pattern closes the group around it, with the tree of the
pattern as its content. -/
theorem run?_paren {n : Nat} {cs : List Char} (hskip : skip s.verbose cs = [')'])
    (houter : s.outer = []) :
    (s.within ws).run? (n + 2) cs = closing? ws s.level.tree := by
  have hskip : skip (s.within ws).verbose cs = [')'] := hskip
  have hwithin : (s.within ws).outer = ws := within_of_outer houter
  have hstep : (s.within ws).step? ')' [] = (s.within ws).closeGroup?.map (·, []) := rfl
  rw [run?_of_cons hskip, hstep, closeGroup?, hwithin]
  cases ws with
  | nil => rfl
  | cons w ws =>
    simp only [Option.map_some, Option.bind_some]
    rw [run?_of_nil (skip_nil _), finish?, closing?]
    simp only [List.isEmpty_iff]
    rfl

/-- A finished pattern is finished inside a group only if there is none. -/
theorem finish?_within {t : Tree} (h : s.finish? = some t) (ws : List Waiting) :
    (s.within ws).finish? = if ws = [] then some t else none := by
  obtain ⟨houter, rfl⟩ := finish?_eq_some_iff.1 h
  rw [finish?, within_of_outer houter]
  simp only [List.isEmpty_iff]
  rfl

/-- Inside a group the next part is read as it is read alone, unless it closes the group itself. -/
theorem run?_within_cons {n : Nat} {c : Char} {cs rest : List Char}
    (h : skip s.verbose cs = c :: rest) (hopen : c = ')' → s.outer ≠ []) :
    (s.within ws).run? (n + 1) cs =
      ((s.step? c rest).map (lift ws)).bind fun p => p.1.run? n p.2 := by
  have h : skip (s.within ws).verbose cs = c :: rest := h
  rw [run?_of_cons h, step?_within hopen]

/-- **A pattern is read inside a group as it is read alone,** and the parenthesis behind it closes
the group unless it is skipped in a comment. -/
theorem run?_within {n : Nat} {cs : List Char} {t : Tree} (h : s.run? n cs = some t) :
    ∃ inComment : Bool, ∀ ws m, cs.length + 1 < m →
      (s.within ws).run? m (cs ++ [')']) =
        if inComment then (if ws = [] then some t else none) else closing? ws t := by
  induction n generalizing s cs with
  | zero => cases h
  | succ n ih =>
    have hlength := length_skip_le s.verbose cs
    rcases skip_append s.verbose cs with hskip' | ⟨hskip, hskip'⟩
    · cases hskip : skip s.verbose cs with
      | nil =>
        rw [run?_of_nil hskip] at h
        obtain ⟨houter, rfl⟩ := finish?_eq_some_iff.1 h
        refine ⟨false, fun ws m hm => ?_⟩
        obtain ⟨m, rfl⟩ : ∃ k, m = k + 2 := ⟨m - 2, by omega⟩
        rw [hskip] at hskip'
        exact run?_paren hskip' houter
      | cons c rest =>
        rw [hskip, List.length_cons] at hlength
        rw [hskip, List.cons_append] at hskip'
        rw [run?_of_cons hskip] at h
        obtain ⟨p, hstep, hrun⟩ := Option.bind_eq_some_iff.1 h
        obtain ⟨s', rest'⟩ := p
        have hopen : c = ')' → s.outer ≠ [] := by
          rintro rfl houter
          rw [step?_stray houter] at hstep
          cases hstep
        have hextends := step?_append (s := s) c rest
        rw [hstep] at hextends
        generalize hb : s.step? c (rest ++ [')']) = b at hextends
        cases hextends with
        | kept _ _ hn =>
          obtain ⟨inComment, hall⟩ := ih hrun
          refine ⟨inComment, fun ws m hm => ?_⟩
          obtain ⟨m, rfl⟩ : ∃ k, m = k + 1 := Nat.exists_eq_succ_of_ne_zero (by omega)
          rw [run?_within_cons hskip' hopen, hb]
          exact hall ws m (Nat.lt_of_le_of_lt (Nat.succ_le_succ hn) (by omega))
        | skipped _ =>
          refine ⟨true, fun ws m hm => ?_⟩
          obtain ⟨m, rfl⟩ : ∃ k, m = k + 2 := ⟨m - 2, by omega⟩
          obtain ⟨n, rfl⟩ : ∃ k, n = k + 1 := Nat.exists_eq_succ_of_ne_zero fun hn => by
            rw [hn] at hrun
            cases hrun
          rw [run?_of_nil (skip_nil _)] at hrun
          rw [run?_within_cons hskip' hopen, hb]
          exact (run?_of_nil (skip_nil _)).trans (finish?_within hrun ws)
    · rw [run?_of_nil hskip] at h
      refine ⟨true, fun ws m hm => ?_⟩
      obtain ⟨m, rfl⟩ : ∃ k, m = k + 1 := Nat.exists_eq_succ_of_ne_zero (by omega)
      have hskip' : skip (s.within ws).verbose (cs ++ [')']) = [] := hskip'
      rw [run?_of_nil hskip', finish?_within h]
      rfl

/-- What is no pattern alone is none inside a group, unless a parenthesis closes the group early. -/
theorem run?_within_eq_none {n m : Nat} {cs : List Char} (hn : cs.length < n)
    (hm : cs.length + 1 < m) (h : s.run? n cs = none) (hstray : ¬ MeetsStray s cs) (hws : ws ≠ []) :
    (s.within ws).run? m (cs ++ [')']) = none := by
  have houter (s : State) : (s.within ws).outer ≠ [] := outer_within_ne hws
  induction n generalizing m s cs with
  | zero => omega
  | succ n ih =>
    obtain ⟨m, rfl⟩ : ∃ k, m = k + 2 := ⟨m - 2, by omega⟩
    have hlength := length_skip_le s.verbose cs
    rcases skip_append s.verbose cs with hskip' | ⟨hskip, hskip'⟩
    · cases hskip : skip s.verbose cs with
      | nil =>
        rw [hskip, List.nil_append] at hskip'
        have hopen : s.outer ≠ [] := fun hnil => by
          rw [run?_of_nil hskip, finish?_eq_some_iff.2 ⟨hnil, rfl⟩] at h
          cases h
        rw [run?_within_cons hskip' fun _ => hopen]
        have hstep : s.step? ')' [] = s.closeGroup?.map (·, []) := rfl
        rw [hstep]
        cases s.closeGroup? with
        | none => rfl
        | some s' => exact (run?_of_nil (skip_nil _)).trans (finish?_eq_none (houter s'))
      | cons c rest =>
        rw [hskip, List.length_cons] at hlength
        rw [hskip, List.cons_append] at hskip'
        have hopen : c = ')' → s.outer ≠ [] := by
          rintro rfl hnil
          exact hstray (.here hskip hnil)
        rw [run?_of_cons hskip] at h
        rw [run?_within_cons hskip' hopen]
        have hextends := step?_append (s := s) c rest
        generalize ha : s.step? c rest = a at hextends h
        generalize s.step? c (rest ++ [')']) = b at hextends
        cases hextends with
        | kept s' rest' hn =>
          exact ih (Nat.lt_of_le_of_lt hn (by omega))
            (Nat.lt_of_le_of_lt (Nat.succ_le_succ hn) (by omega)) h
            fun hrest => hstray (.later hskip ha hrest)
        | skipped s' => exact (run?_of_nil (skip_nil _)).trans (finish?_eq_none (houter s'))
        | failed => rfl
        | taken s' rest' htaken =>
          have htaken : StepTaken (s.within ws) (s'.within ws) rest' :=
            ⟨congrArg (· ++ ws) htaken.1, htaken.2⟩
          exact htaken.run?_eq_none (houter s) (m + 1)
    · have hskip' : skip (s.within ws).verbose (cs ++ [')']) = [] := hskip'
      rw [run?_of_nil hskip', finish?_eq_none (houter s)]

end State

end Pattern
end CommitForm
