/-
# Empty lines

A text is told by its `Spacing`: its characters that are no line feeds, each with the number of line
feeds right before it, and the number of line feeds at its end.  These numbers are the lengths of
the runs of line feeds, and reducing empty lines changes nothing else:

| run of `k` line feeds | becomes |
| --- | --- |
| before a character, `k ≤ 2` | itself |
| before a character, `2 < k` | two line feeds |
| at the end | nothing |

So a reduced text has no three line feeds in a row and none at its end, and the texts like that
(`IsReduced`) are the ones that reducing leaves as they are (`reduceEmptyLines_eq_self_iff`).
-/

import Mathlib.Data.List.Infix
import CommitForm.Form.Template

namespace CommitForm
namespace Template

/-- The characters of a text, each with the line feeds before it, and the line feeds at the end. -/
structure Spacing where
  chars : List (Nat × {c : Char // c ≠ '\n'})
  trail : Nat

namespace Spacing

/-- The text of a spacing: before each character its run of line feeds, and the last run at the
end. -/
def written (s : Spacing) : List Char :=
  s.chars.foldr (fun x cs => List.replicate x.1 '\n' ++ x.2.1 :: cs) (List.replicate s.trail '\n')

/-- One more line feed at the beginning, which lengthens the first run, or the last one if there are
no characters. -/
def push : Spacing → Spacing
  | ⟨[], trail⟩ => ⟨[], trail + 1⟩
  | ⟨(k, c) :: xs, trail⟩ => ⟨(k + 1, c) :: xs, trail⟩

/-- The spacing of a text, read from its end: a line feed lengthens the run before what follows,
another character begins a run of its own. -/
def ofText : List Char → Spacing
  | [] => ⟨[], 0⟩
  | c :: cs =>
    if h : c = '\n' then (ofText cs).push else ⟨(0, ⟨c, h⟩) :: (ofText cs).chars, (ofText cs).trail⟩

/-- The spacing with no more than two line feeds before a character and none at the end. -/
def reduced (s : Spacing) : Spacing := ⟨s.chars.map fun x => (min x.1 2, x.2), 0⟩

/-- The text of a spacing begins with its first run and the character behind that run. -/
theorem written_cons (k : Nat) (c : {c : Char // c ≠ '\n'})
    (xs : List (Nat × {c : Char // c ≠ '\n'})) (trail : Nat) :
    written ⟨(k, c) :: xs, trail⟩ = List.replicate k '\n' ++ c.1 :: written ⟨xs, trail⟩ := rfl

/-- One more line feed at the beginning is one more line feed in the text. -/
theorem written_push (s : Spacing) : s.push.written = '\n' :: s.written := by
  obtain ⟨xs, trail⟩ := s
  cases xs with
  | nil => rfl
  | cons x xs => rfl

/-- Every text has a spacing, the one that is read off it character by character. -/
theorem written_ofText (cs : List Char) : (ofText cs).written = cs := by
  induction cs with
  | nil => rfl
  | cons c cs ih =>
    rw [ofText]
    split
    · next h => rw [written_push, ih, h]
    · exact congrArg (c :: ·) ih

/-- A run and the character behind it are the first part of a spacing, whatever follows. -/
theorem ofText_run (k : Nat) (c : {c : Char // c ≠ '\n'}) (cs : List Char) :
    ofText (List.replicate k '\n' ++ c.1 :: cs) =
      ⟨(k, c) :: (ofText cs).chars, (ofText cs).trail⟩ := by
  induction k with
  | zero => rw [List.replicate_zero, List.nil_append, ofText, dif_neg c.2]
  | succ k ih =>
    rw [List.replicate_succ, List.cons_append, ofText, dif_pos rfl, ih]
    rfl

/-- A text of line feeds alone has no characters, and all its line feeds are the run at the end. -/
theorem ofText_replicate (k : Nat) : ofText (List.replicate k '\n') = ⟨[], k⟩ := by
  induction k with
  | zero => rfl
  | succ k ih =>
    rw [List.replicate_succ, ofText, dif_pos rfl, ih]
    rfl

/-- The text of a spacing has this spacing, so no two spacings have one text. -/
theorem ofText_written (s : Spacing) : ofText s.written = s := by
  obtain ⟨xs, trail⟩ := s
  induction xs with
  | nil => exact ofText_replicate trail
  | cons x xs ih => rw [written_cons, ofText_run, ih]

/-- **A text has one spacing,** so what is done to the runs is a description of what is done to the
text. -/
theorem written_eq_iff {s : Spacing} {cs : List Char} : s.written = cs ↔ s = ofText cs := by
  constructor
  · rintro rfl
    exact (ofText_written s).symm
  · rintro rfl
    exact written_ofText cs

/-! ## Runs of line feeds -/

/-- The run at the end of a spacing stands behind the text of all its other parts. -/
theorem written_trail (xs : List (Nat × {c : Char // c ≠ '\n'})) (trail : Nat) :
    written ⟨xs, trail⟩ = written ⟨xs, 0⟩ ++ List.replicate trail '\n' := by
  induction xs with
  | nil => rfl
  | cons x xs ih => rw [written_cons, ih, written_cons, List.append_assoc, List.cons_append]

/-- A text without line feeds at its end ends with a character, so nothing is trimmed from it. -/
theorem getLast?_written (xs : List (Nat × {c : Char // c ≠ '\n'})) :
    (written ⟨xs, 0⟩).getLast? ≠ some '\n' := by
  induction xs with
  | nil => simp [written]
  | cons x xs ih =>
    rw [written_cons, List.getLast?_append, List.getLast?_cons]
    intro h
    cases hlast : (written ⟨xs, 0⟩).getLast? with
    | none =>
      rw [hlast] at h
      exact x.2.2 (by simpa using h)
    | some d =>
      rw [hlast] at h ih
      exact ih (by simpa using h)

/-- A run before a character has at most its own length, since the character is no line feed. -/
theorem replicate_prefix_iff {m k : Nat} {c : Char} (hc : c ≠ '\n') (cs : List Char) :
    List.replicate m '\n' <+: List.replicate k '\n' ++ c :: cs ↔ m ≤ k := by
  induction m generalizing k with
  | zero => simp
  | succ m ih =>
    cases k with
    | zero =>
      have hne : '\n' ≠ c := hc.symm
      simp [List.replicate_succ, List.cons_prefix_cons, hne]
    | succ k =>
      rw [List.replicate_succ, List.replicate_succ, List.cons_append, List.cons_prefix_cons, ih]
      simp

/-- Line feeds in a row stand in the first run or behind its character, but never across it. -/
theorem replicate_infix_append_iff {m k : Nat} {c : Char} (hc : c ≠ '\n') (cs : List Char) :
    List.replicate m '\n' <:+: List.replicate k '\n' ++ c :: cs ↔
      m ≤ k ∨ List.replicate m '\n' <:+: cs := by
  induction k with
  | zero =>
    have hprefix := replicate_prefix_iff (m := m) (k := 0) hc cs
    rw [List.replicate_zero, List.nil_append] at hprefix ⊢
    rw [List.infix_cons_iff, hprefix]
  | succ k ih =>
    have hprefix := replicate_prefix_iff (m := m) (k := k + 1) hc cs
    rw [List.replicate_succ, List.cons_append] at hprefix ⊢
    rw [List.infix_cons_iff, hprefix, ih, ← or_assoc]
    refine or_congr_left ⟨fun h => ?_, fun h => .inl h⟩
    omega

/-- **Line feeds in a row** are part of one run, before one of the characters or at the end. -/
theorem replicate_infix_written_iff {m : Nat} {s : Spacing} :
    List.replicate m '\n' <:+: s.written ↔ (∃ x ∈ s.chars, m ≤ x.1) ∨ m ≤ s.trail := by
  obtain ⟨xs, trail⟩ := s
  induction xs with
  | nil =>
    have hiff : List.replicate m '\n' <:+: List.replicate trail '\n' ↔ m ≤ trail := by
      constructor
      · intro h
        have hlength := h.length_le
        rwa [List.length_replicate, List.length_replicate] at hlength
      · intro h
        refine ⟨[], List.replicate (trail - m) '\n', ?_⟩
        rw [List.nil_append, List.replicate_append_replicate, Nat.add_sub_cancel' h]
    simpa [written] using hiff
  | cons x xs ih =>
    rw [written_cons, replicate_infix_append_iff x.2.2, ih]
    simp [or_assoc]

end Spacing

/-! ## Reducing -/

/-- No three line feeds stand in a row, and none at the end: there is at most one empty line between
two lines. -/
def IsReduced (text : String) : Prop :=
  ¬List.replicate 3 '\n' <:+: text.toList ∧ text.toList.getLast? ≠ some '\n'

/-- Of a run, no more is kept than is left of the two line feeds. -/
theorem shortenRuns_replicate_append (run k : Nat) (cs : List Char) :
    shortenRuns run (List.replicate k '\n' ++ cs) =
      List.replicate (min k (2 - run)) '\n' ++ shortenRuns (run + k) cs := by
  induction k generalizing run with
  | zero => simp
  | succ k ih =>
    have hrun : run + 1 + k = run + (k + 1) := by omega
    rw [List.replicate_succ, List.cons_append, shortenRuns, if_pos rfl, ih, hrun]
    -- The first line feed is kept if fewer than two come before it.
    split
    · have hmin : min (k + 1) (2 - run) = min k (2 - (run + 1)) + 1 := by omega
      rw [hmin, List.replicate_succ, List.cons_append]
    · have hmin : min (k + 1) (2 - run) = min k (2 - (run + 1)) := by omega
      rw [hmin]

namespace Spacing

/-- Each run is shortened by itself, also the one at the end, which is not yet dropped here. -/
theorem shortenRuns_written (s : Spacing) :
    shortenRuns 0 s.written = s.reduced.written ++ List.replicate (min s.trail 2) '\n' := by
  obtain ⟨xs, trail⟩ := s
  induction xs with
  | nil =>
    have h := shortenRuns_replicate_append 0 trail []
    rw [List.append_nil, shortenRuns, List.append_nil] at h
    exact h
  | cons x xs ih =>
    rw [written_cons, shortenRuns_replicate_append, shortenRuns, if_neg x.2.2, ih]
    simp [reduced, written]

/-- The run at the end is dropped, and no other run, since a character stands before the end of the
rest. -/
theorem dropWhile_written (s : Spacing) (trail : Nat) :
    ((s.reduced.written ++ List.replicate trail '\n').reverse.dropWhile (· == '\n')).reverse =
      s.reduced.written := by
  have hfeeds : ∀ c ∈ List.replicate trail '\n', (c == '\n') = true := by simp
  have hlast : s.reduced.written.reverse.head? ≠ some '\n' := by
    rw [List.head?_reverse]
    exact getLast?_written _
  rw [List.reverse_append, List.reverse_replicate, List.dropWhile_append_of_pos hfeeds]
  -- What is left ends with a character, if with anything, so no more is dropped.
  cases hd : s.reduced.written.reverse with
  | nil => rw [List.dropWhile_nil, ← hd, List.reverse_reverse]
  | cons c cs =>
    have hc : ¬(c == '\n') = true := by
      intro h
      rw [hd] at hlast
      exact hlast (by simpa using h)
    have hkept : (c :: cs).dropWhile (· == '\n') = c :: cs := List.dropWhile_cons_of_neg hc
    rw [hkept, ← hd, List.reverse_reverse]

/-- Line feeds end a text if its last run is not empty, and only then. -/
theorem getLast?_written_ne_iff (s : Spacing) : s.written.getLast? ≠ some '\n' ↔ s.trail = 0 := by
  obtain ⟨xs, trail⟩ := s
  cases trail with
  | zero => simpa using getLast?_written xs
  | succ trail =>
    rw [written_trail, List.getLast?_append, List.getLast?_replicate]
    simp

/-- No run is shortened of a spacing that has none of three line feeds, and none at the end. -/
theorem reduced_eq_self_iff (s : Spacing) :
    s.reduced = s ↔ (∀ x ∈ s.chars, x.1 < 3) ∧ s.trail = 0 := by
  obtain ⟨xs, trail⟩ := s
  have hshort (x : Nat × {c : Char // c ≠ '\n'}) : (min x.1 2, x.2) = x ↔ x.1 < 3 := by
    rw [Prod.ext_iff, and_iff_left rfl]
    show min x.1 2 = x.1 ↔ x.1 < 3
    omega
  have hsame : (xs.map fun x => (min x.1 2, x.2)) = xs ↔ ∀ x ∈ xs, x.1 < 3 := by
    have hinj := List.map_inj_left (l := xs) (f := fun x => (min x.1 2, x.2)) (g := id)
    rw [List.map_id] at hinj
    exact hinj.trans (forall₂_congr fun x _ => hshort x)
  rw [reduced, Spacing.mk.injEq, hsame, eq_comm (a := 0)]

end Spacing

/-- Reducing a text is writing its reduced spacing, by shortening all runs and then dropping the
last one. -/
theorem toList_reduceEmptyLines (text : String) :
    (reduceEmptyLines text).toList = (Spacing.ofText text.toList).reduced.written := by
  rw [reduceEmptyLines, String.toList_ofList]
  have hshort := (Spacing.ofText text.toList).shortenRuns_written
  rw [Spacing.written_ofText] at hshort
  rw [hshort, Spacing.dropWhile_written]

/-- A text is reduced if its spacing is, that is, if no run has more than two line feeds and the
last has none. -/
theorem isReduced_iff {text : String} :
    IsReduced text ↔ (Spacing.ofText text.toList).reduced = Spacing.ofText text.toList := by
  have htext := Spacing.written_ofText text.toList
  generalize Spacing.ofText text.toList = s at htext ⊢
  rw [IsReduced, ← htext, Spacing.replicate_infix_written_iff, s.getLast?_written_ne_iff,
    s.reduced_eq_self_iff]
  constructor
  · rintro ⟨hruns, htrail⟩
    exact ⟨fun x hx => Nat.lt_of_not_le fun h => hruns (.inl ⟨x, hx, h⟩), htrail⟩
  · rintro ⟨hruns, htrail⟩
    refine ⟨?_, htrail⟩
    rintro (⟨x, hx, h⟩ | h)
    · exact absurd (hruns x hx) (Nat.not_lt.2 h)
    · omega

/-- **Reducing gives a reduced text,** whatever the text was, so nothing is left to be reduced. -/
theorem isReduced_reduceEmptyLines (text : String) : IsReduced (reduceEmptyLines text) := by
  rw [isReduced_iff, toList_reduceEmptyLines, Spacing.ofText_written]
  simp [Spacing.reduced]

/-- **Reduced texts are those that reducing leaves as they are,** so no text is changed without
need. -/
theorem reduceEmptyLines_eq_self_iff {text : String} :
    reduceEmptyLines text = text ↔ IsReduced text := by
  rw [isReduced_iff, ← String.toList_inj, toList_reduceEmptyLines, Spacing.written_eq_iff]

/-- **Reducing shortens runs of line feeds and does nothing else:** of the only spacing of a text
each run keeps two line feeds at most, the last keeps none, and all other characters stay in
order. -/
theorem reduceEmptyLines_shortens_runs (text : String) :
    ∃ s : Spacing, (∀ s' : Spacing, s'.written = text.toList ↔ s' = s) ∧
      (reduceEmptyLines text).toList = s.reduced.written ∧
      IsReduced (reduceEmptyLines text) ∧
      (reduceEmptyLines text = text ↔ IsReduced text) ∧
      reduceEmptyLines (reduceEmptyLines text) = reduceEmptyLines text := by
  refine ⟨Spacing.ofText text.toList, fun s => Spacing.written_eq_iff,
    toList_reduceEmptyLines text, isReduced_reduceEmptyLines text, reduceEmptyLines_eq_self_iff, ?_⟩
  exact reduceEmptyLines_eq_self_iff.2 (isReduced_reduceEmptyLines text)

example : reduceEmptyLines "\n\n\na \n\n\n\r\n\n" = "\n\na \n\n\r" := by decide

end Template
end CommitForm
