/-
# What an excerpt shows

An excerpt is read row by row: a row shows a line of the source with its number, or a caret.  As
rows cannot be taken for one another (`Row.text_injective`), the text of an excerpt has one reading.
Around line `l`, with `n` lines on both sides, this reading is told by two things.

| what | says |
| --- | --- |
| `IsExcerpt.shown` | the lines from `max 1 (l - n)` to `l + n` or the last one, as in the source |
| `Marked` | line `l` alone is marked, and behind it alone there is a caret, if there is a column |
-/

import Mathlib.Data.List.Basic
import Mathlib.Data.List.ProdSigma
import CommitForm.Form.ReadError

namespace CommitForm
namespace Text

/-! ## Lines and their breaks -/

/-- A piece without the separator, with the separator behind it, is the first piece that is cut
off. -/
theorem splitAtChar_append {sep : Char} {piece : List Char} (h : sep ∉ piece) (cs : List Char) :
    splitAtChar sep (piece ++ sep :: cs) = piece :: splitAtChar sep cs := by
  induction piece with
  | nil => rw [List.nil_append, splitAtChar, if_pos rfl]
  | cons c piece ih =>
    rw [List.mem_cons, not_or] at h
    rw [List.cons_append, splitAtChar, if_neg (Ne.symm h.1), ih h.2]

/-- Lines that are each ended by a line feed are found again, with an empty one behind the last line
feed. -/
theorem splitLines_join {lines : List String} (h : ∀ line ∈ lines, '\n' ∉ line.toList) :
    splitLines (String.join (lines.map (· ++ "\n"))) = lines ++ [""] := by
  induction lines with
  | nil => rfl
  | cons line lines ih =>
    have hline : '\n' ∉ line.toList := h line List.mem_cons_self
    have hrest := ih fun l hl => h l (List.mem_cons_of_mem _ hl)
    have hlist : (String.join ((line :: lines).map (· ++ "\n"))).toList =
        line.toList ++ '\n' :: (String.join (lines.map (· ++ "\n"))).toList := by
      simp
    rw [splitLines] at hrest ⊢
    rw [hlist, splitAtChar_append hline, List.map_cons, hrest, String.ofList_toList,
      List.cons_append]

/-- Dropping a carriage return at the end of a line adds no characters to it. -/
theorem mem_of_mem_dropFinalReturn {c : Char} {cs : List Char} (h : c ∈ dropFinalReturn cs) :
    c ∈ cs := by
  fun_induction dropFinalReturn cs with
  | case1 => exact h
  | case2 => exact absurd h List.not_mem_nil
  | case3 d ds _ ih =>
    rcases List.mem_cons.1 h with rfl | h
    · exact List.mem_cons_self
    · exact List.mem_cons_of_mem _ (ih h)

/-- The lines of a source text hold no line feeds, also not the one that is being read. -/
theorem not_mem_of_mem_readSourceLines {line cs l : List Char} (hline : '\n' ∉ line)
    (h : l ∈ readSourceLines line cs) : '\n' ∉ l := by
  fun_induction readSourceLines line cs with
  | case1 => exact absurd h List.not_mem_nil
  | case2 line =>
    rw [List.mem_singleton.1 h]
    exact fun hmem => hline (List.mem_reverse.1 hmem)
  | case3 line cs ih =>
    rcases List.mem_cons.1 h with rfl | h
    · exact fun hmem => hline (List.mem_reverse.1 (mem_of_mem_dropFinalReturn hmem))
    · exact ih List.not_mem_nil h
  | case4 line c cs hc ih =>
    refine ih (fun hmem => ?_) h
    rcases List.mem_cons.1 hmem with rfl | hmem
    · exact hc rfl
    · exact hline hmem

/-- No line of a source text holds a line feed, which is what keeps the rows of an excerpt apart. -/
theorem not_mem_of_mem_sourceLines {source line : String} (h : line ∈ sourceLines source) :
    '\n' ∉ line.toList := by
  obtain ⟨cs, hcs, rfl⟩ := List.mem_map.1 h
  rw [String.toList_ofList]
  exact not_mem_of_mem_readSourceLines List.not_mem_nil hcs

/-! ## Rows -/

/-- A row of an excerpt: a line with its number, or a caret behind some blanks. -/
inductive Row where
  | line (marked : Bool) (number : Nat) (text : String)
  | caret (blanks : Nat)
deriving DecidableEq, Repr

namespace Row

/-- A row as it is written, without its line break: the gutter and the line, or the margin and the
caret. -/
def text : Row → String
  | line marked number text =>
    (if marked then ">" else " ") ++ " " ++
      String.ofList (List.replicate (4 - (toString number).length) ' ') ++ toString number ++
        " | " ++ text
  | caret blanks => "       | " ++ String.ofList (List.replicate blanks ' ') ++ "^"

/-- The line of a row and its number; the row of a caret shows none. -/
def shown? : Row → Option (Nat × String)
  | line _ number text => some (number, text)
  | caret _ => none

/-- The characters of the row of a line: the mark, the number to the right of its four places, a bar
and the line. -/
theorem toList_text_line (marked : Bool) (number : Nat) (text : String) :
    (line marked number text).text.toList =
      (if marked then '>' else ' ') :: ' ' ::
        (List.replicate (4 - (Nat.toDigits 10 number).length) ' ' ++
          (Nat.toDigits 10 number ++ ' ' :: '|' :: ' ' :: text.toList)) := by
  rw [Row.text, Nat.toString_eq_ofList_toDigits]
  cases marked <;> simp

/-- The characters of the row of a caret: blanks where a line has its number, the bar, blanks and
the caret. -/
theorem toList_text_caret (blanks : Nat) :
    (caret blanks).text.toList =
      ' ' :: ' ' :: (List.replicate 5 ' ' ++
        '|' :: ' ' :: (List.replicate blanks ' ' ++ ['^'])) := by
  simp [Row.text, List.replicate]

/-- The characters behind blanks are found by dropping the blanks, if they begin with something
else. -/
theorem dropWhile_replicate {c : Char} (hc : c ≠ ' ') (n : Nat) (cs : List Char) :
    (List.replicate n ' ' ++ c :: cs).dropWhile (· = ' ') = c :: cs := by
  rw [List.dropWhile_append_of_pos (by simp), List.dropWhile_cons_of_neg (by simpa using hc)]

/-- The digits of a number and what follows are found behind blanks, since a number begins with a
digit. -/
theorem dropWhile_digits (n number : Nat) (cs : List Char) :
    (List.replicate n ' ' ++ (Nat.toDigits 10 number ++ cs)).dropWhile (· = ' ') =
      Nat.toDigits 10 number ++ cs := by
  cases hdigits : Nat.toDigits 10 number with
  | nil => exact absurd hdigits Nat.toDigits_ne_nil
  | cons c ds =>
    have hc : c.isDigit = true :=
      Nat.isDigit_of_mem_toDigits (b := 10) (n := number) (by decide) (by decide)
        (hdigits ▸ List.mem_cons_self)
    refine dropWhile_replicate ?_ n (ds ++ cs)
    rintro rfl
    exact absurd hc (by decide)

/-- The digits of a number end at a blank, so the number and the text behind it can be told from a
row. -/
theorem toDigits_append_inj {m n : Nat} {cs ds : List Char}
    (h : Nat.toDigits 10 m ++ ' ' :: cs = Nat.toDigits 10 n ++ ' ' :: ds) : m = n ∧ cs = ds := by
  have htake (k : Nat) (es : List Char) :
      (Nat.toDigits 10 k ++ ' ' :: es).takeWhile Char.isDigit = Nat.toDigits 10 k := by
    rw [List.takeWhile_append_of_pos fun c hc =>
      Nat.isDigit_of_mem_toDigits (b := 10) (by decide) (by decide) hc]
    simp
  have hdigits : Nat.toDigits 10 m = Nat.toDigits 10 n := by
    rw [← htake m cs, h, htake]
  have hnumber : m = n := by
    rw [← Nat.ofDigitChars_ten_toDigits (n := m), hdigits, Nat.ofDigitChars_ten_toDigits]
  subst hnumber
  exact ⟨rfl, (List.cons.inj (List.append_cancel_left h)).2⟩

/-- **Rows are told by their texts:** the mark, the number, the line and the place of the caret can
be read off a row. -/
theorem text_injective {r r' : Row} (h : r.text = r'.text) : r = r' := by
  have hlist := congrArg String.toList h
  -- Behind the mark and the blanks a line has a digit, and a caret row has none.
  have hkinds (marked : Bool) (number : Nat) (text : String) (blanks : Nat) :
      (line marked number text).text.toList ≠ (caret blanks).text.toList := by
    rw [toList_text_line, toList_text_caret]
    intro heq
    have hrest := congrArg (List.dropWhile (· = ' ')) (List.cons.inj (List.cons.inj heq).2).2
    rw [dropWhile_digits, dropWhile_replicate (by decide)] at hrest
    have hbar : '|' ∈ Nat.toDigits 10 number := by
      cases hdigits : Nat.toDigits 10 number with
      | nil => exact absurd hdigits Nat.toDigits_ne_nil
      | cons c ds =>
        rw [hdigits, List.cons_append] at hrest
        rw [(List.cons.inj hrest).1]
        exact List.mem_cons_self
    exact absurd (Nat.isDigit_of_mem_toDigits (b := 10) (by decide) (by decide) hbar) (by decide)
  match r, r' with
  | line marked number text, line marked' number' text' =>
    rw [toList_text_line, toList_text_line] at hlist
    obtain ⟨hmark, hlist⟩ := List.cons.inj hlist
    have hrest := congrArg (List.dropWhile (· = ' ')) (List.cons.inj hlist).2
    rw [dropWhile_digits, dropWhile_digits] at hrest
    obtain ⟨rfl, hbehind⟩ := toDigits_append_inj hrest
    obtain rfl : text = text' := String.toList_inj.1 (by simpa using hbehind)
    have hmarked : marked = marked' := by
      cases marked <;> cases marked' <;> simp_all
    rw [hmarked]
  | line _ _ _, caret _ => exact absurd hlist (hkinds _ _ _ _)
  | caret _, line _ _ _ => exact absurd hlist.symm (hkinds _ _ _ _)
  | caret blanks, caret blanks' =>
    have hlength := congrArg List.length hlist
    rw [toList_text_caret, toList_text_caret] at hlength
    simpa using hlength

/-- The row of a line without a line feed has none, since neither its gutter nor its number holds
one. -/
theorem not_mem_text_line {text : String} (h : '\n' ∉ text.toList) (marked : Bool) (number : Nat) :
    '\n' ∉ (line marked number text).text.toList := by
  have hdigits : '\n' ∉ Nat.toDigits 10 number := by
    intro hmem
    exact absurd (Nat.isDigit_of_mem_toDigits (b := 10) (by decide) (by decide) hmem) (by decide)
  rw [toList_text_line]
  cases marked <;> simp [h, hdigits]

/-- The row of a caret has no line feed, so it is one row of the excerpt. -/
theorem not_mem_text_caret (blanks : Nat) : '\n' ∉ (caret blanks).text.toList := by
  rw [toList_text_caret]
  simp

end Row

/-! ## Excerpts -/

/-- Rows in which the line `line` alone is marked; if there is a column, the line has a caret row
right behind it, and there are no other carets. -/
inductive Marked (line column : Nat) : List Row → Prop where
  | nil : Marked line column []
  | other {number : Nat} {text : String} {rows : List Row} (hnumber : number ≠ line)
      (h : Marked line column rows) : Marked line column (.line false number text :: rows)
  | plain {text : String} {rows : List Row} (hcolumn : column = 0) (h : Marked line column rows) :
      Marked line column (.line true line text :: rows)
  | pointed {text : String} {rows : List Row} (hcolumn : 0 < column) (h : Marked line column rows) :
      Marked line column (.line true line text :: .caret (column - 1) :: rows)

/-- The rows of the lines around a line, as they stand in the source. -/
structure IsExcerpt (lines : List String) (line column around : Nat) (rows : List Row) : Prop where
  shown : ∀ number text, (number, text) ∈ rows.filterMap Row.shown? ↔
    max 1 (line - around) ≤ number ∧ number ≤ min (line + around) lines.length ∧
      lines[number - 1]? = some text
  /-- Each line is shown once, in the order of the source. -/
  increase : (rows.filterMap Row.shown?).Pairwise fun a b => a.1 < b.1
  marked : Marked line column rows

/-- The rows of one line: the line, marked if it is the place's own, and then a caret below it if
there is a column. -/
def rowsAt (line column : Nat) (l : String × Nat) : List Row :=
  .line (l.2 = line) l.2 l.1 :: if l.2 = line ∧ 0 < column then [.caret (column - 1)] else []

/-- The row of a line as it is written in an excerpt is its text and a line feed. -/
theorem sourceRow_eq (marked : Bool) (number : Nat) (text : String) :
    sourceRow marked number text = (Row.line marked number text).text ++ "\n" := by
  rw [← String.toList_inj, String.toList_append, Row.toList_text_line]
  cases marked <;> simp [sourceRow, padNumber]

/-- The row of a caret as it is written in an excerpt is its text and a line feed; the column is
counted from one. -/
theorem caretRow_eq (column : Nat) : caretRow column = (Row.caret (column - 1)).text ++ "\n" := by
  rw [← String.toList_inj, String.toList_append, Row.toList_text_caret]
  simp [caretRow, List.replicate]

/-- What an excerpt writes for a line are the rows of this line, each with a line feed behind it. -/
theorem excerptRows_eq (line column : Nat) (l : String × Nat) :
    excerptRows line column l.1 l.2 =
      String.join (((rowsAt line column l).map Row.text).map (· ++ "\n")) := by
  rw [excerptRows, rowsAt, sourceRow_eq, List.map_cons, List.map_cons, String.join_cons]
  split
  · rw [caretRow_eq, List.map_singleton, List.map_singleton, String.join_cons, String.join_nil,
      String.append_empty]
  · rw [List.map_nil, List.map_nil, String.join_nil]

/-- The lines that an excerpt shows, each with its number: those around the place that the source
text has. -/
def window (lines : List String) (line around : Nat) : List (String × Nat) :=
  ((lines.zipIdx 1).take (min (line + around) lines.length)).drop (line - (around + 1))

/-- The rows of an excerpt: those of all lines in the window, in the order of the lines. -/
def rowsOf (lines : List String) (line column around : Nat) : List Row :=
  (window lines line around).flatMap (rowsAt line column)

/-- **An excerpt is written row by row,** each with a line feed behind it, so that its rows are
found again. -/
theorem excerpt_eq (source : String) (line column around : Nat) :
    excerpt source line column around =
      String.join (((rowsOf (sourceLines source) line column around).map Row.text).map
        (· ++ "\n")) := by
  have hrows (ls : List (String × Nat)) :
      String.join (ls.map fun l => excerptRows line column l.1 l.2) =
        String.join (((ls.flatMap (rowsAt line column)).map Row.text).map (· ++ "\n")) := by
    induction ls with
    | nil => rfl
    | cons l ls ih =>
      rw [List.map_cons, String.join_cons, ih, excerptRows_eq, List.flatMap_cons, List.map_append,
        List.map_append, ← String.toList_inj]
      simp only [String.toList_append, String.toList_join, List.flatMap_append]
  exact hrows (window (sourceLines source) line around)

/-- A line is shown with a number if it has that number in the source and lies close enough to the
place. -/
theorem mem_window {lines : List String} {line around number : Nat} {text : String} :
    (text, number) ∈ window lines line around ↔
      max 1 (line - around) ≤ number ∧ number ≤ min (line + around) lines.length ∧
        lines[number - 1]? = some text := by
  rw [window, List.mem_iff_getElem?]
  simp only [List.getElem?_drop, List.getElem?_take, List.getElem?_zipIdx]
  constructor
  · rintro ⟨i, hi⟩
    split at hi
    · next hlt =>
      obtain ⟨t, ht, heq⟩ := Option.map_eq_some_iff.1 hi
      obtain ⟨rfl, rfl⟩ := Prod.mk.inj heq
      have hindex : 1 + (line - (around + 1) + i) - 1 = line - (around + 1) + i := by omega
      exact ⟨by omega, by omega, by rw [hindex]; exact ht⟩
    · cases hi
  · rintro ⟨hlow, hhigh, htext⟩
    refine ⟨number - 1 - (line - (around + 1)), ?_⟩
    have hindex : line - (around + 1) + (number - 1 - (line - (around + 1))) = number - 1 := by
      omega
    have hnumber : 1 + (number - 1) = number := by omega
    rw [hindex, if_pos (by omega), htext, Option.map_some, hnumber]

/-- The numbers of the lines that are shown increase, so no line is shown twice. -/
theorem window_increases (lines : List String) (line around : Nat) :
    (window lines line around).Pairwise fun a b => a.2 < b.2 := by
  have hall : ((lines.zipIdx 1).map Prod.snd).Pairwise (· < ·) := by
    rw [List.zipIdx_map_snd]
    exact List.pairwise_lt_range'
  have hsublist : (window lines line around).Sublist (lines.zipIdx 1) :=
    (List.drop_sublist _ _).trans (List.take_sublist _ _)
  exact (List.pairwise_map.1 hall).sublist hsublist

/-- The rows of lines show these lines with their numbers, in order and each once, whatever carets
stand between them. -/
theorem shown_flatMap (line column : Nat) (ls : List (String × Nat)) :
    (ls.flatMap (rowsAt line column)).filterMap Row.shown? = ls.map Prod.swap := by
  induction ls with
  | nil => rfl
  | cons l ls ih =>
    rw [List.flatMap_cons, List.filterMap_append, ih, List.map_cons, rowsAt]
    split <;> rfl

/-- Among the rows of lines just the place's own line is marked, and a caret stands below it and
nowhere else. -/
theorem marked_flatMap (line column : Nat) (ls : List (String × Nat)) :
    Marked line column (ls.flatMap (rowsAt line column)) := by
  induction ls with
  | nil => exact .nil
  | cons l ls ih =>
    obtain ⟨text, number⟩ := l
    rw [List.flatMap_cons, rowsAt]
    dsimp only
    by_cases hnumber : number = line
    · subst hnumber
      by_cases hcolumn : 0 < column
      · rw [if_pos ⟨rfl, hcolumn⟩, decide_eq_true rfl]
        exact .pointed hcolumn ih
      · rw [if_neg fun h => hcolumn h.2, decide_eq_true rfl]
        exact .plain (Nat.eq_zero_of_not_pos hcolumn) ih
    · rw [if_neg fun h => hnumber h.1, decide_eq_false hnumber]
      exact .other hnumber ih

/-- The rows that are written are an excerpt: they show the window, mark the place and put the caret
below it. -/
theorem isExcerpt_rowsOf (lines : List String) (line column around : Nat) :
    IsExcerpt lines line column around (rowsOf lines line column around) where
  shown := by
    intro number text
    rw [rowsOf, shown_flatMap, ← mem_window]
    exact List.mem_map_swap text number _
  increase := by
    rw [rowsOf, shown_flatMap, List.pairwise_map]
    exact window_increases lines line around
  marked := marked_flatMap line column _

/-- No row of an excerpt has a line feed, since no line of the source has one. -/
theorem not_mem_text_of_mem {source : String} {line column around : Nat} {r : Row}
    (h : r ∈ rowsOf (sourceLines source) line column around) : '\n' ∉ r.text.toList := by
  obtain ⟨⟨text, number⟩, hl, hr⟩ := List.mem_flatMap.1 h
  have hline : text ∈ sourceLines source := List.mem_of_getElem? (mem_window.1 hl).2.2
  rw [rowsAt] at hr
  rcases List.mem_cons.1 hr with rfl | hr
  · exact Row.not_mem_text_line (not_mem_of_mem_sourceLines hline) _ _
  · split at hr
    · rw [List.mem_singleton.1 hr]
      exact Row.not_mem_text_caret _
    · exact absurd hr List.not_mem_nil

/-- The rows of an excerpt are read off its text, so the text determines them. -/
theorem splitLines_excerpt (source : String) (line column around : Nat) :
    splitLines (excerpt source line column around) =
      (rowsOf (sourceLines source) line column around).map Row.text ++ [""] := by
  rw [excerpt_eq]
  refine splitLines_join fun l hl => ?_
  obtain ⟨r, hr, rfl⟩ := List.mem_map.1 hl
  exact not_mem_text_of_mem hr

end Text

/-- **An excerpt shows the lines around the place,** each once, in order and as it stands in the
source; the line of the place is marked and has the caret behind it.  The text has no other
reading. -/
theorem ReadError.context_inSource (e : ReadError) (source : String) (around : Nat) :
    ∃ rows, Text.IsExcerpt (Text.sourceLines source) e.line e.column around rows ∧
      ∀ rows' : List Text.Row,
        Text.splitLines (e.inSource source around).context = rows'.map Text.Row.text ++ [""] ↔
          rows' = rows := by
  refine ⟨_, Text.isExcerpt_rowsOf _ _ _ _, fun rows' => ?_⟩
  rw [inSource, Text.splitLines_excerpt, List.append_cancel_right_eq]
  constructor
  · intro h
    have hinjective : Function.Injective Text.Row.text := fun _ _ => Text.Row.text_injective
    exact (List.map_injective_iff.2 hinjective h).symm
  · rintro rfl
    rfl

end CommitForm
