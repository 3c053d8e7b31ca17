/-
# Where the caret stands

A line stands in its row behind a gutter: the mark, the number and a bar.  The caret stands behind a
margin, which is as wide as the gutter of a number of four digits and the columns in front of its
own.  The width of the gutter grows with the number, and that of the margin does not.

| number of the line | the caret |
| --- | --- |
| below 10000 | points at its column |
| from 10000 on | stands to the left of it, by one for each digit behind the fourth |
-/

import CommitForm.Proofs.Excerpts

namespace CommitForm
namespace Text

/-! ## Gutters and margins -/

namespace Row

/-- What stands in the row of a line in front of the line: the mark of the line at fault or a blank,
the number, and a bar. -/
def gutter (marked : Bool) (number : Nat) : String := (line marked number "").text

/-- What stands in front of a caret: a gutter without a number, and as many blanks as the column
asks for. -/
def margin (blanks : Nat) : String := "       | " ++ String.ofList (List.replicate blanks ' ')

/-- The row of a line is its gutter and the line, in which nothing is changed. -/
theorem text_line (marked : Bool) (number : Nat) (text : String) :
    (line marked number text).text = gutter marked number ++ text := by
  rw [gutter, ← String.toList_inj, String.toList_append, toList_text_line, toList_text_line]
  simp

/-- The row of a caret is its margin and the caret, and nothing stands behind that. -/
theorem text_caret (blanks : Nat) : (caret blanks).text = margin blanks ++ "^" := rfl

/-- The first character of a line's row tells whether the line is the one at fault, which no other
row can feign. -/
theorem head?_text_line (marked : Bool) (number : Nat) (text : String) :
    (line marked number text).text.toList.head? = some (if marked then '>' else ' ') := by
  rw [toList_text_line, List.head?_cons]

/-- The number has four places, and takes more if it needs them; that is where gutter and margin
part. -/
theorem length_gutter (marked : Bool) (number : Nat) :
    (gutter marked number).length = 9 + ((toString number).length - 4) := by
  rw [gutter, ← String.length_toList, toList_text_line, Nat.toString_eq_ofList_toDigits,
    String.length_ofList]
  simp only [List.length_cons, List.length_append, List.length_replicate, String.length_toList,
    String.length_empty]
  omega

/-- The margin takes the places of a four-digit gutter whatever the number is, besides the blanks
before the caret. -/
theorem length_margin (blanks : Nat) : (margin blanks).length = 9 + blanks := by
  have hbar : "       | ".length = 9 := rfl
  rw [margin, String.length_append, hbar, String.length_ofList, List.length_replicate]

/-- No caret stands in the margin, so the caret of a row is the only one that is found in it. -/
theorem not_mem_margin (blanks : Nat) : '^' ∉ (margin blanks).toList := by
  simp [margin]

end Row

/-- A line number has four digits at most just if it is below ten thousand. -/
theorem length_toString_le_iff (number : Nat) : (toString number).length ≤ 4 ↔ number < 10000 :=
  Nat.length_repr_le_iff (by decide)

/-! ## The two rows of a place -/

section

variable {lines : List String} {line column : Nat}

/-- The line of the place is shown once, and no other line of the window has its number. -/
theorem exists_window_eq (around : Nat) {text : String} (hline : 0 < line)
    (htext : lines[line - 1]? = some text) :
    ∃ before after, window lines line around = before ++ (text, line) :: after ∧
      ∀ l ∈ before ++ after, l.2 ≠ line := by
  have hlength : line - 1 < lines.length := (List.getElem?_eq_some_iff.1 htext).1
  have hmem : (text, line) ∈ window lines line around :=
    mem_window.2 ⟨by omega, by omega, htext⟩
  obtain ⟨before, after, hsplit⟩ := List.append_of_mem hmem
  have hincreases := window_increases lines line around
  rw [hsplit] at hincreases
  obtain ⟨-, hafter, hbefore⟩ := List.pairwise_append.1 hincreases
  refine ⟨before, after, hsplit, fun l hl => ?_⟩
  rcases List.mem_append.1 hl with hl | hl
  · exact Nat.ne_of_lt (hbefore l hl _ List.mem_cons_self)
  · exact Nat.ne_of_gt ((List.pairwise_cons.1 hafter).1 l hl)

/-- The rows of the other lines are not marked, and neither are carets, which belong to the line of
the place alone. -/
theorem head?_of_mem_rows {ls : List (String × Nat)} (hls : ∀ l ∈ ls, l.2 ≠ line) {row : String}
    (h : row ∈ (ls.flatMap (rowsAt line column)).map Row.text) : row.toList.head? = some ' ' := by
  obtain ⟨r, hr, rfl⟩ := List.mem_map.1 h
  obtain ⟨l, hl, hr⟩ := List.mem_flatMap.1 hr
  rw [rowsAt, if_neg fun hplace => hls l hl hplace.1, List.mem_singleton] at hr
  rw [hr, Row.head?_text_line, decide_eq_false (hls l hl)]
  rfl

/-- **The row of the caret is right behind that of the line,** which alone is marked. -/
theorem exists_rows_eq (around : Nat) {text : String} (hline : 0 < line)
    (htext : lines[line - 1]? = some text) (hcolumn : 0 < column) :
    ∃ before after : List String,
      (rowsOf lines line column around).map Row.text =
        before ++ [Row.gutter true line ++ text, Row.margin (column - 1) ++ "^"] ++ after ∧
      ∀ row ∈ before ++ after, row.toList.head? = some ' ' := by
  obtain ⟨before, after, hwindow, hother⟩ := exists_window_eq around hline htext
  refine ⟨(before.flatMap (rowsAt line column)).map Row.text,
    (after.flatMap (rowsAt line column)).map Row.text, ?_, fun row hrow => ?_⟩
  · have hrows : rowsAt line column (text, line) = [.line true line text, .caret (column - 1)] := by
      rw [rowsAt, if_pos ⟨rfl, hcolumn⟩, decide_eq_true rfl]
    rw [rowsOf, hwindow, List.flatMap_append, List.flatMap_cons, hrows, ← Row.text_line,
      ← Row.text_caret]
    simp
  · rcases List.mem_append.1 hrow with hrow | hrow
    · exact head?_of_mem_rows (fun l hl => hother l (List.mem_append_left _ hl)) hrow
    · exact head?_of_mem_rows (fun l hl => hother l (List.mem_append_right _ hl)) hrow

end

end Text

/-- **The caret points at its column exactly in the lines up to 9999.**  The marked row of an
excerpt is a gutter and the line of the place, so that the character of the column stands behind the
gutter and the characters before it.  The row right behind it is a margin and the only caret there.
From line 10000 on the caret stands too far to the left, by the digits behind the fourth. -/
theorem ReadError.caret_below_iff {e : ReadError} {source text : String} (around : Nat)
    (hline : 0 < e.line) (htext : (Text.sourceLines source)[e.line - 1]? = some text)
    (hcolumn : 0 < e.column) :
    ∃ (before after : List String) (gutter margin : String),
      Text.splitLines (e.inSource source around).context =
        before ++ [gutter ++ text, margin ++ "^"] ++ after ∧
      gutter.toList.head? = some '>' ∧
      (∀ row ∈ before ++ after, row.toList.head? ≠ some '>') ∧
      '^' ∉ margin.toList ∧
      (margin.length = gutter.length + (e.column - 1) ↔ e.line < 10000) ∧
      margin.length + ((toString e.line).length - 4) = gutter.length + (e.column - 1) := by
  obtain ⟨before, after, hrows, hother⟩ :=
    Text.exists_rows_eq around hline htext hcolumn
  have hmargin := Text.Row.length_margin (e.column - 1)
  have hgutter := Text.Row.length_gutter true e.line
  have hdigits := Text.length_toString_le_iff e.line
  refine ⟨before, after ++ [""], Text.Row.gutter true e.line, Text.Row.margin (e.column - 1),
    ?_, Text.Row.head?_text_line _ _ _, fun row hrow => ?_, Text.Row.not_mem_margin _, ?_, ?_⟩
  · rw [inSource, Text.splitLines_excerpt, hrows, List.append_assoc _ after]
  · rw [← List.append_assoc] at hrow
    rcases List.mem_append.1 hrow with hrow | hrow
    · rw [hother row hrow]
      decide
    · rw [List.mem_singleton.1 hrow]
      decide
  · rw [← hdigits]
    omega
  · omega

/-- The caret below the key of a token without a name, as the report of a form that cannot be read
shows it. -/
theorem ReadError.caret_below_label :
    let source := "template:\n  - '\x7btype\x7d'\ntokens:\n  - label: Type\n    type: enum"
    let e := ReadError.bare .schema "missing required field 'name'" 4 5
    (0 < e.line ∧ (Text.sourceLines source)[e.line - 1]? = some "  - label: Type" ∧ 0 < e.column) ∧
    ∃ (before after : List String) (gutter margin : String),
      Text.splitLines (e.inSource source 1).context =
        before ++ [gutter ++ "  - label: Type", margin ++ "^"] ++ after ∧
      gutter.toList.head? = some '>' ∧
      (∀ row ∈ before ++ after, row.toList.head? ≠ some '>') ∧
      '^' ∉ margin.toList ∧
      (margin.length = gutter.length + (e.column - 1) ↔ e.line < 10000) ∧
      margin.length + ((toString e.line).length - 4) = gutter.length + (e.column - 1) := by
  intro source e
  have hplace : 0 < e.line ∧ (Text.sourceLines source)[e.line - 1]? = some "  - label: Type" ∧
      0 < e.column := by decide +kernel
  exact ⟨hplace, ReadError.caret_below_iff 1 hplace.1 hplace.2.1 hplace.2.2⟩

/-! ## Line 10000 -/

namespace Text

/-- A letter behind empty lines, a text whose only place to point at has as large a number as is
wanted. -/
def letterBehind (empty : Nat) : String := String.ofList (List.replicate empty '\n' ++ ['a'])

/-- Empty lines in front of characters are read as that many empty lines, by induction on their
number. -/
theorem readSourceLines_replicate (empty : Nat) (cs : List Char) :
    readSourceLines [] (List.replicate empty '\n' ++ cs) =
      List.replicate empty [] ++ readSourceLines [] cs := by
  induction empty with
  | zero => rfl
  | succ empty ih =>
    rw [List.replicate_succ, List.replicate_succ, List.cons_append, List.cons_append,
      readSourceLines, ih]
    rfl

/-- The lines of a letter behind empty lines are those and the letter's own. -/
theorem sourceLines_letterBehind (empty : Nat) :
    sourceLines (letterBehind empty) = List.replicate empty "" ++ ["a"] := by
  rw [sourceLines, letterBehind, String.toList_ofList, readSourceLines_replicate, List.map_append,
    List.map_replicate]
  rfl

/-- The letter's line is the one behind all the empty ones, counted from zero. -/
theorem getElem?_letterBehind (empty : Nat) :
    (sourceLines (letterBehind empty))[empty]? = some "a" := by
  rw [sourceLines_letterBehind]
  simp

/-- The excerpt of a letter without lines around it: its row, the row of the caret, and the empty
line at the end. -/
theorem splitLines_excerpt_letterBehind (empty : Nat) :
    splitLines (excerpt (letterBehind empty) (empty + 1) 1 0) =
      [Row.gutter true (empty + 1) ++ "a", "       | ^", ""] := by
  have hwindow : window (List.replicate empty "" ++ ["a"]) (empty + 1) 0 = [("a", empty + 1)] := by
    rw [window, List.zipIdx_append]
    simp [List.take_append, Nat.add_comm]
  have hrows : rowsAt (empty + 1) 1 ("a", empty + 1) = [.line true (empty + 1) "a", .caret 0] := by
    rw [rowsAt, if_pos ⟨rfl, Nat.one_pos⟩, decide_eq_true rfl]
  rw [splitLines_excerpt, sourceLines_letterBehind, rowsOf, hwindow, List.flatMap_singleton, hrows,
    List.map_cons, Row.text_line]
  rfl

end Text

/-- **In line 10000 the caret is off:** it stands below the blank in front of the letter. -/
theorem ReadError.caret_misses_letter :
    (Text.sourceLines (Text.letterBehind 9999))[9999]? = some "a" ∧
    Text.splitLines
        ((ReadError.bare .schema "m" 10000 1).inSource (Text.letterBehind 9999) 0).context =
      ["> 10000 | a", "       | ^", ""] ∧
    "> 10000 | a".toList.idxOf 'a' = 10 ∧ "       | ^".toList.idxOf '^' = 9 := by
  have hgutter : Text.Row.gutter true 10000 ++ "a" = "> 10000 | a" := by decide +kernel
  have hcontext (line : Nat) :
      ((ReadError.bare .schema "m" line 1).inSource (Text.letterBehind 9999) 0).context =
        Text.excerpt (Text.letterBehind 9999) line 1 0 := rfl
  have hrows := Text.splitLines_excerpt_letterBehind 9999
  refine ⟨Text.getElem?_letterBehind 9999, ?_, rfl, rfl⟩
  rw [hcontext, hrows, hgutter]

end CommitForm
