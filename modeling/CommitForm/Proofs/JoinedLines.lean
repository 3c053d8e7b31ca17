/-
# Texts and their lines

A template is written as a list of lines or as one text.  The lines of a text are told by three
things (`splitLines_eq_iff`): there is at least one, none holds a line feed, and joined by line
feeds they are the text.  So a text is always told by its lines, but lines not always by their text:

| lines | lines of their text |
| --- | --- |
| `a`, an empty one, `b` | the same |
| none | an empty one |
| `a`, a line feed and `b` in one line | `a`, `b` |

What is composed depends on the text alone (`ofForm_lines_or_text`).  The check goes through the
lines, and still finds the same problems at the same places if no line holds a line feed
(`problems_text_intercalate`).
-/

import CommitForm.Proofs.Placeholders

namespace CommitForm

namespace Text

/-- Cutting at a character is cutting a list at an element, for which the library has lemmas. -/
theorem splitAtChar_eq_splitOn (sep : Char) (cs : List Char) :
    splitAtChar sep cs = cs.splitOn sep := by
  induction cs with
  | nil => rfl
  | cons c cs ih =>
    rw [splitAtChar, ih, List.splitOn_cons_eq_if_modifyHead]
    by_cases h : c = sep
    · rw [if_pos h, if_pos (beq_iff_eq.2 h)]
    · rw [if_neg h, if_neg (mt beq_iff_eq.1 h)]
      cases hs : cs.splitOn sep with
      | nil => exact absurd hs (List.splitOn_ne_nil sep cs)
      | cons l ls => rfl

/-- Joining with a character is putting an element between lists, for which the library has
lemmas. -/
theorem joinWithChar_eq_intercalate (sep : Char) (ls : List (List Char)) :
    joinWithChar sep ls = [sep].intercalate ls := by
  fun_induction joinWithChar sep ls with
  | case1 => rfl
  | case2 l => rw [List.intercalate_singleton]
  | case3 l m ls ih => rw [ih, List.intercalate_cons_cons, List.append_assoc, List.singleton_append]

/-- Joining lines is putting line feeds between them, before the first and behind the last none. -/
theorem joinLines_eq_intercalate (lines : List String) :
    joinLines lines = "\n".intercalate lines := by
  rw [← String.toList_inj, joinLines, String.toList_ofList, joinWithChar_eq_intercalate,
    String.toList_intercalate]
  rfl

/-- Joining the lines of a text gives the text back, whatever line feeds it holds. -/
theorem joinLines_splitLines (text : String) : joinLines (splitLines text) = text := by
  have hid : String.toList ∘ String.ofList = id := funext fun cs => String.toList_ofList
  rw [joinLines, splitLines, List.map_map, hid, List.map_id, joinWithChar_splitAtChar,
    String.ofList_toList]

/-- What has been cut at a character does not hold it, so a line holds no line feed. -/
theorem not_mem_of_mem_splitAtChar {sep : Char} {cs l : List Char} (h : l ∈ splitAtChar sep cs) :
    sep ∉ l := by
  fun_induction splitAtChar sep cs generalizing l with
  | case1 =>
    rw [List.mem_singleton.1 h]
    exact List.not_mem_nil
  | case2 cs ih =>
    rcases List.mem_cons.1 h with rfl | h
    · exact List.not_mem_nil
    · exact ih h
  | case3 c cs hc hs => exact absurd hs (splitAtChar_ne_nil sep cs)
  | case4 c cs hc m ls hs ih =>
    rw [hs] at ih
    rcases List.mem_cons.1 h with rfl | h
    · rw [List.mem_cons, not_or]
      exact ⟨Ne.symm hc, ih List.mem_cons_self⟩
    · exact ih (List.mem_cons_of_mem m h)

/-- **The lines of a text** are the one list of lines, not empty and without line feeds, whose text
it is. -/
theorem splitLines_eq_iff {text : String} {lines : List String} :
    splitLines text = lines ↔
      lines ≠ [] ∧ (∀ line ∈ lines, '\n' ∉ line.toList) ∧ "\n".intercalate lines = text := by
  constructor
  · rintro rfl
    refine ⟨?_, fun line hline => ?_, ?_⟩
    · rw [splitLines, ne_eq, List.map_eq_nil_iff]
      exact splitAtChar_ne_nil '\n' text.toList
    · obtain ⟨cs, hcs, rfl⟩ := List.mem_map.1 hline
      rw [String.toList_ofList]
      exact not_mem_of_mem_splitAtChar hcs
    · rw [← joinLines_eq_intercalate, joinLines_splitLines]
  · rintro ⟨hne, hlines, rfl⟩
    have hchars : ∀ l ∈ lines.map String.toList, '\n' ∉ l := List.forall_mem_map.2 hlines
    have hsplit := List.splitOn_intercalate '\n' hchars (mt List.map_eq_nil_iff.1 hne)
    have hid : String.ofList ∘ String.toList = id := funext fun s => String.ofList_toList
    rw [splitLines, splitAtChar_eq_splitOn, String.toList_intercalate]
    rw [show "\n".toList = ['\n'] from rfl, hsplit, List.map_map, hid, List.map_id]

example : splitLines "\r\n\na\n" = ["\r", "", "a", ""] := by decide

end Text

namespace Form

/-- An empty line has no violations, since it holds no placeholder. -/
theorem lineViolations_empty (form : Form) (i : Nat) : form.lineViolations i "" = [] := by
  have hnames : Template.placeholderNames "" = [] := by
    rw [Template.placeholderNames, Template.placeholders, String.toList_empty, Template.pieces_nil]
    rfl
  rw [lineViolations, hnames]
  rfl

/-- **Lines and their text have the same problems** at the same places, if no line holds a line
feed. -/
theorem problems_text_intercalate {lines : List String}
    (h : ∀ line ∈ lines, '\n' ∉ line.toList) (fields : List Field) (reduce : Bool) :
    problems ⟨.text ("\n".intercalate lines), fields, reduce⟩ =
      problems ⟨.lines lines, fields, reduce⟩ := by
  -- What is wrong with a line depends on the fields, which are the same for both forms.
  let report (x : String × Nat) : List Violation :=
    lineViolations ⟨.lines lines, fields, reduce⟩ x.2 x.1
  have hreports : (Text.splitLines ("\n".intercalate lines)).zipIdx.flatMap report =
      lines.zipIdx.flatMap report := by
    by_cases hne : lines = []
    · -- The text has an empty line that the list lacks.
      subst hne
      exact (List.flatMap_singleton report ("", 0)).trans (lineViolations_empty _ 0)
    · rw [Text.splitLines_eq_iff.2 ⟨hne, h, rfl⟩]
  let links := fields.zipIdx.flatMap fun x => x.1.linkViolations x.2 (fields.map (·.name))
  exact congrArg (fun reports => (fieldViolations [] 0 fields ++ links ++ reports).map
    Violation.problem) hreports

end Form

namespace Composer

/-- **Both ways of writing a template mean the same text.**  The template of a text is the text.
Lines and the text of the lines have the same template, and the same is composed from them whatever
the fields, the values and the shortening of empty lines.  The lines of their text are the lines
themselves, if there are lines and none holds a line feed, and only then. -/
theorem ofForm_lines_or_text (fields : List Field) (reduce : Bool) :
    (∀ text : String, (ofForm ⟨.text text, fields, reduce⟩).template = text) ∧
      (∀ lines : List String,
        let listed := ofForm ⟨.lines lines, fields, reduce⟩
        let joined := ofForm ⟨.text ("\n".intercalate lines), fields, reduce⟩
        listed.template = joined.template ∧
          ∀ (demand : Option Bool) (values : Values),
            (listed.withReduce demand).compose values =
              (joined.withReduce demand).compose values) ∧
      ∀ lines : List String,
        (TemplateSource.text ("\n".intercalate lines)).toLines = lines ↔
          lines ≠ [] ∧ ∀ line ∈ lines, '\n' ∉ line.toList := by
  have htext (text : String) : (ofForm ⟨.text text, fields, reduce⟩).template = text :=
    Text.joinLines_splitLines text
  refine ⟨htext, fun lines => ?_, fun lines => ?_⟩
  · have hlines : (ofForm ⟨.lines lines, fields, reduce⟩).template = "\n".intercalate lines :=
      Text.joinLines_eq_intercalate lines
    have htemplate := hlines.trans (htext ("\n".intercalate lines)).symm
    -- The template is all in which the two composers could differ.
    have hsame : ofForm ⟨.lines lines, fields, reduce⟩ =
        ofForm ⟨.text ("\n".intercalate lines), fields, reduce⟩ :=
      congrArg (Composer.mk · fields reduce) htemplate
    exact ⟨htemplate, fun demand values => by rw [hsame]⟩
  · rw [TemplateSource.toLines, Text.splitLines_eq_iff, and_iff_left rfl]

end Composer

end CommitForm
