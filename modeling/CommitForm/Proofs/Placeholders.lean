/-
# Placeholders of lines and of their text

A form is checked line by line, but it is filled as one text, its lines joined by line feeds.

| placeholder of the text | is one of a line |
| --- | --- |
| within a line | yes, of this line |
| around a joining line feed (`Placeholder.crosses`) | no |

Nothing else differs: the placeholders of the lines are the placeholders of the text that cross no
joint, in the same order (`placeholders_joinLines`).  So the names that are reported are the names
that filling leaves standing if and only if every placeholder that crosses a joint names a field
(`unknownPlaceholders_eq_iff`).
-/

import Mathlib.Data.List.TakeWhile
import CommitForm.Form.Problem

namespace CommitForm
namespace Template

/-! ## The parts of a text -/

/-- The empty text has no parts. -/
theorem pieces_nil : pieces [] = [] := by rw [pieces]

/-- A character that is no opening brace is a part by itself, and the rest is cut behind it. -/
theorem pieces_cons_of_ne {c : Char} (hc : c ≠ '\x7b') (cs : List Char) :
    pieces (c :: cs) = .char c :: pieces cs := by
  rw [pieces, if_neg hc]

/-- An opening brace without a closing one in time is a character like any other. -/
theorem pieces_open {cs : List Char} (h : ∀ rest, cs.dropWhile isPlain ≠ '\x7d' :: rest) :
    pieces ('\x7b' :: cs) = .char '\x7b' :: pieces cs := by
  rw [pieces, if_pos rfl]
  split
  · next rest hrest => exact absurd hrest (h rest)
  · rfl

/-- A name in braces is a placeholder, and the rest is cut behind its closing brace. -/
theorem pieces_slot {name : List Char} (h : ∀ c ∈ name, isPlain c = true) (rest : List Char) :
    pieces ('\x7b' :: (name ++ '\x7d' :: rest)) = .slot name :: pieces rest := by
  have hdrop : (name ++ '\x7d' :: rest).dropWhile isPlain = '\x7d' :: rest := by
    rw [List.dropWhile_append_of_pos h]
    rfl
  have htake : (name ++ '\x7d' :: rest).takeWhile isPlain = name := by
    rw [List.takeWhile_append_of_pos h, List.takeWhile_cons_of_neg (by decide), List.append_nil]
  rw [pieces, if_pos rfl]
  split
  · next rest' hrest =>
    rw [hdrop] at hrest
    rw [htake, (List.cons.inj hrest).2]
  · next hrest => exact absurd hdrop (hrest rest)

/-- A run of plain characters up to a closing brace and what follows make up the text. -/
theorem takeWhile_append_of_dropWhile {cs rest : List Char}
    (h : cs.dropWhile isPlain = '\x7d' :: rest) : cs.takeWhile isPlain ++ '\x7d' :: rest = cs := by
  rw [← h, List.takeWhile_append_dropWhile]

/-- A plain character is no opening brace. -/
theorem ne_of_isPlain {c : Char} (h : isPlain c = true) : c ≠ '\x7b' := by
  rintro rfl
  exact absurd h (by decide)

/-- Characters that are no opening braces are parts by themselves, whatever follows them. -/
theorem pieces_append_of_ne {cs : List Char} (h : ∀ c ∈ cs, c ≠ '\x7b') (rest : List Char) :
    pieces (cs ++ rest) = cs.map .char ++ pieces rest := by
  induction cs with
  | nil => rfl
  | cons c cs ih =>
    obtain ⟨hc, hcs⟩ := List.forall_mem_cons.1 h
    rw [List.cons_append, pieces_cons_of_ne hc, ih hcs]
    rfl

/-! ## Where placeholders stand -/

/-- A character in front moves all placeholders by its bytes. -/
theorem placeholdersFrom_char (offset : Nat) (c : Char) (ps : List Piece) :
    placeholdersFrom offset (.char c :: ps) = placeholdersFrom (offset + c.utf8Size) ps := rfl

/-- A placeholder in front is listed at its place, and moves those behind it by its bytes and its
two braces. -/
theorem placeholdersFrom_slot (offset : Nat) (name : List Char) (ps : List Piece) :
    placeholdersFrom offset (.slot name :: ps) =
      ⟨String.ofList name, offset, offset + (Text.byteLength name + 2)⟩ ::
        placeholdersFrom (offset + (Text.byteLength name + 2)) ps := by
  have h : Text.byteLength (Piece.slot name).written = Text.byteLength name + 2 := by
    rw [Piece.written, List.cons_append, Text.byteLength, Text.byteLength_append]
    exact Nat.add_comm 1 (Text.byteLength name + 1)
  rw [placeholdersFrom, h]

/-- Characters in front move all placeholders by their bytes. -/
theorem placeholdersFrom_chars (offset : Nat) (cs : List Char) (ps : List Piece) :
    placeholdersFrom offset (cs.map .char ++ ps) =
      placeholdersFrom (offset + Text.byteLength cs) ps := by
  induction cs generalizing offset with
  | nil => rfl
  | cons c cs ih =>
    rw [List.map_cons, List.cons_append, placeholdersFrom_char, ih, Text.byteLength, Nat.add_assoc]

/-- The names of placeholders do not depend on where the text stands, only their offsets do. -/
theorem map_name_placeholdersFrom (o o' : Nat) (ps : List Piece) :
    (placeholdersFrom o ps).map (·.name) = (placeholdersFrom o' ps).map (·.name) := by
  induction ps generalizing o o' with
  | nil => rfl
  | cons p ps ih =>
    cases p with
    | char c => exact ih _ _
    | slot name => exact congrArg (String.ofList name :: ·) (ih _ _)

/-- Every placeholder that is listed lies within the bytes of the parts. -/
theorem mem_placeholdersFrom {o : Nat} {ps : List Piece} {p : Placeholder}
    (h : p ∈ placeholdersFrom o ps) :
    o ≤ p.start ∧ p.stop ≤ o + Text.byteLength (ps.flatMap Piece.written) := by
  induction ps generalizing o with
  | nil => simp [placeholdersFrom] at h
  | cons q ps ih =>
    have hlength : Text.byteLength ((q :: ps).flatMap Piece.written) =
        Text.byteLength q.written + Text.byteLength (ps.flatMap Piece.written) := by
      rw [List.flatMap_cons, Text.byteLength_append]
    cases q with
    | char c =>
      have := ih h
      omega
    | slot name =>
      rcases List.mem_cons.1 h with rfl | h
      · dsimp only
        omega
      · have := ih h
        omega

/-- **Nothing is lost:** the parts of a text, written one after the other, are the text. -/
theorem flatMap_written_pieces (cs : List Char) : (pieces cs).flatMap Piece.written = cs := by
  fun_induction pieces cs with
  | case1 => rfl
  | case2 cs rest hrest ih =>
    rw [List.flatMap_cons, ih, Piece.written, List.append_assoc, List.singleton_append,
      List.cons_append, takeWhile_append_of_dropWhile hrest]
  | case3 cs _ ih =>
    rw [List.flatMap_cons, ih]
    rfl
  | case4 c cs _ ih =>
    rw [List.flatMap_cons, ih]
    rfl

/-! ## Joints -/

/-- Where the line feeds stand that join lines, the first of which begins at `offset`. -/
def jointsFrom (offset : Nat) : List (List Char) → List Nat
  | l :: m :: ls =>
    let joint := offset + Text.byteLength l
    joint :: jointsFrom (joint + 1) (m :: ls)
  | _ => []

/-- The byte offsets of the line feeds that join lines, in the text that all lines are joined to. -/
def joints (lines : List String) : List Nat := jointsFrom 0 (lines.map String.toList)

/-- Whether a placeholder stands around one of the joints, and so belongs to no single line. -/
def Placeholder.crosses (p : Placeholder) (joints : List Nat) : Bool :=
  joints.any fun j => p.start < j && j < p.stop

/-- Placeholders are those before a joint, some around it and those behind it, in this order. -/
def JoinedAt (joint : Nat) (ps before after : List Placeholder) : Prop :=
  ∃ around, ps = before ++ around ++ after ∧ ∀ p ∈ around, p.start < joint ∧ joint < p.stop

/-- A placeholder in front of the others stands before the joint with them. -/
theorem JoinedAt.cons {joint : Nat} {ps before after : List Placeholder} (p : Placeholder)
    (h : JoinedAt joint ps before after) : JoinedAt joint (p :: ps) (p :: before) after := by
  obtain ⟨around, rfl, haround⟩ := h
  exact ⟨around, rfl, haround⟩

/-- A brace that is open at the end of a text is closed by the text behind the joint. -/
theorem joinedAt_of_open (o : Nat) {a v : List Char} (ha : ∀ c ∈ a, isPlain c = true)
    (hv : ∀ c ∈ v, isPlain c = true) (rest : List Char) :
    JoinedAt (o + Text.byteLength ('\x7b' :: a))
      (placeholdersFrom o (pieces ('\x7b' :: (a ++ '\n' :: (v ++ '\x7d' :: rest)))))
      (placeholdersFrom o (pieces ('\x7b' :: a)))
      (placeholdersFrom (o + Text.byteLength ('\x7b' :: a) + 1)
        (pieces (v ++ '\x7d' :: rest))) := by
  have hsizes : '\x7b'.utf8Size = 1 ∧ '\x7d'.utf8Size = 1 ∧ '\n'.utf8Size = 1 := ⟨rfl, rfl, rfl⟩
  have hbefore : placeholdersFrom o (pieces ('\x7b' :: a)) = [] := by
    have hnone : a.dropWhile isPlain = [] := List.dropWhile_eq_nil_iff.2 ha
    have hchars := pieces_append_of_ne (fun c hc => ne_of_isPlain (ha c hc)) []
    rw [List.append_nil] at hchars
    rw [pieces_open (by simp [hnone]), placeholdersFrom_char, hchars, placeholdersFrom_chars,
      pieces_nil]
    rfl
  have hafter : placeholdersFrom (o + Text.byteLength ('\x7b' :: a) + 1)
      (pieces (v ++ '\x7d' :: rest)) =
        placeholdersFrom (o + (Text.byteLength (a ++ '\n' :: v) + 2)) (pieces rest) := by
    rw [pieces_append_of_ne fun c hc => ne_of_isPlain (hv c hc), placeholdersFrom_chars,
      pieces_cons_of_ne (by decide), placeholdersFrom_char]
    congr 1
    rw [Text.byteLength, Text.byteLength_append, Text.byteLength]
    omega
  have hname : ∀ c ∈ a ++ '\n' :: v, isPlain c = true :=
    List.forall_mem_append.2 ⟨ha, List.forall_mem_cons.2 ⟨rfl, hv⟩⟩
  have hjoined : '\x7b' :: (a ++ '\n' :: (v ++ '\x7d' :: rest)) =
      '\x7b' :: ((a ++ '\n' :: v) ++ '\x7d' :: rest) := by simp
  rw [hjoined, pieces_slot hname, placeholdersFrom_slot, hbefore, hafter]
  refine ⟨[_], rfl, ?_⟩
  intro p hp
  rw [List.mem_singleton.1 hp, Text.byteLength, Text.byteLength_append, Text.byteLength]
  dsimp only
  omega

/-- **Joining two texts** keeps their placeholders.  Whatever is added stands around the joint, by
induction on the first text as it is cut into parts. -/
theorem joinedAt_placeholdersFrom (o : Nat) (a b : List Char) :
    JoinedAt (o + Text.byteLength a) (placeholdersFrom o (pieces (a ++ '\n' :: b)))
      (placeholdersFrom o (pieces a))
      (placeholdersFrom (o + Text.byteLength a + 1) (pieces b)) := by
  fun_induction pieces a generalizing o with
  | case1 =>
    refine ⟨[], ?_, by simp⟩
    rw [List.nil_append, pieces_cons_of_ne (by decide)]
    rfl
  | case2 cs rest hrest ih =>
    have hname : ∀ c ∈ cs.takeWhile isPlain, isPlain c = true := fun _ => List.mem_takeWhile_imp
    have hsplit := takeWhile_append_of_dropWhile hrest
    generalize cs.takeWhile isPlain = name at hname hsplit ⊢
    subst hsplit
    have hlength : o + Text.byteLength ('\x7b' :: (name ++ '\x7d' :: rest)) =
        o + (Text.byteLength name + 2) + Text.byteLength rest := by
      have hopen : '\x7b'.utf8Size = 1 := rfl
      have hclose : '\x7d'.utf8Size = 1 := rfl
      rw [Text.byteLength, Text.byteLength_append, Text.byteLength]
      omega
    rw [List.cons_append, List.append_assoc, List.cons_append, pieces_slot hname,
      placeholdersFrom_slot, placeholdersFrom_slot, hlength]
    exact (ih _).cons _
  | case3 cs hopen ih =>
    -- An open brace is closed behind the joint if nothing but plain text stands between.
    by_cases hclose : ∃ rest, (cs ++ '\n' :: b).dropWhile isPlain = '\x7d' :: rest
    · obtain ⟨rest, hrest⟩ := hclose
      rw [List.dropWhile_append] at hrest
      have hnone : cs.dropWhile isPlain = [] := by
        cases hd : cs.dropWhile isPlain with
        | nil => rfl
        | cons d ds =>
          rw [hd] at hrest
          obtain ⟨rfl, -⟩ := List.cons.inj hrest
          exact (hopen ds hd).elim
      have hplain : ∀ c ∈ cs, isPlain c = true := List.dropWhile_eq_nil_iff.1 hnone
      rw [hnone, List.isEmpty_nil, if_pos rfl, List.dropWhile_cons_of_pos (by decide)] at hrest
      rw [← pieces_open hopen, ← takeWhile_append_of_dropWhile hrest]
      exact joinedAt_of_open o hplain (fun _ => List.mem_takeWhile_imp) rest
    · rw [List.cons_append, pieces_open fun rest h => hclose ⟨rest, h⟩, placeholdersFrom_char,
        placeholdersFrom_char, Text.byteLength, ← Nat.add_assoc]
      exact ih _
  | case4 c cs hc ih =>
    rw [List.cons_append, pieces_cons_of_ne hc, placeholdersFrom_char, placeholdersFrom_char,
      Text.byteLength, ← Nat.add_assoc]
    exact ih _

/-- A placeholder stands around a joint if one lies strictly between its begin and its end. -/
theorem Placeholder.crosses_iff {p : Placeholder} {js : List Nat} :
    p.crosses js = true ↔ ∃ j ∈ js, p.start < j ∧ j < p.stop := by
  simp [Placeholder.crosses, List.any_eq_true]

/-- A placeholder that ends before all joints stands around none of them. -/
theorem Placeholder.crosses_eq_false {p : Placeholder} {js : List Nat} (h : ∀ j ∈ js, p.stop ≤ j) :
    p.crosses js = false := by
  rw [Bool.eq_false_iff]
  intro hcross
  obtain ⟨j, hj, -, hlt⟩ := Placeholder.crosses_iff.1 hcross
  have := h j hj
  omega

/-- A joint before a placeholder is not one that it stands around. -/
theorem Placeholder.crosses_cons_of_le {p : Placeholder} {j : Nat} (h : j ≤ p.start)
    (js : List Nat) : p.crosses (j :: js) = p.crosses js := by
  have hj : ¬p.start < j := by omega
  simp [Placeholder.crosses, hj]

/-- Of joined placeholders, those before the joint cross nothing and those around it the joint. -/
theorem JoinedAt.filter_crosses {joint : Nat} {js : List Nat} {ps before after : List Placeholder}
    (h : JoinedAt joint ps before after) (hjs : ∀ j ∈ js, joint ≤ j)
    (hbefore : ∀ p ∈ before, p.stop ≤ joint) (hafter : ∀ p ∈ after, joint ≤ p.start) :
    (ps.filter fun p => !p.crosses (joint :: js)) =
      before ++ after.filter fun p => !p.crosses js := by
  obtain ⟨around, rfl, haround⟩ := h
  have hb : ∀ p ∈ before, (!p.crosses (joint :: js)) = true := by
    intro p hp
    rw [Bool.not_eq_true']
    refine Placeholder.crosses_eq_false fun j hj => (hbefore p hp).trans ?_
    rcases List.mem_cons.1 hj with rfl | hj
    · exact Nat.le_refl _
    · exact hjs j hj
  have hm : ∀ p ∈ around, ¬(!p.crosses (joint :: js)) = true := by
    intro p hp
    have hcross : p.crosses (joint :: js) = true :=
      Placeholder.crosses_iff.2 ⟨joint, List.mem_cons_self, haround p hp⟩
    simp [hcross]
  have ha : ∀ p ∈ after, (!p.crosses (joint :: js)) = !p.crosses js := by
    intro p hp
    rw [Placeholder.crosses_cons_of_le (hafter p hp)]
  rw [List.filter_append, List.filter_append, List.filter_eq_self.2 hb,
    List.filter_eq_nil_iff.2 hm, List.append_nil, List.filter_congr ha]

/-- The joints of lines do not lie before the lines begin. -/
theorem le_of_mem_jointsFrom {o j : Nat} {ls : List (List Char)} (h : j ∈ jointsFrom o ls) :
    o ≤ j := by
  fun_induction jointsFrom o ls with
  | case1 o l m ls joint ih =>
    rcases List.mem_cons.1 h with rfl | h
    · exact Nat.le_add_right o _
    · have := ih h
      omega
  | case2 => simp at h

/-- The placeholders that stand around no joint are those of the lines, line by line and in
order. -/
theorem filter_placeholdersFrom (o : Nat) (ls : List (List Char)) :
    ((placeholdersFrom o (pieces (Text.joinWithChar '\n' ls))).filter
        fun p => !p.crosses (jointsFrom o ls)).map (·.name) =
      ls.flatMap fun l => (placeholdersFrom 0 (pieces l)).map (·.name) := by
  induction ls generalizing o with
  | nil =>
    rw [Text.joinWithChar, pieces_nil]
    rfl
  | cons l ls ih =>
    cases ls with
    | nil =>
      have hall : ∀ p ∈ placeholdersFrom o (pieces l), (!p.crosses (jointsFrom o [l])) = true :=
        fun p _ => rfl
      rw [Text.joinWithChar, List.filter_eq_self.2 hall, map_name_placeholdersFrom o 0]
      simp
    | cons m ls =>
      have hjs : ∀ j ∈ jointsFrom (o + Text.byteLength l + 1) (m :: ls),
          o + Text.byteLength l ≤ j :=
        fun j hj => Nat.le_of_succ_le (le_of_mem_jointsFrom hj)
      have hbefore : ∀ p ∈ placeholdersFrom o (pieces l), p.stop ≤ o + Text.byteLength l := by
        intro p hp
        have hstop := (mem_placeholdersFrom hp).2
        rwa [flatMap_written_pieces] at hstop
      have hjoined := joinedAt_placeholdersFrom o l (Text.joinWithChar '\n' (m :: ls))
      have hfilter := hjoined.filter_crosses hjs hbefore
        fun p hp => Nat.le_of_succ_le (mem_placeholdersFrom hp).1
      rw [Text.joinWithChar, jointsFrom, hfilter, List.map_append, ih,
        map_name_placeholdersFrom o 0]
      rfl

/-- **The placeholders of lines** are the placeholders of their text that stand around no joint. -/
theorem placeholders_joinLines (lines : List String) :
    ((placeholders (Text.joinLines lines)).filter fun p => !p.crosses (joints lines)).map (·.name) =
      lines.flatMap placeholderNames := by
  have h := filter_placeholdersFrom 0 (lines.map String.toList)
  rw [List.flatMap_map] at h
  rw [placeholders, Text.joinLines, String.toList_ofList]
  exact h

end Template

/-! ## What is reported and what is left -/

/-- The name of a placeholder that is reported for naming no field; other violations have none. -/
def Violation.placeholder? : Violation → Option String
  | unknownPlaceholder _ name => some name
  | _ => none

/-- The names of the placeholders that are reported for naming no field, in the order of the
report. -/
def Form.unknownPlaceholders (form : Form) : List String :=
  form.violations.filterMap Violation.placeholder?

/-- The names of the placeholders that filling a template leaves as they stand, in the order of the
template. -/
def Composer.leftNames (c : Composer) (values : Values) : List String :=
  (Template.placeholderNames c.template).filter fun name =>
    (Template.contribution? c.fields values name).isNone

/-- The placeholders of the whole template of a form that stand around a joint of its lines. -/
def Form.crossing (form : Form) : List Template.Placeholder :=
  (Template.placeholders (Text.joinLines form.template.toLines)).filter
    (·.crosses (Template.joints form.template.toLines))

namespace Form

section

variable (i : Nat) (f : Field)

/-- The violations of a field's name report no placeholders. -/
theorem placeholders_nameViolations (taken : List String) :
    (f.nameViolations i taken).filterMap Violation.placeholder? = [] := by
  rw [Field.nameViolations]
  split
  · rfl
  · split <;> rfl

/-- The violations of a field's options report no placeholders. -/
theorem placeholders_optionViolations :
    (f.optionViolations i).filterMap Violation.placeholder? = [] := by
  rw [Field.optionViolations]
  split
  · split <;> rfl
  · split <;> rfl
  · rfl

/-- The violations of a field's dependencies report no placeholders. -/
theorem placeholders_dependencyViolations (names : List String) (dependency : String) :
    (f.dependencyViolations i names dependency).filterMap Violation.placeholder? = [] := by
  rw [Field.dependencyViolations]
  split
  · rfl
  · split <;> rfl

/-- The violations of a field's condition report no placeholders. -/
theorem placeholders_conditionViolations :
    (f.conditionViolations i).filterMap Violation.placeholder? = [] := by
  rw [Field.conditionViolations]
  split
  · rfl
  · split
    · rfl
    · rw [List.filterMap_map]
      exact List.filterMap_eq_nil_iff.2 fun _ _ => rfl

/-- The violations of what a field depends on report no placeholders. -/
theorem placeholders_linkViolations (names : List String) :
    (f.linkViolations i names).filterMap Violation.placeholder? = [] := by
  rw [Field.linkViolations]
  split
  · rw [List.filterMap_append, placeholders_conditionViolations, List.append_nil,
      List.filterMap_flatMap]
    exact List.flatMap_eq_nil_iff.2 fun d _ => placeholders_dependencyViolations i f names d
  · rfl

end

/-- The violations of all fields report no placeholders, so only the template's lines do. -/
theorem placeholders_fieldViolations (taken : List String) (i : Nat) (fs : List Field) :
    (fieldViolations taken i fs).filterMap Violation.placeholder? = [] := by
  induction fs generalizing taken i with
  | nil => rfl
  | cons f fs ih =>
    rw [fieldViolations, List.filterMap_append, List.filterMap_append,
      placeholders_nameViolations, placeholders_optionViolations, ih]
    rfl

/-- A line reports just its placeholders that name no field, as often as they occur. -/
theorem placeholders_lineViolations (form : Form) (i : Nat) (line : String) :
    (form.lineViolations i line).filterMap Violation.placeholder? =
      (Template.placeholderNames line).filter fun name => (form.field? name).isNone := by
  rw [lineViolations, List.filterMap_map]
  exact List.filterMap_some

/-- The violations of a form come from its fields, from what they depend on, and from the lines of
its template, in this order. -/
theorem violations_eq (form : Form) :
    form.violations =
      fieldViolations [] 0 form.fields ++
        (form.fields.zipIdx.flatMap fun x =>
          x.1.linkViolations x.2 (form.fields.map (·.name))) ++
        form.template.toLines.zipIdx.flatMap fun x => form.lineViolations x.2 x.1 := rfl

/-- Fields add nothing to what is reported of the template, and lines are reported in order. -/
theorem unknownPlaceholders_eq_filter (form : Form) :
    form.unknownPlaceholders =
      (form.template.toLines.flatMap Template.placeholderNames).filter
        fun name => (form.field? name).isNone := by
  have hlines : (form.template.toLines.zipIdx.flatMap fun x =>
      form.lineViolations x.2 x.1).filterMap Violation.placeholder? =
        (form.template.toLines.zipIdx.map Prod.fst).flatMap fun line =>
          (Template.placeholderNames line).filter fun name => (form.field? name).isNone := by
    rw [List.filterMap_flatMap, List.flatMap_map]
    congr 1
    funext x
    exact placeholders_lineViolations form x.2 x.1
  have hlinks : (form.fields.zipIdx.flatMap fun x =>
      x.1.linkViolations x.2 (form.fields.map (·.name))).filterMap Violation.placeholder? = [] := by
    rw [List.filterMap_flatMap]
    exact List.flatMap_eq_nil_iff.2 fun x _ => placeholders_linkViolations x.2 x.1 _
  rw [unknownPlaceholders, violations_eq, List.filterMap_append, List.filterMap_append,
    placeholders_fieldViolations, hlinks, hlines, List.zipIdx_map_fst, List.filter_flatMap]
  rfl

/-- The first and the last field of a name are found or missed together. -/
theorem isNone_contribution? (fields : List Field) (values : Values) (name : String) :
    (Template.contribution? fields values name).isNone = (fields.find? (·.name = name)).isNone := by
  rw [Template.contribution?, Option.isNone_map, Bool.eq_iff_iff, Option.isNone_iff_eq_none,
    Option.isNone_iff_eq_none, List.find?_eq_none, List.find?_eq_none]
  simp

/-- Whether a placeholder names no field of the form. -/
def isUnknown (form : Form) (p : Template.Placeholder) : Bool := (form.field? p.name).isNone

/-- Filling the template leaves just the placeholders of the joined text that name no field,
whatever the values are. -/
theorem leftNames_eq (form : Form) (values : Values) :
    (Composer.ofForm form).leftNames values =
      ((Template.placeholders (Text.joinLines form.template.toLines)).filter form.isUnknown).map
        (·.name) := by
  rw [Composer.leftNames, Template.placeholderNames, List.filter_map]
  refine congrArg (List.map _) (List.filter_congr fun p _ => ?_)
  exact isNone_contribution? form.fields values p.name

/-- Reported are just the placeholders of the joined text that name no field and stand around no
joint. -/
theorem unknownPlaceholders_eq (form : Form) :
    form.unknownPlaceholders =
      (((Template.placeholders (Text.joinLines form.template.toLines)).filter fun p =>
        !p.crosses (Template.joints form.template.toLines)).filter form.isUnknown).map
          (·.name) := by
  rw [unknownPlaceholders_eq_filter, ← Template.placeholders_joinLines, List.filter_map]
  rfl

/-- **What is reported and what is left standing are the same names** if and only if every
placeholder that crosses a joint names a field. -/
theorem unknownPlaceholders_eq_iff (form : Form) (values : Values) :
    form.unknownPlaceholders = (Composer.ofForm form).leftNames values ↔
      ∀ p ∈ form.crossing, (form.field? p.name).isSome = true := by
  rw [unknownPlaceholders_eq, leftNames_eq, crossing]
  generalize Template.placeholders (Text.joinLines form.template.toLines) = ps
  generalize Template.joints form.template.toLines = js
  -- Both lists are filters of the same placeholders, the one on the left by more conditions.
  have hsub : ((ps.filter fun p => !p.crosses js).filter form.isUnknown).Sublist
      (ps.filter form.isUnknown) := List.filter_sublist.filter _
  constructor
  · intro heq p hp
    have hlength := congrArg List.length heq
    rw [List.length_map, List.length_map] at hlength
    have hsame := hsub.eq_of_length hlength
    obtain ⟨hmem, hcross⟩ := List.mem_filter.1 hp
    by_contra hsome
    have hunknown : form.isUnknown p = true := by
      rwa [isUnknown, ← Option.not_isSome, Bool.not_eq_true', Bool.eq_false_iff]
    have hleft : p ∈ ps.filter form.isUnknown := List.mem_filter.2 ⟨hmem, hunknown⟩
    rw [← hsame, List.mem_filter, List.mem_filter, hcross] at hleft
    exact absurd hleft.1.2 (by decide)
  · intro hknown
    refine congrArg (List.map _) ?_
    rw [List.filter_filter]
    refine List.filter_congr fun p hp => ?_
    cases hcross : p.crosses js with
    | false => simp
    | true =>
      have hsome := hknown p (List.mem_filter.2 ⟨hp, hcross⟩)
      rw [isUnknown, ← Option.not_isSome, hsome]
      rfl

/-- **A form is checked as it is filled** if and only if every placeholder that crosses a joint
names a field: then what is reported is what is left standing, and otherwise something is left
standing of a form without violations. -/
theorem placeholders_agree_iff (form : Form) (values : Values) :
    (form.unknownPlaceholders = (Composer.ofForm form).leftNames values ↔
        ∀ p ∈ form.crossing, (form.field? p.name).isSome = true) ∧
      (form.violations = [] →
        ((∀ name ∈ Template.placeholderNames (Composer.ofForm form).template,
            (Template.contribution? form.fields values name).isSome = true) ↔
          ∀ p ∈ form.crossing, (form.field? p.name).isSome = true)) := by
  have hiff := form.unknownPlaceholders_eq_iff values
  refine ⟨hiff, fun hvalid => ?_⟩
  rw [← hiff, unknownPlaceholders, hvalid, Composer.leftNames, List.filterMap_nil, eq_comm,
    List.filter_eq_nil_iff]
  refine forall₂_congr fun name _ => ?_
  rw [← Option.not_isNone, Bool.not_eq_true', Bool.eq_false_iff]
  rfl

/-- A form whose only placeholder goes around a joint and names the field, so nothing is left and
nothing reported. -/
def namedAcrossLines : Form := ⟨.lines ["\x7ba", "b\x7d"], [.ofKind "a\nb" .text], true⟩

/-- A placeholder that goes around a joint does no harm where it names a field: report and filling
agree. -/
theorem placeholders_agree_across_lines :
    namedAcrossLines.violations = [] ∧
      Template.placeholderNames (Composer.ofForm namedAcrossLines).template = ["a\nb"] ∧
      namedAcrossLines.unknownPlaceholders =
        (Composer.ofForm namedAcrossLines).leftNames .empty ∧
      ∀ name ∈ Template.placeholderNames (Composer.ofForm namedAcrossLines).template,
        (Template.contribution? namedAcrossLines.fields .empty name).isSome = true := by
  have hproblems : namedAcrossLines.problems = [] := by decide +kernel
  have hvalid : namedAcrossLines.violations = [] := List.map_eq_nil_iff.1 hproblems
  have hknown : ∀ p ∈ namedAcrossLines.crossing,
      (namedAcrossLines.field? p.name).isSome = true := by decide +kernel
  obtain ⟨hagree, hfilled⟩ := placeholders_agree_iff namedAcrossLines .empty
  exact ⟨hvalid, by decide +kernel, hagree.2 hknown, (hfilled hvalid).2 hknown⟩

/-- A form whose only placeholder begins on one line and ends on the next. -/
def acrossLines : Form := ⟨.lines ["\x7ba", "b\x7d"], [], true⟩

/-- A placeholder that goes around a joint and names no field is left in the text without having
been reported. -/
theorem placeholders_disagree_across_lines :
    acrossLines.violations = [] ∧ acrossLines.unknownPlaceholders = [] ∧
      (Composer.ofForm acrossLines).leftNames .empty = ["a\nb"] ∧
        acrossLines.unknownPlaceholders ≠ (Composer.ofForm acrossLines).leftNames .empty ∧
          (Composer.ofForm acrossLines).compose .empty = "\x7ba\nb\x7d" := by
  have hproblems : acrossLines.problems = [] := by decide +kernel
  have hvalid : acrossLines.violations = [] := List.map_eq_nil_iff.1 hproblems
  have hreported : acrossLines.unknownPlaceholders = [] := by
    rw [unknownPlaceholders, hvalid]
    rfl
  have hleft : (Composer.ofForm acrossLines).leftNames .empty = ["a\nb"] := by decide +kernel
  refine ⟨hvalid, hreported, hleft, ?_, by decide +kernel⟩
  rw [hreported, hleft]
  decide

end Form
end CommitForm
