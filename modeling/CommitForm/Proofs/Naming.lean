/-
# Naming a field in a template

A field of a form without problems is looked up by a placeholder of its name, if the name can stand
in one.

| name of the field | `{name}` becomes |
| --- | --- |
| without braces | what the field contributes |
| with a brace | at some values something else, if the field is ever shown |

The check of a form makes names distinct, so the field of a name is the last of it
(`Form.isLast_of_mem`), but it lets braces pass.  A name with a brace is the name of no placeholder.
So what is entered in its field adds nothing to the text, which is too short once enough has been
entered (`Form.compose_nameLine_iff`).
-/

import CommitForm.Proofs.Problems
import CommitForm.Proofs.Relevance

namespace CommitForm

/-! ## Names in forms without violations -/

namespace Field

/-- A name without violations is not taken by an earlier field. -/
theorem not_mem_of_nameViolations {i : Nat} {f : Field} {taken : List String}
    (h : f.nameViolations i taken = []) : f.name ∉ taken := by
  intro hmem
  rw [nameViolations] at h
  split at h
  · cases h
  · rw [if_pos (List.contains_iff_mem.2 hmem)] at h
    cases h

/-- A field without violations does not depend on itself, so what is entered in it cannot hide
it. -/
theorem name_not_mem_dependencies {i : Nat} {f : Field} {names : List String}
    (h : f.linkViolations i names = []) : f.name ∉ f.dependencies := by
  intro hmem
  have hc : f.isConditional = true := by
    rw [isConditional, Bool.not_eq_true', List.isEmpty_eq_false_iff_exists_mem]
    exact ⟨_, hmem⟩
  rw [linkViolations, if_pos hc, List.append_eq_nil_iff, List.flatMap_eq_nil_iff] at h
  have hown := h.1 f.name hmem
  rw [dependencyViolations, if_pos rfl] at hown
  cases hown

end Field

namespace Form

/-- Fields without violations have distinct names, and none that was taken before them. -/
theorem nodup_of_fieldViolations {taken : List String} {i : Nat} {fs : List Field}
    (h : fieldViolations taken i fs = []) :
    (fs.map (·.name)).Nodup ∧ ∀ f ∈ fs, f.name ∉ taken := by
  induction fs generalizing taken i with
  | nil => simp
  | cons f fs ih =>
    rw [fieldViolations, List.append_eq_nil_iff, List.append_eq_nil_iff] at h
    obtain ⟨⟨hname, -⟩, hrest⟩ := h
    obtain ⟨hnodup, hnew⟩ := ih hrest
    have hhead : f.name ∉ fs.map (·.name) := by
      intro hmem
      obtain ⟨g, hg, hgf⟩ := List.mem_map.1 hmem
      exact hnew g hg (List.mem_append_right _ (hgf ▸ List.mem_singleton_self _))
    refine ⟨List.nodup_cons.2 ⟨hhead, hnodup⟩, List.forall_mem_cons.2
      ⟨Field.not_mem_of_nameViolations hname, fun g hg hmem => ?_⟩⟩
    exact hnew g hg (List.mem_append_left _ hmem)

/-- **Names are distinct** in a form without violations, so each field is the last of its name. -/
theorem isLast_of_mem {form : Form} (h : form.violations = []) {f : Field}
    (hf : f ∈ form.fields) : f.IsLast form.fields := by
  rw [violations_eq, List.append_eq_nil_iff, List.append_eq_nil_iff] at h
  have hnodup := (nodup_of_fieldViolations h.1.1).1
  obtain ⟨before, after, hfields⟩ := List.append_of_mem hf
  refine ⟨before, after, hfields, fun g hg hname => ?_⟩
  rw [hfields, List.map_append, List.map_cons] at hnodup
  have htail := (List.nodup_append.1 hnodup).2.1
  exact (List.nodup_cons.1 htail).1 (hname ▸ List.mem_map_of_mem hg)

/-- In a form without violations no field depends on itself. -/
theorem name_not_mem_dependencies {form : Form} (h : form.violations = []) {f : Field}
    (hf : f ∈ form.fields) : f.name ∉ f.dependencies := by
  obtain ⟨i, hi⟩ := List.getElem?_of_mem hf
  have hlinks : f.linkViolations i (form.fields.map (·.name)) = [] := by
    refine List.eq_nil_iff_forall_not_mem.2 fun v hv => ?_
    have hmem := mem_violations_iff.2 (.inr (.inl ⟨i, f, hi, hv⟩))
    rw [h] at hmem
    cases hmem
  exact Field.name_not_mem_dependencies hlinks

end Form

/-! ## What a value adds to a text -/

namespace Field

/-- The greatest number of characters that a field contributes, whether or not it is shown. -/
def reach (values : Values) (f : Field) : Nat :=
  (f.before.getD "" ++ f.rawText values ++ f.after.getD "").toList.length

/-- A field contributes no more characters than its text has with those before and after it. -/
theorem length_contribution_le (f : Field) (values : Values) :
    (f.contribution values).toList.length ≤ f.reach values := by
  rw [contribution]
  split
  · exact Nat.le_refl _
  · exact Nat.zero_le _

variable {f : Field} {values : Values} {entered : String}

/-- What is entered in a field is its text, whatever was there before. -/
theorem rawText_insert_self :
    f.rawText (values.insert f.name (.single entered)) = entered := by
  simp [rawText, NameMap.get?_insert, FieldValue.raw]

/-- What is entered in a field leaves the texts of fields with other names. -/
theorem rawText_insert_of_ne {name : String} (h : f.name ≠ name) :
    f.rawText (values.insert name (.single entered)) = f.rawText values := by
  simp [rawText, NameMap.get?_insert, Ne.symm h]

/-- What is entered in a field does not hide it, unless it depends on itself. -/
theorem gate_insert_self (h : f.name ∉ f.dependencies) :
    f.gate (values.insert f.name (.single entered)) = f.gate values := by
  refine gate_congr fun name hreads => ?_
  rw [NameMap.get?_insert, if_neg]
  rintro rfl
  exact h hreads.declared

/-- All that is entered in a field that is shown is contributed, so a long enough text can be told
from everything else. -/
theorem length_le_contribution (h : f.name ∉ f.dependencies) (hgate : f.gate values = true) :
    entered.toList.length ≤
      (f.contribution (values.insert f.name (.single entered))).toList.length := by
  by_cases hempty : entered = ""
  · subst hempty
    exact Nat.zero_le _
  · rw [contribution]
    simp only [gate_insert_self h, hgate, rawText_insert_self, hempty, ne_eq, not_false_eq_true,
      decide_true, Bool.and_self, if_true, String.toList_append, List.length_append]
    omega

end Field

namespace Template

/-- If each item gives no more than another way of giving, so do all of them together. -/
theorem length_flatMap_le {α β : Type} {f g : α → List β} {as : List α}
    (h : ∀ a ∈ as, (f a).length ≤ (g a).length) :
    (as.flatMap f).length ≤ (as.flatMap g).length := by
  induction as with
  | nil => exact Nat.le_refl _
  | cons a as ih =>
    obtain ⟨ha, has⟩ := List.forall_mem_cons.1 h
    rw [List.flatMap_cons, List.flatMap_cons, List.length_append, List.length_append]
    exact Nat.add_le_add ha (ih has)

/-- The names of the placeholders of a text have no braces, since a brace ends or begins a
placeholder. -/
theorem isPlain_of_slot_mem {cs name : List Char} (h : .slot name ∈ pieces cs) :
    ∀ c ∈ name, isPlain c = true := by
  obtain ⟨k, hk⟩ := Cutting.exists_cuts cs
  rw [← hk.parts_eq, Cutting.parts, List.mem_append, List.mem_flatMap] at h
  rcases h with h | ⟨s, hs, h⟩
  · obtain ⟨c, -, hc⟩ := List.mem_map.1 h
    cases hc
  · rcases List.mem_cons.1 h with h | h
    · rw [Piece.slot.inj h]
      exact hk.plain s hs
    · obtain ⟨c, -, hc⟩ := List.mem_map.1 h
      cases hc

/-- A text that is a placeholder is replaced as a whole, or left as it is if nothing has the
name. -/
theorem substitute_braced {name : String} (h : ∀ c ∈ name.toList, isPlain c = true)
    (textOf? : String → Option String) :
    substitute textOf? (braced name) = (textOf? name).getD (braced name) := by
  have hcuts : Cutting.Cuts ⟨[], [(name.toList, [])]⟩ (braced name).toList :=
    ⟨by simp [Cutting.filled], bare_nil, by simpa using h, by simpa using bare_nil⟩
  rw [hcuts.substitute_eq]
  simp [Cutting.filled]

/-- What is entered under a name with a brace does not make a filled text longer than a bound. -/
theorem exists_length_substitute_le (fields : List Field) (values : Values) {name : String}
    (hname : ¬∀ c ∈ name.toList, isPlain c = true) (text : String) :
    ∃ bound, ∀ entered,
      (substitute (contribution? fields (values.insert name (.single entered))) text).toList.length
        ≤ bound := by
  -- Nothing is looked up under a name with a brace, so what is entered there does not count.
  let longest (slot : String) : List Char :=
    match fields.reverse.find? (·.name = slot) with
    | some g => List.replicate (g.reach values) ' '
    | none => (braced slot).toList
  refine ⟨((pieces text.toList).flatMap (Piece.filled fun slot =>
    String.ofList (longest slot))).length, fun entered => ?_⟩
  rw [substitute_eq_flatMap, String.toList_ofList]
  refine length_flatMap_le fun p hp => ?_
  cases p with
  | char c => exact Nat.le_refl _
  | slot slot =>
    dsimp only [Piece.filled, longest, contribution?]
    rw [String.toList_ofList]
    cases hfind : fields.reverse.find? (·.name = String.ofList slot) with
    | none => exact Nat.le_refl _
    | some g =>
      have hslot : g.name = String.ofList slot := by simpa using List.find?_some hfind
      have hne : g.name ≠ name := by
        rintro rfl
        refine hname fun c hc => isPlain_of_slot_mem hp c ?_
        rwa [hslot, String.toList_ofList] at hc
      have hreach := g.length_contribution_le (values.insert name (.single entered))
      rw [Field.reach, Field.rawText_insert_of_ne hne] at hreach
      simpa [Field.reach] using hreach

end Template

namespace Form

/-- The template whose only line is the name of a field in braces, with empty lines kept so that
nothing else happens. -/
def nameLine (form : Form) (f : Field) : Composer :=
  (Composer.ofLines [Template.braced f.name] form.fields).withReduce (some false)

/-- What is composed of such a template is what its only line is replaced with. -/
theorem compose_nameLine (form : Form) (f : Field) (values : Values) :
    (form.nameLine f).compose values =
      Template.substitute (Template.contribution? form.fields values) (Template.braced f.name) := by
  simp [nameLine, Composer.compose, Composer.withReduce, Composer.ofLines, Text.joinLines,
    Text.joinWithChar]

/-- **A field of a form without problems can be used by its name** if no brace stands in it; and
only then, if the field is ever shown. -/
theorem compose_nameLine_iff {form : Form} (hvalid : form.problems = []) {f : Field}
    (hf : f ∈ form.fields) :
    ((∀ c ∈ f.name.toList, Template.isPlain c = true) →
        ∀ values, (form.nameLine f).compose values = f.contribution values) ∧
      ((∃ values, f.gate values = true) →
        (∀ values, (form.nameLine f).compose values = f.contribution values) →
          ∀ c ∈ f.name.toList, Template.isPlain c = true) := by
  have hviolations : form.violations = [] := List.map_eq_nil_iff.1 hvalid
  refine ⟨fun hplain values => ?_, ?_⟩
  · rw [compose_nameLine, Template.substitute_braced hplain,
      Template.contribution?_of_isLast (isLast_of_mem hviolations hf), Option.getD_some]
  · rintro ⟨values, hgate⟩ heq
    by_contra hname
    obtain ⟨bound, hbound⟩ :=
      Template.exists_length_substitute_le form.fields values hname (Template.braced f.name)
    -- A value that is longer than the text can become.
    let entered := String.ofList (List.replicate (bound + 1) 'x')
    have hlong : entered.toList.length ≤ _ :=
      Field.length_le_contribution (name_not_mem_dependencies hviolations hf) hgate
    rw [← heq, compose_nameLine, String.toList_ofList, List.length_replicate] at hlong
    have hshort := hbound entered
    omega

/-- A form with a field whose name ends with a brace, which no placeholder can have. -/
def bracedName : Form := ⟨.lines [], [.ofKind "a\x7d" .text], true⟩

/-- The check finds no problem, and the placeholder of the field is left as it stands. -/
theorem compose_nameLine_bracedName :
    bracedName.problems = [] ∧ .ofKind "a\x7d" .text ∈ bracedName.fields ∧
      (bracedName.nameLine (.ofKind "a\x7d" .text)).compose (.ofList [("a\x7d", .single "x")]) =
        "\x7ba\x7d\x7d" ∧
      (Field.ofKind "a\x7d" .text).contribution (.ofList [("a\x7d", .single "x")]) = "x" := by
  decide +kernel

/-- A name with blanks and a line feed, but without braces, which a placeholder can have. -/
def spacedName : Form := ⟨.lines [], [.ofKind "short \n name" .text], true⟩

/-- A name with blanks and a line feed has no violations, and its placeholder gives what the field
contributes. -/
theorem compose_nameLine_spacedName :
    spacedName.problems = [] ∧ .ofKind "short \n name" .text ∈ spacedName.fields ∧
      (∀ values, (spacedName.nameLine (.ofKind "short \n name" .text)).compose values =
        (Field.ofKind "short \n name" .text).contribution values) ∧
      ∀ c ∈ "short \n name".toList, Template.isPlain c = true := by
  have hvalid : spacedName.problems = [] := by decide +kernel
  have hmem : .ofKind "short \n name" .text ∈ spacedName.fields := List.mem_singleton_self _
  have hplain := List.all_eq_true.1 (by decide : "short \n name".toList.all Template.isPlain = true)
  have heq := (compose_nameLine_iff hvalid hmem).1 hplain
  exact ⟨hvalid, hmem, heq, (compose_nameLine_iff hvalid hmem).2 ⟨.empty, rfl⟩ heq⟩

end Form
end CommitForm
