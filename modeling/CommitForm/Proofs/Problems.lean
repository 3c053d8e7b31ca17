/-
# Problems and their paths

A problem is reported with a path and a message.  Paths tell fields and their parts apart
(`Violation.fieldPath_inj`), so what is reported at the path of a condition is what is wrong with
this condition (`Form.reportsAt_iff`).

| violation | found by | path |
| --- | --- | --- |
| of a name, of options | `fieldViolations` | `name`, `options`, `provider` of a field |
| of dependencies | `linkViolations` | `dependsOn` of a field |
| of a condition | `linkViolations` | `matchExpression` of a field |
| of a placeholder | `lineViolations` | a line of the template |
-/

import CommitForm.Proofs.Placeholders

namespace CommitForm

/-! ## Paths and messages -/

namespace Violation

/-- Digits end at the bracket behind them.  This is what makes an index readable from a path: the
digits are the longest run of them, and a number is told by its digits. -/
theorem toDigits_append_inj {i j : Nat} {r s : List Char}
    (h : Nat.toDigits 10 i ++ ']' :: r = Nat.toDigits 10 j ++ ']' :: s) : i = j ∧ r = s := by
  have htake (n : Nat) (t : List Char) :
      (Nat.toDigits 10 n ++ ']' :: t).takeWhile Char.isDigit = Nat.toDigits 10 n := by
    have hdigits : ∀ c ∈ Nat.toDigits 10 n, c.isDigit = true :=
      fun c hc => Nat.isDigit_of_mem_toDigits (by decide) (by decide) hc
    rw [List.takeWhile_append_of_pos hdigits, List.takeWhile_cons_of_neg (by decide),
      List.append_nil]
  have hdigits : Nat.toDigits 10 i = Nat.toDigits 10 j := by rw [← htake i r, h, htake]
  refine ⟨?_, ?_⟩
  · have hvalue := congrArg (Nat.ofDigitChars 10 · 0) hdigits
    simpa [Nat.ofDigitChars_ten_toDigits] using hvalue
  · rw [hdigits] at h
    exact (List.cons.inj (List.append_cancel_left h)).2

/-- **Paths tell fields and their parts apart.**  Two such paths are equal only if they are about
the same part of the same field, whatever the parts are called. -/
theorem fieldPath_inj {i j : Nat} {part part' : String} :
    fieldPath i part = fieldPath j part' ↔ i = j ∧ part = part' := by
  have hlist (n : Nat) (p : String) : (fieldPath n p).toList =
      "tokens[".toList ++ (Nat.toDigits 10 n ++ ']' :: '.' :: p.toList) := by
    have hdigits : (toString n).toList = Nat.toDigits 10 n := String.toList_ofList
    rw [fieldPath, String.toList_append, String.toList_append, String.toList_append, hdigits]
    simp
  constructor
  · intro h
    have htail := congrArg String.toList h
    rw [hlist, hlist] at htail
    obtain ⟨rfl, hpart⟩ := toDigits_append_inj (List.append_cancel_left htail)
    exact ⟨rfl, String.toList_inj.1 (List.cons.inj hpart).2⟩
  · rintro ⟨rfl, rfl⟩
    rfl

/-- The index of the field whose condition a violation is about: a condition that is missing, that
does not parse, or that reads an undeclared name. -/
def condition? : Violation → Option Nat
  | noExpression i _ | badExpression i _ | undeclaredName i _ => some i
  | _ => none

/-- What is reported at the path of a condition is about this condition, and nothing else is:
placeholders are reported at lines, and other parts have other paths. -/
theorem path_eq_iff {v : Violation} {i : Nat} :
    v.problem.path = fieldPath i "matchExpression" ↔ v.condition? = some i := by
  cases v with
  | unknownPlaceholder line name =>
    have hpath : (unknownPlaceholder line name).problem.path =
        "template[" ++ toString line ++ "]" := rfl
    have hne : ("template[" ++ toString line ++ "]").toList ≠
        (fieldPath i "matchExpression").toList := by simp [fieldPath]
    rw [hpath]
    constructor
    · intro h
      exact absurd (congrArg String.toList h) hne
    · intro h
      simp [condition?] at h
  | _ =>
    dsimp only [problem, condition?]
    simp [fieldPath_inj]

/-- The message where a field has dependencies and no expression. -/
theorem message_noExpression (i : Nat) (name : String) :
    (noExpression i name).problem.message = "token '" ++ name ++
      "' declares dependencies but no match expression, so it is never shown" := rfl

/-- The message where an expression does not parse, which carries the message of the parser on. -/
theorem message_badExpression (i : Nat) (e : When.ClauseError) :
    (badExpression i e).problem.message = "invalid match expression: " ++ e.message := rfl

/-- The message where an expression reads a name that is not a declared dependency of the field. -/
theorem message_undeclaredName (i : Nat) (name : String) :
    (undeclaredName i name).problem.message =
      "match expression reads '" ++ name ++ "', which is not a declared dependency" := rfl

end Violation

/-! ## Where violations come from -/

namespace Field

/-- The name of a field is checked for blanks and repetition, which says nothing about a
condition. -/
theorem condition?_of_mem_nameViolations {i : Nat} {f : Field} {taken : List String} {v : Violation}
    (h : v ∈ f.nameViolations i taken) : v.condition? = none := by
  rw [nameViolations] at h
  split at h
  · rw [List.mem_singleton.1 h]
    rfl
  · split at h
    · rw [List.mem_singleton.1 h]
      rfl
    · cases h

/-- What is wrong with the options or with the provider of a field is not about its condition. -/
theorem condition?_of_mem_optionViolations {i : Nat} {f : Field} {v : Violation}
    (h : v ∈ f.optionViolations i) : v.condition? = none := by
  rw [optionViolations] at h
  split at h
  · split at h
    · rw [List.mem_singleton.1 h]
      rfl
    · cases h
  · split at h
    · rw [List.mem_singleton.1 h]
      rfl
    · cases h
  · cases h

/-- A dependency that names the field itself, or no field at all, is reported under the dependencies
and not under the condition. -/
theorem condition?_of_mem_dependencyViolations {i : Nat} {f : Field} {names : List String}
    {dependency : String} {v : Violation} (h : v ∈ f.dependencyViolations i names dependency) :
    v.condition? = none := by
  rw [dependencyViolations] at h
  split at h
  · rw [List.mem_singleton.1 h]
    rfl
  · split at h
    · cases h
    · rw [List.mem_singleton.1 h]
      rfl

/-- Every violation that the check of a condition finds is about the condition of the field that it
has been called for. -/
theorem condition?_of_mem_conditionViolations {i : Nat} {f : Field} {v : Violation}
    (h : v ∈ f.conditionViolations i) : v.condition? = some i := by
  rw [conditionViolations] at h
  split at h
  · rw [List.mem_singleton.1 h]
    rfl
  · split at h
    · rw [List.mem_singleton.1 h]
      rfl
    · obtain ⟨name, -, rfl⟩ := List.mem_map.1 h
      rfl

end Field

namespace Form

/-- The first pass over the fields, which looks at each field by itself, finds nothing about
conditions. -/
theorem condition?_of_mem_fieldViolations {taken : List String} {i : Nat} {fs : List Field}
    {v : Violation} (h : v ∈ fieldViolations taken i fs) : v.condition? = none := by
  induction fs generalizing taken i with
  | nil => cases h
  | cons f fs ih =>
    rw [fieldViolations, List.mem_append, List.mem_append] at h
    rcases h with (h | h) | h
    · exact Field.condition?_of_mem_nameViolations h
    · exact Field.condition?_of_mem_optionViolations h
    · exact ih h

/-- The violations of a form are those of its three passes: over the fields alone, over what links
them, and over the lines of the template. -/
theorem mem_violations_iff {form : Form} {v : Violation} :
    v ∈ form.violations ↔
      v ∈ fieldViolations [] 0 form.fields ∨
        (∃ (i : Nat) (f : Field), form.fields[i]? = some f ∧
          v ∈ f.linkViolations i (form.fields.map (·.name))) ∨
          ∃ (i : Nat) (line : String), form.template.toLines[i]? = some line ∧
            v ∈ form.lineViolations i line := by
  rw [violations_eq, List.mem_append, List.mem_append, List.mem_flatMap, List.mem_flatMap, or_assoc]
  simp only [List.mem_zipIdx_iff_getElem?]
  refine or_congr_right (or_congr ⟨?_, ?_⟩ ⟨?_, ?_⟩)
  · rintro ⟨⟨f, i⟩, hf, hv⟩
    exact ⟨i, f, hf, hv⟩
  · rintro ⟨i, f, hf, hv⟩
    exact ⟨⟨f, i⟩, hf, hv⟩
  · rintro ⟨⟨line, i⟩, hline, hv⟩
    exact ⟨i, line, hline, hv⟩
  · rintro ⟨i, line, hline, hv⟩
    exact ⟨⟨line, i⟩, hline, hv⟩

/-- **What is said about the condition of a field** is what is wrong with it, if the field depends
on anything. -/
theorem mem_violations_of_condition {form : Form} {v : Violation} {i : Nat} :
    v ∈ form.violations ∧ v.condition? = some i ↔
      ∃ f, form.fields[i]? = some f ∧ f.isConditional = true ∧ v ∈ f.conditionViolations i := by
  rw [mem_violations_iff]
  constructor
  · rintro ⟨h | ⟨j, f, hf, hv⟩ | ⟨j, line, -, hv⟩, hi⟩
    · rw [condition?_of_mem_fieldViolations h] at hi
      cases hi
    · rw [Field.linkViolations] at hv
      split at hv
      · next hc =>
        rcases List.mem_append.1 hv with hv | hv
        · obtain ⟨d, -, hv⟩ := List.mem_flatMap.1 hv
          rw [Field.condition?_of_mem_dependencyViolations hv] at hi
          cases hi
        · rw [Field.condition?_of_mem_conditionViolations hv] at hi
          obtain rfl := Option.some.inj hi
          exact ⟨f, hf, hc, hv⟩
      · cases hv
    · obtain ⟨name, -, rfl⟩ := List.mem_map.1 hv
      cases hi
  · rintro ⟨f, hf, hc, hv⟩
    refine ⟨.inr (.inl ⟨i, f, hf, ?_⟩), Field.condition?_of_mem_conditionViolations hv⟩
    rw [Field.linkViolations, if_pos hc]
    exact List.mem_append_right _ hv

/-- A problem with a message is reported at the path of the condition of a field. -/
def ReportsAt (form : Form) (i : Nat) (message : String) : Prop :=
  ∃ p ∈ form.problems, p.path = Violation.fieldPath i "matchExpression" ∧ p.message = message

/-- A message is reported at the condition of a conditional field if and only if the check of this
condition finds it.  Other fields and other parts have other paths. -/
theorem reportsAt_iff {form : Form} {i : Nat} {f : Field} (hf : form.fields[i]? = some f)
    (hc : f.isConditional = true) {message : String} :
    form.ReportsAt i message ↔ ∃ v ∈ f.conditionViolations i, v.problem.message = message := by
  constructor
  · rintro ⟨p, hp, hpath, hmessage⟩
    obtain ⟨v, hv, rfl⟩ := List.mem_map.1 hp
    obtain ⟨g, hg, -, hv⟩ := mem_violations_of_condition.1 ⟨hv, Violation.path_eq_iff.1 hpath⟩
    rw [hf] at hg
    obtain rfl := Option.some.inj hg
    exact ⟨v, hv, hmessage⟩
  · rintro ⟨v, hv, hmessage⟩
    obtain ⟨hmem, hi⟩ := mem_violations_of_condition.2 ⟨f, hf, hc, hv⟩
    exact ⟨v.problem, List.mem_map_of_mem hmem, Violation.path_eq_iff.2 hi, hmessage⟩

end Form

end CommitForm
