/-
# Values that are missing

A name without a value counts as one with the empty text, wherever values are read.

| read by | a name without a value |
| --- | --- |
| the condition of a field that depends on the name | is bound to the empty text |
| the field of the name | has the empty text, which contributes nothing |
| a condition of any other field | is not bound, whatever its value is |

So values are read only up to `Values.ReadAlike`, where blank and missing values are the same, and
nobody notices a blank value in the place of a missing one (`Form.insert_blank_unnoticed`).
-/

import CommitForm.Proofs.Substitution

namespace CommitForm

/-- Values that are the same if a name without a value counts as blank. -/
def Values.ReadAlike (v w : Values) : Prop :=
  ∀ name, (v.get? name).getD .blank = (w.get? name).getD .blank

/-- Values with a blank text for a name that had none are read like those without it. -/
theorem Values.readAlike_insert_blank {values : Values} {name : String}
    (h : values.get? name = none) : ReadAlike (values.insert name (.single "")) values := by
  intro n
  rw [NameMap.get?_insert]
  split
  · next hn =>
    rw [← hn, h]
    rfl
  · rfl

variable {v w : Values}

namespace Field

/-- A condition finds the same values, since what a field depends on is blank where it is
missing. -/
theorem dependencyValues_of_readAlike (f : Field) (h : v.ReadAlike w) :
    f.dependencyValues v = f.dependencyValues w := by
  have hbound : ∀ name ∈ f.dependencies,
      (name, (v.get? name).getD .blank) = (name, (w.get? name).getD .blank) :=
    fun name _ => congrArg (Prod.mk name) (h name)
  rw [dependencyValues, dependencyValues, List.map_congr_left hbound]

/-- A field is shown for both values or for neither. -/
theorem gate_of_readAlike (f : Field) (h : v.ReadAlike w) : f.gate v = f.gate w := by
  rw [gate, gate, f.dependencyValues_of_readAlike h]

/-- A field without a value has the text of a blank one, whatever its separator. -/
theorem rawText_eq_raw (f : Field) (values : Values) :
    f.rawText values = ((values.get? f.name).getD .blank).raw (f.separator.getD "") := by
  rw [rawText]
  cases values.get? f.name <;> rfl

/-- A field contributes the same text for both values. -/
theorem contribution_of_readAlike (f : Field) (h : v.ReadAlike w) :
    f.contribution v = f.contribution w := by
  have hraw : f.rawText v = f.rawText w := by rw [rawText_eq_raw, rawText_eq_raw, h]
  rw [contribution, contribution, f.gate_of_readAlike h, hraw]

end Field

/-- The same fields are shown for both values, in the same order. -/
theorem visibleFields_of_readAlike (fields : List Field) (h : v.ReadAlike w) :
    visibleFields fields v = visibleFields fields w :=
  List.filter_congr fun f _ => f.gate_of_readAlike h

/-- Values that are read alike give the same text, whatever the template is and whether empty lines
are reduced. -/
theorem Composer.compose_of_readAlike (c : Composer) (h : v.ReadAlike w) :
    c.compose v = c.compose w := by
  have hfields : (fun f : Field => f.contribution v) = fun f => f.contribution w :=
    funext fun f => f.contribution_of_readAlike h
  refine compose_congr c fun name _ => ?_
  rw [Template.contribution?, Template.contribution?, hfields]

namespace Form

/-- **A missing value and an empty one are indistinguishable.**  To bind a name without a value to
the empty text changes neither which fields are shown nor what they contribute, and so no text of a
form.  The field of the name, and the fields that depend on it, make no exception.  Any other text
is noticed. -/
theorem insert_blank_unnoticed (form : Form) {values : Values} {name : String}
    (h : values.get? name = none) :
    (∀ f : Field, f.gate (values.insert name (.single "")) = f.gate values ∧
        f.contribution (values.insert name (.single "")) = f.contribution values) ∧
      visibleFields form.fields (values.insert name (.single "")) =
        visibleFields form.fields values ∧
      (∀ reduce, ((Composer.ofForm form).withReduce reduce).compose
          (values.insert name (.single "")) =
        ((Composer.ofForm form).withReduce reduce).compose values) ∧
      ∀ text, text ≠ "" →
        ∃ f : Field,
          f.contribution (values.insert name (.single text)) ≠ f.contribution values := by
  have halike := Values.readAlike_insert_blank h
  refine ⟨fun f => ⟨f.gate_of_readAlike halike, f.contribution_of_readAlike halike⟩,
    visibleFields_of_readAlike form.fields halike,
    fun reduce => Composer.compose_of_readAlike _ halike, fun text htext => ?_⟩
  have hempty : (Field.ofKind name .text).contribution values = "" := by
    simp [Field.contribution, Field.rawText, Field.ofKind, h]
  refine ⟨.ofKind name .text, ?_⟩
  rw [hempty]
  simpa [Field.contribution, Field.rawText, Field.ofKind, Field.gate, Field.isConditional,
    Field.dependencies, NameMap.get?_insert, FieldValue.raw] using htext

/-- A form with a scope that nobody need enter: a note takes its place. -/
def optionalScope : Form where
  template := .lines ["\x7bscope\x7d\x7bnote\x7d"]
  fields := [{ Field.ofKind "scope" .text with separator := some ", " },
    { (Field.ofKind "note" .text).dependingOn (.many ["scope", "kind"]) "scope == ''" with
      before := some "no scope: " }]
  reduceEmptyLines := true

/-- The scope is a field of its own and the note depends on it. -/
theorem insert_blank_unnoticed_optionalScope :
    let values : Values := .ofList [("note", .single "all")]
    values.get? "scope" = none ∧
      (Composer.ofForm optionalScope).compose values = "no scope: all" ∧
      (visibleFields optionalScope.fields values).map (·.name) = ["scope", "note"] ∧
      visibleFields optionalScope.fields (values.insert "scope" (.single "")) =
        visibleFields optionalScope.fields values ∧
      ∀ reduce, ((Composer.ofForm optionalScope).withReduce reduce).compose
          (values.insert "scope" (.single "")) =
        ((Composer.ofForm optionalScope).withReduce reduce).compose values := by
  intro values
  have hmissing : values.get? "scope" = none := by decide +kernel
  have hblank := insert_blank_unnoticed optionalScope hmissing
  exact ⟨hmissing, by decide +kernel, by decide +kernel, hblank.2.1, hblank.2.2.1⟩

end Form

end CommitForm
