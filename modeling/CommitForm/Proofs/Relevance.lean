/-
# What a message depends on

A field is used (`Composer.Uses`) when a placeholder of the template has its name and no later field
has.  A message depends on two kinds of values:

| value | of |
| --- | --- |
| that decides whether a used field is shown | a name that its condition reads (`Field.Reads`) |
| that is put in | a used field that is shown |

Values that agree in these show the same used fields and give the same message
(`compose_eq_of_agree`), however a condition is faulty or leaves operands out.  So what has been
entered in a field that is hidden stays out of the message, unless the condition of a used field
reads it.
-/

import CommitForm.Proofs.Names
import CommitForm.Proofs.Substitution

namespace CommitForm
namespace Field

variable {f : Field} {v w : Values}

/-- The condition of a field reads a name that the field depends on: its expression parses, and the
name is among the tokens of it. -/
structure Reads (f : Field) (name : String) : Prop where
  declared : name ∈ f.dependencies
  token : ∃ source tokens e, f.matchExpression = some source ∧ When.tokenize source = .ok tokens ∧
    When.parseTokens tokens = .ok e ∧ .identifier name ∈ tokens

/-- A condition is evaluated where exactly the names that the field depends on are bound. -/
theorem get?_dependencyValues (f : Field) (values : Values) (name : String) :
    (f.dependencyValues values).get? name =
      if name ∈ f.dependencies then some ((values.get? name).getD .blank) else none :=
  NameMap.get?_ofList_map f.dependencies (fun n => (values.get? n).getD .blank) name

/-- **Whether a field is shown** depends on the names that its condition reads only. -/
theorem gate_congr (h : ∀ name, f.Reads name → v.get? name = w.get? name) :
    f.gate v = f.gate w := by
  rw [gate, gate]
  cases hsource : f.matchExpression with
  | none => rfl
  | some source =>
    have hholds : When.holds source (f.dependencyValues v) =
        When.holds source (f.dependencyValues w) := by
      refine When.holds_congr fun c hc name hname => ?_
      obtain ⟨tokens, htokens, hparse, -⟩ := When.Clause.ofSource_eq_ok_iff.1 hc
      have hmem := When.identifier_mem_of_parseTokens hparse hname
      rw [get?_dependencyValues, get?_dependencyValues]
      split
      · next hdeclared =>
        rw [h name ⟨hdeclared, source, tokens, c.expr, hsource, htokens, hparse, hmem⟩]
      · rfl
    dsimp only
    rw [hholds]

/-- What a field contributes depends on its gate and, where the gate is open, on the value of its
own name. -/
theorem contribution_congr (hgate : f.gate v = f.gate w)
    (hown : f.gate v = true → v.get? f.name = w.get? f.name) :
    f.contribution v = f.contribution w := by
  rw [contribution, contribution, ← hgate]
  cases hshown : f.gate v with
  | false => rfl
  | true => rw [rawText, rawText, hown hshown]

/-- There is one last field of a name, so what holds of the last field of a name holds of every
field that is one. -/
theorem IsLast.unique {fields : List Field} {g : Field} (hf : f.IsLast fields)
    (hg : g.IsLast fields) (h : g.name = f.name) : g = f := by
  have hfind := find?_reverse_eq_some_iff.2 ⟨rfl, hf⟩
  rw [find?_reverse_eq_some_iff.2 ⟨h, hg⟩] at hfind
  exact Option.some.inj hfind

end Field

namespace Composer

variable {c : Composer} {v w : Values}

/-- A field fills placeholders of the template: it is the last one of its name, and the name stands
in a placeholder. -/
structure Uses (c : Composer) (f : Field) : Prop where
  last : f.IsLast c.fields
  named : f.name ∈ Template.placeholderNames c.template

/-- Values that agree in what the conditions of used fields read show the same of them. -/
theorem gate_eq_of_agree (hreads : ∀ f, c.Uses f → ∀ name, f.Reads name → v.get? name = w.get? name)
    {f : Field} (hf : c.Uses f) : f.gate v = f.gate w := Field.gate_congr (hreads f hf)

/-- Two bindings that agree on what is read for a placeholder contribute the same to it.  A
placeholder that names no field is filled by neither. -/
theorem contribution?_eq_of_agree
    (hreads : ∀ f, c.Uses f → ∀ name, f.Reads name → v.get? name = w.get? name)
    (hown : ∀ f, c.Uses f → f.gate v = true → v.get? f.name = w.get? f.name) {name : String}
    (hname : name ∈ Template.placeholderNames c.template) :
    Template.contribution? c.fields v name = Template.contribution? c.fields w name := by
  rw [Template.contribution?, Template.contribution?]
  cases hfind : c.fields.reverse.find? (·.name = name) with
  | none => rfl
  | some f =>
    obtain ⟨rfl, hlast⟩ := Field.find?_reverse_eq_some_iff.1 hfind
    have hf : c.Uses f := ⟨hlast, hname⟩
    exact congrArg some (Field.contribution_congr (gate_eq_of_agree hreads hf) (hown f hf))

/-- Values that differ in the value of a hidden field only, whose name no condition of a used field
reads, agree in all that counts. -/
theorem agree_of_hidden {f : Field} (hf : c.Uses f) (hhidden : f.gate v = false)
    (hunread : ∀ g, c.Uses g → ¬ g.Reads f.name)
    (hothers : ∀ name, name ≠ f.name → v.get? name = w.get? name) :
    (∀ g, c.Uses g → ∀ name, g.Reads name → v.get? name = w.get? name) ∧
      ∀ g, c.Uses g → g.gate v = true → v.get? g.name = w.get? g.name := by
  refine ⟨fun g hg name hreads => hothers name ?_, fun g hg hshown => hothers g.name fun h => ?_⟩
  · rintro rfl
    exact hunread g hg hreads
  · rw [hf.last.unique hg.last h, hhidden] at hshown
    cases hshown

/-- **A message depends only on values that are visibly relevant.**  Values that agree in what the
conditions of used fields read, and in the values of the used fields that are shown, show the same
used fields and give the same message.  So the value of a hidden field that no condition of a used
field reads may be anything. -/
theorem compose_eq_of_agree (c : Composer) (v w : Values) :
    ((∀ f, c.Uses f → ∀ name, f.Reads name → v.get? name = w.get? name) →
      (∀ f, c.Uses f → f.gate v = true → v.get? f.name = w.get? f.name) →
        (∀ reduce, (c.withReduce reduce).compose v = (c.withReduce reduce).compose w) ∧
          ∀ f, c.Uses f → (f.gate v = true ↔ f.gate w = true)) ∧
      ∀ f, c.Uses f → f.gate v = false → (∀ g, c.Uses g → ¬ g.Reads f.name) →
        (∀ name, name ≠ f.name → v.get? name = w.get? name) →
          ∀ reduce, (c.withReduce reduce).compose v = (c.withReduce reduce).compose w := by
  have hcompose (hreads : ∀ f, c.Uses f → ∀ name, f.Reads name → v.get? name = w.get? name)
      (hown : ∀ f, c.Uses f → f.gate v = true → v.get? f.name = w.get? f.name)
      (reduce : Option Bool) : (c.withReduce reduce).compose v = (c.withReduce reduce).compose w :=
    compose_congr (c.withReduce reduce) fun _ hname => contribution?_eq_of_agree hreads hown hname
  refine ⟨fun hreads hown => ⟨hcompose hreads hown, fun f hf => ?_⟩,
    fun f hf hhidden hunread hothers => ?_⟩
  · rw [gate_eq_of_agree hreads hf]
  · obtain ⟨hreads, hown⟩ := agree_of_hidden hf hhidden hunread hothers
    exact hcompose hreads hown

/-- A field that is shown for bugs only: it depends on the kind of a change and has a condition on
it. -/
def causeField : Field := (Field.ofKind "cause" .text).dependingOn (.one "kind") "kind == 'bug'"

/-- A template with a field that is shown for bugs only, where bindings can differ behind a closed
gate without a difference in the text. -/
def bugReport : Composer :=
  .ofLines ["\x7bkind\x7d: \x7bcause\x7d"] [.ofKind "kind" .text, causeField]

/-- The values of the report of a feature, where something is still entered as the cause. -/
def featureValues (cause : String) : Values :=
  .ofList [("kind", .single "feature"), ("cause", .single cause)]

/-- In the report of a feature a field is hidden, and what is entered there may be anything. -/
theorem compose_bugReport_of_feature :
    bugReport.Uses causeField ∧ causeField.gate (featureValues "typo") = false ∧
      (∀ g, bugReport.Uses g → ¬ g.Reads "cause") ∧
      (featureValues "typo").get? "cause" ≠ (featureValues "\x7bkind\x7d").get? "cause" ∧
      (∀ reduce, (bugReport.withReduce reduce).compose (featureValues "typo") =
        (bugReport.withReduce reduce).compose (featureValues "\x7bkind\x7d")) ∧
      ∀ f, bugReport.Uses f →
        (f.gate (featureValues "typo") = true ↔
          f.gate (featureValues "\x7bkind\x7d") = true) := by
  have hmem (f : Field) (hf : bugReport.Uses f) : f = .ofKind "kind" .text ∨ f = causeField := by
    obtain ⟨before, after, hfields, -⟩ := hf.last
    have hf' : f ∈ bugReport.fields := hfields ▸ List.mem_append_right _ List.mem_cons_self
    exact List.mem_pair.1 hf'
  have hcause : bugReport.Uses causeField :=
    ⟨⟨[.ofKind "kind" .text], [], rfl, by simp⟩, by decide +kernel⟩
  have hhidden : causeField.gate (featureValues "typo") = false := by decide +kernel
  have hunread : ∀ g, bugReport.Uses g → ¬ g.Reads "cause" := by
    intro g hg hreads
    have hdeclared := hreads.declared
    rcases hmem g hg with rfl | rfl
    · exact absurd hdeclared List.not_mem_nil
    · exact absurd (List.mem_singleton.1 hdeclared) (by decide)
  have hothers : ∀ name, name ≠ causeField.name →
      (featureValues "typo").get? name = (featureValues "\x7bkind\x7d").get? name := by
    intro name hname
    have hname' : "cause" ≠ name := Ne.symm hname
    simp [featureValues, NameMap.get?_ofList, hname']
  obtain ⟨hreads, hown⟩ := agree_of_hidden hcause hhidden hunread hothers
  exact ⟨hcause, hhidden, hunread, by decide +kernel,
    (compose_eq_of_agree bugReport _ _).2 causeField hcause hhidden hunread hothers,
    ((compose_eq_of_agree bugReport _ _).1 hreads hown).2⟩

end Composer
end CommitForm
