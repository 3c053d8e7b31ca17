/-
# Conditions that have been checked

What the check of a form says about the condition of a field, and what the condition then does.

| field | its condition is reported | it is shown |
| --- | --- | --- |
| depends on nothing | never | always |
| depends on names, its condition is missing or cannot be read | as missing or invalid | never |
| depends on names, its condition can be read | for each undeclared name | if the condition holds |

The second line is decided without a look at the values: `Field.gateWith` is the gate with any other
evaluation in the place of the real one, and there the evaluation makes no difference
(`Field.forall_decided_iff`).  Problems are told apart by their paths, so what is said at the path
of a condition is about this condition (`Violation.path_eq_iff`).  A field without dependencies is
passed over: its expression may be anything (`violations_dropIdleExpressions`).
-/

import CommitForm.Proofs.Lexer
import CommitForm.Proofs.Problems
import CommitForm.Proofs.Relevance

namespace CommitForm
namespace When

/-- A text without characters that are not blank is no clause, since the reader finds the end where
an operand should stand. -/
theorem Clause.ofSource_of_isAllBlank {source : String} (h : Text.isAllBlank source = true) :
    ∃ e, Clause.ofSource source = .error e := by
  have hblank : ∀ d ∈ source.toList, Text.isBlank d = true := List.all_eq_true.1 h
  have htokens : tokenize source = .ok [.eof] := Cursor.tokens_of_eof (Cursor.next_blank [] hblank)
  exact ⟨_, Clause.ofSource_eq_error htokens rfl⟩

/-- A clause has a character that is not blank, so a condition that can be read is never taken for a
missing one. -/
theorem Clause.isAllBlank_eq_false {source : String} {c : Clause}
    (h : Clause.ofSource source = .ok c) : Text.isAllBlank source = false := by
  rw [Bool.eq_false_iff]
  intro hblank
  obtain ⟨e, he⟩ := Clause.ofSource_of_isAllBlank hblank
  rw [he] at h
  cases h

/-- A clause that can be read fails only in its evaluation; the errors of reading are excluded once
it has been read. -/
theorem eval_of_tryHolds_eq_error {source : String} {c : Clause} {names : Values} {e : ClauseError}
    (hc : Clause.ofSource source = .ok c) (h : tryHolds source names = .error e) :
    ∃ fault, e = .eval fault := by
  rw [tryHolds, hc] at h
  dsimp only at h
  cases hv : c.expr.holds names with
  | ok b =>
    rw [hv] at h
    cases h
  | error fault =>
    rw [hv] at h
    exact ⟨fault, (Except.error.inj h).symm⟩

end When

/-! ## Gates and evaluations -/

namespace Field

/-- The condition of a field as far as it can be read: none if there is no expression or if the
expression is no clause. -/
def clause? (f : Field) : Option When.Clause :=
  f.matchExpression.bind fun source => (When.Clause.ofSource source).toOption

/-- A field has a condition if it has an expression and that is read as the clause. -/
theorem clause?_eq_some_iff {f : Field} {c : When.Clause} :
    f.clause? = some c ↔
      ∃ source, f.matchExpression = some source ∧ When.Clause.ofSource source = .ok c := by
  rw [clause?, Option.bind_eq_some_iff]
  refine exists_congr fun source => and_congr_right fun _ => ?_
  cases When.Clause.ofSource source <;> simp [Except.toOption]

/-- The condition is missing, empty or blank, or it cannot be cut into tokens or parsed. -/
def LacksClause (f : Field) : Prop :=
  f.matchExpression = none ∨ ∃ source, f.matchExpression = some source ∧
    (source = "" ∨ Text.isAllBlank source = true ∨ (∃ e, When.tokenize source = .error e) ∨
      ∃ tokens e, When.tokenize source = .ok tokens ∧ When.parseTokens tokens = .error e)

/-- A field has no condition just if it lacks a clause, either way: no expression, or one that
cannot be read. -/
theorem clause?_eq_none_iff {f : Field} : f.clause? = none ↔ f.LacksClause := by
  rw [LacksClause, clause?, Option.bind_eq_none_iff]
  cases f.matchExpression with
  | none => simp
  | some source =>
    have hblank : source = "" → Text.isAllBlank source = true := by
      rintro rfl
      rfl
    have hfault : (When.Clause.ofSource source).toOption = none ↔
        (∃ e, When.tokenize source = .error e) ∨
          ∃ tokens e, When.tokenize source = .ok tokens ∧ When.parseTokens tokens = .error e := by
      rw [When.Clause.ofSource]
      cases When.tokenize source with
      | error e => simp [Except.toOption]
      | ok tokens =>
        cases hparse : When.parseTokens tokens <;> simp [hparse, Except.toOption]
    simp only [Option.some.injEq, forall_eq', exists_eq_left', reduceCtorEq, false_or, ← hfault]
    refine ⟨fun h => .inr (.inr h), ?_⟩
    rintro (h | h | h)
    · obtain ⟨e, he⟩ := When.Clause.ofSource_of_isAllBlank (hblank h)
      rw [he]
      rfl
    · obtain ⟨e, he⟩ := When.Clause.ofSource_of_isAllBlank h
      rw [he]
      rfl
    · exact h

/-- Whether a field is shown if expressions are evaluated by `verdict`, with everything else as the
gate has it. -/
def gateWith (verdict : When.Expr → Values → Except When.EvalFault Bool) (f : Field)
    (values : Values) : Bool :=
  if f.isConditional then
    match f.matchExpression with
    | some source =>
      source ≠ "" &&
        match When.Clause.ofSource source with
        | .ok c =>
          match verdict c.expr (f.dependencyValues values) with
          | .ok b => b
          | .error _ => false
        | .error _ => false
    | none => false
  else true

/-- With `Expr.holds` as the verdict this is the gate of the field, so what is shown for every
verdict holds for the gate. -/
theorem gateWith_holds (f : Field) (values : Values) :
    f.gateWith (fun e names => e.holds names) values = f.gate values := by
  rw [gateWith, gate]
  split
  · cases f.matchExpression with
    | none => rfl
    | some source =>
      dsimp only
      rw [When.holds, When.tryHolds]
      cases When.Clause.ofSource source with
      | error e => rfl
      | ok c => cases hv : c.expr.holds (f.dependencyValues values) <;> simp [hv, Except.mapError]
  · rfl

/-- Whether a field is shown is decided without an evaluation: any other would decide the same. -/
def Decided (f : Field) (values : Values) : Prop :=
  ∀ verdict, f.gateWith verdict values = f.gate values

variable {f : Field}

/-- A condition that can be read is decided by its evaluation alone, so any verdict can be brought
about. -/
theorem gateWith_of_clause (hc : f.isConditional = true) {c : When.Clause}
    (h : f.clause? = some c) (b : Bool) (values : Values) :
    f.gateWith (fun _ _ => .ok b) values = b := by
  obtain ⟨source, hsource, hclause⟩ := clause?_eq_some_iff.1 h
  have hne : source ≠ "" := by
    rintro rfl
    cases When.Clause.isAllBlank_eq_false hclause
  rw [gateWith, if_pos hc, hsource]
  simp [hclause, hne]

/-- A condition that cannot be read hides its field, however expressions are evaluated. -/
theorem gateWith_of_lacks (hc : f.isConditional = true) (h : f.clause? = none)
    (verdict : When.Expr → Values → Except When.EvalFault Bool) (values : Values) :
    f.gateWith verdict values = false := by
  rw [gateWith, if_pos hc]
  cases hsource : f.matchExpression with
  | none => rfl
  | some source =>
    rw [clause?, hsource] at h
    cases hclause : When.Clause.ofSource source with
    | error e => simp [hclause]
    | ok c =>
      rw [Option.bind_some, hclause] at h
      cases h

/-- A field whose condition cannot be read is never shown, whatever the values are. -/
theorem gate_of_lacks (hc : f.isConditional = true) (h : f.clause? = none) (values : Values) :
    f.gate values = false := by
  rw [← gateWith_holds, gateWith_of_lacks hc h]

/-- **A gate is decided without an evaluation** where the condition cannot be read, and only
there. -/
theorem forall_decided_iff (hc : f.isConditional = true) :
    (∀ values, f.Decided values) ↔ f.clause? = none := by
  constructor
  · intro h
    cases hclause : f.clause? with
    | none => rfl
    | some c =>
      have htrue := h .empty fun _ _ => .ok true
      have hfalse := h .empty fun _ _ => .ok false
      rw [gateWith_of_clause hc hclause] at htrue hfalse
      rw [← hfalse] at htrue
      cases htrue
  · intro h values verdict
    rw [gateWith_of_lacks hc h, gate_of_lacks hc h]

end Field

/-! ## What is reported of a condition -/

namespace Field

/-- A condition that cannot be read is reported as missing or invalid, and nothing else is. -/
theorem conditionViolations_of_lacks {f : Field} (h : f.clause? = none) (i : Nat) :
    f.conditionViolations i = [.noExpression i f.name] ∨
      ∃ e, f.conditionViolations i = [.badExpression i e] := by
  rw [conditionViolations]
  cases hsource : f.matchExpression.filter (!Text.isAllBlank ·) with
  | none => exact .inl rfl
  | some source =>
    obtain ⟨hexpression, -⟩ := Option.filter_eq_some_iff.1 hsource
    rw [clause?, hexpression, Option.bind_some] at h
    cases hclause : When.Clause.ofSource source with
    | error e => exact .inr ⟨e, by simp [hclause]⟩
    | ok c =>
      rw [hclause] at h
      cases h

/-- Of a condition that can be read, undeclared names are reported and nothing else is. -/
theorem conditionViolations_of_clause {f : Field} {c : When.Clause} (h : f.clause? = some c)
    (i : Nat) :
    f.conditionViolations i =
      (c.identifiers.filter (!f.dependencies.contains ·)).eraseDups.map (.undeclaredName i) := by
  obtain ⟨source, hsource, hclause⟩ := clause?_eq_some_iff.1 h
  have hfilter : f.matchExpression.filter (!Text.isAllBlank ·) = some source := by
    rw [hsource]
    simp [When.Clause.isAllBlank_eq_false hclause]
  rw [conditionViolations, hfilter]
  dsimp only
  rw [hclause]

/-- A name that a condition asks for and the field does not depend on is among the violations of the
field. -/
theorem undeclaredName_mem_conditionViolations {f : Field} {c : When.Clause}
    (h : f.clause? = some c) {name : String} (hname : name ∈ c.identifiers)
    (hundeclared : name ∉ f.dependencies) (i : Nat) :
    .undeclaredName i name ∈ f.conditionViolations i := by
  rw [conditionViolations_of_clause h, List.mem_map]
  refine ⟨name, ?_, rfl⟩
  rw [List.mem_eraseDups, List.mem_filter]
  simp [hname, hundeclared]

end Field

namespace Form

/-- The condition of a field is reported as missing or as invalid, the two messages that say it
cannot be read. -/
def ReportsNoClause (form : Form) (i : Nat) (f : Field) : Prop :=
  form.ReportsAt i ("token '" ++ f.name ++
    "' declares dependencies but no match expression, so it is never shown") ∨
      ∃ reason, form.ReportsAt i ("invalid match expression: " ++ reason)

/-- The condition of a field is reported to read a name that the field does not depend on. -/
def ReportsUndeclared (form : Form) (i : Nat) : Prop :=
  ∃ name, form.ReportsAt i
    ("match expression reads '" ++ name ++ "', which is not a declared dependency")

/-- A conditional field has its condition reported just if it cannot be read; no other violation has
a message of that form. -/
theorem reportsNoClause_iff {form : Form} {i : Nat} {f : Field} (hf : form.fields[i]? = some f)
    (hc : f.isConditional = true) : form.ReportsNoClause i f ↔ f.clause? = none := by
  rw [ReportsNoClause]
  simp only [reportsAt_iff hf hc]
  constructor
  · intro h
    cases hclause : f.clause? with
    | none => rfl
    | some c =>
      -- The messages about undeclared names begin with another letter.
      have hnames : ∀ v ∈ f.conditionViolations i, v.problem.message.toList.head? = some 'm' := by
        intro v hv
        rw [Field.conditionViolations_of_clause hclause] at hv
        obtain ⟨name, -, rfl⟩ := List.mem_map.1 hv
        rw [Violation.message_undeclaredName]
        simp
      rcases h with ⟨v, hv, hmessage⟩ | ⟨reason, v, hv, hmessage⟩
      · have hhead := hnames v hv
        rw [hmessage] at hhead
        simp at hhead
      · have hhead := hnames v hv
        rw [hmessage] at hhead
        simp at hhead
  · intro h
    rcases Field.conditionViolations_of_lacks h i with hv | ⟨e, hv⟩
    · refine .inl ⟨.noExpression i f.name, ?_, Violation.message_noExpression i f.name⟩
      rw [hv]
      exact List.mem_singleton_self _
    · refine .inr ⟨e.message, .badExpression i e, ?_, Violation.message_badExpression i e⟩
      rw [hv]
      exact List.mem_singleton_self _

/-- Where no name is reported as undeclared, the condition asks only for names that the field
depends on. -/
theorem declared_of_not_reportsUndeclared {form : Form} {i : Nat} {f : Field}
    (hf : form.fields[i]? = some f) (hc : f.isConditional = true) {c : When.Clause}
    (hclause : f.clause? = some c) (h : ¬ form.ReportsUndeclared i) {name : String}
    (hname : name ∈ c.identifiers) : name ∈ f.dependencies := by
  by_contra hundeclared
  refine h ⟨name, (reportsAt_iff hf hc).2 ⟨_, ?_, Violation.message_undeclaredName i name⟩⟩
  exact Field.undeclaredName_mem_conditionViolations hclause hname hundeclared i

/-- **What is reported of a condition is right about the gate.**  A condition is reported as missing
or invalid if and only if no values make the gate look at it, and then the field is never shown.
Any other condition fails in its evaluation only, and if no undeclared name is reported, each name
that it reads is bound. -/
theorem reportsNoClause_iff_decided (form : Form) {i : Nat} {f : Field}
    (hf : form.fields[i]? = some f) (hc : f.isConditional = true) :
    (form.ReportsNoClause i f ↔ ∀ values, f.Decided values) ∧
      ((∀ values, f.Decided values) ↔ f.LacksClause) ∧
      (form.ReportsNoClause i f → ∀ values, f.gate values = false) ∧
      (¬ form.ReportsNoClause i f → ∃ source c, f.matchExpression = some source ∧
        When.Clause.ofSource source = .ok c ∧
        (∀ values e, When.tryHolds source (f.dependencyValues values) = .error e →
          ∃ fault, e = .eval fault) ∧
        (¬ form.ReportsUndeclared i →
          ∀ name, .identifier name ∈ c.expr :: c.expr.descendants → ∀ values, ∃ value,
            (f.dependencyValues values).get? name = some value ∧
              (When.Expr.identifier name).value (f.dependencyValues values) =
                .ok (.ofFieldValue value) ∧
              When.Value.ofFieldValue value ≠ .undefined)) := by
  have hreports := reportsNoClause_iff hf hc
  have hdecided := Field.forall_decided_iff hc
  refine ⟨hreports.trans hdecided.symm, hdecided.trans Field.clause?_eq_none_iff,
    fun h => Field.gate_of_lacks hc (hreports.1 h), fun h => ?_⟩
  rw [hreports, ← ne_eq, Option.ne_none_iff_exists'] at h
  obtain ⟨c, hclause⟩ := h
  obtain ⟨source, hsource, hread⟩ := Field.clause?_eq_some_iff.1 hclause
  refine ⟨source, c, hsource, hread, fun values e => When.eval_of_tryHolds_eq_error hread,
    fun hdeclared name hname values => ?_⟩
  have hdep : name ∈ f.dependencies := declared_of_not_reportsUndeclared hf hc hclause hdeclared
    (When.Expr.mem_identifiers hname)
  have hbound : (f.dependencyValues values).get? name = some ((values.get? name).getD .blank) := by
    rw [Field.get?_dependencyValues, if_pos hdep]
  refine ⟨_, hbound, ?_, ?_⟩
  · rw [When.Expr.value, hbound]
    rfl
  · cases (values.get? name).getD .blank <;> simp [When.Value.ofFieldValue]

/-- A field whose condition breaks off behind its operator and so cannot be read. -/
def scopeField : Field := (Field.ofKind "scope" .text).dependingOn (.one "kind") "kind =="

/-- A form with a condition that can be read and one that cannot, to see both cases at work. -/
def twoConditions : Form :=
  ⟨.lines [], [.ofKind "kind" .text, Composer.causeField, scopeField], true⟩

/-- Both cases occur in one form: one condition is read and evaluated, the other is reported and
decides its gate by itself. -/
theorem reportsNoClause_twoConditions :
    (twoConditions.fields[1]? = some Composer.causeField ∧
        Composer.causeField.isConditional = true ∧
        ¬ twoConditions.ReportsNoClause 1 Composer.causeField ∧
        ¬ twoConditions.ReportsUndeclared 1 ∧
        ∀ values, ∃ value,
          (Composer.causeField.dependencyValues values).get? "kind" = some value) ∧
      twoConditions.fields[2]? = some scopeField ∧ scopeField.isConditional = true ∧
        twoConditions.ReportsNoClause 2 scopeField ∧ ∀ values, scopeField.gate values = false := by
  have hcause : twoConditions.fields[1]? = some Composer.causeField := rfl
  have hscope : twoConditions.fields[2]? = some scopeField := rfl
  have hconditional : Composer.causeField.isConditional = true := by decide
  have hconditional' : scopeField.isConditional = true := by decide
  have hread : When.Clause.ofSource "kind == 'bug'" =
      .ok ⟨"kind == 'bug'", .binary .eq (.identifier "kind") (.string "bug")⟩ := by
    have htokens : When.tokenize "kind == 'bug'" =
      .ok [.identifier "kind", .operator .eq, .string "bug", .eof] := by decide +kernel
    exact When.Clause.ofSource_eq_ok_iff.2 ⟨_, htokens, rfl, rfl⟩
  have hbroken : ∃ e, When.Clause.ofSource "kind ==" = .error e := by
    have htokens : When.tokenize "kind ==" = .ok [.identifier "kind", .operator .eq, .eof] := by
      decide +kernel
    exact ⟨_, When.Clause.ofSource_eq_error htokens rfl⟩
  have hclause : Composer.causeField.clause? =
      some ⟨"kind == 'bug'", .binary .eq (.identifier "kind") (.string "bug")⟩ :=
    Field.clause?_eq_some_iff.2 ⟨_, rfl, hread⟩
  have hlacks : scopeField.clause? = none := by
    obtain ⟨e, he⟩ := hbroken
    have hbind : scopeField.clause? = (When.Clause.ofSource "kind ==").toOption := rfl
    rw [hbind, he]
    rfl
  have hreported := (reportsNoClause_iff_decided twoConditions hscope hconditional').1.2
    ((Field.forall_decided_iff hconditional').2 hlacks)
  have hunreported : ¬ twoConditions.ReportsNoClause 1 Composer.causeField := by
    rw [reportsNoClause_iff hcause hconditional, hclause]
    simp
  have hdeclared : ¬ twoConditions.ReportsUndeclared 1 := by
    rintro ⟨name, h⟩
    obtain ⟨v, hv, -⟩ := (reportsAt_iff hcause hconditional).1 h
    rw [Field.conditionViolations_of_clause hclause] at hv
    cases hv
  obtain ⟨source, c, hsource, hofSource, -, hbound⟩ :=
    (reportsNoClause_iff_decided twoConditions hcause hconditional).2.2.2 hunreported
  obtain rfl : "kind == 'bug'" = source := Option.some.inj hsource
  rw [hread] at hofSource
  obtain rfl := Except.ok.inj hofSource
  refine ⟨⟨hcause, hconditional, hunreported, hdeclared, fun values => ?_⟩, hscope, hconditional',
    hreported, (reportsNoClause_iff_decided twoConditions hscope hconditional').2.2.1 hreported⟩
  obtain ⟨value, hvalue, -⟩ := hbound hdeclared "kind" (by simp [When.Expr.descendants]) values
  exact ⟨value, hvalue⟩

/-! ## Expressions that are passed over -/

end Form

namespace Field

/-- The field without its expression, if it depends on nothing and the expression is therefore
idle. -/
def dropIdleExpression (f : Field) : Field :=
  if f.isConditional then f else { f with matchExpression := none }

variable (f : Field)

/-- Without its idle expression a field has the same name, so nothing that refers to it changes. -/
theorem dropIdleExpression_name : f.dropIdleExpression.name = f.name := by
  rw [dropIdleExpression]
  split <;> rfl

/-- The violations of a field's name do not depend on its expression, idle or not. -/
theorem nameViolations_dropIdleExpression (i : Nat) (taken : List String) :
    f.dropIdleExpression.nameViolations i taken = f.nameViolations i taken := by
  rw [dropIdleExpression]
  split <;> rfl

/-- The violations of a field's options do not depend on its expression, idle or not. -/
theorem optionViolations_dropIdleExpression (i : Nat) :
    f.dropIdleExpression.optionViolations i = f.optionViolations i := by
  rw [dropIdleExpression]
  split <;> rfl

/-- The violations of what a field depends on, its condition included, do not see an idle
expression. -/
theorem linkViolations_dropIdleExpression (i : Nat) (names : List String) :
    f.dropIdleExpression.linkViolations i names = f.linkViolations i names := by
  rw [dropIdleExpression]
  split
  · rfl
  · next hc =>
    have hidle : ({ f with matchExpression := none } : Field).isConditional = f.isConditional := rfl
    rw [linkViolations, linkViolations, hidle, if_neg hc, if_neg hc]

end Field

namespace Form

/-- The form without the expressions of fields that depend on nothing; the template and all else is
kept. -/
def dropIdleExpressions (form : Form) : Form :=
  { form with fields := form.fields.map Field.dropIdleExpression }

/-- The violations of all fields do not see idle expressions, by induction on the fields with the
names taken before them. -/
theorem fieldViolations_dropIdleExpressions (taken : List String) (i : Nat) (fs : List Field) :
    fieldViolations taken i (fs.map Field.dropIdleExpression) = fieldViolations taken i fs := by
  induction fs generalizing taken i with
  | nil => rfl
  | cons f fs ih =>
    rw [List.map_cons, fieldViolations, fieldViolations, ih,
      Field.nameViolations_dropIdleExpression, Field.optionViolations_dropIdleExpression,
      Field.dropIdleExpression_name]

/-- A form without idle expressions has the same names in the same order, which the placeholders are
compared with. -/
theorem map_name_dropIdleExpressions (form : Form) :
    form.dropIdleExpressions.fields.map (·.name) = form.fields.map (·.name) := by
  rw [dropIdleExpressions, List.map_map]
  exact List.map_congr_left fun f _ => f.dropIdleExpression_name

/-- The violations of a template line do not see idle expressions, since only the names of fields
count for them. -/
theorem lineViolations_dropIdleExpressions (form : Form) (i : Nat) (line : String) :
    form.dropIdleExpressions.lineViolations i line = form.lineViolations i line := by
  have hfield (name : String) :
      (form.dropIdleExpressions.field? name).isNone = (form.field? name).isNone := by
    have hname : ((fun f : Field => decide (f.name = name)) ∘ Field.dropIdleExpression) =
        fun f => decide (f.name = name) := by
      funext f
      rw [Function.comp_apply, f.dropIdleExpression_name]
    rw [field?, field?, dropIdleExpressions, List.find?_map, hname, Option.isNone_map]
  rw [lineViolations, lineViolations]
  simp only [hfield]

/-- The expression of a field that depends on nothing is passed over: without it the violations are
the same, one by one. -/
theorem violations_dropIdleExpressions (form : Form) :
    form.dropIdleExpressions.violations = form.violations := by
  rw [violations_eq, violations_eq, map_name_dropIdleExpressions]
  simp only [lineViolations_dropIdleExpressions]
  rw [dropIdleExpressions]
  dsimp only
  rw [fieldViolations_dropIdleExpressions, List.zipIdx_map, List.flatMap_map]
  simp only [Prod.map_fst, Prod.map_snd, Field.linkViolations_dropIdleExpression, id_eq]

/-- The condition of a field has been found right: it is there, it can be read, and it asks only for
what the field depends on. -/
theorem clause_of_conditionViolations_eq_nil {i : Nat} {f : Field}
    (h : f.conditionViolations i = []) :
    ∃ source c, f.matchExpression = some source ∧ Text.isAllBlank source = false ∧
      When.Clause.ofSource source = .ok c ∧ ∀ name ∈ c.identifiers, name ∈ f.dependencies := by
  cases hclause : f.clause? with
  | none =>
    rcases Field.conditionViolations_of_lacks hclause i with hv | ⟨e, hv⟩
    · rw [h] at hv
      cases hv
    · rw [h] at hv
      cases hv
  | some c =>
    obtain ⟨source, hsource, hread⟩ := Field.clause?_eq_some_iff.1 hclause
    refine ⟨source, c, hsource, When.Clause.isAllBlank_eq_false hread, hread, fun name hname => ?_⟩
    by_contra hundeclared
    have hmem := Field.undeclaredName_mem_conditionViolations hclause hname hundeclared i
    rw [h] at hmem
    cases hmem

/-- **In a form without violations** the condition of every field that depends on a name is there,
can be read, and reads only names that the field depends on.  The expression of any other field is
passed over, whatever it is. -/
theorem conditions_checked (form : Form) :
    (form.violations = [] → ∀ f ∈ form.fields, f.isConditional = true →
      ∃ source c, f.matchExpression = some source ∧ Text.isAllBlank source = false ∧
        When.Clause.ofSource source = .ok c ∧ ∀ name ∈ c.identifiers, name ∈ f.dependencies) ∧
      form.dropIdleExpressions.violations = form.violations := by
  refine ⟨fun hvalid f hf hc => ?_, form.violations_dropIdleExpressions⟩
  obtain ⟨i, hi⟩ := List.getElem?_of_mem hf
  have hnone : f.conditionViolations i = [] := by
    refine List.eq_nil_iff_forall_not_mem.2 fun v hv => ?_
    have hmem := (mem_violations_of_condition.2 ⟨f, hi, hc, hv⟩).1
    rw [hvalid] at hmem
    cases hmem
  exact clause_of_conditionViolations_eq_nil hnone

/-- A form whose fields depend on nothing but have expressions, one of which breaks off. -/
def idleExpressions : Form where
  template := .lines []
  fields := [{ Field.ofKind "a" .text with matchExpression := some "a ==" },
    { Field.ofKind "b" .text with matchExpression := some "a" }]
  reduceEmptyLines := true

/-- A form without violations may hold an expression that cannot be read and one that asks for an
undeclared name, both idle. -/
theorem idleExpressions_unchecked :
    idleExpressions.violations = [] ∧
      (∃ f ∈ idleExpressions.fields, f.matchExpression = some "a ==" ∧
        Text.isAllBlank "a ==" = false ∧ ∃ e, When.Clause.ofSource "a ==" = .error e) ∧
      ∃ f ∈ idleExpressions.fields, f.matchExpression = some "a" ∧
        ∃ c, When.Clause.ofSource "a" = .ok c ∧ "a" ∈ c.identifiers ∧ "a" ∉ f.dependencies := by
  have hproblems : idleExpressions.problems = [] := by decide +kernel
  have hread : When.Clause.ofSource "a" = .ok ⟨"a", .identifier "a"⟩ := by
    have htokens : When.tokenize "a" = .ok [.identifier "a", .eof] := by decide +kernel
    exact When.Clause.ofSource_eq_ok_iff.2 ⟨_, htokens, rfl, rfl⟩
  have hbroken : ∃ e, When.Clause.ofSource "a ==" = .error e := by
    have htokens : When.tokenize "a ==" = .ok [.identifier "a", .operator .eq, .eof] := by
      decide +kernel
    exact ⟨_, When.Clause.ofSource_eq_error htokens rfl⟩
  refine ⟨List.map_eq_nil_iff.1 hproblems, ⟨_, List.mem_cons_self, rfl, by decide, hbroken⟩, _,
    List.mem_cons_of_mem _ List.mem_cons_self, rfl, _, hread, List.mem_singleton_self _, ?_⟩
  exact List.not_mem_nil

/-- The form up to its first condition has no violations, and the condition there is found right. -/
theorem conditions_checked_twoConditions :
    { twoConditions with fields := twoConditions.fields.take 2 }.violations = [] ∧
      ∃ source c, Composer.causeField.matchExpression = some source ∧
        Text.isAllBlank source = false ∧ When.Clause.ofSource source = .ok c ∧
        ∀ name ∈ c.identifiers, name ∈ Composer.causeField.dependencies := by
  have hproblems : { twoConditions with fields := twoConditions.fields.take 2 }.problems = [] := by
    decide +kernel
  have hvalid := List.map_eq_nil_iff.1 hproblems
  exact ⟨hvalid, (conditions_checked _).1 hvalid Composer.causeField
    (List.mem_cons_of_mem _ List.mem_cons_self) (by decide)⟩

end Form

end CommitForm
