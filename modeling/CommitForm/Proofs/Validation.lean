/-
# The check of a form

A form is valid if nothing violates what is asked of it (`Form.isValid_iff`), and every violation
has a site in the form.  The check visits the sites in this order and reports at each what is
violated there, which is at most one thing:

| site | what may be violated there | rank |
| --- | --- | --- |
| the name of field `i` | it is blank, or an earlier field has it | `[0, i, 0]` |
| the options of field `i` | options or the provider are missing | `[0, i, 1]` |
| dependency `k` of field `i` | it is the field itself, or no field | `[1, i, 0, k]` |
| the condition of field `i` | it is missing, or cannot be read | `[1, i, 1]` |
| name `k` in the condition of field `i` | it is no dependency, first read here | `[1, i, 2, k]` |
| placeholder `k` of line `l` | it names no field | `[2, l, k]` |

Each part of the check is a report of the sites that it visits (`Form.Reports`).  Reports put
together in the order of their sites are a report of all these sites (`Form.Reports.append`,
`Form.Reports.indexed`), so the whole check is a report of the form (`Form.reports_violations`).
-/

import Mathlib.Data.List.Nodup
import CommitForm.Proofs.Problems

namespace CommitForm

/-! ## Sites and violations -/

/-- Where something can be wrong in a form: at the name or options of a field, at its dependencies
or its condition, at a name that the condition reads, or at a placeholder. -/
inductive Site where
  | name (field : Nat)
  | options (field : Nat)
  | dependency (field number : Nat)
  | condition (field : Nat)
  | identifier (field number : Nat)
  | placeholder (line number : Nat)

namespace Site

/-- The rank of a site in the order of the check: the round, the field or line, the part of it, and
the number of the entry there. -/
@[simp] def rank : Site → List Nat
  | name i => [0, i, 0]
  | options i => [0, i, 1]
  | dependency i k => [1, i, 0, k]
  | condition i => [1, i, 1]
  | identifier i k => [1, i, 2, k]
  | placeholder l k => [2, l, k]

/-- A site is checked earlier than another.  Ranks are compared from the round on, so all names come
before all conditions. -/
@[simp] def Before (s t : Site) : Prop := s.rank < t.rank

/-- No site is checked earlier than itself. -/
theorem Before.ne {s t : Site} (h : s.Before t) : s ≠ t := by
  rintro rfl
  exact List.lt_irrefl _ h

end Site

namespace Field

/-- What the condition of a field is read as, unless it is missing or blank. -/
def readCondition (f : Field) : Option (Except When.ClauseError When.Clause) :=
  (f.matchExpression.filter (!Text.isAllBlank ·)).map When.Clause.ofSource

/-- There is a condition to read if the expression is given and not blank, and what is read is what
parsing it answers. -/
theorem readCondition_eq_some_iff {f : Field} {r : Except When.ClauseError When.Clause} :
    f.readCondition = some r ↔
      ∃ source, f.matchExpression = some source ∧ Text.isAllBlank source = false ∧
        When.Clause.ofSource source = r := by
  simp [readCondition, Option.map_eq_some_iff, Option.filter_eq_some_iff, and_assoc]

/-- There is no condition to read if the expression is missing or blank. -/
theorem readCondition_eq_none_iff {f : Field} :
    f.readCondition = none ↔ ∀ e, f.matchExpression = some e → Text.isAllBlank e = true := by
  simp [readCondition, Option.map_eq_none_iff, Option.filter_eq_none_iff]

/-- What is wrong with reading the condition of a field: that it is missing, or that it does not
parse.  This is at most one violation. -/
def conditionFault (i : Nat) (f : Field) : List Violation :=
  match f.readCondition with
  | none => [.noExpression i f.name]
  | some (.error e) => [.badExpression i e]
  | some (.ok _) => []

/-- The names that the condition of a field reads, none if it cannot be read. -/
def readNames (f : Field) : List String :=
  match f.readCondition with
  | some (.ok clause) => clause.identifiers
  | _ => []

/-- Where a condition reads a name, it has been parsed, and its names are the identifiers of the
clause. -/
theorem readNames_eq_of_getElem? {f : Field} {k : Nat} {name : String}
    (h : f.readNames[k]? = some name) :
    ∃ clause, f.readCondition = some (.ok clause) ∧ f.readNames = clause.identifiers := by
  rw [readNames] at h ⊢
  split
  · next clause hread => exact ⟨clause, hread, rfl⟩
  · next hread =>
    split at h
    · next clause hclause => exact absurd hclause (hread clause)
    · cases h

/-- The check of a condition reports the fault of reading it, or else the names that are not
declared, each of them once. -/
theorem conditionViolations_eq_append (f : Field) (i : Nat) :
    f.conditionViolations i =
      f.conditionFault i ++ (f.readNames.filter (!f.dependencies.contains ·)).eraseDups.map
        (.undeclaredName i) := by
  rw [conditionViolations, conditionFault, readNames, readCondition]
  cases f.matchExpression.filter (!Text.isAllBlank ·) with
  | none => rfl
  | some source =>
    dsimp only [Option.map_some]
    cases When.Clause.ofSource source <;> rfl

end Field

namespace Form

/-- What is wrong with a form at a site of it.  Each rule names the site, what is asked there, and
the violation if it is not met. -/
inductive Violates (form : Form) : Site → Violation → Prop where
  | blankName {i : Nat} {f : Field} (hf : form.fields[i]? = some f)
      (hname : Text.isAllBlank f.name = true) : Violates form (.name i) (.blankName i)
  | takenName {i j : Nat} {f g : Field} (hf : form.fields[i]? = some f)
      (hname : Text.isAllBlank f.name = false) (hj : j < i) (hg : form.fields[j]? = some g)
      (hsame : g.name = f.name) : Violates form (.name i) (.takenName i f.name)
  | noOptions {i : Nat} {f : Field} (hf : form.fields[i]? = some f) (hkind : f.kind = .enum)
      (hoptions : f.options = []) (hcombobox : f.combobox = false) :
      Violates form (.options i) (.noOptions i)
  | noProvider {i : Nat} {f : Field} (hf : form.fields[i]? = some f) (hkind : f.kind = .dynamicEnum)
      (hprovider : ∀ p, f.provider = some p → Text.isAllBlank p = true) :
      Violates form (.options i) (.noProvider i)
  | ownDependency {i k : Nat} {f : Field} (hf : form.fields[i]? = some f)
      (hd : f.dependencies[k]? = some f.name) :
      Violates form (.dependency i k) (.ownDependency i f.name)
  | unknownDependency {i k : Nat} {f : Field} {d : String} (hf : form.fields[i]? = some f)
      (hd : f.dependencies[k]? = some d) (hunknown : d ∉ form.fields.map (·.name)) :
      Violates form (.dependency i k) (.unknownDependency i d)
  | noExpression {i : Nat} {f : Field} (hf : form.fields[i]? = some f) (hd : f.dependencies ≠ [])
      (hsource : ∀ e, f.matchExpression = some e → Text.isAllBlank e = true) :
      Violates form (.condition i) (.noExpression i f.name)
  | badExpression {i : Nat} {f : Field} {source : String} {e : When.ClauseError}
      (hf : form.fields[i]? = some f) (hd : f.dependencies ≠ [])
      (hsource : f.matchExpression = some source) (hblank : Text.isAllBlank source = false)
      (hclause : When.Clause.ofSource source = .error e) :
      Violates form (.condition i) (.badExpression i e)
  | undeclaredName {i k : Nat} {f : Field} {source : String} {clause : When.Clause} {name : String}
      (hf : form.fields[i]? = some f) (hd : f.dependencies ≠ [])
      (hsource : f.matchExpression = some source) (hblank : Text.isAllBlank source = false)
      (hclause : When.Clause.ofSource source = .ok clause)
      (hname : clause.identifiers[k]? = some name) (hundeclared : name ∉ f.dependencies)
      (hfirst : name ∉ clause.identifiers.take k) :
      Violates form (.identifier i k) (.undeclaredName i name)
  | unknownPlaceholder {l k : Nat} {line name : String} (hl : form.template.toLines[l]? = some line)
      (hname : (Template.placeholderNames line)[k]? = some name)
      (hunknown : name ∉ form.fields.map (·.name)) :
      Violates form (.placeholder l k) (.unknownPlaceholder l name)

/-- What is asked of a form: names that are not blank and not taken, options or a provider where the
kind needs them, dependencies and placeholders that name fields, and conditions that can be read. -/
structure IsValid (form : Form) : Prop where
  named : ∀ f ∈ form.fields, Text.isAllBlank f.name = false
  distinct : (form.fields.map (·.name)).Nodup
  options : ∀ f ∈ form.fields, f.kind = .enum → f.options ≠ [] ∨ f.combobox = true
  provided : ∀ f ∈ form.fields, f.kind = .dynamicEnum →
    ∃ p, f.provider = some p ∧ Text.isAllBlank p = false
  dependencies : ∀ f ∈ form.fields, ∀ d ∈ f.dependencies,
    d ≠ f.name ∧ d ∈ form.fields.map (·.name)
  conditions : ∀ f ∈ form.fields, f.dependencies ≠ [] →
    ∃ source clause, f.matchExpression = some source ∧ Text.isAllBlank source = false ∧
      When.Clause.ofSource source = .ok clause ∧ ∀ name ∈ clause.identifiers, name ∈ f.dependencies
  placeholders : ∀ line ∈ form.template.toLines, ∀ name ∈ Template.placeholderNames line,
    name ∈ form.fields.map (·.name)

/-! ## Reports -/

/-- A list of violations reports what is violated at some sites of a form: each violation there is
listed once, in the order of the sites, and nothing else is. -/
def Reports (form : Form) (here : Site → Prop) (vs : List Violation) : Prop :=
  ∃ found : List (Site × Violation), found.Pairwise (fun a b => a.1.Before b.1) ∧
    (∀ s v, (s, v) ∈ found ↔ here s ∧ form.Violates s v) ∧ vs = found.map Prod.snd

variable {form : Form} {here there : Site → Prop} {vs ws : List Violation}

/-- Sites where nothing can be violated do not matter for a report, so they may be added or left
out. -/
theorem Reports.congr (h : form.Reports here vs)
    (hsites : ∀ s v, form.Violates s v → (here s ↔ there s)) : form.Reports there vs := by
  obtain ⟨found, horder, hfound, hvs⟩ := h
  refine ⟨found, horder, fun s v => (hfound s v).trans ?_, hvs⟩
  exact and_congr_left (hsites s v)

/-- Where nothing is violated, the empty list is the report. -/
theorem Reports.nil (h : ∀ s v, here s → ¬ form.Violates s v) : form.Reports here [] :=
  ⟨[], .nil, fun s v =>
    ⟨fun hmem => absurd hmem List.not_mem_nil, fun hs => absurd hs.2 (h s v hs.1)⟩, rfl⟩

/-- A site where at most one thing is violated is reported by the list that has it, if any. -/
theorem Reports.single {site : Site} (h : ∀ v, v ∈ vs ↔ form.Violates site v)
    (hlength : vs.length ≤ 1) : form.Reports (· = site) vs := by
  refine ⟨vs.map (site, ·), ?_, fun s v => ?_, by simp [Function.comp_def]⟩
  · match vs, hlength with
    | [], _ => exact .nil
    | [v], _ => exact List.pairwise_singleton _ _
  · rw [List.mem_map]
    constructor
    · rintro ⟨v, hv, heq⟩
      obtain ⟨rfl, rfl⟩ := Prod.mk.inj heq
      exact ⟨rfl, (h v).1 hv⟩
    · rintro ⟨rfl, hv⟩
      exact ⟨v, (h v).2 hv, rfl⟩

/-- **Reports of earlier and of later sites** make one report.  With this the report of a form is
put together from those of its parts. -/
theorem Reports.append (h : form.Reports here vs) (h' : form.Reports there ws)
    (horder : ∀ s t, here s → there t → s.Before t) :
    form.Reports (fun s => here s ∨ there s) (vs ++ ws) := by
  obtain ⟨found, hpairs, hfound, rfl⟩ := h
  obtain ⟨found', hpairs', hfound', rfl⟩ := h'
  refine ⟨found ++ found', List.pairwise_append.2 ⟨hpairs, hpairs', ?_⟩, fun s v => ?_,
    List.map_append.symm⟩
  · rintro ⟨s, v⟩ hs ⟨t, w⟩ ht
    exact horder s t ((hfound s v).1 hs).1 ((hfound' t w).1 ht).1
  · rw [List.mem_append, hfound, hfound', or_and_right]

/-- Reports of the entries of a list, whose sites are ordered like the entries, make one report. -/
theorem Reports.entries {α : Type} {xs : List α} {n : Nat} {report : α × Nat → List Violation}
    {sites : Nat → Site → Prop}
    (h : ∀ x ∈ xs.zipIdx n, form.Reports (sites x.2) (report x))
    (horder : ∀ j k s t, j < k → sites j s → sites k t → s.Before t) :
    form.Reports (fun s => ∃ x ∈ xs.zipIdx n, sites x.2 s) ((xs.zipIdx n).flatMap report) := by
  induction xs generalizing n with
  | nil => exact .nil fun s v ⟨x, hx, _⟩ => absurd hx List.not_mem_nil
  | cons x xs ih =>
    rw [List.zipIdx_cons] at h ⊢
    rw [List.flatMap_cons]
    obtain ⟨hhead, htail⟩ := List.forall_mem_cons.1 h
    refine (hhead.append (ih htail) ?_).congr fun s v _ => ?_
    · rintro s t hs ⟨y, hy, ht⟩
      exact horder _ _ s t (List.le_snd_of_mem_zipIdx hy) hs ht
    · simp only [List.mem_cons, exists_eq_or_imp]

/-- **Reports of the entries of a list** are a report of all the sites that an entry could have if
nothing is violated behind the end of the list. -/
theorem Reports.indexed {α : Type} {xs : List α} {report : α × Nat → List Violation}
    {sites : Nat → Site → Prop}
    (h : ∀ x k, xs[k]? = some x → form.Reports (sites k) (report (x, k)))
    (hrange : ∀ k s v, sites k s → form.Violates s v → ∃ x, xs[k]? = some x)
    (horder : ∀ j k s t, j < k → sites j s → sites k t → s.Before t) :
    form.Reports (fun s => ∃ k, sites k s) (xs.zipIdx.flatMap report) := by
  have hentries : ∀ x ∈ xs.zipIdx, form.Reports (sites x.2) (report x) :=
    fun x hx => h x.1 x.2 (List.mem_zipIdx_iff_getElem?.1 hx)
  refine (Reports.entries hentries horder).congr fun s v hv => ?_
  constructor
  · rintro ⟨x, -, hs⟩
    exact ⟨x.2, hs⟩
  · rintro ⟨k, hs⟩
    obtain ⟨x, hx⟩ := hrange k s v hs hv
    exact ⟨(x, k), List.mk_mem_zipIdx_iff_getElem?.2 hx, hs⟩

/-! ## Names and options -/

variable {i k : Nat} {f : Field} {v : Violation}

/-- The names of the fields before a field, which are taken when its own name is checked. -/
def earlierNames (form : Form) (i : Nat) : List String := (form.fields.take i).map (·.name)

/-- A name is taken if and only if a field in front has it. -/
theorem mem_earlierNames {name : String} :
    name ∈ form.earlierNames i ↔ ∃ j g, j < i ∧ form.fields[j]? = some g ∧ g.name = name := by
  constructor
  · intro h
    obtain ⟨g, hg, rfl⟩ := List.mem_map.1 h
    obtain ⟨j, hj⟩ := List.mem_iff_getElem?.1 hg
    rw [List.getElem?_take] at hj
    split at hj
    · next hji => exact ⟨j, g, hji, hj, rfl⟩
    · cases hj
  · rintro ⟨j, g, hj, hg, rfl⟩
    refine List.mem_map_of_mem (List.mem_iff_getElem?.2 ⟨j, ?_⟩)
    rw [List.getElem?_take, if_pos hj, hg]

/-- What can be wrong at the name of a field: it is blank, or else it is taken by a field in
front. -/
theorem violates_name_iff (hf : form.fields[i]? = some f) :
    form.Violates (.name i) v ↔
      (Text.isAllBlank f.name = true ∧ v = .blankName i) ∨
        (Text.isAllBlank f.name = false ∧ f.name ∈ form.earlierNames i ∧
          v = .takenName i f.name) := by
  constructor
  · intro hv
    cases hv with
    | blankName hf' hname =>
      obtain rfl := Option.some.inj (hf.symm.trans hf')
      exact .inl ⟨hname, rfl⟩
    | takenName hf' hname hj hg hsame =>
      obtain rfl := Option.some.inj (hf.symm.trans hf')
      exact .inr ⟨hname, mem_earlierNames.2 ⟨_, _, hj, hg, hsame⟩, rfl⟩
  · rintro (⟨hname, rfl⟩ | ⟨hname, hmem, rfl⟩)
    · exact .blankName hf hname
    · obtain ⟨j, g, hj, hg, hsame⟩ := mem_earlierNames.1 hmem
      exact .takenName hf hname hj hg hsame

/-- The check of a name reports what is wrong at this site, and a blank name is not compared with
others. -/
theorem reports_name (hf : form.fields[i]? = some f) :
    form.Reports (· = .name i) (f.nameViolations i (form.earlierNames i)) := by
  refine .single (fun v => ?_) ?_
  · rw [violates_name_iff hf, Field.nameViolations]
    cases Text.isAllBlank f.name <;> by_cases hmem : f.name ∈ form.earlierNames i <;> simp [hmem]
  · rw [Field.nameViolations]
    split
    · exact Nat.le_refl 1
    · split <;> simp

/-- What can be wrong at the options of a field: there are none where the kind asks for some, or
there is no provider where it asks for one. -/
theorem violates_options_iff (hf : form.fields[i]? = some f) :
    form.Violates (.options i) v ↔
      (f.kind = .enum ∧ (f.options = [] ∧ f.combobox = false) ∧ v = .noOptions i) ∨
        (f.kind = .dynamicEnum ∧ f.provider.all Text.isAllBlank = true ∧ v = .noProvider i) := by
  rw [Option.all_eq_true]
  constructor
  · intro hv
    cases hv with
    | noOptions hf' hkind hoptions hcombobox =>
      obtain rfl := Option.some.inj (hf.symm.trans hf')
      exact .inl ⟨hkind, ⟨hoptions, hcombobox⟩, rfl⟩
    | noProvider hf' hkind hprovider =>
      obtain rfl := Option.some.inj (hf.symm.trans hf')
      exact .inr ⟨hkind, hprovider, rfl⟩
  · rintro (⟨hkind, hmissing, rfl⟩ | ⟨hkind, hprovider, rfl⟩)
    · exact .noOptions hf hkind hmissing.1 hmissing.2
    · exact .noProvider hf hkind hprovider

/-- The check of the options reports what is wrong at this site, for each kind of field. -/
theorem reports_options (hf : form.fields[i]? = some f) :
    form.Reports (· = .options i) (f.optionViolations i) := by
  refine .single (fun v => ?_) ?_
  · rw [violates_options_iff hf, Field.optionViolations]
    cases f.kind with
    | enum => by_cases hmissing : f.options = [] ∧ f.combobox = false <;> simp [hmissing]
    | dynamicEnum => cases f.provider.all Text.isAllBlank <;> simp
    | text | boolean => simp
  · rw [Field.optionViolations]
    split
    · split <;> simp
    · split <;> simp
    · exact Nat.zero_le 1

/-- The first round, which carries the taken names along, is the same as checking each field with
the names of those in front of it. -/
theorem fieldViolations_eq_flatMap (before fs : List Field) :
    fieldViolations (before.map (·.name)) before.length fs =
      (fs.zipIdx before.length).flatMap fun x =>
        x.1.nameViolations x.2 (((before ++ fs).take x.2).map (·.name)) ++
          x.1.optionViolations x.2 := by
  induction fs generalizing before with
  | nil => rfl
  | cons f fs ih =>
    have hrest := ih (before ++ [f])
    rw [List.map_append, List.map_singleton, List.length_append, List.length_singleton,
      List.append_assoc, List.singleton_append] at hrest
    rw [fieldViolations, hrest, List.zipIdx_cons, List.flatMap_cons, List.take_left']
    rfl

/-- **The first round** goes through the names and options of the fields, one field behind
another. -/
theorem reports_fields (form : Form) :
    form.Reports (fun s => ∃ i, s = .name i ∨ s = .options i)
      (fieldViolations [] 0 form.fields) := by
  rw [show fieldViolations [] 0 form.fields = _ from fieldViolations_eq_flatMap [] form.fields]
  refine .indexed (fun f i hf => ?_) ?_ ?_
  · refine (reports_name hf).append (reports_options hf) ?_
    rintro _ _ rfl rfl
    simp [List.cons_lt_cons_iff]
  · rintro i _ v (rfl | rfl) hv
    · cases hv with
      | blankName hf | takenName hf => exact ⟨_, hf⟩
    · cases hv with
      | noOptions hf | noProvider hf => exact ⟨_, hf⟩
  · rintro i j _ _ hij (rfl | rfl) (rfl | rfl) <;>
      simp [List.cons_lt_cons_iff, hij]

/-! ## Dependencies and conditions -/

/-- What can be wrong at a dependency: it is the name of the field itself, or it names no field at
all. -/
theorem violates_dependency_iff {d : String} (hf : form.fields[i]? = some f)
    (hd : f.dependencies[k]? = some d) :
    form.Violates (.dependency i k) v ↔
      (d = f.name ∧ v = .ownDependency i f.name) ∨
        (d ∉ form.fields.map (·.name) ∧ v = .unknownDependency i d) := by
  constructor
  · intro hv
    cases hv with
    | ownDependency hf' hd' =>
      obtain rfl := Option.some.inj (hf.symm.trans hf')
      exact .inl ⟨Option.some.inj (hd.symm.trans hd'), rfl⟩
    | unknownDependency hf' hd' hunknown =>
      obtain rfl := Option.some.inj (hf.symm.trans hf')
      obtain rfl := Option.some.inj (hd.symm.trans hd')
      exact .inr ⟨hunknown, rfl⟩
  · rintro (⟨rfl, rfl⟩ | ⟨hunknown, rfl⟩)
    · exact .ownDependency hf hd
    · exact .unknownDependency hf hd hunknown

/-- The check of a dependency reports what is wrong at this site.  A field that depends on itself is
reported for that alone. -/
theorem reports_dependency {d : String} (hf : form.fields[i]? = some f)
    (hd : f.dependencies[k]? = some d) :
    form.Reports (· = .dependency i k)
      (f.dependencyViolations i (form.fields.map (·.name)) d) := by
  have hown : f.name ∈ form.fields.map (·.name) := List.mem_map_of_mem (List.mem_of_getElem? hf)
  refine .single (fun v => ?_) ?_
  · rw [violates_dependency_iff hf hd, Field.dependencyViolations]
    by_cases hself : d = f.name
    · simp [hself, hown]
    · by_cases hmem : d ∈ form.fields.map (·.name) <;> simp [hself, hmem]
  · rw [Field.dependencyViolations]
    split
    · exact Nat.le_refl 1
    · split <;> simp

/-- What can be wrong at the condition of a field with dependencies: it is missing, or it does not
parse. -/
theorem violates_condition_iff (hf : form.fields[i]? = some f) (hd : f.dependencies ≠ []) :
    form.Violates (.condition i) v ↔
      (f.readCondition = none ∧ v = .noExpression i f.name) ∨
        ∃ e, f.readCondition = some (.error e) ∧ v = .badExpression i e := by
  constructor
  · intro hv
    cases hv with
    | noExpression hf' _ hsource =>
      obtain rfl := Option.some.inj (hf.symm.trans hf')
      exact .inl ⟨Field.readCondition_eq_none_iff.2 hsource, rfl⟩
    | badExpression hf' _ hsource hblank hclause =>
      obtain rfl := Option.some.inj (hf.symm.trans hf')
      exact .inr ⟨_, Field.readCondition_eq_some_iff.2 ⟨_, hsource, hblank, hclause⟩, rfl⟩
  · rintro (⟨hnone, rfl⟩ | ⟨e, hread, rfl⟩)
    · exact .noExpression hf hd (Field.readCondition_eq_none_iff.1 hnone)
    · obtain ⟨source, hsource, hblank, hclause⟩ := Field.readCondition_eq_some_iff.1 hread
      exact .badExpression hf hd hsource hblank hclause

/-- What can be wrong at a name that a condition reads: it is not declared, and it is the first time
that the condition reads it. -/
theorem violates_identifier_iff (hf : form.fields[i]? = some f) (hd : f.dependencies ≠ []) :
    form.Violates (.identifier i k) v ↔
      ∃ name, f.readNames[k]? = some name ∧
        (name ∉ f.dependencies ∧ name ∉ f.readNames.take k) ∧ v = .undeclaredName i name := by
  constructor
  · intro hv
    cases hv with
    | undeclaredName hf' _ hsource hblank hclause hname hundeclared hfirst =>
      obtain rfl := Option.some.inj (hf.symm.trans hf')
      have hread := Field.readCondition_eq_some_iff.2 ⟨_, hsource, hblank, hclause⟩
      rw [Field.readNames, hread]
      exact ⟨_, hname, ⟨hundeclared, hfirst⟩, rfl⟩
  · rintro ⟨name, hname, ⟨hundeclared, hfirst⟩, rfl⟩
    obtain ⟨clause, hread, hnames⟩ := Field.readNames_eq_of_getElem? hname
    obtain ⟨source, hsource, hblank, hclause⟩ := Field.readCondition_eq_some_iff.1 hread
    rw [hnames] at hname hfirst
    exact .undeclaredName hf hd hsource hblank hclause hname hundeclared hfirst

/-- A list made from each entry may be made from the entries with their indices. -/
theorem flatMap_eq_flatMap_zipIdx {α β : Type} (xs : List α) (g : α → List β) :
    xs.flatMap g = xs.zipIdx.flatMap fun x => g x.1 := by
  calc xs.flatMap g = (xs.zipIdx.map Prod.fst).flatMap g := by rw [List.zipIdx_map_fst]
    _ = _ := List.flatMap_map ..

/-- The entries that pass a test, each where it stands first.  `seen` are the entries that have been
gone through. -/
theorem eraseDups_filter_eq_flatMap (p : String → Bool) (seen names : List String) :
    (names.filter fun n => p n && !seen.contains n).eraseDups =
      (names.zipIdx seen.length).flatMap fun x =>
        if p x.1 && !((seen ++ names).take x.2).contains x.1 then [x.1] else [] := by
  induction names generalizing seen with
  | nil => rfl
  | cons n names ih =>
    have hrest := ih (seen ++ [n])
    rw [List.length_append, List.length_singleton, List.append_assoc,
      List.singleton_append] at hrest
    rw [List.zipIdx_cons, List.flatMap_cons, List.take_left', ← hrest]
    · by_cases hnew : (p n && !seen.contains n) = true
      · rw [List.filter_cons, if_pos hnew, List.eraseDups_cons, if_pos hnew, List.singleton_append,
          List.filter_filter]
        congr 2
        -- What is dropped as a repetition of `n` is what the rest drops for `n` being seen.
        refine List.filter_congr fun m _ => ?_
        by_cases hm : m = n <;> simp [hm]
      · rw [List.filter_cons, if_neg hnew, if_neg hnew, List.nil_append]
        congr 1
        -- `n` does not pass, seen or not, so seeing it changes nothing.
        refine List.filter_congr fun m _ => ?_
        by_cases hm : m = n
        · simp_all
        · simp [hm]
    · rfl

/-- The fault of reading a condition is the report of the site of the condition. -/
theorem reports_conditionFault (hf : form.fields[i]? = some f) (hd : f.dependencies ≠ []) :
    form.Reports (· = .condition i) (f.conditionFault i) := by
  refine .single (fun v => ?_) ?_
  · rw [violates_condition_iff hf hd, Field.conditionFault]
    split
    · next hread => simp [hread]
    · next hread => simp [hread]
    · next hread => simp [hread]
  · rw [Field.conditionFault]
    split <;> simp

/-- The names that are not declared are reported where the condition reads them first, in the order
in which it reads them. -/
theorem reports_identifiers (hf : form.fields[i]? = some f) (hd : f.dependencies ≠ []) :
    form.Reports (fun s => ∃ k, s = .identifier i k)
      ((f.readNames.filter (!f.dependencies.contains ·)).eraseDups.map (.undeclaredName i)) := by
  have hnames := eraseDups_filter_eq_flatMap (!f.dependencies.contains ·) [] f.readNames
  simp only [List.contains_nil, Bool.not_false, Bool.and_true, List.nil_append,
    List.length_nil] at hnames
  rw [hnames, List.map_flatMap]
  refine .indexed (fun name k hname => .single (fun v => ?_) ?_) ?_ ?_
  · rw [violates_identifier_iff hf hd, hname]
    by_cases hnew : name ∉ f.dependencies ∧ name ∉ f.readNames.take k <;> simp [hnew]
  · split <;> simp
  · rintro k _ v rfl hv
    obtain ⟨name, hname, -⟩ := (violates_identifier_iff hf hd).1 hv
    exact ⟨name, hname⟩
  · rintro j k _ _ hjk rfl rfl
    simp [List.cons_lt_cons_iff, hjk]

/-- The dependencies of a field are reported in the order in which they are declared. -/
theorem reports_dependencies (hf : form.fields[i]? = some f) :
    form.Reports (fun s => ∃ k, s = .dependency i k)
      (f.dependencies.flatMap (f.dependencyViolations i (form.fields.map (·.name)))) := by
  rw [flatMap_eq_flatMap_zipIdx]
  refine .indexed (fun d k hd => reports_dependency hf hd) ?_ ?_
  · rintro k _ v rfl hv
    cases hv with
    | ownDependency hf' hd | unknownDependency hf' hd =>
      obtain rfl := Option.some.inj (hf.symm.trans hf')
      exact ⟨_, hd⟩
  · rintro j k _ _ hjk rfl rfl
    simp [List.cons_lt_cons_iff, hjk]

/-- The sites that the second round visits for a field: its dependencies, its condition, and the
names that the condition reads. -/
def IsLink (i : Nat) (s : Site) : Prop :=
  (∃ k, s = .dependency i k) ∨ s = .condition i ∨ ∃ k, s = .identifier i k

/-- What links a field to others can be wrong only where the field has dependencies.  Otherwise the
check leaves before it looks at the condition. -/
theorem Violates.of_isLink {s : Site} (h : form.Violates s v) (hs : IsLink i s) :
    ∃ f, form.fields[i]? = some f ∧ f.isConditional = true := by
  have hmem {g : Field} {j : Nat} {d : String} (hd : g.dependencies[j]? = some d) :
      g.dependencies ≠ [] := List.ne_nil_of_mem (List.mem_of_getElem? hd)
  simp only [Field.isConditional, Bool.not_eq_true', List.isEmpty_eq_false_iff]
  obtain ⟨k, rfl⟩ | rfl | ⟨k, rfl⟩ := hs
  · cases h with
    | ownDependency hf hd | unknownDependency hf hd => exact ⟨_, hf, hmem hd⟩
  · cases h with
    | noExpression hf hd | badExpression hf hd => exact ⟨_, hf, hd⟩
  · cases h with
    | undeclaredName hf hd => exact ⟨_, hf, hd⟩

/-- The second round reports, for a field, first its dependencies, then its condition, and then the
names read there. -/
theorem reports_links (hf : form.fields[i]? = some f) :
    form.Reports (IsLink i) (f.linkViolations i (form.fields.map (·.name))) := by
  rw [Field.linkViolations]
  split
  · next hc =>
    have hd : f.dependencies ≠ [] := by simpa [Field.isConditional] using hc
    rw [Field.conditionViolations_eq_append]
    refine (reports_dependencies hf).append
      ((reports_conditionFault hf hd).append (reports_identifiers hf hd) ?_) ?_
    · rintro _ _ rfl ⟨k, rfl⟩
      simp [List.cons_lt_cons_iff]
    · rintro _ _ ⟨j, rfl⟩ (rfl | ⟨k, rfl⟩) <;>
        simp [List.cons_lt_cons_iff]
  · next hc =>
    refine .nil fun s v hs hv => ?_
    obtain ⟨g, hg, hconditional⟩ := hv.of_isLink hs
    obtain rfl := Option.some.inj (hf.symm.trans hg)
    exact hc hconditional

/-! ## Placeholders -/

/-- Looking for a field by a name finds none if and only if no field has the name. -/
theorem isNone_field?_iff {name : String} :
    (form.field? name).isNone = true ↔ name ∉ form.fields.map (·.name) := by
  simp [field?]

/-- What can be wrong at a placeholder: it names no field. -/
theorem violates_placeholder_iff {l : Nat} {line name : String}
    (hl : form.template.toLines[l]? = some line)
    (hname : (Template.placeholderNames line)[k]? = some name) :
    form.Violates (.placeholder l k) v ↔
      (form.field? name).isNone = true ∧ v = .unknownPlaceholder l name := by
  rw [isNone_field?_iff]
  constructor
  · intro hv
    cases hv with
    | unknownPlaceholder hl' hname' hunknown =>
      obtain rfl := Option.some.inj (hl.symm.trans hl')
      obtain rfl := Option.some.inj (hname.symm.trans hname')
      exact ⟨hunknown, rfl⟩
  · rintro ⟨hunknown, rfl⟩
    exact .unknownPlaceholder hl hname hunknown

/-- To select entries and to make something of each is to make a list of at most one from every
entry. -/
theorem map_filter_eq_flatMap {α β : Type} (p : α → Bool) (g : α → β) (xs : List α) :
    (xs.filter p).map g = xs.flatMap fun x => if p x then [g x] else [] := by
  induction xs with
  | nil => rfl
  | cons x xs ih =>
    rw [List.filter_cons, List.flatMap_cons, ← ih]
    split <;> rfl

/-- The placeholders of a line are reported in the order in which they stand there, each one as
often as it stands there. -/
theorem reports_line {l : Nat} {line : String} (hl : form.template.toLines[l]? = some line) :
    form.Reports (fun s => ∃ k, s = .placeholder l k) (form.lineViolations l line) := by
  rw [lineViolations, map_filter_eq_flatMap, flatMap_eq_flatMap_zipIdx]
  refine .indexed (fun name k hname => .single (fun v => ?_) ?_) ?_ ?_
  · rw [violates_placeholder_iff hl hname]
    cases (form.field? name).isNone <;> simp
  · split <;> simp
  · rintro k _ v rfl hv
    cases hv with
    | unknownPlaceholder hl' hname =>
      obtain rfl := Option.some.inj (hl.symm.trans hl')
      exact ⟨_, hname⟩
  · rintro j k _ _ hjk rfl rfl
    simp [List.cons_lt_cons_iff, hjk]

/-! ## The whole check -/

/-- The second round goes through what links the fields, one field behind another. -/
theorem reports_allLinks (form : Form) :
    form.Reports (fun s => ∃ i, IsLink i s)
      (form.fields.zipIdx.flatMap fun x =>
        x.1.linkViolations x.2 (form.fields.map (·.name))) := by
  refine .indexed (fun f i hf => reports_links hf) ?_ ?_
  · intro i s v hs hv
    obtain ⟨f, hf, -⟩ := hv.of_isLink hs
    exact ⟨f, hf⟩
  · rintro i j _ _ hij (⟨a, rfl⟩ | rfl | ⟨a, rfl⟩) (⟨b, rfl⟩ | rfl | ⟨b, rfl⟩) <;>
      simp [List.cons_lt_cons_iff, hij]

/-- The last round goes through the lines of the template, one behind another. -/
theorem reports_template (form : Form) :
    form.Reports (fun s => ∃ l k, s = .placeholder l k)
      (form.template.toLines.zipIdx.flatMap fun x => form.lineViolations x.2 x.1) := by
  refine .indexed (fun line l hl => reports_line hl) ?_ ?_
  · rintro l _ v ⟨k, rfl⟩ hv
    cases hv with
    | unknownPlaceholder hl => exact ⟨_, hl⟩
  · rintro l l' _ _ hll ⟨j, rfl⟩ ⟨k, rfl⟩
    simp [List.cons_lt_cons_iff, hll]

/-- **The check reports every violation once**, in the order of the sites, and nothing else. -/
theorem reports_violations (form : Form) : form.Reports (fun _ => True) form.violations := by
  rw [violations_eq]
  refine (((reports_fields form).append (reports_allLinks form) ?_).append
    (reports_template form) ?_).congr fun s v _ => ?_
  · rintro _ _ ⟨i, rfl | rfl⟩ ⟨j, ⟨k, rfl⟩ | rfl | ⟨k, rfl⟩⟩ <;>
      simp [List.cons_lt_cons_iff]
  · rintro _ _ (⟨i, rfl | rfl⟩ | ⟨i, ⟨j, rfl⟩ | rfl | ⟨j, rfl⟩⟩) ⟨l, k, rfl⟩ <;>
      simp [List.cons_lt_cons_iff]
  · cases s <;> simp [IsLink]

/-- At a site at most one thing is wrong, so a site is reported at most once. -/
theorem Violates.unique {s : Site} {v w : Violation} (hv : form.Violates s v)
    (hw : form.Violates s w) : v = w := by
  obtain ⟨found, horder, hfound, -⟩ := reports_violations form
  have hnodup : (found.map Prod.fst).Nodup := List.pairwise_map.2 (horder.imp Site.Before.ne)
  exact congrArg Prod.snd (List.inj_on_of_nodup_map hnodup ((hfound s v).2 ⟨trivial, hv⟩)
    ((hfound s w).2 ⟨trivial, hw⟩) rfl)

/-- The check finds nothing if and only if nothing is wrong at any site, as its list is the report
of all sites. -/
theorem violations_eq_nil_iff : form.violations = [] ↔ ∀ s v, ¬ form.Violates s v := by
  obtain ⟨found, -, hfound, hviolations⟩ := reports_violations form
  rw [hviolations, List.map_eq_nil_iff, List.eq_nil_iff_forall_not_mem, Prod.forall]
  simp only [hfound, true_and]

/-- The first occurrence of an entry: a name that is read is read for the first time somewhere. -/
theorem exists_first {names : List String} {name : String} (h : name ∈ names) :
    ∃ k, names[k]? = some name ∧ name ∉ names.take k := by
  obtain ⟨before, after, rfl, hfirst⟩ := List.eq_append_cons_of_mem h
  exact ⟨before.length, by simp, by simpa using hfirst⟩

/-- Nothing is violated at any site of a valid form.  Each rule contradicts what is asked of the
form at the site. -/
theorem IsValid.not_violates (h : form.IsValid) (s : Site) (v : Violation) :
    ¬ form.Violates s v := by
  intro hv
  cases hv with
  | blankName hf hname =>
    rw [h.named _ (List.mem_of_getElem? hf)] at hname
    cases hname
  | takenName hf _ hj hg hsame =>
    have hi := (List.getElem?_eq_some_iff.1 hf).1
    refine List.nodup_iff_getElem?_ne_getElem?.1 h.distinct _ _ hj (by simpa using hi) ?_
    rw [List.getElem?_map, List.getElem?_map, hf, hg, Option.map_some, Option.map_some, hsame]
  | noOptions hf hkind hoptions hcombobox =>
    rcases h.options _ (List.mem_of_getElem? hf) hkind with hsome | htrue
    · exact hsome hoptions
    · rw [hcombobox] at htrue
      cases htrue
  | noProvider hf hkind hprovider =>
    obtain ⟨p, hp, hblank⟩ := h.provided _ (List.mem_of_getElem? hf) hkind
    rw [hprovider p hp] at hblank
    cases hblank
  | ownDependency hf hd =>
    exact (h.dependencies _ (List.mem_of_getElem? hf) _ (List.mem_of_getElem? hd)).1 rfl
  | unknownDependency hf hd hunknown =>
    exact hunknown (h.dependencies _ (List.mem_of_getElem? hf) _ (List.mem_of_getElem? hd)).2
  | noExpression hf hd hsource =>
    obtain ⟨source, -, hexpression, hblank, -⟩ := h.conditions _ (List.mem_of_getElem? hf) hd
    rw [hsource source hexpression] at hblank
    cases hblank
  | badExpression hf hd hsource _ hclause =>
    obtain ⟨_, _, hsource', -, hclause', -⟩ := h.conditions _ (List.mem_of_getElem? hf) hd
    obtain rfl := Option.some.inj (hsource.symm.trans hsource')
    rw [hclause] at hclause'
    cases hclause'
  | undeclaredName hf hd hsource _ hclause hname hundeclared =>
    obtain ⟨_, _, hsource', -, hclause', hnames⟩ := h.conditions _ (List.mem_of_getElem? hf) hd
    obtain rfl := Option.some.inj (hsource.symm.trans hsource')
    obtain rfl := Except.ok.inj (hclause.symm.trans hclause')
    exact hundeclared (hnames _ (List.mem_of_getElem? hname))
  | unknownPlaceholder hl hname hunknown =>
    exact hunknown (h.placeholders _ (List.mem_of_getElem? hl) _ (List.mem_of_getElem? hname))

section

variable (h : ∀ s v, ¬ form.Violates s v)
include h

/-- Where nothing is violated, no name is blank. -/
theorem named_of_not_violates (hf : f ∈ form.fields) : Text.isAllBlank f.name = false := by
  obtain ⟨i, hi⟩ := List.getElem?_of_mem hf
  exact Bool.eq_false_iff.2 fun hblank => h _ _ (.blankName hi hblank)

/-- Where nothing is violated, no two fields share a name: the later one would be reported, as it is
not blank. -/
theorem distinct_of_not_violates : (form.fields.map (·.name)).Nodup := by
  rw [List.nodup_iff_getElem?_ne_getElem?]
  intro j i hj hi heq
  rw [List.length_map] at hi
  have hf := List.getElem?_eq_getElem hi
  rw [List.getElem?_map, List.getElem?_map, hf] at heq
  obtain ⟨g, hg, hsame⟩ := Option.map_eq_some_iff.1 heq
  exact h _ _ (.takenName hf (named_of_not_violates h (List.getElem_mem hi)) hj hg hsame)

/-- Where nothing is violated, a field with dependencies has a condition that parses and reads
declared names only. -/
theorem condition_of_not_violates (hf : f ∈ form.fields) (hd : f.dependencies ≠ []) :
    ∃ source clause, f.matchExpression = some source ∧ Text.isAllBlank source = false ∧
      When.Clause.ofSource source = .ok clause ∧
      ∀ name ∈ clause.identifiers, name ∈ f.dependencies := by
  obtain ⟨i, hi⟩ := List.getElem?_of_mem hf
  cases hread : f.readCondition with
  | none => exact absurd (.noExpression hi hd (Field.readCondition_eq_none_iff.1 hread)) (h _ _)
  | some r =>
    obtain ⟨source, hsource, hblank, rfl⟩ := Field.readCondition_eq_some_iff.1 hread
    cases hclause : When.Clause.ofSource source with
    | error e => exact absurd (.badExpression hi hd hsource hblank hclause) (h _ _)
    | ok clause =>
      refine ⟨source, clause, hsource, hblank, hclause, fun name hname => ?_⟩
      obtain ⟨k, hk, hfirst⟩ := exists_first hname
      by_contra hundeclared
      exact h _ _ (.undeclaredName hi hd hsource hblank hclause hk hundeclared hfirst)

/-- Where nothing is violated, all that is asked of a form is met.  It is put together from one
lemma for each part. -/
theorem isValid_of_not_violates : form.IsValid where
  named _ hf := named_of_not_violates h hf
  distinct := distinct_of_not_violates h
  options f hf hkind := by
    obtain ⟨i, hi⟩ := List.getElem?_of_mem hf
    by_contra hmissing
    rw [not_or, not_not, Bool.not_eq_true] at hmissing
    exact h _ _ (.noOptions hi hkind hmissing.1 hmissing.2)
  provided f hf hkind := by
    obtain ⟨i, hi⟩ := List.getElem?_of_mem hf
    by_contra hmissing
    exact h _ _ (.noProvider hi hkind (by simpa using hmissing))
  dependencies f hf d hd := by
    obtain ⟨i, hi⟩ := List.getElem?_of_mem hf
    obtain ⟨k, hk⟩ := List.getElem?_of_mem hd
    constructor
    · rintro rfl
      exact h _ _ (.ownDependency hi hk)
    · by_contra hunknown
      exact h _ _ (.unknownDependency hi hk hunknown)
  conditions _ hf hd := condition_of_not_violates h hf hd
  placeholders line hline name hname := by
    obtain ⟨l, hl⟩ := List.getElem?_of_mem hline
    obtain ⟨k, hk⟩ := List.getElem?_of_mem hname
    by_contra hunknown
    exact h _ _ (.unknownPlaceholder hl hk hunknown)

end

/-- **A form is valid if nothing is violated at any site of it,** and only then.  The sites say one
by one what validity asks at once. -/
theorem isValid_iff : form.IsValid ↔ ∀ s v, ¬ form.Violates s v :=
  ⟨IsValid.not_violates, isValid_of_not_violates⟩

/-- **The check of a form is sound and complete, and reports each violation once.**  No problem is
reported of exactly the forms that are valid.  The problems of a form are those of the violations
found along its sites: all that is violated at any site is found, and nothing else, and no site is
found twice because each is checked before the next. -/
theorem problems_listed_once (form : Form) :
    (form.problems = [] ↔ form.IsValid) ∧
      ∃ found : List (Site × Violation), found.Pairwise (fun a b => a.1.Before b.1) ∧
        (∀ s v, (s, v) ∈ found ↔ form.Violates s v) ∧
        form.problems = found.map fun x => x.2.problem := by
  constructor
  · rw [problems, List.map_eq_nil_iff, violations_eq_nil_iff, isValid_iff]
  · obtain ⟨found, horder, hfound, hviolations⟩ := reports_violations form
    refine ⟨found, horder, fun s v => (hfound s v).trans (by rw [true_and]), ?_⟩
    rw [problems, hviolations, List.map_map]
    rfl

end Form
end CommitForm
