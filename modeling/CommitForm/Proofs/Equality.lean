/-
# Equality of values

| equality is | for |
| --- | --- |
| symmetric and transitive | all values |
| reflexive | the values without a `NaN` at any depth |

A number that has been read from digits is no `NaN`, names are bound to texts, and no operator
answers with a number.  So no part of a clause has a value with a `NaN`, though `NaN`s occur in
comparisons, and every part that has a value is equal to itself (`Value.strictEq_equivalence`).

As equality is symmetric, being a member of an array literal is being equal to one of its elements
(`Expr.holds_isIn_array`), although the two ask in opposite directions.
-/

import CommitForm.Proofs.Numerals
import CommitForm.Proofs.Operands
import CommitForm.Proofs.Rules

namespace CommitForm

namespace Binary64

/-- Equal numbers have the same place in the order, and `NaN` has none, so it is equal to
nothing. -/
theorem equals_eq_true_iff {a b : Binary64} :
    a.equals b = true ↔ ∃ i, a.rank? = some i ∧ b.rank? = some i := by
  rw [equals, compare?, beq_iff_eq]
  cases a.rank? with
  | none => simp
  | some i =>
    cases b.rank? with
    | none => simp
    | some j =>
      rw [Option.some_inj, Int.compare_eq_eq]
      exact ⟨fun h => ⟨i, rfl, congrArg some h.symm⟩,
        fun ⟨k, hi, hj⟩ => Option.some.inj (hi.trans hj.symm)⟩

/-- Only `NaN` has no place in the order of numbers; both zeros have one, and the same. -/
theorem rank?_eq_none_iff {a : Binary64} : a.rank? = none ↔ a = nan := by
  cases a with
  | nan => exact iff_of_true rfl rfl
  | infinite negative => exact iff_of_false nofun nofun
  | finite negative a => exact iff_of_false nofun nofun

/-- Equality of numbers does not depend on which of them stands on the left, `NaN` included. -/
theorem equals_comm (a b : Binary64) : a.equals b = b.equals a := by
  rw [Bool.eq_iff_iff, equals_eq_true_iff, equals_eq_true_iff]
  simp only [and_comm]

/-- Numbers that are equal to one number are equal to each other, since they share their place in
the order. -/
theorem equals_trans {a b c : Binary64} (h : a.equals b = true) (h' : b.equals c = true) :
    a.equals c = true := by
  obtain ⟨i, ha, hb⟩ := equals_eq_true_iff.1 h
  obtain ⟨j, hb', hc⟩ := equals_eq_true_iff.1 h'
  obtain rfl : i = j := Option.some.inj (hb.symm.trans hb')
  exact equals_eq_true_iff.2 ⟨i, ha, hc⟩

/-- A number is equal to itself unless it is `NaN`. -/
theorem equals_self_iff {a : Binary64} : a.equals a = true ↔ a ≠ nan := by
  rw [equals_eq_true_iff, ne_eq, ← rank?_eq_none_iff, ← ne_eq, Option.ne_none_iff_exists']
  simp only [and_self]

end Binary64

namespace When
namespace Value

/-! ## Symmetry and transitivity -/

mutual

/-- Strict equality is symmetric, by induction on both values, whose kinds have to agree. -/
theorem strictEq_comm (a b : Value) : a.strictEq b = b.strictEq a := by
  cases a with
  | array as =>
    cases b with
    | array bs => exact strictEqAll_comm as bs
    | _ => rfl
  | number m =>
    cases b with
    | number n => exact m.equals_comm n
    | _ => rfl
  | bool a =>
    cases b with
    | bool b => exact Bool.beq_comm
    | _ => rfl
  | string s =>
    cases b with
    | string t => exact BEq.comm
    | _ => rfl
  | undefined => cases b <;> rfl

/-- The equality of lists of values, item by item and in length, is symmetric as that of values
is. -/
theorem strictEqAll_comm (as bs : List Value) : strictEqAll as bs = strictEqAll bs as := by
  cases as with
  | nil => cases bs <;> rfl
  | cons a as =>
    cases bs with
    | nil => rfl
    | cons b bs => rw [strictEqAll, strictEqAll, strictEq_comm a b, strictEqAll_comm as bs]

end

mutual

/-- Strict equality is transitive, by induction on the value in the middle. -/
theorem strictEq_trans {a b c : Value} (h : a.strictEq b = true) (h' : b.strictEq c = true) :
    a.strictEq c = true := by
  cases a with
  | array as =>
    cases b with
    | array bs =>
      cases c with
      | array cs =>
        have hitems : strictEqAll as bs = true := h
        exact strictEqAll_trans hitems h'
      | _ => cases h'
    | _ => cases h
  | number m =>
    cases b with
    | number n =>
      cases c with
      | number k => exact Binary64.equals_trans (b := n) h h'
      | _ => cases h'
    | _ => cases h
  | bool x =>
    cases b with
    | bool y =>
      obtain rfl : x = y := eq_of_beq h
      exact h'
    | _ => cases h
  | string s =>
    cases b with
    | string t =>
      obtain rfl : s = t := eq_of_beq h
      exact h'
    | _ => cases h
  | undefined =>
    cases b with
    | undefined => exact h'
    | _ => cases h

/-- The equality of lists of values is transitive as that of values is. -/
theorem strictEqAll_trans {as bs cs : List Value} (h : strictEqAll as bs = true)
    (h' : strictEqAll bs cs = true) : strictEqAll as cs = true := by
  cases as with
  | nil =>
    cases bs with
    | nil => exact h'
    | cons b bs => cases h
  | cons a as =>
    cases bs with
    | nil => cases h
    | cons b bs =>
      cases cs with
      | nil => cases h'
      | cons c cs =>
        rw [strictEqAll, Bool.and_eq_true] at h h' ⊢
        exact ⟨strictEq_trans h.1 h'.1, strictEqAll_trans h.2 h'.2⟩

end

/-! ## Reflexivity -/

/-- A value with a `NaN` at some depth, itself or among the items of an array. -/
inductive HasNaN : Value → Prop where
  | number : HasNaN (number .nan)
  | item {items : List Value} {v : Value} (hmem : v ∈ items) (h : HasNaN v) :
      HasNaN (array items)

/-- A number has a `NaN` just if it is one. -/
theorem hasNaN_number_iff {n : Binary64} : (number n).HasNaN ↔ n = .nan := by
  constructor
  · intro h
    cases h
    rfl
  · rintro rfl
    exact .number

/-- An array has a `NaN` just if one of its items has one. -/
theorem hasNaN_array_iff {items : List Value} : (array items).HasNaN ↔ ∃ v ∈ items, v.HasNaN := by
  constructor
  · intro h
    cases h with
    | item hmem h => exact ⟨_, hmem, h⟩
  · rintro ⟨v, hmem, h⟩
    exact .item hmem h

mutual

/-- A value is equal to itself unless it has a `NaN` somewhere inside. -/
theorem strictEq_self_iff (a : Value) : a.strictEq a = true ↔ ¬ a.HasNaN := by
  cases a with
  | array as =>
    rw [hasNaN_array_iff]
    push Not
    exact strictEqAll_self_iff as
  | number n => exact Binary64.equals_self_iff.trans (not_congr hasNaN_number_iff).symm
  | bool b => exact iff_of_true (beq_self_eq_true b) nofun
  | string s => exact iff_of_true (beq_self_eq_true s) nofun
  | undefined => exact iff_of_true rfl nofun

/-- A list of values is equal to itself unless one of them has a `NaN` somewhere inside. -/
theorem strictEqAll_self_iff (as : List Value) :
    strictEqAll as as = true ↔ ∀ a ∈ as, ¬ a.HasNaN := by
  cases as with
  | nil => exact iff_of_true rfl (List.forall_mem_nil _)
  | cons a as =>
    rw [strictEqAll, Bool.and_eq_true, strictEq_self_iff a, strictEqAll_self_iff as,
      List.forall_mem_cons]

end

end Value

/-! ## Values of expressions -/

/-- The value of a field has no `NaN`, since it is made of texts only. -/
theorem Value.not_hasNaN_ofFieldValue (v : FieldValue) : ¬ (Value.ofFieldValue v).HasNaN := by
  cases v with
  | single text => exact nofun
  | multiple items =>
    rw [Value.ofFieldValue, Value.hasNaN_array_iff]
    rintro ⟨v, hmem, h⟩
    obtain ⟨text, -, rfl⟩ := List.mem_map.1 hmem
    cases h

namespace Expr

variable {names : Values}

/-- What an operator makes of its operands is a truth value, so no `NaN` can come out of it. -/
theorem exists_bool_of_value_binary {op : Operator} {l r : Expr} {v : Value}
    (h : (binary op l r).value names = .ok v) : ∃ b, v = .bool b := by
  cases evaluates_iff.2 h <;> exact ⟨_, rfl⟩

mutual

/-- Values have no `NaN` that does not stand in the expression: a name is bound to texts, and
operators answer with truth values. -/
theorem not_hasNaN_of_value {e : Expr} {v : Value} (he : .number .nan ∉ e.leaves)
    (h : e.value names = .ok v) : ¬ v.HasNaN := by
  cases e with
  | binary op l r =>
    obtain ⟨b, rfl⟩ := exists_bool_of_value_binary h
    exact nofun
  | not e =>
    cases evaluates_iff.2 h with
    | not _ => exact nofun
  | identifier name =>
    cases evaluates_iff.2 h with
    | bound _ => exact Value.not_hasNaN_ofFieldValue _
    | unbound _ => exact nofun
  | array es =>
    cases evaluates_iff.2 h with
    | array hvs =>
      rw [Value.hasNaN_array_iff]
      push Not
      exact not_hasNaN_of_valuesOf he (valuesOf_of_evaluates hvs)
  | number n =>
    obtain rfl := Except.ok.inj h
    rw [Value.hasNaN_number_iff]
    rintro rfl
    exact he (List.mem_singleton_self _)
  | string s =>
    obtain rfl := Except.ok.inj h
    exact nofun
  | pattern body flags => cases h

/-- Elements without a `NaN` among their leaves have values without one, item by item. -/
theorem not_hasNaN_of_valuesOf {es : List Expr} {vs : List Value}
    (hes : .number .nan ∉ leavesOf es) (h : valuesOf names es = .ok vs) :
    ∀ v ∈ vs, ¬ v.HasNaN := by
  cases es with
  | nil =>
    obtain rfl := Except.ok.inj h
    exact List.forall_mem_nil _
  | cons e es =>
    rw [leavesOf, List.mem_append, not_or] at hes
    cases evaluates_of_valuesOf h with
    | cons hv hvs =>
      rw [List.forall_mem_cons]
      exact ⟨not_hasNaN_of_value hes.1 (evaluates_iff.1 hv),
        not_hasNaN_of_valuesOf hes.2 (valuesOf_of_evaluates hvs)⟩

end

end Expr

/-! ## Numbers of a source -/

/-- However long a run of digits is, it is not read as a `NaN`. -/
theorem Spells.ne_nan {l : List Char} {n : Binary64} (h : Spells l (.number n)) : n ≠ .nan := by
  cases h with
  | number => exact Binary64.nearest_ne_nan _ _ _
  | punctuation ht => simp [When.punctuation] at ht

/-- No leaf of a clause that has been read is `NaN`, since no literal of the language spells it. -/
theorem Clause.nan_not_mem_leaves {source : String} {c : Clause}
    (h : Clause.ofSource source = .ok c) : .number .nan ∉ c.expr.leaves := by
  obtain ⟨ts, -, hcut, n, hs⟩ := Clause.exists_cut h
  intro hmem
  rw [← hs.filter_isOperand] at hmem
  obtain ⟨l, hl⟩ := hcut.exists_spells (List.mem_filter.1 hmem).1
  exact hl.ne_nan rfl

/-- **Equality is an equivalence on all that a clause can come to.**  On all values it is symmetric
and transitive, and exactly the values without a `NaN` are equal to themselves; and no part of a
clause has a value with a `NaN`, so that a part which has a value is equal to itself. -/
theorem Value.strictEq_equivalence :
    (∀ a b : Value, a.strictEq b = b.strictEq a) ∧
      (∀ a b c : Value, a.strictEq b = true → b.strictEq c = true → a.strictEq c = true) ∧
      (∀ a : Value, a.strictEq a = true ↔ ¬ a.HasNaN) ∧
      ∀ source c, Clause.ofSource source = .ok c → ∀ e ∈ c.expr :: c.expr.descendants,
        ∀ names v, e.value names = .ok v → ¬ v.HasNaN ∧
          (Expr.binary .eq e e).holds names = .ok true ∧
          (Expr.binary .ne e e).holds names = .ok false := by
  refine ⟨strictEq_comm, fun a b c => strictEq_trans, strictEq_self_iff, ?_⟩
  intro source c hc e he names v hv
  have hleaves : .number .nan ∉ e.leaves := fun hmem =>
    Clause.nan_not_mem_leaves hc ((Expr.leaves_infix he).subset hmem)
  have hnan : ¬ v.HasNaN := Expr.not_hasNaN_of_value hleaves hv
  have hself : v.strictEq v = true := (strictEq_self_iff v).2 hnan
  refine ⟨hnan, ?_, ?_⟩
  · rw [Expr.holds_comparison rfl hv hv, compares, hself]
  · rw [Expr.holds_comparison rfl hv hv, compares, hself]
    rfl

/-- The array of a number, a bound list and an unbound name is equal to itself. -/
theorem Value.strictEq_equivalence_mixedArray :
    let e := Expr.array [.number (Literal.digitRun ['0']), .identifier "labels", .identifier "b"]
    let c : Clause := ⟨"'x' in [0, labels, b]", .binary .isIn (.string "x") e⟩
    let names : Values := NameMap.ofList [("labels", .multiple ["ui"])]
    let v := Value.array [.number (Literal.digitRun ['0']), .array [.string "ui"], .undefined]
    v.strictEq v = true ∧ Clause.ofSource c.source = .ok c ∧ e ∈ c.expr :: c.expr.descendants ∧
      e.value names = .ok v ∧ ¬ v.HasNaN ∧ (Expr.binary .eq e e).holds names = .ok true ∧
      (Expr.binary .ne e e).holds names = .ok false := by
  intro e c names v
  have htokens : tokenize c.source = .ok [.string "x", .operator .isIn, .openBracket,
      .number (Literal.digitRun ['0']), .comma, .identifier "labels", .comma, .identifier "b",
      .closeBracket, .eof] := by decide +kernel
  have hc : Clause.ofSource c.source = .ok c :=
    Clause.ofSource_eq_ok_iff.2 ⟨_, htokens, rfl, rfl⟩
  have he : e ∈ c.expr :: c.expr.descendants :=
    List.mem_cons_of_mem _ (List.mem_cons_of_mem _ List.mem_cons_self)
  have hv : e.value names = .ok v := by rfl
  obtain ⟨-, -, hself, hclause⟩ := strictEq_equivalence
  obtain ⟨hnan, hequal⟩ := hclause c.source c hc e he names v hv
  exact ⟨(hself v).2 hnan, hc, he, hv, hnan, hequal⟩

/-! ## Members of arrays -/

namespace Expr

variable {names : Values}

/-- Elements that all have values have a list of values. -/
theorem exists_values {es : List Expr} (h : ∀ e ∈ es, ∃ v, e.value names = .ok v) :
    ∃ vs, valuesOf names es = .ok vs := by
  induction es with
  | nil => exact ⟨[], rfl⟩
  | cons e es ih =>
    obtain ⟨⟨v, hv⟩, hes⟩ := List.forall_mem_cons.1 h
    obtain ⟨vs, hvs⟩ := ih hes
    refine ⟨v :: vs, ?_⟩
    rw [valuesOf, hv, hvs]
    rfl

/-- The first element with a fault decides the fault of all, whatever stands behind it. -/
theorem valuesOf_of_error {before after : List Expr} {e : Expr} {f : EvalFault}
    (hbefore : ∀ y ∈ before, ∃ v, y.value names = .ok v) (he : e.value names = .error f) :
    valuesOf names (before ++ e :: after) = .error f := by
  obtain ⟨vs, hvs⟩ := exists_values hbefore
  rw [valuesOf_append, hvs, valuesOf, he]
  rfl

/-- The items that are equal to a value belong to the elements that its expression is equal to. -/
theorem any_strictEq_iff {x : Expr} {v : Value} (hx : x.value names = .ok v) {es : List Expr}
    {vs : List Value} (h : List.Forall₂ (Evaluates names) es vs) :
    (vs.any fun item => item.strictEq v) = true ↔
      ∃ e ∈ es, (binary .eq x e).holds names = .ok true := by
  induction h with
  | nil => simp
  | @cons e w es vs hw _ ih =>
    -- the item stands to the left of the value here, and to the right in the comparison
    have hequal : w.strictEq v = true ↔ (binary .eq x e).holds names = .ok true := by
      rw [holds_comparison rfl hx (evaluates_iff.1 hw), Except.ok.injEq, compares, v.strictEq_comm]
    rw [List.any_cons, Bool.or_eq_true, List.exists_mem_cons_iff, hequal, ih]

/-- **A member of an array literal is what is equal to one of its elements.**  If the expression and
all elements have values, membership has the verdict whether the expression is equal to some
element; otherwise its fault is the first one of the expression and the elements in their order. -/
theorem holds_isIn_array (names : Values) (x : Expr) (es : List Expr) :
    ((∀ e ∈ x :: es, ∃ v, e.value names = .ok v) →
        ∃ b, (binary .isIn x (array es)).holds names = .ok b ∧
          (b = true ↔ ∃ e ∈ es, (binary .eq x e).holds names = .ok true)) ∧
      ∀ before e after f, x :: es = before ++ e :: after →
        (∀ y ∈ before, ∃ v, y.value names = .ok v) → e.value names = .error f →
          (binary .isIn x (array es)).holds names = .error f := by
  constructor
  · intro h
    obtain ⟨⟨v, hv⟩, hes⟩ := List.forall_mem_cons.1 h
    obtain ⟨vs, hvs⟩ := exists_values hes
    have helements : List.Forall₂ (Evaluates names) es vs := evaluates_of_valuesOf hvs
    have hmember : (binary .isIn x (array es)).Evaluates names
        (.bool (vs.any fun item => item.strictEq v)) :=
      .isIn (evaluates_iff.2 hv) (.array helements)
    refine ⟨vs.any fun item => item.strictEq v, ?_, any_strictEq_iff hv helements⟩
    rw [holds, evaluates_iff.1 hmember]
    rfl
  · intro before e after f hsplit hbefore he
    cases before with
    | nil =>
      obtain ⟨rfl, -⟩ := List.cons.inj hsplit
      rw [holds, value_binary_of_error (by decide) he]
      rfl
    | cons y before =>
      rw [List.cons_append] at hsplit
      obtain ⟨rfl, rfl⟩ := List.cons.inj hsplit
      obtain ⟨⟨v, hv⟩, hbefore⟩ := List.forall_mem_cons.1 hbefore
      rw [holds, value_binary (by decide) (by decide) (by decide), hv, value,
        valuesOf_of_error hbefore he]
      rfl

/-- A list is a member of `[1, ['ui'], b]`, and in `['ui', /p/, 'a' in 'b']` the first fault
counts. -/
theorem holds_isIn_array_labels :
    let names : Values := NameMap.ofList [("labels", .multiple ["ui"])]
    let labels := identifier "labels"
    let elements := [number .one, array [string "ui"], identifier "b"]
    let stray := pattern "p" ""
    let member := binary .isIn (string "a") (string "b")
    (∀ e ∈ labels :: elements, ∃ v, e.value names = .ok v) ∧
      (binary .eq labels (array [string "ui"])).holds names = .ok true ∧
      (binary .isIn labels (array elements)).holds names = .ok true ∧
      (∀ y ∈ [labels, string "ui"], ∃ v, y.value names = .ok v) ∧
      stray.value names = .error (.strayPattern "p" "") ∧
      member.value names = .error (.notAnArray (.string "b")) ∧
      (binary .isIn labels (array [string "ui", stray, member])).holds names =
        .error (.strayPattern "p" "") := by
  intro names labels elements stray member
  have hvalues : ∀ e ∈ labels :: elements, ∃ v, e.value names = .ok v := by
    simp only [elements, List.forall_mem_cons]
    exact ⟨⟨_, rfl⟩, ⟨_, rfl⟩, ⟨_, rfl⟩, ⟨_, rfl⟩, List.forall_mem_nil _⟩
  have hbefore : ∀ y ∈ [labels, string "ui"], ∃ v, y.value names = .ok v := by
    simp only [List.forall_mem_cons]
    exact ⟨⟨_, rfl⟩, ⟨_, rfl⟩, List.forall_mem_nil _⟩
  have hequal : (binary .eq labels (array [string "ui"])).holds names = .ok true := by rfl
  have hstray : stray.value names = .error (.strayPattern "p" "") := rfl
  obtain ⟨b, hb, hmember⟩ := (holds_isIn_array names labels elements).1 hvalues
  have hlist : array [string "ui"] ∈ elements := List.mem_cons_of_mem _ List.mem_cons_self
  obtain rfl : b = true := hmember.2 ⟨_, hlist, hequal⟩
  exact ⟨hvalues, hequal, hb, hbefore, hstray, rfl,
    (holds_isIn_array names labels [string "ui", stray, member]).2 [labels, string "ui"] stray
      [member] _ rfl hbefore hstray⟩

end Expr

end When
end CommitForm
