/-
# Faults in when-clauses fail closed

A `Context` is an expression with a hole in the place of one of its nodes.

| the hole is | a fault of what stands in it |
| --- | --- |
| reached by the evaluation | is the fault of the whole |
| passed over | changes nothing, as nothing else in it does |

There is no third case (`Context.settled`): negation, arrays, membership and comparisons
hand a fault on, `&&` and `||` may pass over their right operand.  A verdict that was reached
besides a fault is therefore the verdict whatever stands in the place of the faulty operand
(`verdict_of_fault`).  The right operand of `=~` is the one place that is never evaluated but read
as it stands; a hole there (`Context.seeksPattern`) is left out.
-/

import CommitForm.When.Clause

namespace CommitForm
namespace When

/-! ## Expressions with a hole -/

/-- An expression with one hole, by the way from the root to the hole and what stands beside that
way. -/
inductive Context where
  | hole
  | left (op : Operator) (c : Context) (right : Expr)
  | right (op : Operator) (left : Expr) (c : Context)
  | not (c : Context)
  | array (before : List Expr) (c : Context) (after : List Expr)

namespace Context

/-- Puts an expression into the hole, with everything else as the context has it. -/
def plug (x : Expr) : Context → Expr
  | hole => x
  | left op c r => .binary op (c.plug x) r
  | right op l c => .binary op l (c.plug x)
  | not c => .not (c.plug x)
  | array before c after => .array (before ++ c.plug x :: after)

/-- Whether the hole is the right operand of `=~`, the only place where a pattern literal is asked
for and not evaluated. -/
def seeksPattern : Context → Bool
  | hole => false
  | left _ c _ => c.seeksPattern
  | right .isMatch _ hole => true
  | right _ _ c => c.seeksPattern
  | not c => c.seeksPattern
  | array _ c _ => c.seeksPattern

/-- A fault of what stands in the hole is the fault of the whole. -/
def Reaches (names : Values) (c : Context) : Prop :=
  ∀ x f, x.value names = .error f → (c.plug x).value names = .error f

/-- What stands in the hole changes nothing: the value or fault is the same for any two expressions
there. -/
def Skips (names : Values) (c : Context) : Prop :=
  ∀ x y, (c.plug x).value names = (c.plug y).value names

end Context

mutual

/-- A node below the root stands in the hole of a context that is not the hole alone. -/
theorem exists_plug_of_mem {e x : Expr} (h : x ∈ e.descendants) :
    ∃ c : Context, c ≠ .hole ∧ c.plug x = e := by
  cases e with
  | binary op l r =>
    simp only [Expr.descendants, List.cons_append, List.mem_cons, List.mem_append] at h
    rcases h with rfl | h | rfl | h
    · exact ⟨.left op .hole r, by simp, rfl⟩
    · obtain ⟨c, -, rfl⟩ := exists_plug_of_mem h
      exact ⟨.left op c r, by simp, rfl⟩
    · exact ⟨.right op l .hole, by simp, rfl⟩
    · obtain ⟨c, -, rfl⟩ := exists_plug_of_mem h
      exact ⟨.right op l c, by simp, rfl⟩
  | not e =>
    rw [Expr.descendants, List.mem_cons] at h
    rcases h with rfl | h
    · exact ⟨.not .hole, by simp, rfl⟩
    · obtain ⟨c, -, rfl⟩ := exists_plug_of_mem h
      exact ⟨.not c, by simp, rfl⟩
  | array es =>
    obtain ⟨before, c, after, rfl⟩ := exists_plug_of_mem_items h
    exact ⟨.array before c after, by simp, rfl⟩
  | _ => simp [Expr.descendants] at h

/-- A node in or below the elements of an array stands in the hole of a context inside one
element. -/
theorem exists_plug_of_mem_items {es : List Expr} {x : Expr} (h : x ∈ Expr.descendantsOf es) :
    ∃ (before : List Expr) (c : Context) (after : List Expr), before ++ c.plug x :: after = es := by
  cases es with
  | nil => simp [Expr.descendantsOf] at h
  | cons e es =>
    simp only [Expr.descendantsOf, List.cons_append, List.mem_cons, List.mem_append] at h
    rcases h with rfl | h | h
    · exact ⟨[], .hole, es, rfl⟩
    · obtain ⟨c, -, rfl⟩ := exists_plug_of_mem h
      exact ⟨[], c, es, rfl⟩
    · obtain ⟨before, c, after, rfl⟩ := exists_plug_of_mem_items h
      exact ⟨e :: before, c, after, rfl⟩

end

/-! ## Values as chains of evaluations -/

namespace Expr

variable {names : Values}

/-- The value of `&&` as two steps, the second taken only if the first operand counts as true. -/
theorem value_both (l r : Expr) :
    (binary .both l r).value names = (l.value names).bind fun v =>
      if v.truthy then (r.value names).bind fun w => .ok (.bool w.truthy)
      else .ok (.bool false) := by
  rw [value]
  cases l.value names with
  | error f => rfl
  | ok v => cases r.value names <;> rfl

/-- The value of `||` as two steps, the second taken only if the first operand counts as false. -/
theorem value_either (l r : Expr) :
    (binary .either l r).value names = (l.value names).bind fun v =>
      if v.truthy then .ok (.bool true)
      else (r.value names).bind fun w => .ok (.bool w.truthy) := by
  rw [value]
  cases l.value names with
  | error f => rfl
  | ok v => cases r.value names <;> rfl

/-- Behind `=~` a pattern literal is compiled, and only after the left operand has a value. -/
theorem value_isMatch_pattern (l : Expr) (body flags : String) :
    (binary .isMatch l (pattern body flags)).value names = (l.value names).bind fun v =>
      (compilePattern body flags).map fun p => .bool (p.occursIn v.text) := by
  rw [value]
  cases l.value names <;> rfl

/-- An expression is a pattern literal or is none, the case split that `=~` makes on its right
operand. -/
theorem eq_pattern_or_ne (e : Expr) :
    (∃ body flags, e = pattern body flags) ∨ ∀ body flags, e ≠ pattern body flags := by
  cases e with
  | pattern body flags => exact .inl ⟨body, flags, rfl⟩
  | _ => exact .inr fun body flags => by simp

/-- Behind `=~` anything but a pattern literal is a fault, and the left operand is not even
evaluated. -/
theorem value_isMatch_of_ne_pattern {r : Expr} (hr : ∀ body flags, r ≠ pattern body flags)
    (l : Expr) : (binary .isMatch l r).value names = .error .notAPattern := by
  cases r with
  | pattern body flags => exact absurd rfl (hr body flags)
  | _ => simp only [value]

/-- What an operator that evaluates both operands makes of their values: membership, or one of the
comparisons. -/
def combine (op : Operator) (v w : Value) : Except EvalFault Value :=
  match op with
  | .isIn => (isMember v w).map .bool
  | op => .ok (.bool (compares op v w))

/-- The value of an operator that evaluates both operands, the left one first, so that its fault
comes first. -/
theorem value_binary {op : Operator} (hb : op ≠ .both) (he : op ≠ .either) (hm : op ≠ .isMatch)
    (l r : Expr) :
    (binary op l r).value names =
      (l.value names).bind fun v => (r.value names).bind fun w => combine op v w := by
  cases op with
  | both => exact absurd rfl hb
  | either => exact absurd rfl he
  | isMatch => exact absurd rfl hm
  | _ =>
    simp only [value]
    cases l.value names with
    | error f => rfl
    | ok v => cases r.value names <;> rfl

/-- A fault of the left operand is the fault of the operator, except of `=~`, which looks at the
right operand before. -/
theorem value_binary_of_error {op : Operator} (hm : op ≠ .isMatch) {l : Expr} {f : EvalFault}
    (hl : l.value names = .error f) (r : Expr) : (binary op l r).value names = .error f := by
  by_cases hb : op = .both
  · rw [hb, value_both, hl]
    rfl
  · by_cases he : op = .either
    · rw [he, value_either, hl]
      rfl
    · rw [value_binary hb he hm, hl]
      rfl

/-- The value of an array around one of its elements: those before it are evaluated first, those
behind it only after it. -/
theorem value_array (before : List Expr) (e : Expr) (after : List Expr) :
    (array (before ++ e :: after)).value names = (valuesOf names before).bind fun vs =>
      (e.value names).bind fun v =>
        (valuesOf names after).bind fun ws => .ok (.array (vs ++ v :: ws)) := by
  rw [value, valuesOf_append, valuesOf]
  cases valuesOf names before with
  | error f => rfl
  | ok vs =>
    cases e.value names with
    | error f => rfl
    | ok v => cases valuesOf names after <;> rfl

end Expr

/-! ## A hole is reached or passed over -/

namespace Context

variable {names : Values} {c d : Context}

/-- The hole is reached or passed over: its fault becomes the fault of the whole, or nothing in it
matters. -/
def Settled (names : Values) (c : Context) : Prop := c.Reaches names ∨ c.Skips names

/-- An evaluation that goes on from the value of a part is settled with the part. -/
theorem Settled.bind (hc : c.Settled names) (k : Value → Except EvalFault Value)
    (h : ∀ x, (d.plug x).value names = ((c.plug x).value names).bind k) : d.Settled names := by
  rcases hc with hc | hc
  · refine .inl fun x f hx => ?_
    rw [h, hc x f hx]
    rfl
  · refine .inr fun x y => ?_
    rw [h, h, hc x y]

/-- A context whose value is the same whatever stands in the hole passes the hole over. -/
theorem Settled.of_eq (r : Except EvalFault Value) (h : ∀ x, (d.plug x).value names = r) :
    d.Settled names := .inr fun x y => (h x).trans (h y).symm

/-- With the hole below the root, the whole is no pattern literal, since that has no parts. -/
theorem plug_ne_pattern (hc : c ≠ .hole) (x : Expr) (body flags : String) :
    c.plug x ≠ .pattern body flags := by
  cases c with
  | hole => exact absurd rfl hc
  | _ => simp [plug]

/-- A hole in the left operand is settled if it is settled there, since that operand is evaluated
before anything else. -/
theorem Settled.left (h : c.Settled names) (op : Operator) (r : Expr) :
    (Context.left op c r).Settled names := by
  cases op with
  | both => exact h.bind _ fun x => Expr.value_both (c.plug x) r
  | either => exact h.bind _ fun x => Expr.value_either (c.plug x) r
  | isMatch =>
    by_cases hr : ∃ body flags, r = .pattern body flags
    · obtain ⟨body, flags, rfl⟩ := hr
      exact h.bind _ fun x => Expr.value_isMatch_pattern (c.plug x) body flags
    · refine .of_eq _ fun x => Expr.value_isMatch_of_ne_pattern ?_ (c.plug x)
      exact fun body flags he => hr ⟨body, flags, he⟩
  | _ => exact h.bind _ fun x => Expr.value_binary (by decide) (by decide) (by decide) _ r

/-- The left operand has its value before the right one is looked at, so either it decides or the
hole is settled as it is on the right. -/
theorem Settled.right (h : c.Settled names) {op : Operator} (hm : op ≠ .isMatch) (l : Expr) :
    (Context.right op l c).Settled names := by
  cases hl : l.value names with
  | error f => exact .of_eq _ fun x => Expr.value_binary_of_error hm hl (c.plug x)
  | ok v =>
    by_cases hb : op = .both
    · subst hb
      by_cases hv : v.truthy = true
      · refine h.bind (fun w => .ok (.bool w.truthy)) fun x => ?_
        rw [plug, Expr.value_both, hl]
        exact if_pos hv
      · refine .of_eq (.ok (.bool false)) fun x => ?_
        rw [plug, Expr.value_both, hl]
        exact if_neg hv
    · by_cases he : op = .either
      · subst he
        by_cases hv : v.truthy = true
        · refine .of_eq (.ok (.bool true)) fun x => ?_
          rw [plug, Expr.value_either, hl]
          exact if_pos hv
        · refine h.bind (fun w => .ok (.bool w.truthy)) fun x => ?_
          rw [plug, Expr.value_either, hl]
          exact if_neg hv
      · refine h.bind (Expr.combine op v) fun x => ?_
        rw [plug, Expr.value_binary hb he hm, hl]
        rfl

/-- A hole in an element is settled if it is settled there, unless an element before it has a fault
and hides it. -/
theorem Settled.array (h : c.Settled names) (before after : List Expr) :
    (Context.array before c after).Settled names := by
  cases hb : Expr.valuesOf names before with
  | error f =>
    refine .of_eq (.error f) fun x => ?_
    rw [plug, Expr.value_array, hb]
    rfl
  | ok vs =>
    let rest (v : Value) : Except EvalFault Value :=
      (Expr.valuesOf names after).bind fun ws => .ok (.array (vs ++ v :: ws))
    refine h.bind rest fun x => ?_
    rw [plug, Expr.value_array, hb]
    rfl

/-- **A hole is reached or passed over,** unless it is the right operand of `=~`. -/
theorem settled (names : Values) {c : Context} (hc : c.seeksPattern = false) :
    c.Settled names := by
  induction c with
  | hole => exact .inl fun x f hx => hx
  | left op c r ih => exact (ih hc).left op r
  | right op l c ih =>
    by_cases hm : op = .isMatch
    · subst hm
      have hhole : c ≠ .hole := by
        rintro rfl
        cases hc
      refine .of_eq (.error .notAPattern) fun x => ?_
      exact Expr.value_isMatch_of_ne_pattern (plug_ne_pattern hhole x) l
    · refine (ih ?_).right hm l
      cases op with
      | isMatch => exact absurd rfl hm
      | _ => exact hc
  | not c ih => exact (ih hc).bind _ fun x => Expr.value_not (c.plug x)
  | array before c after ih => exact (ih hc).array before after

end Context

/-! ## Verdicts -/

variable {names : Values}

/-- A clause holds just if the evaluation of its expression says so; a fault counts as not
holding. -/
theorem holds_eq_true_iff {source : String} {e : Expr}
    (h : Clause.ofSource source = .ok ⟨source, e⟩) :
    When.holds source names = true ↔ e.holds names = .ok true := by
  have htry : tryHolds source names = (e.holds names).mapError .eval := by
    rw [tryHolds, h]
  rw [When.holds, htry]
  cases e.holds names with
  | error f =>
    constructor
    · intro hf
      cases hf
    · intro hf
      cases hf
  | ok b =>
    constructor
    · intro hb
      exact congrArg Except.ok hb
    · intro hb
      exact Except.ok.inj hb

/-- **A fault contributes to no verdict.**  Either it is the fault of the whole, or the whole has
the same value with anything else in its place; so a value or a verdict reached besides a fault is
reached besides everything, and a clause that holds besides a fault holds besides everything. -/
theorem verdict_of_fault {c : Context} (hc : c.seeksPattern = false) {x : Expr} {f : EvalFault}
    (hx : x.value names = .error f) :
    ((c.plug x).value names = .error f ∨
        ∀ y, (c.plug y).value names = (c.plug x).value names) ∧
      (∀ v, (c.plug x).value names = .ok v → ∀ y, (c.plug y).value names = .ok v) ∧
      (∀ b, (c.plug x).holds names = .ok b → ∀ y, (c.plug y).holds names = .ok b) ∧
      ∀ s s' y, Clause.ofSource s = .ok ⟨s, c.plug x⟩ → Clause.ofSource s' = .ok ⟨s', c.plug y⟩ →
        When.holds s names = true → When.holds s' names = true := by
  have hcases : (c.plug x).value names = .error f ∨
      ∀ y, (c.plug y).value names = (c.plug x).value names := by
    rcases Context.settled names hc with h | h
    · exact .inl (h x f hx)
    · exact .inr fun y => h y x
  have hholds (b : Bool) (hb : (c.plug x).holds names = .ok b) (y : Expr) :
      (c.plug y).holds names = .ok b := by
    rcases hcases with h | h
    · rw [Expr.holds, h] at hb
      cases hb
    · rwa [Expr.holds, h y]
  refine ⟨hcases, fun v hv y => ?_, hholds, fun s s' y hs hs' hb => ?_⟩
  · rcases hcases with h | h
    · rw [h] at hv
      cases hv
    · rwa [h y]
  · rw [holds_eq_true_iff hs] at hb
    rw [holds_eq_true_iff hs']
    exact hholds true hb y

/-- A pattern literal out of its place is a fault, and beside an operand that decides the
disjunction it is passed over. -/
theorem verdict_besides_stray_pattern :
    (Expr.pattern "b" "").value .empty = .error (.strayPattern "b" "") ∧
      (Expr.not (.binary .either (.string "a") (.identifier "b"))).holds .empty = .ok false :=
  ⟨rfl, (@verdict_of_fault .empty (.not (.right .either (.string "a") .hole)) rfl
    (.pattern "b" "") _ rfl).2.2.1 false rfl (.identifier "b")⟩

end When
end CommitForm
