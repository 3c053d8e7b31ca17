/-
# Chains of one logical operator

A chain of expressions joined by `&&`, or by `||`, can be grouped by brackets in many ways.  Every
grouping has the outcome of the first operand that decides the chain.

| operator | an operand leaves the chain open if it |
| --- | --- |
| `&&` | holds |
| `\|\|` | does not hold |

An operand with a fault decides the chain as well.  So what stands behind the deciding operand
counts for nothing, and neither does the grouping (`Expr.holds_of_grouping`).
-/

import CommitForm.Proofs.FailClosed

namespace CommitForm
namespace When

/-- The outcome of an operand that leaves a chain of a logical operator open. -/
def Operator.neutral? : Operator → Option Bool
  | .both => some true
  | .either => some false
  | _ => none

/-- The outcome of a chain whose operands have the given outcomes: the first one that is not
neutral, if there is one. -/
def firstDeciding (neutral : Bool) : List (Except EvalFault Bool) → Except EvalFault Bool
  | [] => .ok neutral
  | outcome :: rest =>
    outcome.bind fun b => if b = neutral then firstDeciding neutral rest else .ok b

variable {neutral : Bool} {outcome : Except EvalFault Bool}
  {before after : List (Except EvalFault Bool)}

/-- Operands with the neutral outcome are passed over, however many of them stand in front. -/
theorem firstDeciding_neutral (h : ∀ o ∈ before, o = .ok neutral) :
    firstDeciding neutral (before ++ after) = firstDeciding neutral after := by
  induction before with
  | nil => rfl
  | cons o before ih =>
    obtain rfl := h o List.mem_cons_self
    rw [List.cons_append, firstDeciding]
    exact (if_pos rfl).trans (ih fun p hp => h p (List.mem_cons_of_mem _ hp))

/-- An operand in front that decides is decisive, whether it decides by a verdict or by a fault. -/
theorem firstDeciding_of_ne (h : outcome ≠ .ok neutral) :
    firstDeciding neutral (outcome :: after) = outcome := by
  rw [firstDeciding]
  cases outcome with
  | error f => rfl
  | ok b => exact if_neg fun hb => h (congrArg Except.ok hb)

/-- A chain cut in two has the outcome of its first part, unless that part leaves it open. -/
theorem firstDeciding_append :
    firstDeciding neutral (before ++ after) = (firstDeciding neutral before).bind fun b =>
      if b = neutral then firstDeciding neutral after else .ok b := by
  induction before with
  | nil => exact (if_pos rfl).symm
  | cons o before ih =>
    rw [List.cons_append, firstDeciding, firstDeciding, ih]
    cases o with
    | error f => rfl
    | ok b =>
      by_cases hb : b = neutral
      · simp only [Except.bind, if_pos hb]
      · simp only [Except.bind, if_neg hb]

namespace Expr

variable {op : Operator} {names : Values} {es : List Expr} {e : Expr}

/-- The ways of grouping a chain of expressions, in their order, by one operator. -/
inductive Grouping (op : Operator) : List Expr → Expr → Prop where
  | single (e : Expr) : Grouping op [e] e
  | join {es fs : List Expr} {l r : Expr} (hl : Grouping op es l) (hr : Grouping op fs r) :
      Grouping op (es ++ fs) (.binary op l r)

/-- A truth value counts as true just if it is true. -/
theorem truthy_bool (b : Bool) : (Value.bool b).truthy = b := rfl

/-- The right operand is looked at only if the left one leaves the chain open. -/
theorem holds_logical (hop : op.neutral? = some neutral) (l r : Expr) :
    (binary op l r).holds names = (l.holds names).bind fun b =>
      if b = neutral then r.holds names else .ok b := by
  cases op with
  | both =>
    obtain rfl := Option.some.inj hop
    rw [holds, holds, holds, value_both]
    cases l.value names with
    | error f => rfl
    | ok v =>
      cases hv : v.truthy with
      | false => simp [Except.bind, Except.map, hv, truthy_bool]
      | true => cases r.value names <;> simp [Except.bind, Except.map, hv, truthy_bool]
  | either =>
    obtain rfl := Option.some.inj hop
    rw [holds, holds, holds, value_either]
    cases l.value names with
    | error f => rfl
    | ok v =>
      cases hv : v.truthy with
      | false => cases r.value names <;> simp [Except.bind, Except.map, hv, truthy_bool]
      | true => simp [Except.bind, Except.map, hv, truthy_bool]
  | _ => cases hop

/-- A grouping of operands has the verdict or fault of the first that decides, by induction on the
grouping. -/
theorem holds_eq_firstDeciding (hop : op.neutral? = some neutral) (h : Grouping op es e) :
    e.holds names = firstDeciding neutral (es.map (holds names)) := by
  induction h with
  | single e =>
    rw [List.map_singleton, firstDeciding]
    cases e.holds names with
    | error f => rfl
    | ok b =>
      by_cases hb : b = neutral
      · exact (congrArg Except.ok hb).trans (if_pos hb).symm
      · exact (if_neg hb).symm
  | join hl hr ihl ihr =>
    rw [holds_logical hop, ihl, ihr, List.map_append, firstDeciding_append]

/-- **Logical chains do not depend on grouping.**  However a chain is grouped, it comes to the
verdict or the fault of its first operand that decides it, and it is open if none does.  So another
grouping changes nothing, and neither do other operands behind the deciding one. -/
theorem holds_of_grouping (hop : op.neutral? = some neutral) (h : Grouping op es e)
    (names : Values) :
    ((∀ x ∈ es, x.holds names = .ok neutral) → e.holds names = .ok neutral) ∧
      (∀ before x after, es = before ++ x :: after → (∀ y ∈ before, y.holds names = .ok neutral) →
        x.holds names ≠ .ok neutral →
          e.holds names = x.holds names ∧
            ∀ after' e', Grouping op (before ++ x :: after') e' →
              e'.holds names = e.holds names) ∧
      ∀ e', Grouping op es e' → e'.holds names = e.holds names := by
  have hdecided (before : List Expr) (x : Expr) (after : List Expr) (e : Expr)
      (h : Grouping op (before ++ x :: after) e)
      (hbefore : ∀ y ∈ before, y.holds names = .ok neutral)
      (hx : x.holds names ≠ .ok neutral) : e.holds names = x.holds names := by
    rw [holds_eq_firstDeciding hop h, List.map_append, List.map_cons, firstDeciding_neutral,
      firstDeciding_of_ne hx]
    simpa using hbefore
  refine ⟨fun hall => ?_, ?_, fun e' h' => ?_⟩
  · rw [holds_eq_firstDeciding hop h, ← List.append_nil (es.map _), firstDeciding_neutral,
      firstDeciding]
    simpa using hall
  · rintro before x after rfl hbefore hx
    have he : e.holds names = x.holds names := hdecided before x after e h hbefore hx
    refine ⟨he, fun after' e' h' => ?_⟩
    rw [he]
    exact hdecided before x after' e' h' hbefore hx
  · rw [holds_eq_firstDeciding hop h', holds_eq_firstDeciding hop h]

/-- The middle operand of `scope || 'f' in 'oops' || /x/` decides, in either grouping. -/
theorem holds_of_grouping_twoFaults :
    let scope := identifier "scope"
    let member := binary .isIn (string "f") (string "oops")
    let stray := pattern "x" ""
    Operator.neutral? .either = some false ∧
      Grouping .either [scope, member, stray] (binary .either (binary .either scope member) stray) ∧
      scope.holds .empty = .ok false ∧
      member.holds .empty = .error (.notAnArray (.string "oops")) ∧
      (binary .either (binary .either scope member) stray).holds .empty =
        .error (.notAnArray (.string "oops")) ∧
      (binary .either scope (binary .either member stray)).holds .empty =
        .error (.notAnArray (.string "oops")) := by
  intro scope member stray
  have hleft : Grouping .either [scope, member, stray]
      (binary .either (binary .either scope member) stray) :=
    .join (.join (.single scope) (.single member)) (.single stray)
  have hright : Grouping .either [scope, member, stray]
      (binary .either scope (binary .either member stray)) :=
    .join (.single scope) (.join (.single member) (.single stray))
  have hscope : scope.holds .empty = .ok false := rfl
  have hmember : member.holds .empty = .error (.notAnArray (.string "oops")) := rfl
  have hneutral : Operator.neutral? .either = some false := rfl
  obtain ⟨-, hdecided, hgroupings⟩ := holds_of_grouping hneutral hleft .empty
  have hwhole := (hdecided [scope] member [stray] rfl (by simpa using hscope)
    (by simp [hmember])).1.trans hmember
  exact ⟨hneutral, hleft, hscope, hmember, hwhole, (hgroupings _ hright).trans hwhole⟩

end Expr

end When
end CommitForm
