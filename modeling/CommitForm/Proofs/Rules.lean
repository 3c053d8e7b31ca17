/-
# Rules of evaluation

`Expr.Evaluates` are the rules by which an expression has a value.  They ask how two values compare
for the six operators that compare and for no other, and they give exactly the values that
evaluation gives (`Expr.evaluates_iff`).
-/

import Mathlib.Data.List.Forall2
import CommitForm.Proofs.FailClosed
import CommitForm.Proofs.Openings

namespace CommitForm
namespace When

/-- The operators that compare two values: equality, difference, and the four of order.  No other
operator asks how values compare. -/
def Operator.isComparison : Operator → Bool
  | .eq | .ne | .lt | .le | .gt | .ge => true
  | _ => false

namespace Expr

variable {names : Values}

/-- The rules by which an expression has a value.  An expression whose evaluation fails has none,
and so has a pattern that is not on the right of a match. -/
inductive Evaluates (names : Values) : Expr → Value → Prop where
  | string (s : String) : Evaluates names (.string s) (.string s)
  | number (n : Binary64) : Evaluates names (.number n) (.number n)
  | bound {name : String} {v : FieldValue} (h : names.get? name = some v) :
      Evaluates names (.identifier name) (.ofFieldValue v)
  | unbound {name : String} (h : names.get? name = none) :
      Evaluates names (.identifier name) .undefined
  | array {es : List Expr} {vs : List Value} (h : List.Forall₂ (Evaluates names) es vs) :
      Evaluates names (.array es) (.array vs)
  | not {e : Expr} {v : Value} (h : Evaluates names e v) :
      Evaluates names (.not e) (.bool !v.truthy)
  | bothLeft {l r : Expr} {v : Value} (hl : Evaluates names l v) (hv : v.truthy = false) :
      Evaluates names (.binary .both l r) (.bool false)
  | bothRight {l r : Expr} {v w : Value} (hl : Evaluates names l v) (hv : v.truthy = true)
      (hr : Evaluates names r w) : Evaluates names (.binary .both l r) (.bool w.truthy)
  | eitherLeft {l r : Expr} {v : Value} (hl : Evaluates names l v) (hv : v.truthy = true) :
      Evaluates names (.binary .either l r) (.bool true)
  | eitherRight {l r : Expr} {v w : Value} (hl : Evaluates names l v) (hv : v.truthy = false)
      (hr : Evaluates names r w) : Evaluates names (.binary .either l r) (.bool w.truthy)
  | isMatch {l : Expr} {v : Value} {body flags : String} {p : Pattern.Regex}
      (hl : Evaluates names l v) (hp : compilePattern body flags = .ok p) :
      Evaluates names (.binary .isMatch l (.pattern body flags)) (.bool (p.occursIn v.text))
  | isIn {l r : Expr} {v : Value} {items : List Value} (hl : Evaluates names l v)
      (hr : Evaluates names r (.array items)) :
      Evaluates names (.binary .isIn l r) (.bool (items.any fun item => item.strictEq v))
  | compares {op : Operator} {l r : Expr} {v w : Value} (hop : op.isComparison = true)
      (hl : Evaluates names l v) (hr : Evaluates names r w) :
      Evaluates names (.binary op l r) (.bool (compares op v w))

/-- An operator that compares gives the truth of the comparison, whatever its operands are. -/
theorem combine_of_isComparison {op : Operator} (hop : op.isComparison = true) (v w : Value) :
    combine op v w = .ok (.bool (When.compares op v w)) := by
  cases op with
  | isIn => cases hop
  | _ => rfl

/-- Membership in an array is equality with one of its items. -/
theorem combine_isIn (v : Value) (items : List Value) :
    combine .isIn v (.array items) = .ok (.bool (items.any fun item => item.strictEq v)) := rfl

/-- The rules give an operator no other value than evaluation does, if this holds of the
operands. -/
theorem value_binary_of_evaluates {op : Operator} {l r : Expr} {v : Value}
    (hl : ∀ {v}, l.Evaluates names v → l.value names = .ok v)
    (hr : ∀ {v}, r.Evaluates names v → r.value names = .ok v)
    (h : (binary op l r).Evaluates names v) : (binary op l r).value names = .ok v := by
  cases h with
  | bothLeft h hv =>
    rw [value_both, hl h]
    simp [Except.bind, hv]
  | bothRight h hv h' =>
    rw [value_both, hl h, hr h']
    simp [Except.bind, hv]
  | eitherLeft h hv =>
    rw [value_either, hl h]
    simp [Except.bind, hv]
  | eitherRight h hv h' =>
    rw [value_either, hl h, hr h']
    simp [Except.bind, hv]
  | isMatch h hp =>
    rw [value_isMatch_pattern, hl h, hp]
    rfl
  | isIn h h' =>
    rw [value_binary (by decide) (by decide) (by decide), hl h, hr h']
    exact combine_isIn _ _
  | compares hop h h' =>
    have hne : op ≠ .both ∧ op ≠ .either ∧ op ≠ .isMatch := by
      refine ⟨?_, ?_, ?_⟩ <;> rintro rfl <;> cases hop
    rw [value_binary hne.1 hne.2.1 hne.2.2, hl h, hr h']
    exact combine_of_isComparison hop _ _

mutual

/-- The value that the rules give an expression is the one that evaluation finds, by recursion over
the expression. -/
theorem value_of_evaluates {e : Expr} {v : Value} (h : e.Evaluates names v) :
    e.value names = .ok v := by
  cases e with
  | binary op l r => exact value_binary_of_evaluates value_of_evaluates value_of_evaluates h
  | not e =>
    cases h with
    | not h =>
      rw [value_not, value_of_evaluates h]
      rfl
  | identifier name =>
    cases h with
    | bound h =>
      rw [value, h]
      rfl
    | unbound h =>
      rw [value, h]
      rfl
  | array es =>
    cases h with
    | array h =>
      rw [value, valuesOf_of_evaluates h]
      rfl
  | pattern body flags => cases h
  | string s =>
    cases h
    rfl
  | number n =>
    cases h
    rfl

/-- The same for the items of an array, which are evaluated from left to right. -/
theorem valuesOf_of_evaluates {es : List Expr} {vs : List Value}
    (h : List.Forall₂ (Evaluates names) es vs) : valuesOf names es = .ok vs := by
  cases es with
  | nil =>
    cases h
    rfl
  | cons e es =>
    cases h with
    | cons h hs =>
      rw [valuesOf, value_of_evaluates h, valuesOf_of_evaluates hs]
      rfl

end

/-- A match that has a value has it by the rule: a pattern stands on the right and has been
compiled. -/
theorem evaluates_isMatch {l r : Expr} {v : Value}
    (hl : ∀ {v}, l.value names = .ok v → l.Evaluates names v)
    (h : (binary .isMatch l r).value names = .ok v) : (binary .isMatch l r).Evaluates names v := by
  rcases r.eq_pattern_or_ne with ⟨body, flags, rfl⟩ | hr
  · rw [value_isMatch_pattern] at h
    obtain ⟨u, hu, h⟩ := bind_eq_ok h
    cases hc : compilePattern body flags with
    | error g =>
      rw [hc] at h
      cases h
    | ok p =>
      rw [hc] at h
      obtain rfl := Except.ok.inj h
      exact .isMatch (hl hu) hc
  · rw [value_isMatch_of_ne_pattern hr] at h
    cases h

/-- An operator whose operands have their values by the rules has its value by them. -/
theorem evaluates_binary {op : Operator} {l r : Expr} {v : Value}
    (hl : ∀ {v}, l.value names = .ok v → l.Evaluates names v)
    (hr : ∀ {v}, r.value names = .ok v → r.Evaluates names v)
    (h : (binary op l r).value names = .ok v) : (binary op l r).Evaluates names v := by
  cases op with
  | both =>
    rw [value_both] at h
    obtain ⟨u, hu, h⟩ := bind_eq_ok h
    split at h
    · next htrue =>
      obtain ⟨w, hw, h⟩ := bind_eq_ok h
      obtain rfl := Except.ok.inj h
      exact .bothRight (hl hu) htrue (hr hw)
    · next hfalse =>
      obtain rfl := Except.ok.inj h
      exact .bothLeft (hl hu) (Bool.eq_false_iff.2 hfalse)
  | either =>
    rw [value_either] at h
    obtain ⟨u, hu, h⟩ := bind_eq_ok h
    split at h
    · next htrue =>
      obtain rfl := Except.ok.inj h
      exact .eitherLeft (hl hu) htrue
    · next hfalse =>
      obtain ⟨w, hw, h⟩ := bind_eq_ok h
      obtain rfl := Except.ok.inj h
      exact .eitherRight (hl hu) (Bool.eq_false_iff.2 hfalse) (hr hw)
  | isMatch => exact evaluates_isMatch hl h
  | isIn =>
    rw [value_binary (by decide) (by decide) (by decide)] at h
    obtain ⟨u, hu, h⟩ := bind_eq_ok h
    obtain ⟨w, hw, h⟩ := bind_eq_ok h
    cases w with
    | array items =>
      obtain rfl := Except.ok.inj h
      exact .isIn (hl hu) (hr hw)
    | _ => cases h
  | _ =>
    rw [value_binary (by decide) (by decide) (by decide)] at h
    obtain ⟨u, hu, h⟩ := bind_eq_ok h
    obtain ⟨w, hw, h⟩ := bind_eq_ok h
    obtain rfl := Except.ok.inj h
    exact .compares rfl (hl hu) (hr hw)

mutual

/-- The value that evaluation finds is given by the rules, by recursion over the expression, with an
operator told apart by its kind. -/
theorem evaluates_of_value {e : Expr} {v : Value} (h : e.value names = .ok v) :
    e.Evaluates names v := by
  cases e with
  | binary op l r => exact evaluates_binary evaluates_of_value evaluates_of_value h
  | not e =>
    rw [value_not] at h
    obtain ⟨u, hu, h⟩ := bind_eq_ok h
    obtain rfl := Except.ok.inj h
    exact .not (evaluates_of_value hu)
  | identifier name =>
    obtain rfl := Except.ok.inj h
    cases hname : names.get? name with
    | none => exact .unbound hname
    | some u => exact .bound hname
  | array es =>
    cases hes : valuesOf names es with
    | error g =>
      rw [value, hes] at h
      cases h
    | ok vs =>
      rw [value, hes] at h
      obtain rfl := Except.ok.inj h
      exact .array (evaluates_of_valuesOf hes)
  | pattern body flags => cases h
  | string s =>
    obtain rfl := Except.ok.inj h
    exact .string s
  | number n =>
    obtain rfl := Except.ok.inj h
    exact .number n

/-- The same for the items of an array: when all are evaluated, each has its value by the rules. -/
theorem evaluates_of_valuesOf {es : List Expr} {vs : List Value} (h : valuesOf names es = .ok vs) :
    List.Forall₂ (Evaluates names) es vs := by
  cases es with
  | nil =>
    obtain rfl := Except.ok.inj h
    exact .nil
  | cons e es =>
    cases he : e.value names with
    | error g =>
      rw [valuesOf, he] at h
      cases h
    | ok u =>
      cases hes : valuesOf names es with
      | error g =>
        rw [valuesOf, he, hes] at h
        cases h
      | ok us =>
        rw [valuesOf, he, hes] at h
        obtain rfl := Except.ok.inj h
        exact .cons (evaluates_of_value he) (evaluates_of_valuesOf hes)

end

/-- **The rules give exactly the values of evaluation.**  So an expression has at most one value by
the rules, and has none exactly where evaluation fails. -/
theorem evaluates_iff {e : Expr} {v : Value} : e.Evaluates names v ↔ e.value names = .ok v :=
  ⟨value_of_evaluates, evaluates_of_value⟩

/-- A comparison of expressions is the comparison of their values, once the operands have been
evaluated. -/
theorem holds_comparison {op : Operator} (hop : op.isComparison = true) {l r : Expr} {v w : Value}
    (hl : l.value names = .ok v) (hr : r.value names = .ok w) :
    (binary op l r).holds names = .ok (When.compares op v w) := by
  rw [holds, evaluates_iff.1 (.compares hop (evaluates_iff.2 hl) (evaluates_iff.2 hr))]
  rfl

end Expr

end When
end CommitForm
