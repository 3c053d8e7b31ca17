/-
# Trees that are not high need no deep stack

Whatever works on a tree by going from a node to its children is never further down than the tree is
high (`Expr.length_le_height`).  Evaluating a tree and collecting its names are such works.  With
calls that are counted, each one for a child of the node at hand, they come to the same if as many
calls as the tree is high may stand inside one another.

| the work | with counted calls | out of calls |
| --- | --- | --- |
| `Expr.value` | `Expr.valueWithin` | `overflow` |
| `Expr.identifiers` | `Expr.identifiersWithin` | `none` |
-/

import Mathlib.Data.List.Chain
import CommitForm.Proofs.FailClosed

namespace CommitForm
namespace When

/-- What ends an evaluation with counted calls: a fault, or a call that is one too many. -/
inductive StackFault where
  | overflow
  | fault (f : EvalFault)

namespace Expr

/-- The operands of an operator, the elements of an array, and nothing for a literal or a name. -/
def children : Expr → List Expr
  | binary _ l r => [l, r]
  | not e => [e]
  | array es => es
  | _ => []

/-! ## Paths -/

/-- No element is higher than the highest, which is what the height of an array is counted from. -/
theorem height_le_heights {e : Expr} {es : List Expr} (h : e ∈ es) : e.height ≤ heights es := by
  induction es with
  | nil => cases h
  | cons d ds ih =>
    rw [heights]
    rcases List.mem_cons.1 h with rfl | h
    · exact Nat.le_max_left _ _
    · exact Nat.le_trans (ih h) (Nat.le_max_right _ _)

/-- A child is lower than its parent, so a path downwards comes to an end. -/
theorem height_lt_of_mem_children {e child : Expr} (h : child ∈ e.children) :
    child.height < e.height := by
  cases e with
  | binary op l r =>
    rw [height]
    rcases List.mem_cons.1 h with rfl | h
    · omega
    · rw [List.mem_singleton.1 h]
      omega
  | not e =>
    rw [height, List.mem_singleton.1 h]
    exact Nat.lt_succ_self _
  | array es =>
    rw [height]
    exact Nat.lt_succ_of_le (height_le_heights h)
  | _ => cases h

/-- Every node has a height of one at least, a leaf included. -/
theorem height_pos (e : Expr) : 0 < e.height := by
  cases e <;> simp [height]

/-- **A path is no longer than the tree is high,** by induction on the path from the root
downwards. -/
theorem length_le_height {e : Expr} {path : List Expr}
    (h : (e :: path).IsChain fun parent child => child ∈ parent.children) :
    (e :: path).length ≤ e.height := by
  induction path generalizing e with
  | nil => exact e.height_pos
  | cons child path ih =>
    obtain ⟨hchild, hrest⟩ := List.isChain_cons_cons.1 h
    have hless := height_lt_of_mem_children hchild
    have hle := ih hrest
    rw [List.length_cons]
    omega

/-! ## Evaluating -/

/-- The value of a node, where `call` gives those of its children: one call of the evaluation with
the further calls left open. -/
def valueBy (call : Expr → Except StackFault Value) (names : Values) :
    Expr → Except StackFault Value
  | string s => .ok (.string s)
  | number n => .ok (.number n)
  | identifier name => .ok (((names.get? name).map Value.ofFieldValue).getD .undefined)
  | pattern body flags => .error (.fault (.strayPattern body flags))
  | array es => (es.mapM call).map .array
  | not e => (call e).map fun v => .bool !v.truthy
  | binary .both l r => (call l).bind fun v =>
      if v.truthy then (call r).map fun w => .bool w.truthy else .ok (.bool false)
  | binary .either l r => (call l).bind fun v =>
      if v.truthy then .ok (.bool true) else (call r).map fun w => .bool w.truthy
  | binary .isMatch l (pattern body flags) => (call l).bind fun v =>
      ((compilePattern body flags).mapError .fault).map fun p => .bool (p.occursIn v.text)
  | binary .isMatch _ _ => .error (.fault .notAPattern)
  | binary op l r => (call l).bind fun v => (call r).bind fun w =>
      (combine op v w).mapError .fault

/-- The value of a tree, where no more than `calls` calls may stand inside one another. -/
def valueWithin (names : Values) : (calls : Nat) → Expr → Except StackFault Value
  | 0, _ => .error .overflow
  | calls + 1, e => valueBy (valueWithin names calls) names e

variable {names : Values} {call : Expr → Except StackFault Value}

/-- If the calls give the values of elements, they give those of the whole array, up to the first
fault. -/
theorem mapM_call {es : List Expr} (h : ∀ e ∈ es, call e = (e.value names).mapError .fault) :
    es.mapM call = (valuesOf names es).mapError .fault := by
  induction es with
  | nil => rfl
  | cons e es ih =>
    rw [List.mapM_cons, h e List.mem_cons_self, ih fun d hd => h d (List.mem_cons_of_mem e hd),
      valuesOf]
    cases e.value names with
    | error f => rfl
    | ok v => cases valuesOf names es <;> rfl

/-- An operator that evaluates both operands calls for the left one first and combines what comes
back. -/
theorem valueBy_binary {op : Operator} (hb : op ≠ .both) (he : op ≠ .either) (hm : op ≠ .isMatch)
    (l r : Expr) : valueBy call names (binary op l r) = (call l).bind fun v =>
      (call r).bind fun w => (combine op v w).mapError .fault := by
  cases op with
  | both => exact absurd rfl hb
  | either => exact absurd rfl he
  | isMatch => exact absurd rfl hm
  | _ => rfl

/-- Behind `=~` anything but a pattern literal is a fault, and no call is made. -/
theorem valueBy_isMatch_of_ne_pattern {r : Expr} (hr : ∀ body flags, r ≠ pattern body flags)
    (l : Expr) : valueBy call names (binary .isMatch l r) = .error (.fault .notAPattern) := by
  cases r with
  | pattern body flags => exact absurd rfl (hr body flags)
  | _ => rfl

/-- Operators make of the values of their operands what they make of the operands. -/
theorem valueBy_operator (op : Operator) {l r : Expr}
    (hl : call l = (l.value names).mapError .fault)
    (hr : call r = (r.value names).mapError .fault) :
    valueBy call names (binary op l r) = ((binary op l r).value names).mapError .fault := by
  by_cases hb : op = .both
  · subst hb
    rw [valueBy, value_both, hl, hr]
    cases l.value names with
    | error f => rfl
    | ok v =>
      simp only [Except.mapError, Except.bind]
      cases v.truthy with
      | false => rfl
      | true => cases r.value names <;> rfl
  by_cases he : op = .either
  · subst he
    rw [valueBy, value_either, hl, hr]
    cases l.value names with
    | error f => rfl
    | ok v =>
      simp only [Except.mapError, Except.bind]
      cases v.truthy with
      | true => rfl
      | false => cases r.value names <;> rfl
  by_cases hm : op = .isMatch
  · subst hm
    rcases r.eq_pattern_or_ne with ⟨body, flags, rfl⟩ | hr'
    · rw [valueBy, value_isMatch_pattern, hl]
      cases l.value names with
      | error f => rfl
      | ok v => cases compilePattern body flags <;> rfl
    · rw [valueBy_isMatch_of_ne_pattern hr', value_isMatch_of_ne_pattern hr']
      rfl
  · rw [valueBy_binary hb he hm, value_binary hb he hm, hl, hr]
    cases l.value names with
    | error f => rfl
    | ok v => cases r.value names <;> rfl

/-- A node has the value that its children make, if the calls give the children's values. -/
theorem valueBy_eq {e : Expr}
    (h : ∀ child ∈ e.children, call child = (child.value names).mapError .fault) :
    valueBy call names e = (e.value names).mapError .fault := by
  cases e with
  | array es =>
    have hes : es.mapM call = (valuesOf names es).mapError .fault := mapM_call h
    rw [valueBy, hes, value]
    cases valuesOf names es <;> rfl
  | not e =>
    rw [valueBy, h e List.mem_cons_self, value]
    cases e.value names <;> rfl
  | binary op l r =>
    exact valueBy_operator op (h l List.mem_cons_self)
      (h r (List.mem_cons_of_mem l List.mem_cons_self))
  | _ => rw [valueBy, value]; rfl

/-- **A tree that is not high is evaluated without many calls inside one another.** -/
theorem valueWithin_eq {calls : Nat} {e : Expr} (h : e.height ≤ calls) (names : Values) :
    valueWithin names calls e = (e.value names).mapError .fault := by
  induction calls generalizing e with
  | zero => exact absurd h (Nat.not_le_of_lt e.height_pos)
  | succ calls ih =>
    rw [valueWithin]
    refine valueBy_eq fun child hchild => ih ?_
    exact Nat.le_of_lt_succ (Nat.lt_of_lt_of_le (height_lt_of_mem_children hchild) h)

/-! ## Collecting names -/

/-- The names of a tree, where no more than `calls` calls may stand inside one another. -/
def identifiersWithin : (calls : Nat) → Expr → Option (List String)
  | 0, _ => none
  | _ + 1, identifier name => some [name]
  | calls + 1, e => (e.children.mapM (identifiersWithin calls)).map List.flatten

/-- The names in an expression are those in its children, in order, unless the expression is a
name. -/
theorem identifiers_eq_flatMap {e : Expr} (h : ∀ name, e ≠ identifier name) :
    e.identifiers = e.children.flatMap identifiers := by
  have hitems (es : List Expr) : identifiersOf es = es.flatMap identifiers := by
    induction es with
    | nil => rfl
    | cons e es ih => rw [identifiersOf, ih, List.flatMap_cons]
  cases e with
  | binary op l r => simp [identifiers, children]
  | not e => simp [identifiers, children]
  | identifier name => exact absurd rfl (h name)
  | array es => exact hitems es
  | _ => rfl

/-- Collecting names with one more call goes through the children with the calls that are left. -/
theorem identifiersWithin_succ {e : Expr} (h : ∀ name, e ≠ identifier name) (calls : Nat) :
    identifiersWithin (calls + 1) e =
      (e.children.mapM (identifiersWithin calls)).map List.flatten := by
  cases e with
  | identifier name => exact absurd rfl (h name)
  | _ => rfl

/-- If the calls suffice for each element, they suffice for all, and give the names of all. -/
theorem mapM_identifiersWithin {calls : Nat} {es : List Expr}
    (h : ∀ e ∈ es, identifiersWithin calls e = some e.identifiers) :
    es.mapM (identifiersWithin calls) = some (es.map identifiers) := by
  induction es with
  | nil => rfl
  | cons e es ih =>
    rw [List.mapM_cons, h e List.mem_cons_self, ih fun d hd => h d (List.mem_cons_of_mem e hd)]
    rfl

/-- **The names of a tree that is not high are collected without many calls inside one another.** -/
theorem identifiersWithin_eq {calls : Nat} {e : Expr} (h : e.height ≤ calls) :
    identifiersWithin calls e = some e.identifiers := by
  induction calls generalizing e with
  | zero => exact absurd h (Nat.not_le_of_lt e.height_pos)
  | succ calls ih =>
    by_cases hname : ∃ name, e = identifier name
    · obtain ⟨name, rfl⟩ := hname
      rfl
    · have hne : ∀ name, e ≠ identifier name := fun name heq => hname ⟨name, heq⟩
      have hchildren : ∀ child ∈ e.children,
          identifiersWithin calls child = some child.identifiers := fun child hchild =>
        ih (Nat.le_of_lt_succ (Nat.lt_of_lt_of_le (height_lt_of_mem_children hchild) h))
      rw [identifiersWithin_succ hne, identifiers_eq_flatMap hne, mapM_identifiersWithin hchildren,
        List.flatMap_def]
      rfl

/-! ## Stacks -/

/-- No work on a tree needs more than `calls` calls inside one another: not if it goes from each
node to the children of the node, as when the tree is given up, and not evaluating it or collecting
its names. -/
structure IsShallow (calls : Nat) (e : Expr) : Prop where
  path : ∀ path, ((e :: path).IsChain fun parent child => child ∈ parent.children) →
    (e :: path).length ≤ calls
  value : ∀ names, valueWithin names calls e = (e.value names).mapError .fault
  identifiers : identifiersWithin calls e = some e.identifiers

/-- With as many calls as the tree is high no call is missing, whether it is evaluated or searched
for names. -/
theorem isShallow_of_height_le {calls : Nat} {e : Expr} (h : e.height ≤ calls) :
    e.IsShallow calls where
  path := fun _ hpath => Nat.le_trans (length_le_height hpath) h
  value := valueWithin_eq h
  identifiers := identifiersWithin_eq h

end Expr

end When
end CommitForm
