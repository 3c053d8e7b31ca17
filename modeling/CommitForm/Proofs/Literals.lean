/-
# Names stand for literals

| a name bound to | stands for |
| --- | --- |
| a text | the string literal |
| a list of texts | the array of their string literals |
| nothing | itself |

`Expr.instantiate` puts the literals in the places of the names.  Evaluating the result where
nothing is bound is evaluating the expression where the names are (`eval_instantiate`).  More
generally the names that are left may have values too, and the two sets of values then act as one
(`Expr.value_instantiate`); that is an induction on the tree in which each operator hands on what
its operands come to.  The right operand of `=~` is read as it stands, so it matters there that a
literal is no more a pattern than the name was.
-/

import CommitForm.Proofs.FailClosed

namespace CommitForm
namespace When

namespace Expr

/-- The literal of a field's value: a string, or an array of strings. -/
def literal : FieldValue → Expr
  | .single text => string text
  | .multiple items => array (items.map string)

mutual

/-- An expression with literals in the places of the names that are bound; other names stay as they
are. -/
def instantiate (names : Values) : Expr → Expr
  | binary op l r => binary op (l.instantiate names) (r.instantiate names)
  | not e => not (e.instantiate names)
  | identifier name => ((names.get? name).map literal).getD (identifier name)
  | array es => array (instantiateAll names es)
  | e => e

/-- The elements of an array with literals in the places of the names that are bound. -/
def instantiateAll (names : Values) : List Expr → List Expr
  | [] => []
  | e :: es => e.instantiate names :: instantiateAll names es

end

/-! ## Literals -/

/-- Strings have their own values, element by element, whatever is bound. -/
theorem valuesOf_map_string (names : Values) (items : List String) :
    valuesOf names (items.map string) = .ok (items.map Value.string) := by
  induction items with
  | nil => rfl
  | cons item items ih =>
    rw [List.map_cons, valuesOf, value, ih]
    rfl

/-- A literal has the value it was made of, whatever is bound, since no name occurs in it. -/
theorem value_literal (names : Values) (v : FieldValue) :
    (literal v).value names = .ok (.ofFieldValue v) := by
  cases v with
  | single text => rfl
  | multiple items =>
    rw [literal, value, valuesOf_map_string]
    rfl

/-- A literal is no pattern, so putting one in place of a name does not change what `=~` finds on
its right. -/
theorem literal_ne_pattern (v : FieldValue) (body flags : String) :
    literal v ≠ pattern body flags := by
  cases v <;> simp [literal]

/-- A pattern literal stays as it is, since it holds no names. -/
theorem instantiate_pattern (names : Values) (body flags : String) :
    (pattern body flags).instantiate names = pattern body flags := by simp only [instantiate]

/-- What is no pattern literal does not become one, so `=~` has the same fault before and after. -/
theorem instantiate_ne_pattern {e : Expr} (h : ∀ body flags, e ≠ pattern body flags)
    (names : Values) (body flags : String) : e.instantiate names ≠ pattern body flags := by
  cases e with
  | pattern b f => exact absurd rfl (h b f)
  | identifier name =>
    rw [instantiate]
    cases names.get? name with
    | none => simp
    | some v => exact literal_ne_pattern v body flags
  | _ => simp [instantiate]

/-! ## Values -/

variable {u v w : Values}

/-- A name has its value either from the literal in its place or from what is bound later, and
together these are all values. -/
theorem value_instantiate_identifier (h : ∀ name, u.get? name = (v.get? name).or (w.get? name))
    (name : String) : ((identifier name).instantiate v).value w = (identifier name).value u := by
  rw [instantiate, value, h]
  cases v.get? name with
  | none => rfl
  | some x => exact value_literal w x

/-- An operator makes the same of operands of the same values, also where it looks at their form. -/
theorem value_instantiate_binary {l r : Expr} (op : Operator)
    (hl : (l.instantiate v).value w = l.value u) (hr : (r.instantiate v).value w = r.value u) :
    ((binary op l r).instantiate v).value w = (binary op l r).value u := by
  rw [instantiate]
  cases op with
  | both => rw [value_both, value_both, hl, hr]
  | either => rw [value_either, value_either, hl, hr]
  | isMatch =>
    rcases r.eq_pattern_or_ne with ⟨body, flags, rfl⟩ | hr'
    · rw [instantiate_pattern, value_isMatch_pattern, value_isMatch_pattern, hl]
    · rw [value_isMatch_of_ne_pattern hr',
        value_isMatch_of_ne_pattern (instantiate_ne_pattern hr' v)]
  | _ =>
    rw [value_binary (by decide) (by decide) (by decide),
      value_binary (by decide) (by decide) (by decide), hl, hr]

mutual

/-- **What is bound may stand in the expression or in the values:** literals for the names of `v`
leave the value where `w` binds the rest. -/
theorem value_instantiate (h : ∀ name, u.get? name = (v.get? name).or (w.get? name)) (e : Expr) :
    (e.instantiate v).value w = e.value u := by
  cases e with
  | binary op l r =>
    exact value_instantiate_binary op (value_instantiate h l) (value_instantiate h r)
  | not e => rw [instantiate, value_not, value_not, value_instantiate h e]
  | identifier name => exact value_instantiate_identifier h name
  | array es => rw [instantiate, value, value, valuesOf_instantiateAll h es]
  | _ => simp only [instantiate, value]

/-- Elements have the same values with literals in the places of names, by recursion along the
elements. -/
theorem valuesOf_instantiateAll (h : ∀ name, u.get? name = (v.get? name).or (w.get? name))
    (es : List Expr) : valuesOf w (instantiateAll v es) = valuesOf u es := by
  cases es with
  | nil => rfl
  | cons e es =>
    rw [instantiateAll, valuesOf, valuesOf, value_instantiate h e, valuesOf_instantiateAll h es]

end

/-! ## Names -/

/-- No name occurs among strings. -/
theorem identifiersOf_map_string (items : List String) :
    identifiersOf (items.map string) = [] := by
  induction items with
  | nil => rfl
  | cons item items ih =>
    rw [List.map_cons, identifiersOf, ih]
    rfl

/-- No name occurs in a literal. -/
theorem identifiers_literal (v : FieldValue) : (literal v).identifiers = [] := by
  cases v with
  | single text => rfl
  | multiple items => exact identifiersOf_map_string items

mutual

/-- The names that are left are those that are not bound, in the order in which they stood. -/
theorem identifiers_instantiate (names : Values) (e : Expr) :
    (e.instantiate names).identifiers = e.identifiers.filter fun name => !names.contains name := by
  cases e with
  | binary op l r =>
    rw [instantiate, identifiers, identifiers, List.filter_append, identifiers_instantiate names l,
      identifiers_instantiate names r]
  | not e => exact identifiers_instantiate names e
  | identifier name =>
    rw [instantiate, identifiers, List.filter_cons, NameMap.contains]
    cases names.get? name with
    | none => rfl
    | some v => exact identifiers_literal v
  | array es => exact identifiersOf_instantiateAll names es
  | _ => rfl

/-- The names that are left in elements are those that are not bound, element by element. -/
theorem identifiersOf_instantiateAll (names : Values) (es : List Expr) :
    identifiersOf (instantiateAll names es) =
      (identifiersOf es).filter fun name => !names.contains name := by
  cases es with
  | nil => rfl
  | cons e es =>
    rw [instantiateAll, identifiersOf, identifiersOf, List.filter_append,
      identifiers_instantiate names e, identifiersOf_instantiateAll names es]

end

end Expr

/-- **Looking names up is putting literals in their places:** where nothing is bound, the
instantiated expression has the value, the verdict or the fault that the expression has where its
names are bound; and the names left in it are those that are not. -/
theorem eval_instantiate (e : Expr) (names : Values) :
    (e.instantiate names).value .empty = e.value names ∧
      (e.instantiate names).holds .empty = e.holds names ∧
      (e.instantiate names).identifiers =
        e.identifiers.filter fun name => !names.contains name := by
  have hvalue : (e.instantiate names).value .empty = e.value names :=
    Expr.value_instantiate (fun name => by rw [NameMap.get?_empty, Option.or_none]) e
  refine ⟨hvalue, ?_, Expr.identifiers_instantiate names e⟩
  rw [Expr.holds, Expr.holds, hvalue]

end When
end CommitForm
