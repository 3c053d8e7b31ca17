/-
# The ordering operators

`<`, `<=`, `>` and `>=` ask for one order of two values, in which an array counts as its text.

| two values | are in the order of |
| --- | --- |
| of which each is a text or an array | their texts |
| of other kinds that count as numbers | their numbers |
| of other kinds, one of them counting as `NaN` | nothing: all four operators answer no |

Exchanging the values turns the order around (`Value.compare?_swap`), and there is one exactly if
the values are `Comparable`.  The four operators read off this one order, so they agree with each
other (`compares_orderings`).
-/

import CommitForm.Proofs.Equality

namespace CommitForm

namespace Binary64

/-- Only `NaN` has no order with a number, nor with itself. -/
theorem compare?_eq_none_iff {a b : Binary64} : a.compare? b = none ↔ a = nan ∨ b = nan := by
  rw [compare?, ← rank?_eq_none_iff, ← rank?_eq_none_iff]
  cases a.rank? with
  | none => simp
  | some i => cases b.rank? <;> simp

/-- Exchanging two numbers turns their order around, and where they have none there is none. -/
theorem compare?_swap (a b : Binary64) : b.compare? a = (a.compare? b).map Ordering.swap := by
  rw [compare?, compare?]
  cases a.rank? with
  | none => cases b.rank? <;> rfl
  | some i =>
    cases b.rank? with
    | none => rfl
    | some j => exact congrArg some (Int.compare_swap i j).symm

end Binary64

namespace When

/-- The operators that ask for the order of two values, apart from those that ask for equality. -/
def Operator.orderings : List Operator := [.lt, .le, .gt, .ge]

/-- What holds of all orderings holds of each of the four, which takes a statement about them
apart. -/
theorem Operator.forall_mem_orderings {p : Operator → Prop} :
    (∀ op ∈ orderings, p op) ↔ p .lt ∧ p .le ∧ p .gt ∧ p .ge := by simp [orderings]

/-- The orderings are comparisons, which evaluate both operands. -/
theorem Operator.isComparison_of_mem_orderings :
    ∀ op ∈ orderings, op.isComparison = true := by decide

namespace Value

variable {a b : Value}

/-! ## Flattening -/

/-- Flattening a value a second time changes nothing. -/
theorem flatten_flatten (a : Value) : a.flatten.flatten = a.flatten := by cases a <;> rfl

/-- A value counts as the same number when it is flattened. -/
theorem toNumber_flatten (a : Value) : a.flatten.toNumber = a.toNumber := by cases a <;> rfl

/-- Flattening the left value does not change the order. -/
theorem compare?_flatten_left (a b : Value) : a.flatten.compare? b = a.compare? b := by
  rw [compare?, compare?, flatten_flatten]

/-- Flattening the right value does not change the order. -/
theorem compare?_flatten_right (a b : Value) : a.compare? b.flatten = a.compare? b := by
  rw [compare?, compare?, flatten_flatten]

/-! ## The order of two values -/

/-- Two values that are texts when arrays are flattened, and so are compared as texts and not as
numbers. -/
def AreTexts (a b : Value) : Prop := ∃ s t, a.flatten = string s ∧ b.flatten = string t

/-- Whether two values are texts does not depend on their order. -/
theorem AreTexts.symm (h : a.AreTexts b) : b.AreTexts a := by
  obtain ⟨s, t, ha, hb⟩ := h
  exact ⟨t, s, hb, ha⟩

/-- Texts are compared by their characters and always have an order. -/
theorem compare?_of_texts {s t : String} (ha : a.flatten = string s) (hb : b.flatten = string t) :
    a.compare? b = some (compare s t) := by
  rw [compare?, ha, hb]

/-- Where one of two values is no text, both count as numbers. -/
theorem compare?_of_not_areTexts (h : ¬ a.AreTexts b) :
    a.compare? b = a.toNumber.compare? b.toNumber := by
  rw [compare?]
  split
  · next s t ha hb => exact absurd ⟨s, t, ha, hb⟩ h
  · rw [toNumber_flatten, toNumber_flatten]

/-- **Exchanging two values turns their order around,** as texts and as numbers. -/
theorem compare?_swap (a b : Value) : b.compare? a = (a.compare? b).map Ordering.swap := by
  by_cases h : a.AreTexts b
  · obtain ⟨s, t, ha, hb⟩ := h
    rw [compare?_of_texts ha hb, compare?_of_texts hb ha]
    exact congrArg some Std.OrientedOrd.eq_swap
  · rw [compare?_of_not_areTexts h, compare?_of_not_areTexts fun h' => h h'.symm,
      Binary64.compare?_swap]

/-- Two values that have an order: texts, or values that count as numbers; a value that is no number
has none with anything but texts. -/
def Comparable (a b : Value) : Prop :=
  a.AreTexts b ∨ a.toNumber ≠ .nan ∧ b.toNumber ≠ .nan

/-- Two values have no order just if they are not both texts and one of them counts as no number. -/
theorem compare?_eq_none_iff : a.compare? b = none ↔ ¬ a.Comparable b := by
  rw [Comparable]
  by_cases h : a.AreTexts b
  · obtain ⟨s, t, ha, hb⟩ := h
    rw [compare?_of_texts ha hb]
    exact iff_of_false nofun fun hno => hno (.inl ⟨s, t, ha, hb⟩)
  · rw [compare?_of_not_areTexts h, Binary64.compare?_eq_none_iff]
    simp only [h, false_or, not_and_or, ne_eq, not_not]

/-- Two values of which neither is before the other, though they have an order. -/
def Level (a b : Value) : Prop :=
  compares .le a b = true ∧ compares .ge a b = true ∧ compares .lt a b = false ∧
    compares .gt a b = false

end Value

/-- **The four ordering operators agree with each other.**  Exchanging the values exchanges `<` with
`>` and `<=` with `>=`.  Of two values that have an order the first is before the second, behind it
or level with it, and `<=` says that it is not behind; without an order no operator holds.  An array
may be replaced by its text, and expressions are ordered as their values are. -/
theorem compares_orderings (a b : Value) :
    (compares .lt a b = compares .gt b a ∧ compares .le a b = compares .ge b a) ∧
      (a.Comparable b →
        ((compares .lt a b = true ∧ compares .gt a b = false ∧ ¬ a.Level b) ∨
            (compares .lt a b = false ∧ compares .gt a b = true ∧ ¬ a.Level b) ∨
            (compares .lt a b = false ∧ compares .gt a b = false ∧ a.Level b)) ∧
          (compares .le a b = true ↔ compares .lt a b = true ∨ a.Level b)) ∧
      (¬ a.Comparable b → ∀ op ∈ Operator.orderings, compares op a b = false) ∧
      (∀ op ∈ Operator.orderings,
        compares op a.flatten b = compares op a b ∧ compares op a b.flatten = compares op a b) ∧
      ∀ names l r, l.value names = .ok a → r.value names = .ok b → ∀ op ∈ Operator.orderings,
        (Expr.binary op l r).holds names = .ok (compares op a b) := by
  refine ⟨?_, fun h => ?_, fun h => ?_, ?_, fun names l r hl hr op hop => ?_⟩
  · simp only [compares, a.compare?_swap b]
    cases a.compare? b with
    | none => exact ⟨rfl, rfl⟩
    | some o => cases o <;> exact ⟨rfl, rfl⟩
  · obtain ⟨o, ho⟩ := Option.ne_none_iff_exists'.1 fun hno => Value.compare?_eq_none_iff.1 hno h
    simp only [Value.Level, compares, ho]
    cases o <;> decide
  · have hnone : a.compare? b = none := Value.compare?_eq_none_iff.2 h
    simp only [Operator.forall_mem_orderings, compares, hnone]
    decide
  · simp only [Operator.forall_mem_orderings, compares, Value.compare?_flatten_left,
      Value.compare?_flatten_right, and_self]
  · exact Expr.holds_comparison (Operator.isComparison_of_mem_orderings op hop) hl hr

/-- `['10']` is before the text `9` but behind the number `1`, and `[b, 'x']` has no order with that
number. -/
theorem compares_orderings_arrays :
    let one := Value.number .one
    let ten := Value.array [.string "10"]
    let word := Value.array [.undefined, .string "x"]
    let names : Values := NameMap.ofList [("tens", .multiple ["10"])]
    (ten.Comparable (.string "9") ∧ compares .lt ten (.string "9") = true ∧
        compares .le ten (.string "9") = true ∧ compares .gt (.string "9") ten = true) ∧
      (one.Comparable ten ∧ compares .lt one ten = true ∧ compares .le one ten = true ∧
        compares .gt ten one = true) ∧
      (¬ word.Comparable one ∧ ∀ op ∈ Operator.orderings, compares op word one = false) ∧
      (Expr.identifier "tens").value names = .ok ten ∧
      (Expr.string "9").value names = .ok (.string "9") ∧
      (Expr.binary .lt (.identifier "tens") (.string "9")).holds names = .ok true := by
  intro one ten word names
  have htexts : ten.Comparable (.string "9") := .inl ⟨"10", "9", rfl, rfl⟩
  have hnumbers : one.Comparable ten := .inr ⟨by decide, by decide +kernel⟩
  have hword : ¬ word.Comparable one := by
    rintro (⟨s, t, -, ht⟩ | ⟨h, -⟩)
    · cases ht
    · exact h (by decide +kernel)
  have htext : compares .lt ten (.string "9") = true := by decide +kernel
  have hnumber : compares .lt one ten = true := by decide +kernel
  have htens : (Expr.identifier "tens").value names = .ok ten := rfl
  obtain ⟨⟨hswap, -⟩, hle, -, -, hvalues⟩ := compares_orderings ten (.string "9")
  obtain ⟨⟨hswap', -⟩, hle', -⟩ := compares_orderings one ten
  refine ⟨⟨htexts, htext, (hle htexts).2.2 (.inl htext), hswap.symm.trans htext⟩,
    ⟨hnumbers, hnumber, (hle' hnumbers).2.2 (.inl hnumber), hswap'.symm.trans hnumber⟩,
    ⟨hword, (compares_orderings word one).2.2.1 hword⟩, htens, rfl, ?_⟩
  rw [hvalues names _ _ htens rfl .lt List.mem_cons_self, htext]

end When
end CommitForm
