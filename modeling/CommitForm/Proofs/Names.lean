/-
# What a when-clause reads

| of an expression | is |
| --- | --- |
| its leaves, from left to right | the operand tokens of its sentence, in order |
| its identifiers | the names among its leaves, and the names of its identifier nodes |
| its value | the same wherever its identifiers have the same values |

The first line is an induction on the count of a derivation, as nothing else gets smaller in a chain
of one operand.  The last is an induction on the tree (`Expr.value_congr`): the names are looked up
in its identifier nodes and nowhere else.
-/

import CommitForm.Proofs.FailClosed
import CommitForm.Proofs.Parser

namespace CommitForm
namespace When

/-! ## Leaves and operand tokens -/

/-- Whether a token is an operand by itself: a literal or a name. -/
def Token.isOperand : Token → Bool
  | .number _ | .string _ | .pattern _ | .identifier _ => true
  | _ => false

/-- The name that a token stands for, which only the token of an identifier has. -/
def Token.name? : Token → Option String
  | .identifier name => some name
  | _ => none

namespace Expr

mutual

/-- The leaves of an expression from left to right, as the tokens that they are read from. -/
def leaves : Expr → List Token
  | binary _ l r => l.leaves ++ r.leaves
  | not e => e.leaves
  | string s => [.string s]
  | number n => [.number n]
  | identifier name => [.identifier name]
  | array es => leavesOf es
  | pattern body flags => [.pattern ("/" ++ body ++ "/" ++ flags)]

/-- The leaves of expressions from left to right, one expression after the other. -/
def leavesOf : List Expr → List Token
  | [] => []
  | e :: es => e.leaves ++ leavesOf es

end

mutual

/-- The identifiers of an expression are the names among its leaves, in the same order and as
often. -/
theorem identifiers_eq_filterMap (e : Expr) : e.identifiers = e.leaves.filterMap Token.name? := by
  cases e with
  | binary op l r =>
    rw [identifiers, leaves, List.filterMap_append, identifiers_eq_filterMap l,
      identifiers_eq_filterMap r]
  | not e => exact identifiers_eq_filterMap e
  | array es => exact identifiersOf_eq_filterMap es
  | _ => rfl

/-- The identifiers of expressions are the names among their leaves, one expression after the
other. -/
theorem identifiersOf_eq_filterMap (es : List Expr) :
    identifiersOf es = (leavesOf es).filterMap Token.name? := by
  cases es with
  | nil => rfl
  | cons e es =>
    rw [identifiersOf, leavesOf, List.filterMap_append, identifiers_eq_filterMap e,
      identifiersOf_eq_filterMap es]

end

mutual

/-- The name of an identifier node is among the identifiers, wherever in the expression the node
stands. -/
theorem mem_identifiers {e : Expr} {name : String} (h : identifier name ∈ e :: e.descendants) :
    name ∈ e.identifiers := by
  rw [List.mem_cons] at h
  cases e with
  | binary op l r =>
    simp only [descendants, List.cons_append, reduceCtorEq, false_or] at h
    rw [← List.cons_append, List.mem_append] at h
    rw [identifiers, List.mem_append]
    exact h.imp mem_identifiers mem_identifiers
  | not e =>
    have hmem : name ∈ e.identifiers := mem_identifiers (by simpa [descendants] using h)
    exact hmem
  | identifier n => simpa [descendants, identifiers] using h
  | array es =>
    have hmem : name ∈ identifiersOf es := mem_identifiersOf (by simpa [descendants] using h)
    exact hmem
  | _ => simp [descendants] at h

/-- The name of an identifier node below some expressions is among their identifiers. -/
theorem mem_identifiersOf {es : List Expr} {name : String}
    (h : identifier name ∈ descendantsOf es) : name ∈ identifiersOf es := by
  cases es with
  | nil => simp [descendantsOf] at h
  | cons e es =>
    rw [descendantsOf, List.mem_append] at h
    rw [identifiersOf, List.mem_append]
    exact h.imp mem_identifiers mem_identifiersOf

end

end Expr

/-- The operand tokens of a rule, as far as its count is bounded, are the leaves of its tree. -/
def KeepsLeaves (bound : Nat) (rule : Rule) : Prop :=
  ∀ ⦃ts : List Token⦄ ⦃e : Expr⦄ ⦃n : Nat⦄, rule ts e n → n ≤ bound →
    ts.filter Token.isOperand = e.leaves

section

variable {bound : Nat} {operand : Rule}

/-- Chains keep leaves if their operands do, since the operators between them are no leaves. -/
theorem KeepsLeaves.chain (level : Level) (ho : KeepsLeaves bound operand) :
    KeepsLeaves bound (Chain level operand) := by
  intro ts e n h hn
  induction h with
  | single h => exact ho h hn
  | more _ _ hr ih =>
    rw [List.filter_append, List.filter_cons_of_neg (by simp [Token.isOperand]), ih (by omega),
      ho hr (by omega), Expr.leaves]

/-- Elements keep leaves if each of them does, since the commas between them are no leaves. -/
theorem KeepsLeaves.items (ho : KeepsLeaves bound operand) {ts : List Token} {es : List Expr}
    {n : Nat} (h : Items operand ts es n) (hn : n ≤ bound) :
    ts.filter Token.isOperand = Expr.leavesOf es := by
  induction h with
  | last h => rw [ho h hn, Expr.leavesOf, Expr.leavesOf, List.append_nil]
  | more h _ ih =>
    rw [List.filter_append, List.filter_cons_of_neg (by simp [Token.isOperand]), ih (by omega),
      ho h (by omega), Expr.leavesOf]

/-- Sentences keep leaves if the operands in them do, through the three levels of chains. -/
theorem KeepsLeaves.sentence (hu : KeepsLeaves bound Unary) : KeepsLeaves bound Sentence :=
  .chain .either (.chain .both (.chain .relation hu))

/-- Brackets are no operands, and inside them the height is smaller, which is what the induction is
on. -/
theorem keepsLeaves_primary (hu : ∀ n < bound, KeepsLeaves n Unary)
    (hp : ∀ n < bound, KeepsLeaves n Primary) : KeepsLeaves bound Primary := by
  intro ts e n h hn
  cases h with
  | @parens ts _ n hs =>
    rw [← (hu n hn).sentence hs (Nat.le_refl n)]
    simp [Token.isOperand]
  | @array ts es n hs =>
    rw [Expr.leaves, ← (hp n hn).items hs (Nat.le_refl n)]
    simp [Token.isOperand]
  | _ => rfl

/-- Operands up to any height keep leaves, by induction on the height. -/
theorem keepsLeaves_operand (bound : Nat) :
    KeepsLeaves bound Unary ∧ KeepsLeaves bound Primary := by
  induction bound using Nat.strongRecOn with
  | ind bound ih =>
    have hp := keepsLeaves_primary (fun n hn => (ih n hn).1) fun n hn => (ih n hn).2
    refine ⟨fun ts e n h hn => ?_, hp⟩
    cases h with
    | @not ts e n h =>
      rw [List.filter_cons_of_neg (by simp [Token.isOperand]), (ih n hn).1 h (Nat.le_refl n),
        Expr.leaves]
    | primary h => exact hp h hn

end

/-- **The operand tokens of a sentence** are the leaves of its tree, in order. -/
theorem Sentence.filter_isOperand {ts : List Token} {e : Expr} {n : Nat} (h : Sentence ts e n) :
    ts.filter Token.isOperand = e.leaves := (keepsLeaves_operand n).1.sentence h (Nat.le_refl n)

/-- What an expression reads stands among the tokens that it has been read from. -/
theorem identifier_mem_of_parseTokens {ts : List Token} {e : Expr} (h : parseTokens ts = .ok e)
    {name : String} (hname : name ∈ e.identifiers) : .identifier name ∈ ts := by
  obtain ⟨r, hread, rfl⟩ := parseTokens_eq_ok_iff.1 h
  obtain ⟨⟨us, hus⟩, -⟩ := expression_sound hread
  obtain ⟨n, -, hs⟩ := hus.derives
  rw [Expr.identifiers_eq_filterMap, ← hs.filter_isOperand, List.mem_filterMap] at hname
  obtain ⟨t, ht, hnamed⟩ := hname
  have hrest : ts = us ++ r.place.rest := hus.rest
  have hmem : t ∈ ts := hrest ▸ List.mem_append_left _ (List.mem_filter.1 ht).1
  cases t with
  | identifier n => rwa [← Option.some.inj hnamed]
  | _ => cases hnamed

/-! ## Values and names -/

namespace Expr

variable {v w : Values}

mutual

/-- **The value of an expression depends on the names that it reads only,** by induction on the
expression. -/
theorem value_congr {e : Expr} (h : ∀ name ∈ e.identifiers, v.get? name = w.get? name) :
    e.value v = e.value w := by
  cases e with
  | binary op l r =>
    have hl : l.value v = l.value w :=
      value_congr fun name hname => h name (List.mem_append_left _ hname)
    have hr : r.value v = r.value w :=
      value_congr fun name hname => h name (List.mem_append_right _ hname)
    unfold value
    rw [hl, hr]
  | not e =>
    have he : e.value v = e.value w := value_congr h
    simp only [value, he]
  | identifier name => simp only [value, h name (List.mem_singleton_self name)]
  | array es =>
    have hes : valuesOf v es = valuesOf w es := valuesOf_congr h
    simp only [value, hes]
  | _ => simp only [value]

/-- The values of elements depend on the names that they read only. -/
theorem valuesOf_congr {es : List Expr}
    (h : ∀ name ∈ identifiersOf es, v.get? name = w.get? name) :
    valuesOf v es = valuesOf w es := by
  cases es with
  | nil => rfl
  | cons e es =>
    have he : e.value v = e.value w :=
      value_congr fun name hname => h name (List.mem_append_left _ hname)
    have hes : valuesOf v es = valuesOf w es :=
      valuesOf_congr fun name hname => h name (List.mem_append_right _ hname)
    rw [valuesOf, valuesOf, he, hes]

end

end Expr

/-- A text is a clause if it is cut into tokens and these are parsed; the clause keeps the text. -/
theorem Clause.ofSource_eq_ok_iff {source : String} {c : Clause} :
    Clause.ofSource source = .ok c ↔
      ∃ tokens, tokenize source = .ok tokens ∧ parseTokens tokens = .ok c.expr ∧
        c.source = source := by
  obtain ⟨s, e⟩ := c
  rw [Clause.ofSource]
  cases htokens : tokenize source with
  | error f => simp
  | ok tokens =>
    cases hparse : parseTokens tokens with
    | error f => simp [hparse]
    | ok e' => simp [hparse, and_comm, eq_comm]

/-- A text whose tokens are not parsed is no clause, with the fault of the parser as the reason. -/
theorem Clause.ofSource_eq_error {source : String} {tokens : List Token} {e : ParseError}
    (htokens : tokenize source = .ok tokens) (hparse : parseTokens tokens = .error e) :
    Clause.ofSource source = .error (.parse e) := by
  rw [Clause.ofSource, htokens]
  dsimp only
  rw [hparse]

/-- Whether a clause holds depends on the names that it reads only; a text that is no clause holds
for no values. -/
theorem holds_congr {source : String} {v w : Values}
    (h : ∀ c, Clause.ofSource source = .ok c → ∀ name ∈ c.identifiers, v.get? name = w.get? name) :
    holds source v = holds source w := by
  rw [holds, holds, tryHolds, tryHolds]
  cases hc : Clause.ofSource source with
  | error e => rfl
  | ok c =>
    dsimp only
    rw [Expr.holds, Expr.holds, Expr.value_congr (h c hc)]

end When
end CommitForm
