/-
# The grammar of when-clauses

| rule | tokens |
| --- | --- |
| `Sentence` | `both ('\|\|' both)*` with `both := relation ('&&' relation)*` |
| | and `relation := unary (op unary)*` |
| `Unary` | `'!' unary \| primary` |
| `Primary` | `'(' sentence ')' \| '[' (primary (',' primary)*)? ']' \| literal \| name` |

A rule also counts the tokens `!`, `(` and `[` that are open at once.  A `!` is open until its
operand ends, and the count of a rule is the greatest one at any of its tokens.

The grammar is unambiguous (`Sentence.unique`).  A derivation is compared with another one of the
same tokens from left to right, so the comparison allows for what follows: tokens that do not go on
with an operator of the rule (`Stops`).  Chains are built at their right end but compared from their
left end; `Continues` is the view of a chain from there.
-/

import CommitForm.When.Parser

namespace CommitForm
namespace When

/-- A rule of the grammar: tokens, the tree they stand for, and the greatest number of opening
tokens that are open at once. -/
abbrev Rule := List Token → Expr → Nat → Prop

/-- Operands with operators of one level between them, grouped to the left; the height of each new
node is counted on. -/
inductive Chain (level : Level) (operand : Rule) : List Token → Expr → Nat → Prop where
  | single {ts : List Token} {e : Expr} {n : Nat} (h : operand ts e n) :
      Chain level operand ts e n
  | more {op : Operator} {ts us : List Token} {l r : Expr} {m n : Nat} (hop : op.level = level)
      (hl : Chain level operand ts l m) (hr : operand us r n) :
      Chain level operand (ts ++ .operator op :: us) (.binary op l r) (max m n)

/-- Elements with commas between them, at least one; a comma at the end is not one of these. -/
inductive Items (element : Rule) : List Token → List Expr → Nat → Prop where
  | last {ts : List Token} {e : Expr} {n : Nat} (h : element ts e n) : Items element ts [e] n
  | more {ts us : List Token} {e : Expr} {es : List Expr} {m n : Nat} (h : element ts e m)
      (hs : Items element us es n) : Items element (ts ++ .comma :: us) (e :: es) (max m n)

mutual

/-- Operands of the tightest operators: any number of signs of negation in front of a `Primary`. -/
inductive Unary : List Token → Expr → Nat → Prop where
  | not {ts : List Token} {e : Expr} {n : Nat} (h : Unary ts e n) :
      Unary (.not :: ts) (.not e) (n + 1)
  | primary {ts : List Token} {e : Expr} {n : Nat} (h : Primary ts e n) : Unary ts e n

/-- Literals, names, arrays and whatever stands in parentheses, which leave no node but count for
the height. -/
inductive Primary : List Token → Expr → Nat → Prop where
  | parens {ts : List Token} {e : Expr} {n : Nat}
      (h : Chain .either (Chain .both (Chain .relation Unary)) ts e n) :
      Primary (.openParen :: ts ++ [.closeParen]) e (n + 1)
  | emptyArray : Primary [.openBracket, .closeBracket] (.array []) 1
  | array {ts : List Token} {es : List Expr} {n : Nat} (h : Items Primary ts es n) :
      Primary (.openBracket :: ts ++ [.closeBracket]) (.array es) (n + 1)
  | pattern {body flags : String} (hbody : body ≠ "") (hflags : '/' ∉ flags.toList) :
      Primary [.pattern ("/" ++ body ++ "/" ++ flags)] (.pattern body flags) 0
  | string (s : String) : Primary [.string s] (.string s) 0
  | number (n : Binary64) : Primary [.number n] (.number n) 0
  | identifier (name : String) : Primary [.identifier name] (.identifier name) 0

end

/-- The rule of whole expressions, three levels of chains around the operands of the tightest. -/
abbrev Sentence : Rule := Chain .either (Chain .both (Chain .relation Unary))

/-! ## Where a rule ends -/

/-- How tight the operators of a level bind, from the loosest on, to compare levels by numbers. -/
def Level.strength : Level → Nat
  | .either => 0
  | .both => 1
  | .relation => 2

/-- Tokens that do not begin with an operator of a strength or of a greater one. -/
def Stops (strength : Nat) (ts : List Token) : Prop :=
  ∀ op : Operator, ts.head? = some (.operator op) → op.level.strength < strength

/-- Every level binds looser than operands do, for which the number three stands. -/
theorem strength_lt_three (level : Level) : level.strength < 3 := by cases level <;> decide

/-- Nothing binds tighter than an operand, so an operand stops wherever it ends. -/
theorem stops_three (ts : List Token) : Stops 3 ts := fun op _ => strength_lt_three op.level

/-- What ends the operators of some strength ends those of greater strength, since all tighter
operators are among those that it ends. -/
theorem Stops.mono {a b : Nat} {ts : List Token} (h : Stops a ts) (hab : a ≤ b) : Stops b ts :=
  fun op hop => Nat.lt_of_lt_of_le (h op hop) hab

/-- An operator of a level ends all chains of tighter levels. -/
theorem stops_operator {op : Operator} {level : Level} (hop : op.level = level) (ts : List Token) :
    Stops (level.strength + 1) (.operator op :: ts) := by
  intro op' h
  simp only [List.head?_cons, Option.some.injEq, Token.operator.injEq] at h
  rw [← h, hop]
  exact Nat.lt_succ_self _

/-- A token that is no operator ends the chains of all levels. -/
theorem stops_cons {t : Token} (ht : ∀ op, t ≠ .operator op) (strength : Nat) (ts : List Token) :
    Stops strength (t :: ts) := by
  intro op h
  exact absurd (Option.some.inj h) (ht op)

/-- An operator of a level goes on with a chain of that level, so a chain that stops there is not
finished. -/
theorem not_stops_operator {op : Operator} {level : Level} (hop : op.level = level)
    (ts : List Token) : ¬ Stops level.strength (.operator op :: ts) := by
  intro h
  have := h op rfl
  rw [hop] at this
  exact Nat.lt_irrefl _ this

/-! ## Chains from their left end -/

/-- What follows the first operands of a chain: `l` is the tree before, `e` the tree after. -/
inductive Continues (level : Level) (operand : Rule) :
    Expr → Nat → List Token → Expr → Nat → Prop where
  | done {e : Expr} {n : Nat} : Continues level operand e n [] e n
  | more {op : Operator} {us ts : List Token} {l r e : Expr} {m k n : Nat}
      (hop : op.level = level) (hr : operand us r k)
      (h : Continues level operand (.binary op l r) (max m k) ts e n) :
      Continues level operand l m (.operator op :: us ++ ts) e n

section

variable {level : Level} {operand : Rule} {ts us : List Token} {l r e : Expr} {m n k : Nat}

/-- Going on with a chain never lowers it, since each node stands above the tree so far. -/
theorem Continues.le (h : Continues level operand l m ts e n) : m ≤ n := by
  induction h with
  | done => exact Nat.le_refl _
  | more _ _ _ ih => omega

/-- What goes on with a chain goes on further by an operator of its level and an operand. -/
theorem Continues.append {op : Operator} (hop : op.level = level)
    (h : Continues level operand l m ts e n) (hr : operand us r k) :
    Continues level operand l m (ts ++ .operator op :: us) (.binary op e r) (max n k) := by
  induction h with
  | done => simpa using Continues.more hop hr .done
  | more hop' hr' _ ih => simpa using Continues.more hop' hr' ih

/-- **A chain is its first operand and what follows it,** the way in which it is read from left to
right. -/
theorem Chain.exists_continues (h : Chain level operand ts e n) :
    ∃ us vs l m, ts = us ++ vs ∧ operand us l m ∧ Continues level operand l m vs e n := by
  induction h with
  | single h => exact ⟨_, [], _, _, by simp, h, .done⟩
  | more hop _ hr ih =>
    obtain ⟨us, vs, l, m, rfl, hl, hc⟩ := ih
    exact ⟨us, _, l, m, by simp, hl, hc.append hop hr⟩

/-- What follows the first operand of a chain ends all tighter chains: it begins with an operator of
the level or not at all. -/
theorem Continues.stops {rest : List Token} (h : Continues level operand l m ts e n)
    (hrest : Stops level.strength rest) : Stops (level.strength + 1) (ts ++ rest) := by
  cases h with
  | done => exact hrest.mono (Nat.le_succ _)
  | more hop => exact stops_operator hop _

end

/-! ## One tree for each list of tokens -/

/-- Two derivations of a rule that begin alike are the same, wherever the rule ends.  `bound` limits
the count of the first one; the proof that the grammar is unambiguous is an induction on it. -/
def Unambiguous (strength bound : Nat) (rule : Rule) : Prop :=
  ∀ ⦃ts ts' rest rest' : List Token⦄ ⦃e e' : Expr⦄ ⦃m m' : Nat⦄, rule ts e m → m ≤ bound →
    rule ts' e' m' → ts ++ rest = ts' ++ rest' → Stops strength rest → Stops strength rest' →
      ts = ts' ∧ e = e' ∧ m = m'

section

variable {operand : Rule} {bound : Nat}

/-- How a chain goes on is determined by the tokens, if its operands are, by induction on the
operators. -/
theorem Continues.unique {level : Level} (hu : Unambiguous (level.strength + 1) bound operand)
    {ts ts' rest rest' : List Token} {l e e' : Expr} {m n n' : Nat}
    (h : Continues level operand l m ts e n) (hn : n ≤ bound)
    (h' : Continues level operand l m ts' e' n') (heq : ts ++ rest = ts' ++ rest')
    (hrest : Stops level.strength rest) (hrest' : Stops level.strength rest') :
    ts = ts' ∧ e = e' ∧ n = n' := by
  induction h generalizing ts' with
  | done =>
    cases h' with
    | done => exact ⟨rfl, rfl, rfl⟩
    | more hop =>
      rw [List.nil_append] at heq
      exact absurd (heq ▸ hrest) (not_stops_operator hop _)
  | more hop hr hc ih =>
    cases h' with
    | done =>
      rw [List.nil_append] at heq
      exact absurd (heq ▸ hrest') (not_stops_operator hop _)
    | more hop' hr' hc' =>
      simp only [List.cons_append, List.append_assoc, List.cons.injEq, Token.operator.injEq] at heq
      obtain ⟨rfl, heq⟩ := heq
      have hk := hc.le
      obtain ⟨rfl, rfl, rfl⟩ := hu hr (by omega) hr' heq (hc.stops hrest) (hc'.stops hrest')
      obtain ⟨rfl, rfl, rfl⟩ := ih hn hc' (List.append_cancel_left heq)
      exact ⟨rfl, rfl, rfl⟩

/-- Chains of unambiguous operands are unambiguous, where the operands are those of all tighter
levels. -/
theorem Unambiguous.chain (level : Level)
    (hu : Unambiguous (level.strength + 1) bound operand) :
    Unambiguous level.strength bound (Chain level operand) := by
  intro ts ts' rest rest' e e' m m' h hm h' heq hrest hrest'
  obtain ⟨us, vs, l, k, rfl, hl, hc⟩ := h.exists_continues
  obtain ⟨us', vs', l', k', rfl, hl', hc'⟩ := h'.exists_continues
  rw [List.append_assoc, List.append_assoc] at heq
  have hk := hc.le
  obtain ⟨rfl, rfl, rfl⟩ := hu hl (by omega) hl' heq (hc.stops hrest) (hc'.stops hrest')
  obtain ⟨rfl, rfl, rfl⟩ := hc.unique hu hm hc' (List.append_cancel_left heq) hrest hrest'
  exact ⟨rfl, rfl, rfl⟩

/-- Elements are determined by the tokens up to where no comma follows, if each element is. -/
theorem Items.unique (hu : Unambiguous 3 bound operand) {ts ts' rest rest' : List Token}
    {es es' : List Expr} {m m' : Nat} (h : Items operand ts es m) (hm : m ≤ bound)
    (h' : Items operand ts' es' m') (heq : ts ++ rest = ts' ++ rest')
    (hrest : rest.head? ≠ some .comma) (hrest' : rest'.head? ≠ some .comma) :
    ts = ts' ∧ es = es' ∧ m = m' := by
  induction h generalizing ts' es' m' with
  | last he =>
    cases h' with
    | last he' =>
      obtain ⟨rfl, rfl, rfl⟩ := hu he hm he' heq (stops_three _) (stops_three _)
      exact ⟨rfl, rfl, rfl⟩
    | more he' =>
      rw [List.append_assoc] at heq
      obtain ⟨rfl, -, -⟩ := hu he hm he' heq (stops_three _) (stops_three _)
      exact absurd (congrArg List.head? (List.append_cancel_left heq)) hrest
  | more he _ ih =>
    rw [List.append_assoc] at heq
    cases h' with
    | last he' =>
      obtain ⟨rfl, -, -⟩ := hu he (by omega) he' heq (stops_three _) (stops_three _)
      exact absurd (congrArg List.head? (List.append_cancel_left heq)).symm hrest'
    | more he' hs' =>
      rw [List.append_assoc] at heq
      obtain ⟨rfl, rfl, rfl⟩ := hu he (by omega) he' heq (stops_three _) (stops_three _)
      have htail := (List.cons.inj (List.append_cancel_left heq)).2
      obtain ⟨rfl, rfl, rfl⟩ := ih (by omega) hs' htail
      exact ⟨rfl, rfl, rfl⟩

end

/-- The tokens that a `Primary` begins with: literals, names and opening tokens. -/
def Token.beginsPrimary : Token → Bool
  | .number _ | .string _ | .pattern _ | .identifier _ | .openParen | .openBracket => true
  | _ => false

/-- A `Primary` is not empty and begins with one of its tokens. -/
theorem Primary.exists_cons {ts : List Token} {e : Expr} {n : Nat} (h : Primary ts e n) :
    ∃ t us, ts = t :: us ∧ t.beginsPrimary = true := by
  cases h <;> exact ⟨_, _, rfl, rfl⟩

/-- Elements are not empty and begin with one of the tokens of a `Primary`. -/
theorem Items.exists_cons {ts : List Token} {es : List Expr} {n : Nat} (h : Items Primary ts es n) :
    ∃ t us, ts = t :: us ∧ t.beginsPrimary = true := by
  cases h with
  | last h => exact h.exists_cons
  | more h =>
    obtain ⟨t, us, rfl, ht⟩ := h.exists_cons
    exact ⟨t, _, rfl, ht⟩
/-! ## Pattern literals -/

/-- A pattern literal that is written from its parts is cut into these parts again, as the flags
hold no slash. -/
theorem splitPattern?_written {body flags : String} (hbody : body ≠ "")
    (hflags : '/' ∉ flags.toList) :
    splitPattern? ("/" ++ body ++ "/" ++ flags) = some (body, flags) := by
  have hplain : ∀ c ∈ flags.toList.reverse, decide (c ≠ '/') = true := by
    intro c hc
    rw [decide_eq_true_eq]
    rintro rfl
    exact hflags (List.mem_reverse.1 hc)
  have htake : (flags.toList.reverse ++ '/' :: body.toList.reverse).takeWhile (· ≠ '/') =
      flags.toList.reverse := by
    rw [List.takeWhile_append_of_pos hplain]
    simp
  have hdrop : (flags.toList.reverse ++ '/' :: body.toList.reverse).dropWhile (· ≠ '/') =
      '/' :: body.toList.reverse := by
    rw [List.dropWhile_append_of_pos hplain]
    simp
  have hlist : ("/" ++ body ++ "/" ++ flags).toList =
      '/' :: (body.toList ++ '/' :: flags.toList) := by simp
  have hrev : (body.toList ++ '/' :: flags.toList).reverse =
      flags.toList.reverse ++ '/' :: body.toList.reverse := by simp
  rw [splitPattern?, hlist]
  simp only [hrev, htake, hdrop, List.reverse_cons, List.reverse_reverse, List.dropLast_concat]
  split
  · next h => exact absurd (String.toList_eq_nil_iff.1 h) hbody
  · simp

/-- **A pattern literal is cut at its last slash,** into a body that is not empty and flags that
hold no slash. -/
theorem splitPattern?_eq_some_iff {literal body flags : String} :
    splitPattern? literal = some (body, flags) ↔
      literal = "/" ++ body ++ "/" ++ flags ∧ body ≠ "" ∧ '/' ∉ flags.toList := by
  constructor
  · intro h
    rw [splitPattern?] at h
    split at h
    · next cs hcs =>
      have hsplit : cs.reverse.takeWhile (· ≠ '/') ++ cs.reverse.dropWhile (· ≠ '/') = cs.reverse :=
        List.takeWhile_append_dropWhile
      have hplain : ∀ c ∈ cs.reverse.takeWhile (· ≠ '/'), c ≠ '/' := by
        intro c hc
        simpa using List.all_eq_true.1 List.all_takeWhile c hc
      have hhead := List.head?_dropWhile_not (fun c => decide (c ≠ '/')) cs.reverse
      generalize cs.reverse.takeWhile (· ≠ '/') = front at h hsplit hplain
      generalize cs.reverse.dropWhile (· ≠ '/') = back at h hsplit hhead
      cases back with
      | nil => simp at h
      | cons c back =>
        obtain rfl : c = '/' := by simpa using hhead
        have hcs' : cs = back.reverse ++ '/' :: front.reverse := by
          simpa using (congrArg List.reverse hsplit).symm
        simp only [List.reverse_cons, List.dropLast_concat] at h
        split at h
        · simp at h
        · next hback =>
          simp only [Option.some.injEq, Prod.mk.injEq] at h
          obtain ⟨rfl, rfl⟩ := h
          refine ⟨?_, fun he => hback (String.ofList_eq_empty_iff.1 he), ?_⟩
          · rw [← String.toList_inj, hcs, hcs']
            simp
          · intro hmem
            rw [String.toList_ofList, List.mem_reverse] at hmem
            exact hplain _ hmem rfl
    · simp at h
  · rintro ⟨rfl, hbody, hflags⟩
    exact splitPattern?_written hbody hflags

/-! ## One tree for each sentence -/

section

variable {bound : Nat}

/-- Sentences are unambiguous if the operands in them are, through the three levels of chains. -/
theorem Unambiguous.sentence (hu : Unambiguous 3 bound Unary) : Unambiguous 0 bound Sentence :=
  Unambiguous.chain .either (Unambiguous.chain .both (Unambiguous.chain .relation hu))

/-- The first token tells the form of an operand; inside brackets the count is smaller. -/
theorem unambiguous_primary (hu : ∀ n < bound, Unambiguous 3 n Unary)
    (hp : ∀ n < bound, Unambiguous 3 n Primary) : Unambiguous 3 bound Primary := by
  intro ts ts' rest rest' e e' m m' h hm h' heq _ _
  cases h with
  | @parens us _ n hs =>
    cases h' <;> simp at heq
    next us' n' hs' =>
      obtain ⟨rfl, rfl, rfl⟩ := (hu n hm).sentence hs (Nat.le_refl _) hs' heq
        (stops_cons (by simp) _ _) (stops_cons (by simp) _ _)
      exact ⟨rfl, rfl, rfl⟩
  | emptyArray =>
    cases h' with
    | emptyArray => exact ⟨rfl, rfl, rfl⟩
    | array hs' =>
      obtain ⟨t, us, rfl, ht⟩ := hs'.exists_cons
      simp only [List.cons_append, List.nil_append, List.cons.injEq, true_and] at heq
      rw [← heq.1] at ht
      exact absurd ht (by decide)
    | _ => simp at heq
  | @array us _ n hs =>
    cases h' with
    | emptyArray =>
      obtain ⟨t, us, rfl, ht⟩ := hs.exists_cons
      simp only [List.cons_append, List.nil_append, List.cons.injEq, true_and] at heq
      rw [heq.1] at ht
      exact absurd ht (by decide)
    | array hs' =>
      simp only [List.cons_append, List.append_assoc, List.nil_append, List.cons.injEq,
        true_and] at heq
      obtain ⟨rfl, rfl, rfl⟩ := hs.unique (hp n hm) (Nat.le_refl _) hs' heq (by simp) (by simp)
      exact ⟨rfl, rfl, rfl⟩
    | _ => simp at heq
  | pattern hbody hflags =>
    cases h' <;> simp only [List.cons_append, List.nil_append, List.cons.injEq,
      Token.pattern.injEq, reduceCtorEq, false_and] at heq
    next hbody' hflags' =>
      have hcut := splitPattern?_written hbody hflags
      rw [heq.1, splitPattern?_written hbody' hflags'] at hcut
      simp only [Option.some.injEq, Prod.mk.injEq] at hcut
      obtain ⟨rfl, rfl⟩ := hcut
      exact ⟨rfl, rfl, rfl⟩
  | _ => cases h' <;> simp_all

/-- Operands with signs in front are unambiguous if those without and all lower ones are. -/
theorem unambiguous_unary (hu : ∀ n < bound, Unambiguous 3 n Unary)
    (hp : Unambiguous 3 bound Primary) : Unambiguous 3 bound Unary := by
  intro ts ts' rest rest' e e' m m' h hm h' heq hrest hrest'
  cases h with
  | @not us _ n h =>
    cases h' with
    | not h' =>
      obtain ⟨rfl, rfl, rfl⟩ := hu n hm h (Nat.le_refl _) h' (List.cons.inj heq).2 hrest hrest'
      exact ⟨rfl, rfl, rfl⟩
    | primary h' =>
      obtain ⟨t, us, rfl, ht⟩ := h'.exists_cons
      rw [← (List.cons.inj heq).1] at ht
      exact absurd ht (by decide)
  | primary h =>
    cases h' with
    | not h' =>
      obtain ⟨t, us, rfl, ht⟩ := h.exists_cons
      rw [(List.cons.inj heq).1] at ht
      exact absurd ht (by decide)
    | primary h' => exact hp h hm h' heq hrest hrest'

/-- Operands up to any height are unambiguous, by induction on the height, both with signs and
without. -/
theorem unambiguous_operand (bound : Nat) :
    Unambiguous 3 bound Unary ∧ Unambiguous 3 bound Primary := by
  induction bound using Nat.strongRecOn with
  | ind bound ih =>
    have hp := unambiguous_primary (fun n hn => (ih n hn).1) fun n hn => (ih n hn).2
    exact ⟨unambiguous_unary (fun n hn => (ih n hn).1) hp, hp⟩

end

/-- **A list of tokens has at most one tree,** and one height, so the grammar decides what a clause
means. -/
theorem Sentence.unique {ts : List Token} {e e' : Expr} {n n' : Nat} (h : Sentence ts e n)
    (h' : Sentence ts e' n') : e = e' ∧ n = n' := by
  have hend : Stops 0 [] := fun op h => by simp at h
  exact ((unambiguous_operand n).1.sentence h (Nat.le_refl _) h' rfl hend hend).2

end When
end CommitForm
