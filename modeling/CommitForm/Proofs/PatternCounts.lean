/-
# Counted repetitions before a closing parenthesis

No counted repetition is completed by a closing parenthesis (`readCounts_append`).
-/

import CommitForm.Proofs.PatternEscapes

namespace CommitForm
namespace Pattern

variable {verbose : Bool}

/-- Blanks in front of a text are dropped the same with a parenthesis behind it, which is no
blank. -/
theorem trimStart_append (cs : List Char) :
    Text.trimStart (cs ++ [')']) = Text.trimStart cs ++ [')'] := by
  induction cs with
  | nil => rfl
  | cons c cs ih =>
    rw [List.cons_append, Text.trimStart, Text.trimStart, List.dropWhile_cons, List.dropWhile_cons]
    split
    · exact ih
    · rfl

/-- Dropping blanks does not make a text longer. -/
theorem length_trimStart_le (cs : List Char) : (Text.trimStart cs).length ≤ cs.length :=
  (List.dropWhile_suffix Text.isBlank).length_le

/-- At the end of the text there are no digits. -/
theorem digits_nil (n : Nat) : readCount.digits verbose n [] = ([], []) := by cases n <;> rfl

/-- Digits are read the same with a parenthesis behind the text, whatever fuel there is besides. -/
theorem digits_append {n m : Nat} {cs : List Char} (hn : cs.length ≤ n) (hm : cs.length < m) :
    Extends Never cs.length (some (readCount.digits verbose n cs))
      (some (readCount.digits verbose m (cs ++ [')']))) := by
  induction n generalizing m cs with
  | zero =>
    obtain rfl := List.length_eq_zero_iff.1 (Nat.le_zero.1 hn)
    obtain ⟨m, rfl⟩ : ∃ k, m = k + 1 := Nat.exists_eq_succ_of_ne_zero (by omega)
    exact .kept [] [] (Nat.le_refl _)
  | succ n ih =>
    obtain ⟨m, rfl⟩ : ∃ k, m = k + 1 := Nat.exists_eq_succ_of_ne_zero (by omega)
    cases cs with
    | nil => exact .kept [] [] (Nat.le_refl _)
    | cons c cs =>
      have hlength := length_skip_le verbose cs
      rw [List.length_cons] at hn hm
      rw [List.cons_append, readCount.digits, readCount.digits]
      split
      · have hrest : Extends Never (cs.length + 1)
            (some (readCount.digits verbose n (skip verbose cs)))
            (some (readCount.digits verbose m (skip verbose (cs ++ [')'])))) :=
          .of_skip (f := fun cs => some (readCount.digits verbose n cs))
            (g := fun cs => some (readCount.digits verbose m cs))
            ((ih (by omega) (by omega)).le (Nat.le_succ_of_le hlength)) fun _ => by
              rw [digits_nil, digits_nil]
              exact .skipped []
        exact hrest.map (f := (c :: ·)) fun _ _ h => h
      · exact .kept [] (c :: cs) (Nat.le_refl _)

/-- Blanks are passed over the same with a parenthesis behind the text, whatever fuel there is
besides. -/
theorem blanks_append {α : Type} (x : α) {n m : Nat} {cs : List Char} (hn : cs.length ≤ n)
    (hm : cs.length < m) :
    Extends Never cs.length (some (x, readCount.blanks verbose n cs))
      (some (x, readCount.blanks verbose m (cs ++ [')']))) := by
  have hnil (n : Nat) : readCount.blanks verbose n [] = [] := by cases n <;> rfl
  induction n generalizing m cs with
  | zero =>
    obtain rfl := List.length_eq_zero_iff.1 (Nat.le_zero.1 hn)
    obtain ⟨m, rfl⟩ : ∃ k, m = k + 1 := Nat.exists_eq_succ_of_ne_zero (by omega)
    exact .kept x [] (Nat.le_refl _)
  | succ n ih =>
    obtain ⟨m, rfl⟩ : ∃ k, m = k + 1 := Nat.exists_eq_succ_of_ne_zero (by omega)
    cases cs with
    | nil => exact .kept x [] (Nat.le_refl _)
    | cons c cs =>
      have hlength := length_skip_le verbose cs
      rw [List.length_cons] at hn hm
      rw [List.cons_append, readCount.blanks, readCount.blanks]
      split
      · refine .of_skip (f := fun cs => some (x, readCount.blanks verbose n cs))
          (g := fun cs => some (x, readCount.blanks verbose m cs)) ?_ fun _ => ?_
        · exact (ih (by omega) (by omega)).le (Nat.le_succ_of_le hlength)
        · rw [hnil, hnil]
          exact .skipped x
      · exact .kept x (c :: cs) (Nat.le_refl _)

/-- The number of decimal digits, up to `2 ^ 32`; none for no digits and from there on. -/
def countOf? (ds : List Char) : Option Nat :=
  let n := ds.foldl (fun n c => min (10 * n + (c.toNat - 48)) (Nat.pow 2 32)) 0
  if ds = [] ∨ Nat.pow 2 32 ≤ n then none else some n

/-- A count step by step: blanks, digits, the number that they are, and blanks again. -/
theorem readCount_eq (cs : List Char) :
    readCount verbose cs =
      (some (readCount.digits verbose (Text.trimStart cs).length (Text.trimStart cs))).bind fun p =>
        (countOf? p.1).bind fun n => some (n, readCount.blanks verbose p.2.length p.2) := by
  simp only [readCount, countOf?, Option.bind_some]
  split
  · rfl
  · rfl

/-- At the end of the text there is no count. -/
theorem readCount_nil : readCount verbose [] = none := by
  have hcount : countOf? [] = none := by
    rw [countOf?]
    exact if_pos (.inl rfl)
  rw [readCount_eq, Text.trimStart, List.dropWhile_nil, digits_nil, Option.bind_some, hcount,
    Option.bind_none]

/-- A parenthesis is no count. -/
theorem readCount_paren : readCount verbose [')'] = none := by
  have hcount : countOf? [] = none := by
    rw [countOf?]
    exact if_pos (.inl rfl)
  have hdigits : readCount.digits verbose (Text.trimStart [')']).length (Text.trimStart [')']) =
      ([], [')']) := rfl
  rw [readCount_eq, hdigits, Option.bind_some, hcount, Option.bind_none]

/-- A count is read the same with a parenthesis behind the text, which is neither a digit nor a
blank. -/
theorem readCount_append (cs : List Char) :
    Extends Never cs.length (readCount verbose cs) (readCount verbose (cs ++ [')'])) := by
  have htrim := length_trimStart_le cs
  rw [readCount_eq, readCount_eq, trimStart_append]
  refine (digits_append (Nat.le_refl _) (by simp)).bind (fun ds rest hn => ?_) (fun ds => ?_)
    fun _ _ h => h.elim
  · dsimp only
    cases countOf? ds with
    | none => exact .failed
    | some n =>
      exact (blanks_append n (Nat.le_refl _) (by simp)).le (Nat.le_trans hn htrim)
  · dsimp only
    cases countOf? ds with
    | none => exact .failed
    | some n => exact .skipped n

/-- Without a question mark in front nothing is dropped. -/
theorem dropLazy_of_ne {cs : List Char} (h : cs.head? ≠ some '?') : dropLazy cs = cs := by
  rw [dropLazy]
  rintro rest rfl
  exact h rfl

/-- The sign of a lazy repetition is dropped the same with a parenthesis behind the text. -/
theorem dropLazy_append {α : Type} (x : α) (cs : List Char) :
    Extends Never cs.length (some (x, dropLazy cs)) (some (x, dropLazy (cs ++ [')']))) := by
  by_cases hlazy : cs.head? = some '?'
  · obtain ⟨rest, rfl⟩ := List.head?_eq_some_iff.1 hlazy
    exact .kept x rest (Nat.le_succ _)
  · rw [dropLazy_of_ne hlazy, dropLazy_of_ne (head?_append_ne (by decide) hlazy)]
    exact .kept x cs (Nat.le_refl _)

/-- The sign of a lazy repetition is dropped the same behind what is skipped. -/
theorem dropLazy_skip_append {α : Type} (x : α) {n : Nat} {cs : List Char} (hn : cs.length ≤ n) :
    Extends Never n (some (x, dropLazy (skip verbose cs)))
      (some (x, dropLazy (skip verbose (cs ++ [')'])))) :=
  .of_skip (f := fun cs => some (x, dropLazy cs)) (g := fun cs => some (x, dropLazy cs))
    ((dropLazy_append x _).le (Nat.le_trans (length_skip_le verbose cs) hn))
    fun _ => .skipped x

/-- What follows the greatest count of a repetition: the closing brace, with counts that do not
decrease. -/
def countsEnd (verbose : Bool) (least most : Nat) (rest : List Char) :
    Option ((Nat × Option Nat) × List Char) :=
  match rest with
  | '\x7d' :: rest =>
    if least ≤ most then some ((least, some most), dropLazy (skip verbose rest)) else none
  | _ => none

/-- The end of counts is read the same with a parenthesis behind the text. -/
theorem countsEnd_append (least most : Nat) (rest : List Char) :
    Extends Never rest.length (countsEnd verbose least most rest)
      (countsEnd verbose least most (rest ++ [')'])) := by
  have hnone {rest : List Char} (h : rest.head? ≠ some '\x7d') :
      countsEnd verbose least most rest = none := by
    rw [countsEnd]
    rintro cs rfl
    exact h rfl
  by_cases hclose : rest.head? = some '\x7d'
  · obtain ⟨rest, rfl⟩ := List.head?_eq_some_iff.1 hclose
    rw [List.cons_append, countsEnd, countsEnd]
    split
    · exact dropLazy_skip_append _ (Nat.le_succ _)
    · exact .failed
  · rw [hnone hclose, hnone (head?_append_ne (by decide) hclose)]
    exact .failed

/-- What follows the least count of a repetition: the closing brace, or a comma with or without a
greatest count. -/
def countsBehind (verbose : Bool) (least : Nat) (rest : List Char) :
    Option ((Nat × Option Nat) × List Char) := do
  match rest with
  | '\x7d' :: rest => some ((least, some least), dropLazy (skip verbose rest))
  | ',' :: rest =>
    match skip verbose rest with
    | '\x7d' :: rest => some ((least, none), dropLazy (skip verbose rest))
    | rest =>
      let (most, rest) ← readCount verbose rest
      countsEnd verbose least most rest
  | _ => none

/-- Counts step by step: the least one, and what follows it. -/
theorem readCounts_eq (cs : List Char) :
    readCounts verbose cs =
      (readCount verbose (skip verbose cs)).bind fun p => countsBehind verbose p.1 p.2 := rfl

/-- A comma with the closing brace right behind it leaves the repetition without a greatest
count. -/
theorem countsBehind_of_open {least : Nat} {rest behind : List Char}
    (h : skip verbose rest = '\x7d' :: behind) :
    countsBehind verbose least (',' :: rest) =
      some ((least, none), dropLazy (skip verbose behind)) := by
  simp only [countsBehind, h]

/-- A comma with something else behind it is followed by the greatest count. -/
theorem countsBehind_of_comma {least : Nat} {rest : List Char}
    (h : (skip verbose rest).head? ≠ some '\x7d') :
    countsBehind verbose least (',' :: rest) =
      (readCount verbose (skip verbose rest)).bind fun p => countsEnd verbose least p.1 p.2 := by
  simp only [countsBehind]
  split
  · next hclose => exact absurd (by rw [hclose]; rfl) h
  · rfl

/-- What follows the least count is read the same with a parenthesis behind the text. -/
theorem countsBehind_append (least : Nat) (rest : List Char) :
    Extends Never rest.length (countsBehind verbose least rest)
      (countsBehind verbose least (rest ++ [')'])) := by
  have hnone {rest : List Char} (hclose : rest.head? ≠ some '\x7d')
      (hcomma : rest.head? ≠ some ',') : countsBehind verbose least rest = none := by
    rw [countsBehind]
    · rintro cs rfl
      exact hclose rfl
    · rintro cs rfl
      exact hcomma rfl
  by_cases hclose : rest.head? = some '\x7d'
  · obtain ⟨rest, rfl⟩ := List.head?_eq_some_iff.1 hclose
    exact dropLazy_skip_append _ (Nat.le_succ _)
  by_cases hcomma : rest.head? = some ','
  · obtain ⟨rest, rfl⟩ := List.head?_eq_some_iff.1 hcomma
    have hlength := length_skip_le verbose rest
    rw [List.cons_append]
    by_cases hopen : (skip verbose rest).head? = some '\x7d'
    · obtain ⟨behind, hbehind⟩ := List.head?_eq_some_iff.1 hopen
      rcases skip_append verbose rest with h | ⟨h, -⟩
      · rw [hbehind, List.cons_append] at h
        rw [hbehind, List.length_cons] at hlength
        rw [countsBehind_of_open hbehind, countsBehind_of_open h, List.length_cons]
        exact dropLazy_skip_append _ (by omega)
      · rw [hbehind] at h
        cases h
    · rw [countsBehind_of_comma hopen,
        countsBehind_of_comma (mt (head?_skip_append (by decide) _).1 hopen)]
      have hmost : Extends Never rest.length (readCount verbose (skip verbose rest))
          (readCount verbose (skip verbose (rest ++ [')']))) :=
        .of_skip ((readCount_append _).le hlength) fun _ => by
          rw [readCount_nil]
          exact .failed
      refine hmost.bind (fun most rest' hn => ?_) (fun most => .failed) fun _ _ h => h.elim
      exact (countsEnd_append least most rest').le (Nat.le_succ_of_le hn)
  · rw [hnone hclose hcomma, hnone (head?_append_ne (by decide) hclose)
      (head?_append_ne (by decide) hcomma)]
    exact .failed

/-- The counts of a repetition are read the same with a parenthesis behind the text, since a brace
has to close them. -/
theorem readCounts_append (cs : List Char) :
    Extends Never cs.length (readCounts verbose cs) (readCounts verbose (cs ++ [')'])) := by
  have hleast : Extends Never cs.length (readCount verbose (skip verbose cs))
      (readCount verbose (skip verbose (cs ++ [')']))) :=
    .of_skip ((readCount_append _).le (length_skip_le verbose cs)) fun _ => by
      rw [readCount_nil]
      exact .failed
  rw [readCounts_eq, readCounts_eq]
  refine hleast.bind (fun least rest hn => ?_) (fun least => .failed) fun _ _ h => h.elim
  exact (countsBehind_append least rest).le hn

end Pattern
end CommitForm
