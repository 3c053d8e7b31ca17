/-
# A closing parenthesis behind a pattern

The readers of the parts of a pattern look at the text from its beginning, so a closing parenthesis
at its end changes their answer only where they come to the end (`Extends`):

| answer on the text | with the parenthesis behind it |
| --- | --- |
| a part and the rest | the same part, the parenthesis is left behind the rest |
| a part, and the rest skipped as a comment | the same, the parenthesis is skipped too |
| none | none |
| none | a part that takes the parenthesis |
-/

import CommitForm.Pattern.Reader

namespace CommitForm
namespace Pattern

/-- What becomes of the answer of a reader with a closing parenthesis behind the text.  At most `n`
characters are left.  `Taken` tells of the parts that only the parenthesis completes, with the rest
behind them. -/
inductive Extends {α : Type} (Taken : α → List Char → Prop) (n : Nat) :
    Option (α × List Char) → Option (α × List Char) → Prop where
  | kept (x : α) (rest : List Char) (hn : rest.length ≤ n) :
      Extends Taken n (some (x, rest)) (some (x, rest ++ [')']))
  | skipped (x : α) : Extends Taken n (some (x, [])) (some (x, []))
  | failed : Extends Taken n none none
  | taken (x : α) (rest : List Char) (h : Taken x rest) : Extends Taken n none (some (x, rest))

/-- No part is completed by the parenthesis: what is refused without it is refused with it. -/
def Never {α : Type} (_ : α) (_ : List Char) : Prop := False

/-- The parenthesis completes a part, and nothing is left: what is cut off at the end takes the
parenthesis for its last character. -/
def AtEnd {α : Type} (_ : α) (rest : List Char) : Prop := rest = []

namespace Extends

variable {α β : Type} {Taken : α → List Char → Prop} {Taken' : β → List Char → Prop} {n k : Nat}
  {a b : Option (α × List Char)}

/-- A weaker bound on what is left, and a weaker condition on what the parenthesis completes, keep
the two readings alike. -/
theorem mono {Taken' : α → List Char → Prop} (h : Extends Taken n a b) (hk : n ≤ k)
    (hle : ∀ x rest, Taken x rest → Taken' x rest) : Extends Taken' k a b := by
  cases h with
  | kept x rest hn => exact .kept x rest (Nat.le_trans hn hk)
  | skipped x => exact .skipped x
  | failed => exact .failed
  | taken x rest h => exact .taken x rest (hle x rest h)

/-- A weaker bound on what is left keeps the two readings alike. -/
theorem le (h : Extends Taken n a b) (hk : n ≤ k) : Extends Taken k a b :=
  h.mono hk fun _ _ h => h

/-- Two readings that are alike stay so when their results are turned into others in the same
way. -/
theorem map (h : Extends Taken n a b) {f : α → β}
    (hf : ∀ x rest, Taken x rest → Taken' (f x) rest) :
    Extends Taken' n (a.map fun p => (f p.1, p.2)) (b.map fun p => (f p.1, p.2)) := by
  cases h with
  | kept x rest hn => exact .kept (f x) rest hn
  | skipped x => exact .skipped (f x)
  | failed => exact .failed
  | taken x rest h => exact .taken (f x) rest (hf x rest h)

/-- Two readings that are alike stay so when they are followed by readings that are, in each of the
cases in which the first may end. -/
theorem bind (h : Extends Taken n a b) {f g : α × List Char → Option (β × List Char)}
    (hkept : ∀ x rest, rest.length ≤ n → Extends Taken' k (f (x, rest)) (g (x, rest ++ [')'])))
    (hskipped : ∀ x, Extends Taken' k (f (x, [])) (g (x, [])))
    (htaken : ∀ x rest, Taken x rest → Extends Taken' k none (g (x, rest))) :
    Extends Taken' k (a.bind f) (b.bind g) := by
  cases h with
  | kept x rest hn => exact hkept x rest hn
  | skipped x => exact hskipped x
  | failed => exact .failed
  | taken x rest h => exact htaken x rest h

/-- An answer whose part does not depend on the rest is alike with a parenthesis behind the rest. -/
theorem ofOption (Taken : α → List Char → Prop) (o : Option α) {rest : List Char}
    (hn : rest.length ≤ n) : Extends Taken n (o.map (·, rest)) (o.map (·, rest ++ [')'])) := by
  cases o with
  | none => exact .failed
  | some x => exact .kept x rest hn

/-- An answer whose part does not depend on the rest is alike where the parenthesis has been
skipped. -/
theorem ofOption_nil (Taken : α → List Char → Prop) (o : Option α) :
    Extends Taken n (o.map (·, [])) (o.map (·, [])) := by
  cases o with
  | none => exact .failed
  | some x => exact .skipped x

/-- Answers that are turned into others, or refused, stay alike, since that depends on the part
alone. -/
theorem filterMap (h : Extends Never n a b) (f : α → Option β) :
    Extends Never n (a.bind fun (x, rest) => (f x).map (·, rest))
      (b.bind fun (x, rest) => (f x).map (·, rest)) :=
  h.bind (fun x _ hn => .ofOption Never (f x) hn) (fun x => .ofOption_nil Never (f x))
    fun _ _ h => h.elim

end Extends

/-! ## Beginnings of texts -/

/-- The parenthesis behind a text does not begin it with another character, so what looks ahead for
one sees the same. -/
theorem head?_append_ne {c : Char} (hc : c ≠ ')') {cs : List Char} (h : cs.head? ≠ some c) :
    (cs ++ [')']).head? ≠ some c := by
  cases cs with
  | nil => simpa using hc.symm
  | cons d cs => exact h

/-- A beginning without a parenthesis is dropped the same with one behind the text. -/
theorem dropStart?_append_paren {start : List Char} (h : ')' ∉ start) (cs : List Char) :
    Text.dropStart? start (cs ++ [')']) = (Text.dropStart? start cs).map (· ++ [')']) := by
  induction start generalizing cs with
  | nil => rfl
  | cons a start ih =>
    cases cs with
    | nil =>
      have ha : a ≠ ')' := fun ha => h (ha ▸ List.mem_cons_self)
      rw [List.nil_append]
      exact if_neg ha
    | cons c cs =>
      rw [List.cons_append, Text.dropStart?, Text.dropStart?]
      split
      · exact ih (fun hmem => h (List.mem_cons_of_mem _ hmem)) cs
      · rfl

/-- A text is cut at a character in the same place, if it has one. -/
theorem cut_append (stop : Char) (h : stop ≠ ')') (cs : List Char) :
    cs.dropWhile (· ≠ stop) = [] ∧ (cs ++ [')']).dropWhile (· ≠ stop) = [] ∨
      ∃ rest, rest.length < cs.length ∧ cs.dropWhile (· ≠ stop) = stop :: rest ∧
        (cs ++ [')']).dropWhile (· ≠ stop) = stop :: (rest ++ [')']) ∧
          (cs ++ [')']).takeWhile (· ≠ stop) = cs.takeWhile (· ≠ stop) := by
  induction cs with
  | nil => exact .inl ⟨rfl, by simp [h.symm]⟩
  | cons c cs ih =>
    by_cases hc : c = stop
    · subst hc
      exact .inr ⟨cs, Nat.lt_succ_self _, by simp⟩
    · have hdropCons (cs : List Char) :
          (c :: cs).dropWhile (· ≠ stop) = cs.dropWhile (· ≠ stop) :=
        List.dropWhile_cons_of_pos (decide_eq_true hc)
      have htakeCons (cs : List Char) :
          (c :: cs).takeWhile (· ≠ stop) = c :: cs.takeWhile (· ≠ stop) :=
        List.takeWhile_cons_of_pos (decide_eq_true hc)
      rw [List.cons_append, hdropCons, hdropCons, htakeCons, htakeCons, List.cons_inj_right]
      exact ih.imp_right fun ⟨rest, hrest, h⟩ => ⟨rest, Nat.lt_succ_of_lt hrest, h⟩

/-! ## Blanks and comments -/

variable {verbose : Bool}

/-- The parenthesis is skipped only in a comment that reaches the end of the text; otherwise it is
left behind the rest. -/
theorem skipComments_append (inComment : Bool) (cs : List Char) :
    skipComments inComment (cs ++ [')']) = skipComments inComment cs ++ [')'] ∨
      skipComments inComment cs = [] ∧ skipComments inComment (cs ++ [')']) = [] := by
  induction cs generalizing inComment with
  | nil => cases inComment <;> decide
  | cons c cs ih =>
    rw [List.cons_append, skipComments, skipComments]
    split
    · exact ih _
    · split
      · exact ih _
      · split
        · exact ih _
        · exact .inl rfl

/-- The parenthesis is skipped only in a comment, and there everything before it has been skipped
too. -/
theorem skip_append (verbose : Bool) (cs : List Char) :
    skip verbose (cs ++ [')']) = skip verbose cs ++ [')'] ∨
      skip verbose cs = [] ∧ skip verbose (cs ++ [')']) = [] := by
  cases verbose with
  | false => exact .inl rfl
  | true => exact skipComments_append false cs

/-- At the end of the text nothing is left to be skipped. -/
theorem skip_nil (verbose : Bool) : skip verbose [] = [] := by cases verbose <;> rfl

/-- Skipping comments does not make a text longer. -/
theorem length_skipComments_le (inComment : Bool) (cs : List Char) :
    (skipComments inComment cs).length ≤ cs.length := by
  induction cs generalizing inComment with
  | nil => exact Nat.le_refl _
  | cons c cs ih =>
    rw [skipComments]
    have hle (inComment : Bool) := Nat.le_trans (ih inComment) (Nat.le_add_right cs.length 1)
    split
    · exact hle _
    · split
      · exact hle _
      · split
        · exact hle _
        · exact Nat.le_refl _

/-- Skipping what does not count does not make a text longer. -/
theorem length_skip_le (verbose : Bool) (cs : List Char) :
    (skip verbose cs).length ≤ cs.length := by
  cases verbose with
  | false => exact Nat.le_refl _
  | true => exact length_skipComments_le false cs

/-- A character that is neither a blank nor the sign of a comment is not skipped. -/
theorem skip_cons_of_ne {c : Char} (hblank : Text.isBlank c = false) (hc : c ≠ '#')
    (cs : List Char) :
    skip verbose (c :: cs) = c :: cs := by
  cases verbose with
  | false => rfl
  | true => simp [skip, skipComments, hblank, hc]

/-- The parenthesis does not change whether another character is ahead behind what is skipped. -/
theorem head?_skip_append {c : Char} (hc : c ≠ ')') (cs : List Char) :
    (skip verbose (cs ++ [')'])).head? = some c ↔ (skip verbose cs).head? = some c := by
  rcases skip_append verbose cs with h | ⟨h, h'⟩
  · rw [h]
    cases skip verbose cs with
    | nil => simpa using hc.symm
    | cons d rest => rfl
  · rw [h, h']

/-- A reader behind what is skipped is alike with the parenthesis, if it is where that is left and
where it is skipped too. -/
theorem Extends.of_skip {α : Type} {Taken : α → List Char → Prop} {n : Nat}
    {f g : List Char → Option (α × List Char)} {cs : List Char}
    (hkept : Extends Taken n (f (skip verbose cs)) (g (skip verbose cs ++ [')'])))
    (hskipped : skip verbose cs = [] → Extends Taken n (f []) (g [])) :
    Extends Taken n (f (skip verbose cs)) (g (skip verbose (cs ++ [')']))) := by
  rcases skip_append verbose cs with h | ⟨h, h'⟩
  · rw [h]
    exact hkept
  · rw [h, h']
    exact hskipped h

/-- An answer in front of what is skipped is alike with the parenthesis, whether or not that is
skipped too. -/
theorem Extends.ofOption_skip {α : Type} {n : Nat} (Taken : α → List Char → Prop) (o : Option α)
    {rest : List Char} (hn : rest.length ≤ n) :
    Extends Taken n (o.map (·, Pattern.skip verbose rest))
      (o.map (·, Pattern.skip verbose (rest ++ [')']))) :=
  .of_skip (f := fun rest => o.map (·, rest)) (g := fun rest => o.map (·, rest))
    (.ofOption Taken o (Nat.le_trans (length_skip_le verbose rest) hn))
    fun _ => .ofOption_nil Taken o

/-! ## Escapes -/

/-- At the end of the text digits are missing, with or without the parenthesis, or none are asked
for. -/
theorem readHexDigits_nil {k : Nat} (n : Nat) :
    Extends Never k (readHexDigits verbose n []) (readHexDigits verbose n []) := by
  cases n with
  | zero => exact .skipped []
  | succ n => exact .failed

/-- Hexadecimal digits are read the same with a parenthesis behind the text, which is none of
them. -/
theorem readHexDigits_append (n : Nat) (cs : List Char) :
    Extends Never cs.length (readHexDigits verbose n cs)
      (readHexDigits verbose n (cs ++ [')'])) := by
  induction n generalizing cs with
  | zero => exact .kept [] cs (Nat.le_refl _)
  | succ n ih =>
    cases cs with
    | nil => exact .failed
    | cons c cs =>
      rw [List.cons_append, readHexDigits, readHexDigits]
      have hlength := length_skip_le verbose cs
      split
      · have hrest : Extends Never (cs.length + 1) (readHexDigits verbose n (skip verbose cs))
            (readHexDigits verbose n (skip verbose (cs ++ [')']))) :=
          .of_skip ((ih _).le (Nat.le_succ_of_le hlength)) fun _ => readHexDigits_nil n
        exact hrest.map fun _ _ h => h
      · exact .failed

/-- Braces that are not closed before the end of the text are refused. -/
theorem readBraced_of_skip_eq_nil {n : Nat} {cs : List Char} (h : skip verbose cs = []) :
    readBraced verbose n cs = none := by
  cases n with
  | zero => rfl
  | succ n => simp only [readBraced, h]

/-- A character in braces closes them or belongs to the text between them. -/
theorem readBraced_of_skip_eq_cons {n : Nat} {cs rest : List Char} {c : Char}
    (h : skip verbose cs = c :: rest) :
    readBraced verbose (n + 1) cs =
      if c = '\x7d' then some ([], rest)
      else (readBraced verbose n rest).map fun (ds, rest) => (c :: ds, rest) := by
  rw [readBraced, h]
  split
  · next hnil => cases hnil
  · next hcons =>
    obtain ⟨rfl, rfl⟩ := List.cons.inj hcons
    rw [if_pos rfl]
  · next hne hcons =>
    obtain ⟨rfl, rfl⟩ := List.cons.inj hcons
    rw [if_neg fun hc => hne (by rw [hc])]

/-- A text in braces is read the same with a parenthesis behind the text, whatever fuel there is
besides. -/
theorem readBraced_append {n m : Nat} {cs : List Char} (hn : cs.length < n)
    (hm : cs.length + 1 < m) :
    Extends Never cs.length (readBraced verbose n cs) (readBraced verbose m (cs ++ [')'])) := by
  induction n generalizing m cs with
  | zero => omega
  | succ n ih =>
    obtain ⟨m, rfl⟩ : ∃ k, m = k + 1 := Nat.exists_eq_succ_of_ne_zero (by omega)
    have hlength := length_skip_le verbose cs
    rcases skip_append verbose cs with h | ⟨h, h'⟩
    · cases hskip : skip verbose cs with
      | nil =>
        rw [hskip, List.nil_append] at h
        rw [readBraced_of_skip_eq_nil hskip, readBraced_of_skip_eq_cons h, if_neg (by decide),
          readBraced_of_skip_eq_nil (skip_nil verbose)]
        exact .failed
      | cons c rest =>
        rw [hskip, List.length_cons] at hlength
        rw [hskip, List.cons_append] at h
        rw [readBraced_of_skip_eq_cons hskip, readBraced_of_skip_eq_cons h]
        split
        · exact .kept [] rest (by omega)
        · have hrest : Extends Never rest.length (readBraced verbose n rest)
              (readBraced verbose m (rest ++ [')'])) := ih (by omega) (by omega)
          exact (hrest.le (by omega)).map fun _ _ h => h
    · rw [readBraced_of_skip_eq_nil h, readBraced_of_skip_eq_nil h']
      exact .failed

/-- A text in braces, with fuel for all of it, is read the same with a parenthesis behind the
text. -/
theorem readBraced_length_append (cs : List Char) :
    Extends Never cs.length (readBraced verbose (cs.length + 1) cs)
      (readBraced verbose ((cs ++ [')']).length + 1) (cs ++ [')'])) :=
  readBraced_append (Nat.lt_succ_self _) (by simp)

/-- The character that hexadecimal digits denote, if they denote one. -/
def codePoint? (ds : List Char) : Option Char := (hexValue? ds).bind charOf?

/-- The two steps to the character of digits are one, whatever rest they are answered with. -/
theorem bind_codePoint (ds rest : List Char) :
    ((hexValue? ds).bind fun n => (charOf? n).bind fun c => some (c, rest)) =
      (codePoint? ds).map (·, rest) := by
  rw [codePoint?, Option.map_bind]
  exact Option.bind_congr fun n _ => by cases hn : charOf? n <;> simp [hn]

/-- In braces a code point has any number of digits, of which there is one at least. -/
theorem readCodePoint_of_brace {count : Nat} {cs rest : List Char}
    (h : skip verbose cs = '\x7b' :: rest) :
    readCodePoint verbose count cs =
      (readBraced verbose (rest.length + 1) rest).bind fun (ds, rest) =>
        (if ds = [] then none else codePoint? ds).map (·, skip verbose rest) := by
  simp only [readCodePoint, h, Option.bind_eq_bind]
  refine Option.bind_congr fun p _ => ?_
  split
  · rfl
  · exact bind_codePoint p.1 (skip verbose p.2)

/-- Without braces a code point has a fixed number of digits. -/
theorem readCodePoint_of_ne {count : Nat} {cs : List Char}
    (h : (skip verbose cs).head? ≠ some '\x7b') :
    readCodePoint verbose count cs =
      (readHexDigits verbose count (skip verbose cs)).bind fun (ds, rest) =>
        (codePoint? ds).map (·, rest) := by
  rw [readCodePoint]
  split
  · next hbrace => exact absurd (by rw [hbrace]; rfl) h
  · simp only [Option.bind_eq_bind]
    exact Option.bind_congr fun p _ => bind_codePoint p.1 p.2

/-- A code point is read the same with a parenthesis behind the text, in braces or without. -/
theorem readCodePoint_append (count : Nat) (cs : List Char) :
    Extends Never cs.length (readCodePoint verbose count cs)
      (readCodePoint verbose count (cs ++ [')'])) := by
  have hlength := length_skip_le verbose cs
  rcases skip_append verbose cs with h | ⟨h, h'⟩
  · by_cases hbrace : (skip verbose cs).head? = some '\x7b'
    · obtain ⟨rest, hrest⟩ := List.head?_eq_some_iff.1 hbrace
      rw [hrest, List.cons_append] at h
      rw [hrest, List.length_cons] at hlength
      rw [readCodePoint_of_brace hrest, readCodePoint_of_brace h]
      refine (readBraced_length_append rest).bind
        (fun ds rest hn => .ofOption_skip Never _ (by omega)) (fun ds => ?_) fun _ _ h => h.elim
      simp only [skip_nil]
      exact .ofOption_nil Never _
    · rw [readCodePoint_of_ne hbrace, readCodePoint_of_ne (h ▸ head?_append_ne (by decide) hbrace),
        h]
      exact ((readHexDigits_append count _).le hlength).filterMap codePoint?
  · rw [readCodePoint_of_ne (by rw [h]; decide), readCodePoint_of_ne (by rw [h']; decide), h, h']
    exact (readHexDigits_nil count).filterMap codePoint?

/-- A property is read the same with a parenthesis behind the text, except at the end, where it is
taken for the property's letter. -/
theorem readProperty_append (cs : List Char) :
    Extends AtEnd cs.length (readProperty verbose cs) (readProperty verbose (cs ++ [')'])) := by
  have hlength := length_skip_le verbose cs
  rcases skip_append verbose cs with h | ⟨h, h'⟩
  · cases hskip : skip verbose cs with
    | nil =>
      rw [hskip] at h
      simp only [readProperty, hskip, h]
      exact .taken _ _ (skip_nil verbose)
    | cons c rest =>
      rw [hskip] at h
      rw [hskip, List.length_cons] at hlength
      by_cases hbrace : c = '\x7b'
      · subst hbrace
        simp only [readProperty, hskip, h, List.cons_append]
        exact (readBraced_length_append rest).bind (fun name rest hn => .kept _ rest (by omega))
          (fun name => .skipped _) fun _ _ h => h.elim
      · by_cases hback : c = '\\'
        · subst hback
          simp only [readProperty, hskip, h, List.cons_append]
          exact .failed
        · simp only [readProperty, hskip, h, List.cons_append]
          exact .ofOption_skip AtEnd (some _) (by omega)
  · simp only [readProperty, h, h']
    exact .failed

/-- A word boundary before an opening brace that only blanks follow, and the parenthesis: what the
brace begins is no repetition. -/
def BeforeBrace (verbose : Bool) (p : Primitive) (rest : List Char) : Prop :=
  p = .look .boundary ∧ ∃ inner, rest = '\x7b' :: inner ∧ skip verbose inner = [')']

/-- A word boundary is read the same with a parenthesis behind the text, except behind an opening
brace at the end. -/
theorem readBoundary_append (cs : List Char) :
    Extends (BeforeBrace verbose) cs.length (readBoundary verbose cs)
      (readBoundary verbose (cs ++ [')'])) := by
  by_cases hbrace : cs.head? = some '\x7b'
  · obtain ⟨inner, rfl⟩ := List.head?_eq_some_iff.1 hbrace
    rw [List.cons_append, readBoundary, readBoundary]
    rcases skip_append verbose inner with h | ⟨h, h'⟩
    · cases hskip : skip verbose inner with
      | nil =>
        rw [hskip] at h
        simp only [h]
        exact .taken _ _ ⟨rfl, inner ++ [')'], rfl, h⟩
      | cons c rest =>
        rw [hskip, List.cons_append] at h
        simp only [h]
        split
        · refine (readBraced_length_append inner).bind (fun name rest hn => ?_) (fun name => ?_)
            fun _ _ h => h.elim
          · dsimp only
            split
            · cases specialBoundary? name with
              | none => exact .failed
              | some kind => exact .kept _ _ (Nat.le_succ_of_le hn)
            · exact .failed
          · dsimp only
            split
            · cases specialBoundary? name with
              | none => exact .failed
              | some kind => exact .skipped _
            · exact .failed
        · exact .kept _ _ (Nat.le_refl _)
    · simp only [h, h']
      exact .failed
  · have hplain {cs : List Char} (h : cs.head? ≠ some '\x7b') :
        readBoundary verbose cs = some (.look .boundary, cs) := by
      rw [readBoundary]
      rintro rest rfl
      exact h rfl
    rw [hplain hbrace, hplain (head?_append_ne (by decide) hbrace)]
    exact .kept _ _ (Nat.le_refl _)

/-- What the parenthesis completes to an escape: one that is cut off at the end, or a boundary in
front of a brace. -/
def EscapeTaken (verbose : Bool) (p : Primitive) (rest : List Char) : Prop :=
  rest = [] ∨ BeforeBrace verbose p rest

/-- An escape is read the same with a parenthesis behind the text, unless the parenthesis completes
it. -/
theorem readEscape_append (cs : List Char) :
    Extends (EscapeTaken verbose) cs.length (readEscape verbose cs)
      (readEscape verbose (cs ++ [')'])) := by
  cases cs with
  | nil => exact .taken _ _ (.inl rfl)
  | cons c cs =>
    refine .le (n := cs.length) ?_ (Nat.le_succ _)
    rw [List.cons_append, readEscape.eq_def, readEscape.eq_def]
    dsimp only
    split
    -- the escapes of one letter leave the rest as it is
    all_goals try exact .kept _ _ (Nat.le_refl _)
    · have hbrace : ((skip verbose (cs ++ [')'])).head? == some '\x7b') =
          ((skip verbose cs).head? == some '\x7b') := by
        rw [Bool.eq_iff_iff, beq_iff_eq, beq_iff_eq, head?_skip_append (by decide)]
      rw [hbrace]
      exact (readCodePoint_append 2 cs).bind (fun c rest hn => .kept _ rest hn)
        (fun c => .skipped _) fun _ _ h => h.elim
    · exact (readCodePoint_append 4 cs).map (f := (Primitive.literal ⟨·, false⟩))
        fun _ _ h => h.elim
    · exact (readCodePoint_append 8 cs).map (f := (Primitive.literal ⟨·, false⟩))
        fun _ _ h => h.elim
    · exact (readProperty_append cs).map (f := (Primitive.property · false)) fun _ _ h => .inl h
    · exact (readProperty_append cs).map (f := (Primitive.property · true)) fun _ _ h => .inl h
    · exact (readBoundary_append cs).mono (Nat.le_refl _) fun _ _ h => .inr h
    · split
      · exact .kept _ _ (Nat.le_refl _)
      · exact .failed

end Pattern
end CommitForm
