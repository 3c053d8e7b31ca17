/-
# Bracket classes before a closing parenthesis

No bracket class is completed by a closing parenthesis: it is a member of the class like others, and
the class is left open (`readClass_append`).
-/

import CommitForm.Proofs.PatternEscapes

namespace CommitForm
namespace Pattern

variable {verbose : Bool}

/-! ## Named classes -/

/-- What `readPosix?` reads behind the colon and the negation: a known name up to the next colon,
and a closing bracket behind that. -/
def posixOf? (negated : Bool) (cs : List Char) : Option (ClassTree × List Char) :=
  (Text.dropStart? [':', ']'] (cs.dropWhile (· ≠ ':'))).bind fun rest =>
    let name := String.ofList (cs.takeWhile (· ≠ ':'))
    if posixNames.contains name then some (.posix name negated, rest) else none

/-- A named class is read the same with a parenthesis behind the text, since none of its characters
is one. -/
theorem posixOf?_append (negated : Bool) (cs : List Char) :
    Extends Never cs.length (posixOf? negated cs) (posixOf? negated (cs ++ [')'])) := by
  rw [posixOf?, posixOf?]
  rcases cut_append ':' (by decide) cs with ⟨h, h'⟩ | ⟨rest, hlt, hdrop, hdrop', htake⟩
  · rw [h, h']
    exact .failed
  · rw [hdrop, hdrop', htake, ← List.cons_append, dropStart?_append_paren (by decide)]
    cases hstart : Text.dropStart? [':', ']'] (':' :: rest) with
    | none => exact .failed
    | some behind =>
      have hlength := congrArg List.length (Text.eq_append_of_dropStart? hstart)
      rw [List.length_cons, List.length_append] at hlength
      simp only [Option.map_some, Option.bind_some]
      split
      · exact .kept _ behind (by omega)
      · exact .failed

/-- A caret in front of a text, and the rest, as the negation of a named class has it. -/
def caret : List Char → Bool × List Char
  | '^' :: cs => (true, cs)
  | cs => (false, cs)

/-- Where no caret stands in front, nothing is taken for a negation. -/
theorem caret_of_ne {cs : List Char} (h : cs.head? ≠ some '^') : caret cs = (false, cs) := by
  rw [caret]
  rintro rest rfl
  exact h rfl

/-- Whether a caret stands in front does not change with a parenthesis behind the text. -/
theorem caret_append (cs : List Char) :
    Extends Never cs.length (some (caret cs)) (some (caret (cs ++ [')']))) := by
  by_cases hcaret : cs.head? = some '^'
  · obtain ⟨rest, rfl⟩ := List.head?_eq_some_iff.1 hcaret
    exact .kept true rest (Nat.le_succ _)
  · rw [caret_of_ne hcaret, caret_of_ne (head?_append_ne (by decide) hcaret)]
    exact .kept false cs (Nat.le_refl _)

/-- Behind its colon a named class is a negation that may be missing and a name. -/
theorem readPosix?_colon (cs : List Char) :
    readPosix? (':' :: cs) = (some (caret cs)).bind fun p => posixOf? p.1 p.2 := rfl

/-- Without a colon behind the bracket there is no named class. -/
theorem readPosix?_of_ne {cs : List Char} (h : cs.head? ≠ some ':') : readPosix? cs = none := by
  rw [readPosix?]
  rintro rest rfl
  exact h rfl

/-- A named class, or that there is none, is read the same with a parenthesis behind the text. -/
theorem readPosix?_append (cs : List Char) :
    Extends Never cs.length (readPosix? cs) (readPosix? (cs ++ [')'])) := by
  by_cases hcolon : cs.head? = some ':'
  · obtain ⟨cs, rfl⟩ := List.head?_eq_some_iff.1 hcolon
    rw [List.cons_append, readPosix?_colon, readPosix?_colon]
    refine (caret_append cs).bind (fun negated rest hn => ?_) (fun negated => .failed)
      fun _ _ h => h.elim
    exact (posixOf?_append negated rest).le (Nat.le_succ_of_le hn)
  · rw [readPosix?_of_ne hcolon, readPosix?_of_ne (head?_append_ne (by decide) hcolon)]
    exact .failed

/-! ## Elements and ranges -/

/-- An element of a class is read the same with a parenthesis behind the text, unless the text ends
where it should stand or in an escape. -/
theorem readElement_append (cs : List Char) :
    Extends (EscapeTaken verbose) (cs.length - 1) (readElement verbose cs)
      (readElement verbose (cs ++ [')'])) := by
  cases cs with
  | nil => exact .taken _ _ (.inl rfl)
  | cons c cs =>
    rw [List.cons_append]
    by_cases hback : c = '\\'
    · subst hback
      exact readEscape_append cs
    · simp only [readElement]
      exact .kept _ cs (Nat.le_refl _)

/-- What follows the first element of a range: the hyphen and the last element, or nothing of a
range. -/
def rangeBehind (verbose : Bool) (first : Primitive) (rest : List Char) :
    Option (ClassTree × List Char) := do
  match skip verbose rest with
  | [] => none
  | '-' :: rest' =>
    let ahead := seenBehindHyphen verbose rest'
    if ahead = some ']' ∨ ahead = some '-' then
      some (← first.toClass?, '-' :: rest')
    else
      let (second, rest) ← readElement verbose (skip verbose rest')
      let lo ← first.literal?
      let hi ← second.literal?
      if lo.char ≤ hi.char then some (.range lo hi, rest) else none
  | rest => some (← first.toClass?, rest)

/-- Reading a range is reading its first element and then what follows it. -/
theorem readRange_eq (cs : List Char) :
    readRange verbose cs =
      (readElement verbose cs).bind fun p => rangeBehind verbose p.1 p.2 := rfl

section

variable {first : Primitive} {rest : List Char}

/-- At the end of the text no element is complete, since the class is not closed. -/
theorem rangeBehind_of_nil (h : skip verbose rest = []) :
    rangeBehind verbose first rest = none := by
  simp only [rangeBehind, h]

/-- Without a hyphen behind it an element stands for itself. -/
theorem rangeBehind_of_ne {c : Char} {cs : List Char} (h : skip verbose rest = c :: cs)
    (hc : c ≠ '-') : rangeBehind verbose first rest = first.toClass?.map (·, c :: cs) := by
  rw [rangeBehind, h]
  split
  · next hnil => cases hnil
  · next hcons => exact absurd (List.cons.inj hcons).1 hc
  · cases first.toClass? <;> rfl

/-- The end of a range: both bounds have to be characters, the first no greater than the last. -/
def rangeEnd? (first second : Primitive) : Option ClassTree :=
  first.literal?.bind fun lo => second.literal?.bind fun hi =>
    if lo.char ≤ hi.char then some (.range lo hi) else none

/-- Behind a hyphen the character that is seen there decides: the hyphen is left for the next
element, or the last element of the range follows. -/
theorem rangeBehind_of_hyphen {cs : List Char} (h : skip verbose rest = '-' :: cs) :
    rangeBehind verbose first rest =
      if seenBehindHyphen verbose cs = some ']' ∨ seenBehindHyphen verbose cs = some '-' then
        first.toClass?.map (·, '-' :: cs)
      else
        (readElement verbose (skip verbose cs)).bind fun p =>
          (rangeEnd? first p.1).map (·, p.2) := by
  simp only [rangeBehind, h]
  split
  · cases first.toClass? <;> rfl
  · refine Option.bind_congr fun p _ => ?_
    rw [rangeEnd?]
    cases first.literal? with
    | none => rfl
    | some lo =>
      cases p.1.literal? with
      | none => rfl
      | some hi =>
        simp only [Option.bind_eq_bind, Option.bind_some]
        split
        · rfl
        · rfl

/-- **The parenthesis is not what a hyphen sees** instead of a character that is neither blank nor
the sign of a comment.  Where the look ahead runs out of the text it falls back on the character
behind the hyphen, which is then a blank or such a sign, and in the longer text it ends at the
parenthesis. -/
theorem seenBehindHyphen_append {c : Char} (hc : c ≠ ')') (hsign : c ≠ '#')
    (hblank : Text.isBlank c = false) (cs : List Char) :
    seenBehindHyphen verbose (cs ++ [')']) = some c ↔ seenBehindHyphen verbose cs = some c := by
  have hclose : Text.isBlank ')' = false := by decide
  -- the fallback answers `c` only where the text begins with it, and then nothing is passed over
  have hfallback (h : (cs.dropWhile Text.isBlank).head? ≠ some c) : cs.head? ≠ some c := by
    intro hhead
    obtain ⟨cs, rfl⟩ := List.head?_eq_some_iff.1 hhead
    rw [List.dropWhile_cons_of_neg (by simp [hblank])] at h
    exact h rfl
  cases verbose with
  | false =>
    cases cs with
    | nil => simp [seenBehindHyphen, hc.symm]
    | cons d cs => rfl
  | true =>
    simp only [seenBehindHyphen, if_true, List.dropWhile_append]
    cases hrest : cs.dropWhile Text.isBlank with
    | nil =>
      simp [hclose, hc.symm, hfallback (by simp [hrest])]
    | cons d rest =>
      by_cases hd : d = '#'
      · subst hd
        simp only [List.isEmpty_cons, Bool.false_eq_true, if_false, List.cons_append,
          List.dropWhile_append]
        cases hcomment : rest.dropWhile Text.isBlank with
        | nil =>
          simp [hclose, hc.symm, hfallback (by simp [hrest, hsign.symm])]
        | cons e rest => simp
      · simp [hd]

/-- An unclosed class may be left with the parenthesis behind it, or with nothing, and is refused
either way. -/
def InClass {α : Type} (_ : α) (rest : List Char) : Prop := rest = [] ∨ rest = [')']

/-- What follows the first element of a range is read the same with a parenthesis behind the text,
unless the class is not closed. -/
theorem rangeBehind_append :
    Extends InClass rest.length (rangeBehind verbose first rest)
      (rangeBehind verbose first (rest ++ [')'])) := by
  have hlength := length_skip_le verbose rest
  rcases skip_append verbose rest with h | ⟨h, h'⟩
  · cases hskip : skip verbose rest with
    | nil =>
      rw [hskip] at h
      rw [rangeBehind_of_nil hskip, rangeBehind_of_ne h (by decide)]
      cases first.toClass? with
      | none => exact .failed
      | some t => exact .taken t _ (.inr rfl)
    | cons c cs =>
      rw [hskip, List.length_cons] at hlength
      rw [hskip, List.cons_append] at h
      by_cases hc : c = '-'
      · subst hc
        rw [rangeBehind_of_hyphen hskip, rangeBehind_of_hyphen h]
        simp only [seenBehindHyphen_append (c := ']') (by decide) (by decide) (by decide),
          seenBehindHyphen_append (c := '-') (by decide) (by decide) (by decide)]
        split
        · exact .ofOption InClass _ hlength
        · have hcs := length_skip_le verbose cs
          have hsecond : Extends (EscapeTaken verbose) rest.length
              (readElement verbose (skip verbose cs))
              (readElement verbose (skip verbose (cs ++ [')']))) :=
            .of_skip ((readElement_append _).le (by omega)) fun _ => .failed
          refine hsecond.bind (fun second rest hn => .ofOption InClass _ hn)
            (fun second => .ofOption_nil InClass _) fun second rest htaken => ?_
          rcases htaken with rfl | ⟨rfl, -⟩
          · dsimp only
            cases rangeEnd? first second with
            | none => exact .failed
            | some t => exact .taken t _ (.inl rfl)
          · have hend : rangeEnd? first (.look .boundary) = none := by
              rw [rangeEnd?]
              cases first.literal? <;> rfl
            dsimp only
            rw [hend]
            exact .failed
      · rw [rangeBehind_of_ne hskip hc, rangeBehind_of_ne h hc]
        exact .ofOption InClass _ hlength
  · rw [rangeBehind_of_nil h, rangeBehind_of_nil h']
    exact .failed

end

/-- A range is read the same with a parenthesis behind the text, unless the class is not closed. -/
theorem readRange_append (cs : List Char) :
    Extends InClass (cs.length - 1) (readRange verbose cs) (readRange verbose (cs ++ [')'])) := by
  rw [readRange_eq, readRange_eq]
  refine (readElement_append cs).bind (fun first rest hn => ?_) (fun first => ?_)
    fun first rest htaken => ?_
  · exact rangeBehind_append.le hn
  · dsimp only
    rw [rangeBehind_of_nil (skip_nil verbose)]
    exact .failed
  · dsimp only
    rcases htaken with rfl | ⟨rfl, inner, rfl, -⟩
    · rw [rangeBehind_of_nil (skip_nil verbose)]
      exact .failed
    · rw [rangeBehind_of_ne (skip_cons_of_ne (by decide) (by decide) inner) (by decide)]
      exact .failed

/-! ## The opening of a class -/

/-- Without a hyphen in front no hyphens are taken. -/
theorem readHyphens_of_ne {n : Nat} {parts : List ClassTree} {cs : List Char}
    (h : cs.head? ≠ some '-') : readHyphens verbose n parts cs = (parts, cs) := by
  rw [readHyphens]
  rintro fuel rest - rfl
  exact h rfl

/-- Hyphens in front of a class are read the same with a parenthesis behind the text, whatever fuel
there is besides. -/
theorem readHyphens_append {n m : Nat} {parts : List ClassTree} {cs : List Char}
    (hn : cs.length ≤ n) (hm : cs.length < m) :
    Extends Never cs.length (some (readHyphens verbose n parts cs))
      (some (readHyphens verbose m parts (cs ++ [')']))) := by
  induction n generalizing m parts cs with
  | zero =>
    obtain rfl := List.length_eq_zero_iff.1 (Nat.le_zero.1 hn)
    rw [readHyphens_of_ne (by decide), readHyphens_of_ne (by decide)]
    exact .kept parts [] (Nat.le_refl _)
  | succ n ih =>
    by_cases hhyphen : cs.head? = some '-'
    · obtain ⟨cs, rfl⟩ := List.head?_eq_some_iff.1 hhyphen
      obtain ⟨m, rfl⟩ : ∃ k, m = k + 1 := Nat.exists_eq_succ_of_ne_zero (by omega)
      have hlength := length_skip_le verbose cs
      rw [List.length_cons] at hn hm
      rw [List.cons_append, readHyphens, readHyphens]
      refine .of_skip (f := fun cs => some (readHyphens verbose n _ cs))
        (g := fun cs => some (readHyphens verbose m _ cs)) ?_ fun _ => ?_
      · exact (ih (by omega) (by omega)).le (Nat.le_succ_of_le hlength)
      · rw [readHyphens_of_ne (by decide), readHyphens_of_ne (by decide)]
        exact .skipped _
    · rw [readHyphens_of_ne hhyphen, readHyphens_of_ne (head?_append_ne (by decide) hhyphen)]
      exact .kept parts cs (Nat.le_refl _)

/-- What follows the hyphens in front of a bracket class: a closing bracket that denotes itself, or
the first element. -/
def openingBehind (verbose negated : Bool) : List ClassTree → List Char → OpenClass × List Char
  | [], ']' :: cs => (⟨negated, [.literal ⟨']', false⟩], none⟩, skip verbose cs)
  | parts, cs => (⟨negated, parts, none⟩, cs)

/-- A closing bracket behind hyphens, or another character, is left to be read as usual. -/
theorem openingBehind_of_ne {negated : Bool} {parts : List ClassTree} {cs : List Char}
    (h : parts ≠ [] ∨ cs.head? ≠ some ']') :
    openingBehind verbose negated parts cs = (⟨negated, parts, none⟩, cs) := by
  rw [openingBehind]
  rintro rest rfl rfl
  simp at h

/-- What follows the hyphens of a class is read the same with a parenthesis behind the text. -/
theorem openingBehind_append (negated : Bool) (parts : List ClassTree) (cs : List Char) :
    Extends Never cs.length (some (openingBehind verbose negated parts cs))
      (some (openingBehind verbose negated parts (cs ++ [')']))) := by
  by_cases h : parts ≠ [] ∨ cs.head? ≠ some ']'
  · rw [openingBehind_of_ne h,
      openingBehind_of_ne (h.imp_right fun h => head?_append_ne (by decide) h)]
    exact .kept _ cs (Nat.le_refl _)
  · obtain ⟨rfl, hbracket⟩ : parts = [] ∧ cs.head? = some ']' := by simpa using h
    obtain ⟨rest, rfl⟩ := List.head?_eq_some_iff.1 hbracket
    exact .ofOption_skip Never (some _) (Nat.le_succ _)

/-- The negation in front of a bracket class, with what is skipped behind it. -/
def negation (verbose : Bool) : List Char → Bool × List Char
  | '^' :: cs => (true, skip verbose cs)
  | cs => (false, cs)

/-- Where no caret stands in front, the class is not negated. -/
theorem negation_of_ne {cs : List Char} (h : cs.head? ≠ some '^') :
    negation verbose cs = (false, cs) := by
  rw [negation]
  rintro rest rfl
  exact h rfl

/-- The negation of a class is read the same with a parenthesis behind the text. -/
theorem negation_append (cs : List Char) :
    Extends Never cs.length (some (negation verbose cs))
      (some (negation verbose (cs ++ [')']))) := by
  by_cases hcaret : cs.head? = some '^'
  · obtain ⟨rest, rfl⟩ := List.head?_eq_some_iff.1 hcaret
    exact .ofOption_skip Never (some true) (Nat.le_succ _)
  · rw [negation_of_ne hcaret, negation_of_ne (head?_append_ne (by decide) hcaret)]
    exact .kept false cs (Nat.le_refl _)

/-- The opening of a class in its three steps: a negation, hyphens, and a bracket that denotes
itself. -/
theorem readClassOpening_eq (cs : List Char) :
    some (readClassOpening verbose cs) =
      (some (negation verbose (skip verbose cs))).bind fun p =>
        (some (readHyphens verbose p.2.length [] p.2)).bind fun q =>
          some (openingBehind verbose p.1 q.1 q.2) := rfl

/-- The opening of a class is read the same with a parenthesis behind the text. -/
theorem readClassOpening_append (cs : List Char) :
    Extends Never cs.length (some (readClassOpening verbose cs))
      (some (readClassOpening verbose (cs ++ [')']))) := by
  have hnegation : Extends Never cs.length (some (negation verbose (skip verbose cs)))
      (some (negation verbose (skip verbose (cs ++ [')'])))) :=
    .of_skip (f := fun cs => some (negation verbose cs)) (g := fun cs => some (negation verbose cs))
      ((negation_append _).le (length_skip_le verbose cs)) fun _ => .skipped false
  rw [readClassOpening_eq, readClassOpening_eq]
  refine hnegation.bind (fun negated rest hn => ?_) (fun negated => .skipped _) fun _ _ h => h.elim
  have hhyphens : Extends Never rest.length (some (readHyphens verbose rest.length [] rest))
      (some (readHyphens verbose (rest ++ [')']).length [] (rest ++ [')']))) :=
    readHyphens_append (Nat.le_refl _) (by simp)
  refine hhyphens.bind (fun parts rest' hn' => ?_) (fun parts => ?_) fun _ _ h => h.elim
  · exact (openingBehind_append negated parts rest').le (Nat.le_trans hn' hn)
  · dsimp only
    rw [openingBehind_of_ne (.inr (by decide))]
    exact .skipped _

/-! ## The whole class -/

/-- The operator of bracket classes that a character written twice stands for. -/
def operatorOf? (c : Char) : Option SetOperator :=
  if c = '&' then some .inter
  else if c = '-' then some .diff
  else if c = '~' then some .symmDiff
  else none

/-- An operator of bracket classes in front of a text, and the rest behind both of its
characters. -/
def operatorAhead? : List Char → Option (SetOperator × List Char)
  | c :: d :: cs => if c = d then (operatorOf? c).map (·, cs) else none
  | _ => none

/-- An operator ahead is one of the three, each of which is a character written twice. -/
theorem eq_of_operatorAhead? {cs rest : List Char} {op : SetOperator}
    (h : operatorAhead? cs = some (op, rest)) :
    op = .inter ∧ cs = '&' :: '&' :: rest ∨ op = .diff ∧ cs = '-' :: '-' :: rest ∨
      op = .symmDiff ∧ cs = '~' :: '~' :: rest := by
  rcases cs with _ | ⟨c, _ | ⟨d, cs⟩⟩
  · cases h
  · cases h
  · rw [operatorAhead?] at h
    split at h
    · next hcd =>
      subst hcd
      obtain ⟨op', hop, heq⟩ := Option.map_eq_some_iff.1 h
      obtain ⟨rfl, rfl⟩ := Prod.mk.inj heq
      rw [operatorOf?] at hop
      split at hop
      · simp_all
      · split at hop
        · simp_all
        · split at hop
          · simp_all
          · cases hop
    · cases h

/-- An operator ahead stays the same with a parenthesis behind the text, which belongs to none. -/
theorem operatorAhead?_append (cs : List Char) :
    Extends Never (cs.length - 1) (operatorAhead? cs) (operatorAhead? (cs ++ [')'])) := by
  rcases cs with _ | ⟨c, _ | ⟨d, rest⟩⟩
  · exact .failed
  · have hnone : operatorAhead? [c, ')'] = none := by
      rw [operatorAhead?]
      split
      · next hc =>
        rw [hc]
        rfl
      · rfl
    rw [List.cons_append, List.nil_append, hnone]
    exact .failed
  · rw [List.cons_append, List.cons_append, operatorAhead?, operatorAhead?]
    split
    · exact .ofOption Never _ (Nat.le_succ rest.length)
    · exact .failed

section

variable {n : Nat} {here : OpenClass} {outer : List OpenClass} {cs rest : List Char}

/-- At the end of the text a class is not closed and is refused. -/
theorem readClassFrom_of_nil (h : skip verbose cs = []) :
    readClassFrom verbose n here outer cs = none := by
  cases n with
  | zero => rfl
  | succ n => simp only [readClassFrom, h]

/-- An opening bracket begins a named class, or else a class inside the class. -/
theorem readClassFrom_of_open (h : skip verbose cs = '[' :: rest) :
    readClassFrom verbose (n + 1) here outer cs =
      match readPosix? rest with
      | some p => readClassFrom verbose n (here.add p.1) outer p.2
      | none =>
        readClassFrom verbose n (readClassOpening verbose rest).1 (here :: outer)
          (readClassOpening verbose rest).2 := by
  simp only [readClassFrom, h]
  cases readPosix? rest <;> rfl

/-- A closing bracket ends the class, which is the whole or a part of the class around it. -/
theorem readClassFrom_of_close (h : skip verbose cs = ']' :: rest) :
    readClassFrom verbose (n + 1) here outer cs =
      match outer with
      | [] => some (here.negated, here.content, rest)
      | parent :: outer =>
        readClassFrom verbose n (parent.add (.bracket here.negated here.content)) outer rest := by
  cases outer <;> simp only [readClassFrom, h]

/-- An operator takes what has been read of the class for its left operand. -/
theorem readClassFrom_of_operator {op : SetOperator}
    (h : operatorAhead? (skip verbose cs) = some (op, rest)) :
    readClassFrom verbose (n + 1) here outer cs =
      readClassFrom verbose n (here.operator op) outer rest := by
  rcases eq_of_operatorAhead? h with ⟨rfl, hcs⟩ | ⟨rfl, hcs⟩ | ⟨rfl, hcs⟩ <;>
    simp only [readClassFrom, hcs]

/-- Any other character begins an element or a range of the class. -/
theorem readClassFrom_of_range {c : Char} (h : skip verbose cs = c :: rest)
    (hopen : c ≠ '[') (hclose : c ≠ ']') (hop : operatorAhead? (c :: rest) = none) :
    readClassFrom verbose (n + 1) here outer cs =
      (readRange verbose (c :: rest)).bind fun p =>
        readClassFrom verbose n (here.add p.1) outer p.2 := by
  rw [readClassFrom, h]
  split
  · next hnil => cases hnil
  · next hcons => exact absurd (List.cons.inj hcons).1 hopen
  · next hcons => exact absurd (List.cons.inj hcons).1 hclose
  · next hcons =>
    rw [hcons] at hop
    cases hop
  · next hcons =>
    rw [hcons] at hop
    cases hop
  · next hcons =>
    rw [hcons] at hop
    cases hop
  · rfl

end

/-- A class and its negation, read together, to have one result in front of the rest. -/
def assoc (p : Bool × ClassTree × List Char) : (Bool × ClassTree) × List Char :=
  ((p.1, p.2.1), p.2.2)

/-- A parenthesis alone is no range of a class, since the class is not closed behind it. -/
theorem readRange_paren : readRange verbose [')'] = none := by
  rw [readRange_eq]
  exact rangeBehind_of_nil (skip_nil verbose)

/-- A class that is left with a parenthesis alone is refused, however many classes are open. -/
theorem readClassFrom_paren (n : Nat) (here : OpenClass) (outer : List OpenClass) :
    readClassFrom verbose n here outer [')'] = none := by
  cases n with
  | zero => rfl
  | succ n =>
    have hskip : skip verbose [')'] = [')'] := skip_cons_of_ne (by decide) (by decide) []
    rw [readClassFrom_of_range hskip (by decide) (by decide) (by decide), readRange_paren,
      Option.bind_none]

/-- No class is closed at the end, however many classes are open. -/
theorem readClassFrom_end (n : Nat) (here : OpenClass) (outer : List OpenClass) :
    readClassFrom verbose n here outer [] = none := readClassFrom_of_nil (skip_nil verbose)

/-- What is behind a part of a class is read alike, with fuel `n` and with fuel `m` for the
parenthesis. -/
def ReadsAlike (verbose : Bool) (n m k : Nat) : Prop :=
  ∀ (here : OpenClass) (outer : List OpenClass) (rest : List Char), rest.length < k →
    Extends Never k ((readClassFrom verbose n here outer rest).map assoc)
      ((readClassFrom verbose m here outer (rest ++ [')'])).map assoc)

section

variable {n m k : Nat} {here : OpenClass} {outer : List OpenClass} {cs rest : List Char}

/-- A class inside the class, or a named class, is read the same with a parenthesis behind the text,
if what follows is. -/
theorem readClassFrom_open_append (hnext : ReadsAlike verbose n m k) (hrest : rest.length < k)
    (h : skip verbose cs = '[' :: rest)
    (h' : skip verbose (cs ++ [')']) = '[' :: (rest ++ [')'])) :
    Extends Never k ((readClassFrom verbose (n + 1) here outer cs).map assoc)
      ((readClassFrom verbose (m + 1) here outer (cs ++ [')'])).map assoc) := by
  rw [readClassFrom_of_open h, readClassFrom_of_open h']
  have hposix := readPosix?_append rest
  generalize readPosix? rest = a at hposix ⊢
  generalize readPosix? (rest ++ [')']) = b at hposix ⊢
  cases hposix with
  | kept t rest' hn => exact hnext _ _ rest' (Nat.lt_of_le_of_lt hn hrest)
  | skipped t =>
    simp only [readClassFrom_end]
    exact .failed
  | failed =>
    refine (readClassOpening_append rest).bind
      (f := fun p => (readClassFrom verbose n p.1 (here :: outer) p.2).map assoc)
      (g := fun p => (readClassFrom verbose m p.1 (here :: outer) p.2).map assoc)
      (fun inner rest' hn => ?_) (fun inner => ?_) fun _ _ h => h.elim
    · exact hnext _ _ rest' (Nat.lt_of_le_of_lt hn hrest)
    · simp only [readClassFrom_end]
      exact .failed
  | taken _ _ h => exact h.elim

/-- Where a class is closed, reading goes on the same with a parenthesis behind the text, if what
follows does. -/
theorem readClassFrom_close_append (hnext : ReadsAlike verbose n m k) (hrest : rest.length < k)
    (h : skip verbose cs = ']' :: rest)
    (h' : skip verbose (cs ++ [')']) = ']' :: (rest ++ [')'])) :
    Extends Never k ((readClassFrom verbose (n + 1) here outer cs).map assoc)
      ((readClassFrom verbose (m + 1) here outer (cs ++ [')'])).map assoc) := by
  rw [readClassFrom_of_close h, readClassFrom_of_close h']
  cases outer with
  | nil => exact .kept _ rest (Nat.le_of_lt hrest)
  | cons parent outer => exact hnext _ _ rest hrest

/-- An operator, or a member of the class, is read the same with a parenthesis behind the text, if
what follows is. -/
theorem readClassFrom_part_append {c : Char} (hnext : ReadsAlike verbose n m k)
    (hrest : rest.length < k) (h : skip verbose cs = c :: rest)
    (h' : skip verbose (cs ++ [')']) = c :: (rest ++ [')'])) (hopen : c ≠ '[') (hclose : c ≠ ']') :
    Extends Never k ((readClassFrom verbose (n + 1) here outer cs).map assoc)
      ((readClassFrom verbose (m + 1) here outer (cs ++ [')'])).map assoc) := by
  have hoperator := operatorAhead?_append (c :: rest)
  rw [List.cons_append] at hoperator
  generalize ha : operatorAhead? (c :: rest) = a at hoperator
  generalize hb : operatorAhead? (c :: (rest ++ [')'])) = b at hoperator
  cases hoperator with
  | kept op rest' hn =>
    rw [readClassFrom_of_operator (h ▸ ha), readClassFrom_of_operator (h' ▸ hb)]
    exact hnext _ _ rest' (Nat.lt_of_le_of_lt hn hrest)
  | skipped op =>
    rw [readClassFrom_of_operator (h ▸ ha), readClassFrom_of_operator (h' ▸ hb),
      readClassFrom_end, readClassFrom_end]
    exact .failed
  | failed =>
    rw [readClassFrom_of_range h hopen hclose ha, readClassFrom_of_range h' hopen hclose hb,
      Option.map_bind, Option.map_bind]
    refine (readRange_append (c :: rest)).bind (fun t rest' hn => ?_) (fun t => ?_)
      fun t rest' htaken => ?_
    · exact hnext _ _ rest' (Nat.lt_of_le_of_lt hn hrest)
    · simp only [Function.comp, readClassFrom_end]
      exact .failed
    · rcases htaken with rfl | rfl
      · simp only [Function.comp, readClassFrom_end]
        exact .failed
      · simp only [Function.comp, readClassFrom_paren]
        exact .failed
  | taken _ _ h => exact h.elim

end

/-- A class is read the same with a parenthesis behind the text, by induction on the fuel; one that
is not closed is refused both times. -/
theorem readClassFrom_append {n m : Nat} (here : OpenClass) (outer : List OpenClass)
    {cs : List Char} (hn : cs.length < n) (hm : cs.length + 1 < m) :
    Extends Never cs.length ((readClassFrom verbose n here outer cs).map assoc)
      ((readClassFrom verbose m here outer (cs ++ [')'])).map assoc) := by
  induction n generalizing m here outer cs with
  | zero => omega
  | succ n ih =>
    obtain ⟨m, rfl⟩ : ∃ k, m = k + 1 := Nat.exists_eq_succ_of_ne_zero (by omega)
    have hlength := length_skip_le verbose cs
    have hnext : ReadsAlike verbose n m cs.length := fun here outer rest hrest =>
      (ih here outer (by omega) (by omega)).le (by omega)
    rcases skip_append verbose cs with h | ⟨h, h'⟩
    · cases hskip : skip verbose cs with
      | nil =>
        rw [hskip, List.nil_append] at h
        rw [readClassFrom_of_nil hskip,
          readClassFrom_of_range h (by decide) (by decide) (by decide), readRange_paren]
        exact .failed
      | cons c rest =>
        rw [hskip, List.length_cons] at hlength
        rw [hskip, List.cons_append] at h
        by_cases hopen : c = '['
        · subst hopen
          exact readClassFrom_open_append hnext hlength hskip h
        by_cases hclose : c = ']'
        · subst hclose
          exact readClassFrom_close_append hnext hlength hskip h
        exact readClassFrom_part_append hnext hlength hskip h hopen hclose
    · rw [readClassFrom_of_nil h, readClassFrom_of_nil h']
      exact .failed

/-- A bracket class is read the same with a parenthesis behind the text, since a parenthesis never
closes it. -/
theorem readClass_append (cs : List Char) :
    Extends Never cs.length ((readClass verbose cs).map assoc)
      ((readClass verbose (cs ++ [')'])).map assoc) := by
  refine (readClassOpening_append cs).bind
    (f := fun p => (readClassFrom verbose (p.2.length + 1) p.1 [] p.2).map assoc)
    (g := fun p => (readClassFrom verbose (p.2.length + 1) p.1 [] p.2).map assoc)
    (fun here rest hn => ?_) (fun here => ?_) fun _ _ h => h.elim
  · exact (readClassFrom_append here [] (Nat.lt_succ_self _) (by simp)).le hn
  · rw [readClassFrom_of_nil (skip_nil verbose)]
    exact .failed

end Pattern
end CommitForm
