/-
# The first token that is in the way

The parser finds its error at the first token with which no sentence goes on, unless the error is
one of depth (`parseTokens_error_earliest`).

| error | what would have gone on |
| --- | --- |
| an unexpected token or the end, where an operand begins | any operand |
| a pattern literal without a body | another literal |
| no `)` | a closing parenthesis |
| no `]` | a closing bracket |
| a token behind the whole expression | the end |

Inside a sign, parentheses or brackets, an operand breaks off where the phrase inside does, which is
an induction on the room for opening tokens.  That a closing token is missing takes more: the phrase
before it could not have ended elsewhere.  For no operator goes on with it (`Halts.stops`), so its
tokens are determined (`Unambiguous`).
-/

import CommitForm.Proofs.Viability

namespace CommitForm
namespace When

/-! ## Operands -/

/-- The first token of an operand: one that begins a `Primary`, or a sign of negation where such a
sign is allowed. -/
theorem exists_cons_of_operandRule {negation : Bool} {ts : List Token} {e : Expr} {n : Nat}
    (h : operandRule negation ts e n) :
    ∃ t us, ts = t :: us ∧ (t.beginsPrimary = true ∨ t = .not ∧ negation = true) := by
  cases negation with
  | false =>
    obtain ⟨t, us, rfl, ht⟩ := Primary.exists_cons h
    exact ⟨t, us, rfl, .inl ht⟩
  | true =>
    cases h with
    | not h => exact ⟨_, _, rfl, .inr ⟨rfl, rfl⟩⟩
    | primary h =>
      obtain ⟨t, us, rfl, ht⟩ := h.exists_cons
      exact ⟨t, us, rfl, .inl ht⟩

/-- Without a sign in front, an operand is a `Primary`, whether or not a sign would be allowed. -/
theorem primary_of_operandRule {negation : Bool} {ts : List Token} {e : Expr} {n : Nat}
    (h : operandRule negation ts e n) (hsign : ts.head? ≠ some .not) : Primary ts e n := by
  cases negation with
  | false => exact h
  | true =>
    cases h with
    | not h => exact absurd rfl hsign
    | primary h => exact h

/-- An operand begins here, and no operand begins with the next token, so the text before it can be
continued but not with that token. -/
theorem breaksOff_here {negation : Bool} {p : Place}
    (h : ∀ us e n, operandRule negation us e n → us.head? ≠ some p.token) :
    BreaksOff (Derives (operandRule negation)) (Stops 3) p p [] where
  between := .refl p
  viable := ⟨[.string ""], _, _, (Primary.string "").toOperand negation⟩
  dead := by
    rintro us rest more ⟨e, n, hus⟩ - heq
    obtain ⟨t, ts, rfl, -⟩ := exists_cons_of_operandRule hus
    exact h _ e n hus (congrArg List.head? heq)

/-- No operand begins with this token, since it neither begins a `Primary` nor is a sign in a place
for signs. -/
theorem breaksOff_unexpected {negation : Bool} {p : Place} (hp : p.token.beginsPrimary = false)
    (hsign : p.token = .not → negation = false) :
    BreaksOff (Derives (operandRule negation)) (Stops 3) p p [] := by
  refine breaksOff_here fun us e n hus hhead => ?_
  obtain ⟨t, ts, rfl, ht⟩ := exists_cons_of_operandRule hus
  rw [← Option.some.inj hhead] at hp hsign
  rcases ht with ht | ⟨ht, hneg⟩
  · rw [hp] at ht
    cases ht
  · rw [hsign ht] at hneg
    cases hneg

/-- Behind a sign there is an operand, so what can be continued behind the sign can be continued
with it. -/
theorem opens_not (t : Token) :
    Opens (Derives Unary) (Stops 3) (Derives Unary) (Stops 3) [.not] t where
  completes := by
    rintro us ⟨e, n, h⟩
    exact ⟨[], _, _, by simpa using h.not⟩
  needs := by
    rintro us rest more ⟨e, n, h⟩ hrest heq
    cases h with
    | not h => exact ⟨_, rest, ⟨_, _, h⟩, hrest, (List.cons.inj heq).2⟩
    | primary h =>
      obtain ⟨u, us, rfl, hu⟩ := h.exists_cons
      rw [(List.cons.inj heq).1] at hu
      exact absurd hu (by decide)

/-- Operands with an opening parenthesis have a sentence and a closing one behind it. -/
theorem exists_sentence {negation : Bool} {us rest more : List Token}
    (h : Derives (operandRule negation) us) (heq : us ++ rest = .openParen :: more) :
    ∃ vs, Derives Sentence vs ∧ vs ++ .closeParen :: rest = more := by
  obtain ⟨e, n, h⟩ := h
  obtain ⟨t, ts, rfl, -⟩ := exists_cons_of_operandRule h
  obtain rfl : t = .openParen := (List.cons.inj heq).1
  cases primary_of_operandRule h (by simp) with
  | parens hs => exact ⟨_, ⟨_, _, hs⟩, by simpa using (List.cons.inj heq).2⟩

/-- Operands with an opening bracket have elements, or none, and a closing one behind it. -/
theorem exists_items {negation : Bool} {us rest more : List Token}
    (h : Derives (operandRule negation) us) (heq : us ++ rest = .openBracket :: more)
    (hopen : more.head? ≠ some .closeBracket) :
    ∃ vs, DerivesItems Primary vs ∧ vs ++ .closeBracket :: rest = more := by
  obtain ⟨e, n, h⟩ := h
  obtain ⟨t, ts, rfl, -⟩ := exists_cons_of_operandRule h
  obtain rfl : t = .openBracket := (List.cons.inj heq).1
  cases primary_of_operandRule h (by simp) with
  | emptyArray => exact absurd (congrArg List.head? (List.cons.inj heq).2).symm hopen
  | array hs => exact ⟨_, ⟨_, _, hs⟩, by simpa using (List.cons.inj heq).2⟩

/-- A closing token ends every chain, however loose its operators bind. -/
theorem stops_close {t : Token} (ht : t = .closeParen ∨ t = .closeBracket) (strength : Nat)
    (rest : List Token) : Stops strength (t :: rest) := by
  rcases ht with rfl | rfl <;> exact stops_cons (by simp) _ _

/-- Behind an opening parenthesis there is a sentence, and a closing parenthesis makes an operand of
it. -/
theorem opens_parens (negation : Bool) (t : Token) :
    Opens (Derives Sentence) (Stops 0) (Derives (operandRule negation)) (Stops 3) [.openParen]
      t where
  completes := by
    rintro us ⟨e, n, h⟩
    exact ⟨[.closeParen], e, n + 1, (Primary.parens h).toOperand negation⟩
  needs := by
    rintro us rest more hus - heq
    obtain ⟨vs, hvs, hmore⟩ := exists_sentence hus heq
    exact ⟨vs, _, hvs, stops_close (.inl rfl) 0 rest, hmore⟩

/-- Behind an opening bracket there are elements, if they do not end at once, and a closing bracket
makes an array of them. -/
theorem opens_brackets (negation : Bool) {t : Token} (ht : t ≠ .closeBracket) :
    Opens (DerivesItems Primary) EndsItems (Derives (operandRule negation)) (Stops 3)
      [.openBracket] t where
  completes := by
    rintro us ⟨es, n, h⟩
    exact ⟨[.closeBracket], .array es, n + 1, (Primary.array h).toOperand negation⟩
  needs := by
    rintro us rest more hus - heq
    obtain ⟨vs, hvs, hmore⟩ := exists_items hus heq (by simpa using ht)
    exact ⟨vs, _, hvs, by simp [EndsItems], hmore⟩

/-- A sentence in parentheses that has been read, without a closing one: the parenthesis would
continue it, and the token that stands there does not. -/
theorem breaksOff_unclosedParen {negation : Bool} {p q : Place} {ts : List Token}
    (hp : p.token = .openParen) (hq : Between p.advance ts q) (hts : Derives Sentence ts)
    (hstops : Stops 0 q.rest) (hopen : q.token ≠ .closeParen) :
    BreaksOff (Derives (operandRule negation)) (Stops 3) p q (.openParen :: ts) where
  between := (Between.advance hp (by simp)).trans hq
  viable := by
    obtain ⟨e, n, h⟩ := hts
    exact ⟨[.closeParen], e, n + 1, (Primary.parens h).toOperand negation⟩
  dead := by
    rintro us rest more hus - heq
    obtain ⟨vs, ⟨e', n', h'⟩, hmore⟩ := exists_sentence hus heq
    obtain ⟨e, n, h⟩ := hts
    obtain ⟨rfl, -, -⟩ := (unambiguous_operand n').1.sentence h' (Nat.le_refl n') h hmore
      (stops_close (.inl rfl) 0 rest) (hstops.cons_token more)
    exact hopen (List.cons.inj (List.append_cancel_left hmore)).1.symm

/-- Elements in brackets that have been read, without a closing one: a bracket or a comma would
continue them, and neither stands there. -/
theorem breaksOff_unclosedBracket {negation : Bool} {p q : Place} {ts : List Token}
    (hp : p.token = .openBracket) (hq : Between p.advance ts q) (hts : DerivesItems Primary ts)
    (hcomma : q.token ≠ .comma) (hopen : q.token ≠ .closeBracket) :
    BreaksOff (Derives (operandRule negation)) (Stops 3) p q (.openBracket :: ts) where
  between := (Between.advance hp (by simp)).trans hq
  viable := by
    obtain ⟨es, n, h⟩ := hts
    exact ⟨[.closeBracket], .array es, n + 1, (Primary.array h).toOperand negation⟩
  dead := by
    rintro us rest more hus - heq
    obtain ⟨es, n, h⟩ := hts
    obtain ⟨t, ts', rfl, ht⟩ := h.exists_cons
    have hne : (t :: ts' ++ q.token :: more).head? ≠ some .closeBracket := by
      intro hhead
      rw [Option.some.inj hhead] at ht
      exact absurd ht (by decide)
    obtain ⟨vs, ⟨es', n', h'⟩, hmore⟩ := exists_items hus heq hne
    obtain ⟨rfl, -, -⟩ := h'.unique (unambiguous_operand n').2 (Nat.le_refl n') h hmore (by simp)
      (by simpa using hcomma)
    exact hopen (List.cons.inj (List.append_cancel_left hmore)).1.symm

/-- With one opening token open, operands halt by their rules: the hypothesis of the induction on
the room. -/
def HaltsInside (room : Nat) : Prop :=
  ∀ room' negation, room = room' + 1 → Halts (operandRule negation) 3 (operand room' negation)

section

variable {room : Nat} {negation : Bool} {p : Place} {e : Failure}

/-- A sign breaks off where the operand behind it does, unless the fault is that there is no room
left. -/
theorem not_breaksOff (ih : HaltsInside (room + 1)) (hp : p.token = .not)
    (h : (content room .not p.advance).bind (close (room + 1) .not) = .error e)
    (hdeep : e.fault ≠ .tooDeep) :
    ∃ ts, BreaksOff (Derives Unary) (Stops 3) p e.place ts := by
  rcases bind_eq_error h with hinner | ⟨inner, -, hclose⟩
  · obtain ⟨us, hus⟩ := (ih room true rfl).breaksOff hinner hdeep
    exact ⟨_, hus.within (opens_not _) (.advance hp (by simp))⟩
  · exact absurd (fault_of_checked hclose) hdeep

/-- Parentheses break off where the sentence between them does, or behind it, where the closing one
is missing. -/
theorem parens_breaksOff (ih : HaltsInside (room + 1)) (hp : p.token = .openParen)
    (h : (content room .openParen p.advance).bind (close (room + 1) .openParen) = .error e)
    (hdeep : e.fault ≠ .tooDeep) :
    ∃ ts, BreaksOff (Derives (operandRule negation)) (Stops 3) p e.place ts := by
  have hinside := (ih room true rfl).either (follows_operand room true) fun bound =>
    (unambiguous_operand bound).1
  rcases bind_eq_error h with hinner | ⟨inner, hinner, hclose⟩
  · obtain ⟨us, hus⟩ := hinside.breaksOff hinner hdeep
    exact ⟨_, hus.within (opens_parens negation _) (.advance hp (by simp))⟩
  · obtain ⟨us, hus⟩ := (follows_either room).sound hinner
    rw [close_openParen] at hclose
    split at hclose
    · cases hclose
    · next hopen =>
      obtain rfl := Except.error.inj hclose
      exact ⟨_, breaksOff_unclosedParen hp hus.between hus.phrase (hinside.stops hinner) hopen⟩

/-- Brackets break off where the elements between them do, or behind them, where neither a comma nor
a closing bracket follows. -/
theorem brackets_breaksOff (ih : HaltsInside (room + 1)) (hp : p.token = .openBracket)
    (h : (content room .openBracket p.advance).bind (close (room + 1) .openBracket) = .error e)
    (hdeep : e.fault ≠ .tooDeep) :
    ∃ ts, BreaksOff (Derives (operandRule negation)) (Stops 3) p e.place ts := by
  have hf : Follows Primary 3 room (operand room false) := follows_operand room false
  have hu : ∀ bound, Unambiguous 3 bound Primary := fun bound => (unambiguous_operand bound).2
  rcases bind_eq_error h with hinner | ⟨inner, hinner, hclose⟩
  · obtain ⟨hopen, us, hus⟩ := elements_breaksOff hf (ih room false rfl) hu
      (content_openBracket_eq_error hinner) hdeep
    exact ⟨_, hus.within (opens_brackets negation hopen) (.advance hp (by simp))⟩
  · obtain ⟨es, hes, rfl⟩ := content_openBracket_eq_ok hinner
    rw [close_openBracket] at hclose
    split at hclose
    · exact absurd (fault_of_checked hclose) hdeep
    · next hopen =>
      obtain ⟨hcomma, us, hus⟩ := (elements_ends hf hes).resolve_left hopen
      obtain ⟨n, -, hn⟩ := hus.derives
      obtain rfl := Except.error.inj hclose
      exact ⟨_, breaksOff_unclosedBracket hp hus.between ⟨_, n, hn⟩ hcomma hopen⟩

/-- No operand begins with a pattern literal without a body, although an operand may begin with
another pattern literal. -/
theorem breaksOff_badPattern {literal : String} (hp : p.token = .pattern literal)
    (hcut : splitPattern? literal = none) :
    BreaksOff (Derives (operandRule negation)) (Stops 3) p p [] := by
  refine breaksOff_here fun us e n hus => ?_
  rw [hp]
  intro hhead
  -- The grammar knows pattern literals with a body only.
  cases primary_of_operandRule hus (by simp [hhead]) with
  | pattern hbody hflags =>
    rw [← Token.pattern.inj (Option.some.inj hhead), splitPattern?_written hbody hflags] at hcut
    cases hcut
  | _ => cases hhead

/-- No operand begins with a token that is none by itself and does not open one. -/
theorem plain_breaksOff {fault : ParseFault} (hp : ¬Opening negation p.token)
    (h : plain p.token = .error fault) :
    BreaksOff (Derives (operandRule negation)) (Stops 3) p p [] := by
  cases ht : p.token with
  | number | string | identifier =>
    rw [ht] at h
    cases h
  | pattern literal =>
    rw [ht, plain] at h
    split at h
    · cases h
    · next hcut => exact breaksOff_badPattern ht hcut
  | not =>
    refine breaksOff_unexpected (by rw [ht]; rfl) fun _ => ?_
    simpa [Opening, Token.opens, ht] using hp
  | openParen | openBracket => exact absurd ⟨congrArg Token.opens ht, by simp [ht]⟩ hp
  | _ => exact breaksOff_unexpected (by rw [ht]; rfl) (by simp [ht])

/-- **An operand breaks off where its reading fails,** by the token it begins with, unless the
nesting is what is wrong. -/
theorem operand_breaksOff (ih : HaltsInside room) (h : operand room negation p = .error e)
    (hdeep : e.fault ≠ .tooDeep) :
    ∃ ts, BreaksOff (Derives (operandRule negation)) (Stops 3) p e.place ts := by
  by_cases hopening : Opening negation p.token
  · cases room with
    | zero =>
      rw [operand_zero hopening] at h
      exact absurd (congrArg Failure.fault (Except.error.inj h)).symm hdeep
    | succ room =>
      rw [operand_succ hopening] at h
      obtain ⟨hopens, hnot⟩ := hopening
      rcases Token.opens_iff.1 hopens with hp | hp | hp
      · rw [hp] at h
        obtain rfl := hnot hp
        exact not_breaksOff ih hp h hdeep
      · rw [hp] at h
        exact parens_breaksOff ih hp h hdeep
      · rw [hp] at h
        exact brackets_breaksOff ih hp h hdeep
  · rw [operand_plain hopening] at h
    split at h
    · cases h
    · next fault hfault =>
      obtain rfl := Except.error.inj h
      exact ⟨[], plain_breaksOff hopening hfault⟩

end

/-- **Operands halt by their rules,** by induction on the room for opening tokens, since what stands
inside has less room. -/
theorem halts_operand (room : Nat) (negation : Bool) :
    Halts (operandRule negation) 3 (operand room negation) := by
  induction room generalizing negation with
  | zero =>
    have hinside : HaltsInside 0 := fun room' _ h => absurd h (Nat.succ_ne_zero room').symm
    exact ⟨fun _ => stops_three _, operand_breaksOff hinside⟩
  | succ room ih =>
    have hinside : HaltsInside (room + 1) := by
      intro room' negation h
      obtain rfl : room = room' := Nat.succ.inj h
      exact ih negation
    exact ⟨fun _ => stops_three _, operand_breaksOff hinside⟩

/-- Expressions of any level halt by the rule of sentences, by the chains around operands that
do. -/
theorem halts_either (room : Nat) : Halts Sentence 0 (either (operand room true) room) :=
  (halts_operand room true).either (follows_operand room true) fun bound =>
    (unambiguous_operand bound).1

/-! ## The end token -/

/-- Phrases of a rule are free of the end token, up to a count. -/
def EndFree (bound : Nat) (rule : Rule) : Prop :=
  ∀ ⦃ts : List Token⦄ ⦃e : Expr⦄ ⦃n : Nat⦄, rule ts e n → n ≤ bound → .eof ∉ ts

section

variable {operand : Rule} {bound : Nat}

/-- Chains hold no end token if their operands hold none, since the operators between them are none
either. -/
theorem EndFree.chain (level : Level) (ho : EndFree bound operand) :
    EndFree bound (Chain level operand) := by
  intro ts e n h hn
  induction h with
  | single h => exact ho h hn
  | more _ _ hr ih =>
    have hleft := ih (by omega)
    have hright := ho hr (by omega)
    simp [hleft, hright]

/-- Elements hold no end token if each of them holds none, since the commas between them are none
either. -/
theorem EndFree.items (ho : EndFree bound operand) {ts : List Token} {es : List Expr} {n : Nat}
    (h : Items operand ts es n) (hn : n ≤ bound) : .eof ∉ ts := by
  induction h with
  | last h => exact ho h hn
  | more h _ ih =>
    have hfirst := ho h (by omega)
    have hmore := ih (by omega)
    simp [hfirst, hmore]

/-- Sentences hold no end token if the operands in them hold none, through the three levels of
chains. -/
theorem EndFree.sentence (hu : EndFree bound Unary) : EndFree bound Sentence :=
  .chain .either (.chain .both (.chain .relation hu))

/-- A `Primary` holds no end token if what stands inside it, which is lower, holds none. -/
theorem endFree_primary (hu : ∀ n < bound, EndFree n Unary) (hp : ∀ n < bound, EndFree n Primary) :
    EndFree bound Primary := by
  intro ts e n h hn
  cases h with
  | @parens us _ n hs =>
    have hinner := (hu n hn).sentence hs (Nat.le_refl n)
    simp [hinner]
  | @array us _ n hs =>
    have hinner := (hp n hn).items hs (Nat.le_refl n)
    simp [hinner]
  | _ => simp

/-- Operands up to any height hold no end token, by induction on the height. -/
theorem endFree_operand (bound : Nat) : EndFree bound Unary ∧ EndFree bound Primary := by
  induction bound using Nat.strongRecOn with
  | ind bound ih =>
    have hp := endFree_primary (fun n hn => (ih n hn).1) fun n hn => (ih n hn).2
    refine ⟨fun ts e n h hn => ?_, hp⟩
    cases h with
    | @not us e n h =>
      have hinner := (ih n hn).1 h (Nat.le_refl n)
      simp [hinner]
    | primary h => exact hp h hn

end

/-- No sentence holds an end token, so the end token that is asked for behind it is the first
one. -/
theorem eof_not_mem_of_derives {ts : List Token} (h : Derives Sentence ts) : .eof ∉ ts := by
  obtain ⟨e, n, h⟩ := h
  exact (endFree_operand n).1.sentence h (Nat.le_refl n)

/-! ## Whole expressions -/

/-- A sentence and the end token behind it, which is what the tokens of a clause have to be. -/
def Closed (ts : List Token) : Prop := ∃ us, Derives Sentence us ∧ ts = us ++ [.eof]

/-- The end token ends every chain, since it is no operator. -/
theorem stops_eof : Stops 0 [Token.eof] := stops_cons (by simp) 0 []

/-- A closed sentence begins with a sentence, so what cannot be continued to a sentence cannot be
continued to a closed one. -/
theorem opens_closed (t : Token) :
    Opens (Derives Sentence) (Stops 0) Closed (· = []) [] t where
  completes := fun {us} h => ⟨[.eof], us, h, rfl⟩
  needs := by
    rintro us rest more ⟨vs, hvs, rfl⟩ rfl heq
    exact ⟨vs, [.eof], hvs, stops_eof, by simpa using heq⟩

/-- **Reading a whole expression fails where closed sentences break off,** and before that there is
no end token. -/
theorem expression_breaksOff {room : Nat} {p : Place} {e : Failure}
    (h : expression room p = .error e) (hdeep : e.fault ≠ .tooDeep) :
    ∃ ts, .eof ∉ ts ∧ BreaksOff Closed (· = []) p e.place ts := by
  rw [expression] at h
  split at h
  · next e' hread =>
    obtain rfl := Except.error.inj h
    obtain ⟨ts, hts⟩ := (halts_either room).breaksOff hread hdeep
    obtain ⟨us, hus⟩ := hts.viable
    refine ⟨ts, fun hmem => ?_, hts.within (opens_closed _) (.refl p)⟩
    exact eof_not_mem_of_derives hus (List.mem_append_left us hmem)
  · next r hread =>
    split at h
    · cases h
    · next hend =>
      obtain ⟨ts, hts⟩ := (follows_either room).sound hread
      have hphrase := hts.phrase
      rw [← Except.error.inj h]
      refine ⟨ts, eof_not_mem_of_derives hphrase, hts.between, ⟨[.eof], ts, hphrase, rfl⟩, ?_⟩
      rintro us rest more ⟨vs, ⟨e₁, n₁, hvs⟩, rfl⟩ rfl heq
      obtain ⟨e₂, n₂, hts'⟩ := hphrase
      rw [List.append_nil] at heq
      obtain ⟨rfl, -, -⟩ := (unambiguous_operand n₁).1.sentence hvs (Nat.le_refl n₁) hts' heq
        stops_eof (((halts_either room).stops hread).cons_token more)
      exact hend (List.cons.inj (List.append_cancel_left heq)).1.symm

/-- Parsing fails just if the reading of an expression with full room fails, with the same fault at
the position of the place. -/
theorem parseTokens_eq_error_iff {ts : List Token} {e : ParseError} :
    parseTokens ts = .error e ↔
      ∃ f, expression maxDepth ⟨ts, 0⟩ = .error f ∧ ⟨f.fault, f.place.position⟩ = e := by
  rw [parseTokens, Parser.parse, Parser.ofTokens]
  split
  · next r hr => simp [hr]
  · next f hf => simp [hf]

/-- **Parse errors point at the earliest offending token.**  Unless an error is one of depth, it is
found at a token of the list.  Some sentence begins with the tokens before it, and none begins with
these tokens and the token itself. -/
theorem parseTokens_error_earliest {ts : List Token} {e : ParseError}
    (h : parseTokens (ts ++ [.eof]) = .error e) (hdeep : e.fault ≠ .tooDeep) :
    e.position < (ts ++ [Token.eof]).length ∧
      (∃ us, Closed ((ts ++ [Token.eof]).take e.position ++ us)) ∧
      ∀ us, ¬ Closed ((ts ++ [Token.eof]).take (e.position + 1) ++ us) := by
  obtain ⟨f, hread, rfl⟩ := parseTokens_eq_error_iff.1 h
  obtain ⟨us, heof, hbreak⟩ := expression_breaksOff hread hdeep
  have hrest : ts ++ [.eof] = us ++ f.place.rest := hbreak.between.rest
  have hposition : f.place.position = us.length := by
    rw [hbreak.between.position, Nat.zero_add]
  obtain ⟨t, more, hmore⟩ : ∃ t more, f.place.rest = t :: more := by
    refine List.exists_cons_of_ne_nil fun hnil => heof ?_
    rw [hnil, List.append_nil] at hrest
    exact hrest ▸ List.mem_append_right ts (List.mem_singleton_self _)
  have htoken : f.place.token = t := by
    rw [Place.token, hmore]
    rfl
  rw [hrest, hmore, hposition]
  refine ⟨by simp, ?_, fun vs hvs => ?_⟩
  · rw [List.take_left]
    exact hbreak.viable
  · rw [List.take_length_add_append, List.take_succ_cons, List.take_zero] at hvs
    have heq : us ++ [t] ++ vs ++ [] = us ++ f.place.token :: vs := by simp [htoken]
    exact hbreak.dead hvs rfl heq

/-- The tokens of `!a && (b in ['x',])`, where an element should follow the comma; the end is put
behind them where they are parsed. -/
def danglingComma : List Token :=
  [.not, .identifier "a", .operator .both, .openParen, .identifier "b", .operator .isIn,
    .openBracket, .string "x", .comma, .closeBracket, .closeParen]

/-- An array may not end with a comma, so the bracket behind it is the offending token. -/
theorem parseTokens_danglingComma :
    parseTokens (danglingComma ++ [.eof]) = .error ⟨.unexpected .closeBracket, 9⟩ ∧
      ParseFault.unexpected .closeBracket ≠ .tooDeep ∧
      9 < (danglingComma ++ [Token.eof]).length ∧
      (∃ us, Closed ((danglingComma ++ [Token.eof]).take 9 ++ us)) ∧
      ∀ us, ¬ Closed ((danglingComma ++ [Token.eof]).take 10 ++ us) := by
  have hparse : parseTokens (danglingComma ++ [.eof]) = .error ⟨.unexpected .closeBracket, 9⟩ := rfl
  exact ⟨hparse, by simp, parseTokens_error_earliest hparse (by simp)⟩

end When
end CommitForm
