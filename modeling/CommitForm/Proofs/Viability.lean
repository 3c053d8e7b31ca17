/-
# Where phrases break off

Tokens that begin no phrase have a first one with which none goes on.  `BreaksOff` tells of this
token, `Opens` of a phrase that has to stand inside another one; the outer phrase then breaks off
with the inner one (`BreaksOff.within`).

| `BreaksOff phrase follow p q ts` | says of the tokens `ts` from `p` to `q` |
| --- | --- |
| `viable` | a phrase begins with them |
| `dead` | no phrase with something that may follow it begins with them and the token at `q` |

A reader halts by a rule (`Halts`) if it fails where the rule breaks off, unless by depth, and if no
operator goes on with what it has read.  Readers of chains halt if those of their operands do
(`Halts.chain`), and elements break off in the same way (`elements_breaksOff`).
-/

import CommitForm.Proofs.Parser

namespace CommitForm
namespace When

/-! ## Tokens between places -/

/-- The tokens from one place to another: they are what the first place has in front of the rest of
the second, and the position counts them. -/
structure Between (p : Place) (ts : List Token) (q : Place) : Prop where
  rest : p.rest = ts ++ q.rest
  position : q.position = p.position + ts.length

section

variable {p q r : Place} {ts us : List Token}

/-- From a place to itself there are no tokens. -/
theorem Between.refl (p : Place) : Between p [] p := ⟨rfl, rfl⟩

/-- From a place to the next one there is the token at hand, unless it is the end, which is never
taken. -/
theorem Between.advance {t : Token} (hp : p.token = t) (ht : t ≠ .eof) : Between p [t] p.advance :=
  ⟨Place.rest_of_token hp ht, rfl⟩

/-- From a place by way of another one, the tokens of both stretches stand one behind the other. -/
theorem Between.trans (h : Between p ts q) (h' : Between q us r) : Between p (ts ++ us) r where
  rest := by rw [h.rest, h'.rest, List.append_assoc]
  position := by
    rw [h'.position, h.position, List.length_append]
    omega

/-- The tokens up to a place and the token there begin with the token at hand, be it one of them or,
if there are none, the last. -/
theorem Between.token_eq (h : Between p ts q) (more : List Token) :
    (ts ++ q.token :: more).head? = some p.token := by
  have hrest := h.rest
  cases ts with
  | nil =>
    rw [List.nil_append] at hrest
    rw [List.nil_append, List.head?_cons, Place.token, Place.token, hrest]
  | cons t ts =>
    rw [List.cons_append, List.head?_cons, Place.token, hrest]
    rfl

/-- What has been read are the tokens from where the reading began to where it ended. -/
theorem Reads.between {rule : Rule} {room : Nat} {r : Reading} (h : Reads rule room p r ts) :
    Between p ts r.place := ⟨h.rest, h.position⟩

end

/-! ## Breaking off -/

/-- The tokens of a rule: those of some tree of it, nested however deeply.  Where phrases break off
does not depend on the tree. -/
def Derives (rule : Rule) (ts : List Token) : Prop := ∃ e n, rule ts e n

/-- What has been read by a rule are tokens of the rule. -/
theorem Reads.phrase {rule : Rule} {room : Nat} {p : Place} {r : Reading} {ts : List Token}
    (h : Reads rule room p r ts) : Derives rule ts := by
  obtain ⟨n, -, hn⟩ := h.derives
  exact ⟨_, n, hn⟩

/-- A phrase begins with the tokens from `p` to `q`, but none goes on with the token at `q`. -/
structure BreaksOff (phrase follow : List Token → Prop) (p q : Place) (ts : List Token) : Prop where
  between : Between p ts q
  viable : ∃ us, phrase (ts ++ us)
  dead : ∀ {us rest more : List Token}, phrase us → follow rest →
    us ++ rest ≠ ts ++ q.token :: more

/-- In an outer phrase that begins with `ts` and goes on with `t` an inner phrase begins there. -/
structure Opens (inner innerFollow outer outerFollow : List Token → Prop) (ts : List Token)
    (t : Token) : Prop where
  completes : ∀ {us : List Token}, inner us → ∃ vs, outer (ts ++ us ++ vs)
  needs : ∀ {us rest more : List Token}, outer us → outerFollow rest →
    us ++ rest = ts ++ t :: more →
      ∃ vs rest', inner vs ∧ innerFollow rest' ∧ vs ++ rest' = t :: more

/-- **An outer phrase breaks off where the inner one does.**  What is viable inside is completed
outside, and any outer phrase with more would have an inner one with more. -/
theorem BreaksOff.within {inner innerFollow outer outerFollow : List Token → Prop} {p p' q : Place}
    {ts us : List Token} (h : BreaksOff inner innerFollow p' q us)
    (ho : Opens inner innerFollow outer outerFollow ts p'.token) (hp : Between p ts p') :
    BreaksOff outer outerFollow p q (ts ++ us) where
  between := hp.trans h.between
  viable := by
    obtain ⟨vs, hvs⟩ := h.viable
    obtain ⟨ws, hws⟩ := ho.completes hvs
    exact ⟨vs ++ ws, by simpa using hws⟩
  dead := by
    intro vs rest more hvs hrest heq
    obtain ⟨more', hmore⟩ := List.head?_eq_some_iff.1 (h.between.token_eq more)
    rw [List.append_assoc, hmore] at heq
    obtain ⟨ws, rest', hws, hrest', heq'⟩ := ho.needs hvs hrest heq
    exact h.dead hws hrest' (heq'.trans hmore.symm)

/-- What follows a phrase does not go on with it, if the token there does not. -/
theorem Stops.cons_token {strength : Nat} {p : Place} (h : Stops strength p.rest)
    (more : List Token) : Stops strength (p.token :: more) := by
  intro op hop
  obtain ⟨rest, position⟩ := p
  cases rest with
  | nil => cases hop
  | cons t ts => exact h op hop

/-- A reader ends where no operator goes on, and fails where its rule breaks off. -/
structure Halts (rule : Rule) (strength : Nat) (f : Place → Outcome) : Prop where
  stops : ∀ {p : Place} {r : Reading}, f p = .ok r → Stops strength r.place.rest
  breaksOff : ∀ {p : Place} {e : Failure}, f p = .error e → e.fault ≠ .tooDeep →
    ∃ ts, BreaksOff (Derives rule) (Stops strength) p e.place ts

/-- The check of a tree finds no other fault than depth, which says nothing about the tokens. -/
theorem fault_of_checked {room height : Nat} {e : Expr} {p : Place} {err : Failure}
    (h : checked room e height p = .error err) : err.fault = .tooDeep := by
  rw [checked] at h
  split at h
  · rw [← Except.error.inj h]
  · cases h

/-! ## Chains -/

section

variable {operand : Rule} {level : Level} {room : Nat} {f : Place → Outcome}

/-- Behind an operand of a chain there is an operator of its level, which does not go on with the
operand itself. -/
theorem Continues.stops_operator {l e : Expr} {m n : Nat} {ts : List Token}
    (h : Continues level operand l m ts e n) {op : Operator} (hop : op.level = level)
    (more : List Token) : Stops (level.strength + 1) (ts ++ .operator op :: more) := by
  cases h with
  | done => exact When.stops_operator hop more
  | more hop' => exact When.stops_operator hop' _

/-- Two chains that begin alike have an operand behind the same operator.  Their operands end at the
same tokens one by one, as operands are unambiguous. -/
theorem Continues.needs (hu : ∀ bound, Unambiguous (level.strength + 1) bound operand)
    {ts us rest more : List Token} {l l' e e' : Expr} {m m' n n' : Nat}
    (h : Continues level operand l m ts e n) (h' : Continues level operand l' m' us e' n')
    (hrest : Stops level.strength rest) {op : Operator} (hop : op.level = level)
    (heq : us ++ rest = ts ++ .operator op :: more) :
    ∃ vs rest', Derives operand vs ∧ Stops (level.strength + 1) rest' ∧ vs ++ rest' = more := by
  induction h generalizing us l' m' with
  | done =>
    cases h' with
    | done =>
      rw [List.nil_append, List.nil_append] at heq
      exact absurd (heq ▸ hrest) (not_stops_operator hop more)
    | more _ hr hc =>
      rw [List.cons_append, List.cons_append, List.append_assoc] at heq
      exact ⟨_, _, ⟨_, _, hr⟩, hc.stops hrest, (List.cons.inj heq).2⟩
  | more hop₁ hr hc ih =>
    cases h' with
    | done =>
      rw [List.nil_append] at heq
      exact absurd (heq ▸ hrest) (not_stops_operator hop₁ _)
    | more _ hr' hc' =>
      simp only [List.cons_append, List.append_assoc, List.cons.injEq] at heq
      -- Both operands end before an operator of this level or where the chain does.
      obtain ⟨rfl, -, -⟩ :=
        hu _ hr' (Nat.le_refl _) hr heq.2 (hc'.stops hrest) (hc.stops_operator hop more)
      exact ih hc' (List.append_cancel_left heq.2)

/-- A chain begins with an operand, and an operand by itself is a chain. -/
theorem opens_chain (t : Token) : Opens (Derives operand) (Stops (level.strength + 1))
    (Derives (Chain level operand)) (Stops level.strength) [] t where
  completes := by
    rintro us ⟨e, n, h⟩
    exact ⟨[], e, n, .single (by simpa using h)⟩
  needs := by
    rintro us rest more ⟨e, n, h⟩ hrest heq
    obtain ⟨vs, ws, l, m, rfl, hl, hc⟩ := h.exists_continues
    exact ⟨vs, ws ++ rest, ⟨l, m, hl⟩, hc.stops hrest, by rwa [List.append_assoc] at heq⟩

/-- A chain goes on with an operand behind an operator of its level, and may end behind this
operand. -/
theorem Chain.opens (hu : ∀ bound, Unambiguous (level.strength + 1) bound operand)
    {ts : List Token} (h : Derives (Chain level operand) ts) {op : Operator}
    (hop : op.level = level) (t : Token) : Opens (Derives operand) (Stops (level.strength + 1))
      (Derives (Chain level operand)) (Stops level.strength) (ts ++ [.operator op]) t where
  completes := by
    obtain ⟨e, n, h⟩ := h
    rintro us ⟨e', n', h'⟩
    exact ⟨[], _, _, by simpa using h.more hop h'⟩
  needs := by
    obtain ⟨e, n, h⟩ := h
    rintro us rest more ⟨e', n', h'⟩ hrest heq
    obtain ⟨vs, ws, l, m, rfl, hl, hc⟩ := h.exists_continues
    obtain ⟨vs', ws', l', m', rfl, hl', hc'⟩ := h'.exists_continues
    simp only [List.append_assoc, List.singleton_append] at heq
    obtain ⟨rfl, -, -⟩ :=
      hu _ hl' (Nat.le_refl _) hl heq (hc'.stops hrest) (hc.stops_operator hop _)
    exact hc.needs hu hc' hrest hop (List.append_cancel_left heq)

/-- Nothing but an operator of its level goes on with a chain, as operators that bind tighter have
been taken by its operands. -/
theorem stops_of_level_ne {ts : List Token} {op : Operator} (hop : op.level ≠ level)
    (h : Stops (level.strength + 1) (.operator op :: ts)) :
    Stops level.strength (.operator op :: ts) := by
  intro op' hop'
  obtain rfl : op = op' := Token.operator.inj (Option.some.inj hop')
  have hle : op.level.strength < level.strength + 1 := h op rfl
  have hne : op.level.strength ≠ level.strength := by
    revert hop
    cases op.level <;> cases level <;> decide
  omega

/-- A chain that is read with steps enough ends before a token that does not go on with it. -/
theorem chainFrom_stops {strength : Nat} (hf : Follows operand strength room f)
    (h : Halts operand (level.strength + 1) f) {count : Nat} {left r : Reading}
    (hcount : left.place.rest.length ≤ count)
    (hleft : Stops (level.strength + 1) left.place.rest)
    (hr : chainFrom level f room count left = .ok r) : Stops level.strength r.place.rest := by
  induction count generalizing left with
  | zero =>
    obtain rfl : left = r := Except.ok.inj hr
    rw [List.length_eq_zero_iff.1 (Nat.le_zero.1 hcount)]
    exact fun op hop => by cases hop
  | succ count ih =>
    rw [chainFrom] at hr
    split at hr
    · next op hop =>
      have hrest := Place.rest_of_token hop (by simp)
      split at hr
      · split at hr
        · cases hr
        · next right hright =>
          split at hr
          · cases hr
          · next both hboth =>
            obtain ⟨-, rfl⟩ := checked_eq_ok_iff.1 hboth
            obtain ⟨us, hus⟩ := hf.sound hright
            -- An operator has been taken, so one step fewer is enough for what is left.
            have hfewer : right.place.rest.length ≤ count := by
              rw [hrest, hus.rest, List.length_cons, List.length_append] at hcount
              omega
            have hstops : Stops (level.strength + 1) right.place.rest := h.stops hright
            refine ih ?_ ?_ hr
            · exact hfewer
            · exact hstops
      · next hlevel =>
        obtain rfl : left = r := Except.ok.inj hr
        rw [hrest] at hleft ⊢
        exact stops_of_level_ne hlevel hleft
    · next hop =>
      obtain rfl : left = r := Except.ok.inj hr
      intro op hhead
      refine absurd ?_ (hop op)
      rw [Place.token, hhead]
      rfl

/-- A chain breaks off where the operand behind one of its operators does, by induction on the
operators that have been taken. -/
theorem chainFrom_breaksOff {strength : Nat} (hf : Follows operand strength room f)
    (h : Halts operand (level.strength + 1) f)
    (hu : ∀ bound, Unambiguous (level.strength + 1) bound operand) {count : Nat} {p : Place}
    {left : Reading} {ts : List Token} (hleft : Reads (Chain level operand) room p left ts)
    {e : Failure} (he : chainFrom level f room count left = .error e) (hdeep : e.fault ≠ .tooDeep) :
    ∃ us, BreaksOff (Derives (Chain level operand)) (Stops level.strength) p e.place us := by
  induction count generalizing left ts with
  | zero => cases he
  | succ count ih =>
    rw [chainFrom] at he
    split at he
    · next op hop =>
      have hoperator := hleft.between.trans (.advance hop (by simp))
      split at he
      · next hlevel =>
        split at he
        · next e' hright =>
          obtain rfl := Except.error.inj he
          obtain ⟨us, hus⟩ := h.breaksOff hright hdeep
          exact ⟨_, hus.within (Chain.opens hu hleft.phrase hlevel _) hoperator⟩
        · next right hright =>
          split at he
          · next e' hboth =>
            obtain rfl := Except.error.inj he
            exact absurd (fault_of_checked hboth) hdeep
          · next both hboth =>
            obtain ⟨hheight, rfl⟩ := checked_eq_ok_iff.1 hboth
            obtain ⟨us, hus⟩ := hf.sound hright
            exact ih (hleft.more hlevel hop hus hheight) he
      · cases he
    · cases he

/-- A reader of chains halts if that of its operands does: the first operand breaks off, or one
behind an operator, or the fault is depth. -/
theorem Halts.chain (level : Level) (hf : Follows operand (level.strength + 1) room f)
    (h : Halts operand (level.strength + 1) f)
    (hu : ∀ bound, Unambiguous (level.strength + 1) bound operand) :
    Halts (Chain level operand) level.strength (chain level f room) where
  stops := by
    intro p r hr
    rw [When.chain] at hr
    split at hr
    · cases hr
    · next left hleft =>
      obtain ⟨ts, hts⟩ := hf.sound hleft
      refine chainFrom_stops hf h ?_ (h.stops hleft) hr
      rw [hts.rest, List.length_append]
      omega
  breaksOff := by
    intro p e he hdeep
    rw [When.chain] at he
    split at he
    · next e' hleft =>
      obtain rfl := Except.error.inj he
      obtain ⟨us, hus⟩ := h.breaksOff hleft hdeep
      exact ⟨_, hus.within (opens_chain _) (.refl p)⟩
    · next left hleft =>
      obtain ⟨ts, hts⟩ := hf.sound hleft
      obtain ⟨n, hn, hderives⟩ := hts.derives
      exact chainFrom_breaksOff hf h hu { hts with derives := ⟨n, hn, .single hderives⟩ } he hdeep

/-- The reader of whole expressions halts if that of operands does, through the three levels of
chains. -/
theorem Halts.either (hf : Follows Unary 3 room f) (h : Halts Unary 3 f)
    (hu : ∀ bound, Unambiguous 3 bound Unary) : Halts Sentence 0 (either f room) :=
  have hrelation := Halts.chain .relation hf h hu
  have hboth := Halts.chain .both (Follows.chain .relation hf) hrelation fun bound =>
    Unambiguous.chain .relation (hu bound)
  Halts.chain .either (Follows.chain .both (Follows.chain .relation hf)) hboth
    fun bound => Unambiguous.chain .both (Unambiguous.chain .relation (hu bound))

end

/-! ## Elements -/

/-- The tokens of elements, one at least, with commas between them. -/
def DerivesItems (element : Rule) (ts : List Token) : Prop := ∃ es n, Items element ts es n

/-- No element follows, as there is no comma. -/
def EndsItems (ts : List Token) : Prop := ts.head? ≠ some .comma

section

variable {element : Rule} {room : Nat} {f : Place → Outcome}

/-- Elements begin with an element, and one element by itself is enough. -/
theorem opens_items (t : Token) :
    Opens (Derives element) (Stops 3) (DerivesItems element) EndsItems [] t where
  completes := by
    rintro us ⟨e, n, h⟩
    exact ⟨[], [e], n, .last (by simpa using h)⟩
  needs := by
    rintro us rest more ⟨es, n, h⟩ - heq
    cases h with
    | last h => exact ⟨us, rest, ⟨_, _, h⟩, stops_three _, heq⟩
    | more h hs =>
      rw [List.append_assoc] at heq
      exact ⟨_, _, ⟨_, _, h⟩, stops_three _, heq⟩

/-- Behind an element and a comma there are elements, so a trailing comma is not enough. -/
theorem opens_items_comma (hu : ∀ bound, Unambiguous 3 bound element) {ts : List Token}
    (h : Derives element ts) (t : Token) :
    Opens (DerivesItems element) EndsItems (DerivesItems element) EndsItems (ts ++ [.comma]) t where
  completes := by
    obtain ⟨e, n, h⟩ := h
    rintro us ⟨es, m, hs⟩
    exact ⟨[], _, _, by simpa using Items.more h hs⟩
  needs := by
    obtain ⟨e, n, h⟩ := h
    rintro us rest more ⟨es, m, hs⟩ hrest heq
    rw [List.append_assoc] at heq
    cases hs with
    | last h' =>
      obtain ⟨rfl, -, -⟩ := hu _ h' (Nat.le_refl _) h heq (stops_three _) (stops_three _)
      exact absurd (congrArg List.head? (List.append_cancel_left heq)) hrest
    | more h' hs =>
      rw [List.append_assoc] at heq
      obtain ⟨rfl, -, -⟩ := hu _ h' (Nat.le_refl _) h heq (stops_three _) (stops_three _)
      exact ⟨_, rest, ⟨_, _, hs⟩, hrest, (List.cons.inj (List.append_cancel_left heq)).2⟩

/-- Elements that are read with steps enough end before a token that is no comma. -/
theorem elementsFrom_ends {strength : Nat} (hf : Follows element strength room f) {count : Nat}
    {p : Place} (hcount : p.rest.length ≤ count) {es : Elements}
    (h : elementsFrom f count p = .ok es) : es.place.token ≠ .comma := by
  induction count generalizing p es with
  | zero =>
    rw [← Except.ok.inj h, Place.token, List.length_eq_zero_iff.1 (Nat.le_zero.1 hcount)]
    simp
  | succ count ih =>
    rw [elementsFrom] at h
    split at h
    · next hcomma =>
      split at h
      · cases h
      · next first hfirst =>
        split at h
        · cases h
        · next more hmore =>
          obtain ⟨ts, hts⟩ := hf.sound hfirst
          have hfewer : first.place.rest.length ≤ count := by
            rw [Place.rest_of_token hcomma (by simp), hts.rest, List.length_cons,
              List.length_append] at hcount
            omega
          have hend : more.place.token ≠ .comma := ih hfewer hmore
          rw [← Except.ok.inj h]
          exact hend
    · next hne =>
      rw [← Except.ok.inj h]
      exact hne

/-- Elements break off where their first one does. -/
theorem breaksOff_first (h : Halts element 3 f) {p : Place} {e : Failure} (he : f p = .error e)
    (hdeep : e.fault ≠ .tooDeep) :
    ∃ us, BreaksOff (DerivesItems element) EndsItems p e.place us := by
  obtain ⟨us, hus⟩ := h.breaksOff he hdeep
  exact ⟨_, hus.within (opens_items _) (.refl p)⟩

/-- Elements break off where those behind a comma do, as the first element ends at the comma in any
reading. -/
theorem breaksOff_more {strength : Nat} (hf : Follows element strength room f)
    (hu : ∀ bound, Unambiguous 3 bound element) {p q : Place} {first : Reading}
    (hfirst : f p = .ok first) (hcomma : first.place.token = .comma) {us : List Token}
    (hus : BreaksOff (DerivesItems element) EndsItems first.place.advance q us) :
    ∃ us, BreaksOff (DerivesItems element) EndsItems p q us := by
  obtain ⟨ts, hts⟩ := hf.sound hfirst
  exact ⟨_, hus.within (opens_items_comma hu hts.phrase _)
    (hts.between.trans (.advance hcomma (by simp)))⟩

/-- What follows an element breaks off inside the elements behind a comma, so there is a comma.  It
goes by induction on the elements taken. -/
theorem elementsFrom_breaksOff {strength : Nat} (hf : Follows element strength room f)
    (h : Halts element 3 f) (hu : ∀ bound, Unambiguous 3 bound element) {count : Nat} {p : Place}
    {e : Failure} (he : elementsFrom f count p = .error e) (hdeep : e.fault ≠ .tooDeep) :
    p.token = .comma ∧
      ∃ us, BreaksOff (DerivesItems element) EndsItems p.advance e.place us := by
  induction count generalizing p with
  | zero => cases he
  | succ count ih =>
    rw [elementsFrom] at he
    split at he
    · next hcomma =>
      refine ⟨hcomma, ?_⟩
      split at he
      · next e' hfirst =>
        obtain rfl := Except.error.inj he
        exact breaksOff_first h hfirst hdeep
      · next first hfirst =>
        split at he
        · next e' hmore =>
          obtain rfl := Except.error.inj he
          obtain ⟨hnext, us, hus⟩ := ih hmore
          exact breaksOff_more hf hu hfirst hnext hus
        · cases he
    · cases he

/-- What has been read as elements are the tokens from where they began to where they ended. -/
theorem ReadsItems.between {p : Place} {es : Elements} {ts : List Token}
    (h : ReadsItems element room p es ts) : Between p ts es.place := ⟨h.rest, h.position⟩

/-- The elements of an array break off where one of them does.  An array that closes at once has no
fault inside. -/
theorem elements_breaksOff {strength : Nat} (hf : Follows element strength room f)
    (h : Halts element 3 f) (hu : ∀ bound, Unambiguous 3 bound element) {p : Place} {e : Failure}
    (he : elements f p = .error e) (hdeep : e.fault ≠ .tooDeep) :
    p.token ≠ .closeBracket ∧ ∃ us, BreaksOff (DerivesItems element) EndsItems p e.place us := by
  rw [elements] at he
  split at he
  · cases he
  · next hopen =>
    refine ⟨hopen, ?_⟩
    split at he
    · next e' hfirst =>
      obtain rfl := Except.error.inj he
      exact breaksOff_first h hfirst hdeep
    · next first hfirst =>
      split at he
      · next e' hmore =>
        obtain rfl := Except.error.inj he
        obtain ⟨hcomma, us, hus⟩ := elementsFrom_breaksOff hf h hu hmore hdeep
        exact breaksOff_more hf hu hfirst hcomma hus
      · cases he

/-- Elements that have been read end at a closing bracket or before a token that is no comma. -/
theorem elements_ends {strength : Nat} (hf : Follows element strength room f) {p : Place}
    {es : Elements} (h : elements f p = .ok es) :
    es.place.token = .closeBracket ∨
      es.place.token ≠ .comma ∧ ∃ ts, ReadsItems element room p es ts := by
  have hread := elements_sound hf h
  rw [elements] at h
  split at h
  · next hclose =>
    rw [← Except.ok.inj h]
    exact .inl hclose
  · split at h
    · cases h
    · next first hfirst =>
      split at h
      · cases h
      · next more hmore =>
        obtain ⟨ts, hts⟩ := hf.sound hfirst
        have hfewer : first.place.rest.length ≤ p.rest.length := by
          rw [hts.rest, List.length_append]
          omega
        have hend : more.place.token ≠ .comma := elementsFrom_ends hf hfewer hmore
        refine .inr ⟨by rwa [← Except.ok.inj h], hread.resolve_left fun hnil => ?_⟩
        rw [hnil] at h
        cases h

end

end When
end CommitForm
