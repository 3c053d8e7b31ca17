/-
# A parser that counts

The readers of expressions hand on how many opening tokens may still be opened.  Here is the same
reading by a parser with a counter of its own: it counts up behind an opening token and down again
behind what stands inside, and when it finds a fault it stops with the counter as it is.

| step | place | counter |
| --- | --- | --- |
| advance | behind the next token, if there is one | stays |
| descend | stays | one more, if it is below `maxDepth` |
| ascend | stays | one less, if it is above zero |

A `Course` lists the states that the parser passes through.  Whatever it reads, the course is made
of these steps, and it comes to what the reader comes to (`Keeps`): the same answer at the same
place, the counter where it was if something has been read, and `maxDepth` less the room that is
left if not.
-/

import CommitForm.Proofs.Heights
import CommitForm.Proofs.Rooms

namespace CommitForm
namespace When

/-! ## States and steps -/

/-- A state of a parser that counts: its place, and how many opening tokens it takes to be open. -/
structure Counted where
  place : Place
  nesting : Nat
deriving DecidableEq

namespace Counted

/-- What a parser that counts may do next: take a token, count an opening one while there is room,
or count back. -/
inductive Step : Counted → Counted → Prop where
  | advance {p : Place} {n : Nat} (h : p.rest ≠ []) : Step ⟨p, n⟩ ⟨p.advance, n⟩
  | descend {p : Place} {n : Nat} (h : n < maxDepth) : Step ⟨p, n⟩ ⟨p, n + 1⟩
  | ascend {p : Place} {n : Nat} : Step ⟨p, n + 1⟩ ⟨p, n⟩

/-- Steps from one state to another, and the states behind each of them, so that something can be
said of all states passed. -/
inductive Steps : Counted → List Counted → Counted → Prop where
  | none {s : Counted} : Steps s [] s
  | step {s t u : Counted} {ts : List Counted} (h : Step s t) (hs : Steps t ts u) :
      Steps s (t :: ts) u

/-- Steps can be followed by further steps from where they end, with the states passed in one
row. -/
theorem Steps.trans {s t u : Counted} {ts us : List Counted} (h : Steps s ts t)
    (h' : Steps t us u) : Steps s (ts ++ us) u := by
  induction h with
  | none => exact h'
  | step hstep _ ih => exact .step hstep (ih h')

/-- One step by itself passes one state, the one that it ends in. -/
theorem Steps.single {s t : Counted} (h : Step s t) : Steps s [t] t := .step h .none

end Counted

/-! ## Reading with a counter -/

/-- What a reading comes to: the states that it passes through, where it stops, and its answer. -/
structure Course (α : Type) where
  passed : List Counted
  stop : Counted
  answer : Except ParseFault α

/-- A reading by a parser that counts: from every state a course, with the states passed, the last
one and the answer. -/
def Counting (α : Type) : Type := Counted → Course α

namespace Counting

variable {α β : Type}

/-- Reads nothing more: the answer is there and no state is passed. -/
def done (a : α) : Counting α := fun s => ⟨[], s, .ok a⟩

/-- Finds a fault, and leaves everything as it is; the counter in particular is not taken back. -/
def fail (fault : ParseFault) : Counting α := fun s => ⟨[], s, .error fault⟩

/-- Goes on behind what has been read, in the state that was left; behind a fault nothing is done
any more. -/
def andThen (m : Counting α) (f : α → Counting β) : Counting β := fun s =>
  match m s with
  | ⟨passed, stop, .error fault⟩ => ⟨passed, stop, .error fault⟩
  | ⟨passed, stop, .ok a⟩ => ⟨passed ++ (f a stop).passed, (f a stop).stop, (f a stop).answer⟩

instance : Monad Counting where
  pure := done
  bind := andThen

/-- The token at hand, which stays where it is; looking at it is no step. -/
def peek : Counting Token := fun s => ⟨[], s, .ok s.place.token⟩

/-- How many tokens are left, which bounds how long a chain or an array can go on. -/
def left : Counting Nat := fun s => ⟨[], s, .ok s.place.rest.length⟩

/-- Takes a token, which is a step, and keeps the counter. -/
def advance : Counting Unit := fun s =>
  let t : Counted := ⟨s.place.advance, s.nesting⟩
  ⟨[t], t, .ok ()⟩

/-- Counts an opening token, if it is not one too many; if it is, the counter stays at its bound. -/
def descend : Counting Unit := fun s =>
  if maxDepth ≤ s.nesting then ⟨[], s, .error .tooDeep⟩
  else
    let t : Counted := ⟨s.place, s.nesting + 1⟩
    ⟨[t], t, .ok ()⟩

/-- Counts down again, behind what stood inside an opening token and was read without a fault. -/
def ascend : Counting Unit := fun s =>
  let t : Counted := ⟨s.place, s.nesting - 1⟩
  ⟨[t], t, .ok ()⟩

/-- Reads what stands inside an opening token and its end; the counter is taken back only if that
went well. -/
def nested (m : Counting α) : Counting α := do
  descend
  let a ← m
  ascend
  return a

/-- Takes a token that has to follow, or finds the fault that it is not there, without taking
anything. -/
def expect (t : Token) (fault : ParseFault) : Counting Unit := do
  if (← peek) = t then advance else fail fault

/-- Accepts a tree with its height, unless it is too high; the height is told apart from the nesting
of the tokens. -/
def measured (e : Expr) (height : Nat) : Counting (Expr × Nat) :=
  if maxDepth < height then fail .tooDeep else done (e, height)

/-- Reads what follows in a chain of operators of one level, with what has been read as the left
operand of the next. -/
def chainFrom (level : Level) (operand : Counting (Expr × Nat)) :
    Nat → Expr × Nat → Counting (Expr × Nat)
  | 0, l => done l
  | count + 1, l => do
    match ← peek with
    | .operator op =>
      if op.level = level then do
        advance
        let r ← operand
        let both ← measured (.binary op l.1 r.1) (max l.2 r.2 + 1)
        chainFrom level operand count both
      else return l
    | _ => return l

/-- Reads operands with operators of one level between them, grouped to the left. -/
def chain (level : Level) (operand : Counting (Expr × Nat)) : Counting (Expr × Nat) := do
  let count ← left
  let l ← operand
  chainFrom level operand count l

/-- Reads an expression of any level out of operands of the tightest, one chain inside of
another. -/
def either (unary : Counting (Expr × Nat)) : Counting (Expr × Nat) :=
  chain .either (chain .both (chain .relation unary))

/-- Reads the elements that follow, each behind a comma, and their greatest height, which is zero
where none follow. -/
def elementsFrom (element : Counting (Expr × Nat)) : Nat → Counting (List Expr × Nat)
  | 0 => done ([], 0)
  | count + 1 => do
    match ← peek with
    | .comma => do
      advance
      let first ← element
      let more ← elementsFrom element count
      return (first.1 :: more.1, max first.2 more.2)
    | _ => return ([], 0)

/-- Reads the elements of an array up to its closing bracket, which is left to be taken by the
caller. -/
def elements (element : Counting (Expr × Nat)) : Counting (List Expr × Nat) := do
  match ← peek with
  | .closeBracket => return ([], 0)
  | _ => do
    let count ← left
    let first ← element
    let more ← elementsFrom element count
    return (first.1 :: more.1, max first.2 more.2)

/-- Reads an operand of one token, a name or a literal, or finds that the token is no operand. -/
def single (t : Token) : Counting (Expr × Nat) :=
  match plain t with
  | .ok e => do
    advance
    return (e, 1)
  | .error fault => fail fault

/-- Reads an operand, where `inner` reads those that stand inside it, so that one layer can be
looked at by itself. -/
def operandBy (inner : Bool → Counting (Expr × Nat)) (negation : Bool) :
    Counting (Expr × Nat) := do
  match ← peek with
  | .not =>
    if negation then do
      advance
      let r ← nested (inner true)
      measured (.not r.1) (r.2 + 1)
    else fail (.unexpected .not)
  | .openParen => do
    advance
    let r ← nested (either (inner true))
    expect .closeParen .unclosedParen
    return r
  | .openBracket => do
    advance
    let es ← nested (elements (inner false))
    expect .closeBracket .unclosedBracket
    measured (.array es.1) (es.2 + 1)
  | t => single t

/-- Reads an operand, where no more than `calls` operands may stand inside one another. -/
def operand : (calls : Nat) → (negation : Bool) → Counting (Expr × Nat)
  | 0 => operandBy fun _ => fail .tooDeep
  | calls + 1 => operandBy (operand calls)

/-- Reads an expression that ends at the end of the tokens; anything behind it is unexpected. -/
def expression (calls : Nat) : Counting (Expr × Nat) := do
  let r ← either (operand calls true)
  match ← peek with
  | .eof => return r
  | t => fail (.unexpected t)

/-- Makes an answer of what has been found, and goes on from there, which is how a parser is asked
again. -/
def attempt (m : Counting (Expr × Nat)) : Counting (Except ParseError Expr) := fun s =>
  match m s with
  | ⟨passed, stop, .ok r⟩ => ⟨passed, stop, .ok (.ok r.1)⟩
  | ⟨passed, stop, .error fault⟩ => ⟨passed, stop, .ok (.error ⟨fault, stop.place.position⟩)⟩

/-- The answers of `count` readings in a row by one parser, the counter handed on from each to the
next. -/
def answers : (count : Nat) → Counting (List (Except ParseError Expr))
  | 0 => done []
  | count + 1 => do
    let answer ← attempt (expression maxDepth)
    let more ← answers count
    return answer :: more

end Counting

/-! ## Courses of readings -/

/-- The tree of a reading and its height, which is what a parser that counts answers for it. -/
def Reading.tree (r : Reading) : Expr × Nat := (r.expr, r.height)

/-- The elements and their height, which is what a parser that counts answers for them. -/
def Elements.trees (es : Elements) : List Expr × Nat := (es.items, es.height)

variable {α β γ δ : Type} [Placed β] [Placed δ] {view : β → α} {view' : δ → γ}

/-- A course from `s` goes step by step and comes to what a reading comes to.  If something has been
read the counter is what it was, and if not it tells the room that is left. -/
inductive Keeps (s : Counted) (view : β → α) : Course α → Except Failure β → Prop where
  | ok {passed : List Counted} {b : β} (steps : s.Steps passed ⟨Placed.place b, s.nesting⟩) :
      Keeps s view ⟨passed, ⟨Placed.place b, s.nesting⟩, .ok (view b)⟩ (.ok b)
  | error {passed : List Counted} {fault : ParseFault} {p : Place} {n room : Nat}
      (steps : s.Steps passed ⟨p, n⟩) (hroom : n + room = maxDepth) :
      Keeps s view ⟨passed, ⟨p, n⟩, .error fault⟩ (.error ⟨fault, p, room⟩)

open Counting

variable {p : Place} {n room : Nat}

/-- A reading that is done keeps to one that is done at the same place. -/
theorem keeps_done (b : β) (n : Nat) :
    Keeps ⟨Placed.place b, n⟩ view (done (view b) ⟨Placed.place b, n⟩) (.ok b) := .ok .none

/-- A fault keeps to a fault at the same place; the counter and the room that is left make up the
greatest depth. -/
theorem keeps_fail (hroom : n + room = maxDepth) (fault : ParseFault) (p : Place) :
    Keeps ⟨p, n⟩ view (fail fault ⟨p, n⟩) (.error ⟨fault, p, room⟩) := .error .none hroom

/-- A course behind some steps that leave the counter as it was keeps to what the course behind them
keeps to. -/
theorem Keeps.after {s t : Counted} {passed : List Counted} {c : Course α} {o : Except Failure β}
    (h : Keeps t view c o) (hs : s.Steps passed t) (hn : t.nesting = s.nesting) :
    Keeps s view ⟨passed ++ c.passed, c.stop, c.answer⟩ o := by
  cases h with
  | ok steps =>
    rw [hn]
    rw [hn] at steps
    exact .ok (hs.trans steps)
  | error steps hroom => exact .error (hs.trans steps) hroom

/-- **A reading and what goes on behind it** keep to the same two put together, whether the first
one finds a fault or not. -/
theorem Keeps.bind {s : Counted} {m : Counting α} {o : Except Failure β} {f : α → Counting γ}
    {g : β → Except Failure δ} (h : Keeps s view (m s) o)
    (hf : ∀ b, Keeps ⟨Placed.place b, s.nesting⟩ view' (f (view b) ⟨Placed.place b, s.nesting⟩)
      (g b)) : Keeps s view' ((m >>= f) s) (o.bind g) := by
  show Keeps s view' (andThen m f s) (o.bind g)
  unfold andThen
  generalize m s = c at h ⊢
  cases h with
  | ok steps => exact (hf _).after steps rfl
  | error steps hroom => exact .error steps hroom

/-- Looking at a token and going on is going on with the token of the state, so the case splits are
those of the reader. -/
theorem peek_bind (f : Token → Counting α) (s : Counted) : (peek >>= f) s = f s.place.token s := rfl

/-- A token that is not the end, and what is read behind it; taking it is the one step that is
added. -/
theorem Keeps.next {m : Unit → Counting α} {o : Except Failure β} {t : Token} (hp : p.token = t)
    (ht : t ≠ .eof) (h : Keeps ⟨p.advance, n⟩ view (m () ⟨p.advance, n⟩) o) :
    Keeps ⟨p, n⟩ view ((advance >>= m) ⟨p, n⟩) o := by
  have hrest : p.rest ≠ [] := by
    rw [Place.rest_of_token hp ht]
    exact List.cons_ne_nil _ _
  exact h.after (.single (.advance hrest)) rfl

/-- Accepting a tree by its height keeps to the reader's check against the room, since counter and
room add up. -/
theorem keeps_measured (hroom : n + room = maxDepth) (e : Expr) (height : Nat) (p : Place) :
    Keeps ⟨p, n⟩ Reading.tree (measured e height ⟨p, n⟩) (checked room e height p) := by
  unfold measured checked
  split
  · exact keeps_fail hroom .tooDeep p
  · exact keeps_done (⟨e, height, p⟩ : Reading) n

/-! ## Opening tokens -/

/-- Behind one opening token too many nothing is read, and the fault stands behind that token. -/
theorem keeps_tooDeep {m : Counting α} {f : α → Counting γ} {t : Token} (hp : p.token = t)
    (ht : t ≠ .eof) (hn : n = maxDepth) :
    Keeps ⟨p, n⟩ view' ((advance >>= fun _ => nested m >>= f) ⟨p, n⟩)
      (.error ⟨.tooDeep, p.advance, 0⟩) := by
  subst hn
  refine Keeps.next hp ht ?_
  have hcourse : (nested m >>= f) ⟨p.advance, maxDepth⟩ =
      ⟨[], ⟨p.advance, maxDepth⟩, .error .tooDeep⟩ := rfl
  rw [hcourse]
  exact .error .none rfl

/-- With room left, counting an opening token adds one state to what is passed and goes on one
deeper. -/
theorem descend_bind (hn : n < maxDepth) (f : Unit → Counting α) :
    (descend >>= f) ⟨p, n⟩ = ⟨⟨p, n + 1⟩ :: (f () ⟨p, n + 1⟩).passed, (f () ⟨p, n + 1⟩).stop,
      (f () ⟨p, n + 1⟩).answer⟩ := by
  have hdescend : descend ⟨p, n⟩ = ⟨[⟨p, n + 1⟩], ⟨p, n + 1⟩, .ok ()⟩ :=
    if_neg (Nat.not_le_of_lt hn)
  show andThen descend f ⟨p, n⟩ = _
  rw [andThen, hdescend]
  rfl

/-- With room left, what is read inside an opening token is read one deeper, and the counter comes
back behind it. -/
theorem nested_eq (hn : n < maxDepth) (m : Counting α) :
    nested m ⟨p, n⟩ =
      match m ⟨p, n + 1⟩ with
      | ⟨passed, stop, .error fault⟩ => ⟨⟨p, n + 1⟩ :: passed, stop, .error fault⟩
      | ⟨passed, stop, .ok a⟩ =>
        let back : Counted := ⟨stop.place, stop.nesting - 1⟩
        ⟨⟨p, n + 1⟩ :: (passed ++ [back]), back, .ok a⟩ := by
  rw [nested, descend_bind hn]
  show (⟨_ :: (andThen m _ _).passed, (andThen m _ _).stop, (andThen m _ _).answer⟩ : Course α) = _
  unfold andThen
  rcases m ⟨p, n + 1⟩ with ⟨passed, stop, answer⟩
  cases answer <;> rfl

/-- What stands inside an opening token is read with the counter one up, and gives it back. -/
theorem Keeps.inside {m : Counting α} {o : Except Failure β} (hn : n < maxDepth)
    (h : Keeps ⟨p, n + 1⟩ view (m ⟨p, n + 1⟩) o) :
    Keeps ⟨p, n⟩ view (nested m ⟨p, n⟩) o := by
  have hdown : Counted.Step ⟨p, n⟩ ⟨p, n + 1⟩ := .descend hn
  rw [nested_eq hn]
  generalize m ⟨p, n + 1⟩ = c at h ⊢
  cases h with
  -- a fault leaves the counter up, and the room that the reader tells with it is one less
  | error steps hroom => exact .error (.step hdown steps) hroom
  | ok steps => exact .ok (.step hdown (steps.trans (.single .ascend)))

/-- An opening token, what stands inside it and what becomes of that: all three keep to the reader's
with one room less inside. -/
theorem Keeps.enter {m : Counting α} {o : Except Failure β} {f : α → Counting γ}
    {g : β → Except Failure δ} {t : Token} (hp : p.token = t) (ht : t ≠ .eof) (hn : n < maxDepth)
    (h : Keeps ⟨p.advance, n + 1⟩ view (m ⟨p.advance, n + 1⟩) o)
    (hf : ∀ b, Keeps ⟨Placed.place b, n⟩ view' (f (view b) ⟨Placed.place b, n⟩) (g b)) :
    Keeps ⟨p, n⟩ view' ((advance >>= fun _ => nested m >>= f) ⟨p, n⟩) (o.bind g) :=
  Keeps.next hp ht ((h.inside hn).bind hf)

/-- A token that has to follow, and what is read behind it; without the token the fault is found in
front of what stands there instead. -/
theorem Keeps.expected {m : Unit → Counting α} {o : Except Failure β} {t : Token} (ht : t ≠ .eof)
    (hroom : n + room = maxDepth) (fault : ParseFault)
    (h : Keeps ⟨p.advance, n⟩ view (m () ⟨p.advance, n⟩) o) :
    Keeps ⟨p, n⟩ view ((expect t fault >>= m) ⟨p, n⟩)
      (if p.token = t then o else .error ⟨fault, p, room⟩) := by
  show Keeps _ view (andThen (expect t fault) m ⟨p, n⟩) _
  unfold andThen
  split_ifs with hp
  · have hadvance : expect t fault ⟨p, n⟩ = advance ⟨p, n⟩ := by
      rw [expect, peek_bind, if_pos hp]
    have hnext : Keeps ⟨p, n⟩ view ((advance >>= m) ⟨p, n⟩) o := .next hp ht h
    rw [hadvance]
    exact hnext
  · have hfail : expect t fault ⟨p, n⟩ = fail fault ⟨p, n⟩ := by
      rw [expect, peek_bind, if_neg hp]
    rw [hfail]
    exact keeps_fail hroom fault p

/-! ## Chains and elements -/

/-- A parser that counts keeps to a reader, wherever it starts, as long as the counter has the given
value there. -/
def KeepsAt (n : Nat) (m : Counting (Expr × Nat)) (f : Place → Outcome) : Prop :=
  ∀ p, Keeps ⟨p, n⟩ Reading.tree (m ⟨p, n⟩) (f p)

section

variable {m : Counting (Expr × Nat)} {f : Place → Outcome}

/-- An operator of the level lengthens the chain by an operand, the tree of which is checked for its
height before going on. -/
theorem chainFrom_counting_operator {level : Level} {op : Operator} {s : Counted}
    (hop : s.place.token = .operator op) (hlevel : op.level = level) (m : Counting (Expr × Nat))
    (count : Nat) (l : Expr × Nat) :
    Counting.chainFrom level m (count + 1) l s = (advance >>= fun _ => m >>= fun r =>
      measured (.binary op l.1 r.1) (max l.2 r.2 + 1) >>= Counting.chainFrom level m count) s := by
  rw [Counting.chainFrom, peek_bind]
  simp only [hop, if_pos hlevel]

/-- Anything but an operator of the level ends the chain, and no token is taken. -/
theorem chainFrom_counting_other {level : Level} {s : Counted}
    (h : ∀ op, s.place.token = .operator op → op.level ≠ level) (m : Counting (Expr × Nat))
    (count : Nat) (l : Expr × Nat) : Counting.chainFrom level m count l s = done l s := by
  cases count with
  | zero => rfl
  | succ count =>
    rw [Counting.chainFrom, peek_bind]
    cases hop : s.place.token with
    | operator op =>
      simp only [if_neg (h op hop)]
      rfl
    | _ => rfl

/-- **Chains keep to chains,** by induction on the operators that follow, whatever operands are read
by. -/
theorem keeps_chainFrom (hroom : n + room = maxDepth) (hm : KeepsAt n m f) (level : Level)
    (count : Nat) (l : Reading) :
    Keeps ⟨l.place, n⟩ Reading.tree (Counting.chainFrom level m count l.tree ⟨l.place, n⟩)
      (chainFrom level f room count l) := by
  induction count generalizing l with
  | zero => exact keeps_done l n
  | succ count ih =>
    by_cases h : ∃ op, l.place.token = .operator op ∧ op.level = level
    · obtain ⟨op, hop, hlevel⟩ := h
      rw [chainFrom_operator hop hlevel, chainFrom_counting_operator hop hlevel]
      refine Keeps.next hop (by simp) ((hm l.place.advance).bind fun r => ?_)
      exact (keeps_measured hroom (.binary op l.expr r.expr) (max l.height r.height + 1)
        r.place).bind ih
    · have hother : ∀ op, l.place.token = .operator op → op.level ≠ level :=
        fun op hop hlevel => h ⟨op, hop, hlevel⟩
      rw [chainFrom_other hother, chainFrom_counting_other hother]
      exact keeps_done l n

/-- A chain keeps to a chain if its operands keep to operands, with the first of them read before
any operator. -/
theorem keeps_chain (hroom : n + room = maxDepth) (hm : KeepsAt n m f) (level : Level) :
    KeepsAt n (Counting.chain level m) (chain level f room) := by
  intro p
  rw [chain_eq]
  exact (hm p).bind (keeps_chainFrom hroom hm level p.rest.length)

/-- An expression of any level keeps to the reader's, by the three levels of chains around the same
operands. -/
theorem keeps_either (hroom : n + room = maxDepth) (hm : KeepsAt n m f) :
    KeepsAt n (Counting.either m) (either f room) :=
  have hrelation := keeps_chain hroom hm .relation
  have hboth := keeps_chain hroom hrelation .both
  keeps_chain hroom hboth .either

/-- A comma is followed by an element and by those that come after it, whose heights are
compared. -/
theorem elementsFrom_counting_comma {s : Counted} (hp : s.place.token = .comma)
    (m : Counting (Expr × Nat)) (count : Nat) :
    Counting.elementsFrom m (count + 1) s = (advance >>= fun _ => m >>= fun first =>
      Counting.elementsFrom m count >>= fun more =>
        done (first.1 :: more.1, max first.2 more.2)) s := by
  rw [Counting.elementsFrom, peek_bind]
  simp only [hp]
  rfl

/-- Without a comma no element follows, and nothing is taken. -/
theorem elementsFrom_counting_of_ne_comma {s : Counted} (hp : s.place.token ≠ .comma)
    (m : Counting (Expr × Nat)) (count : Nat) :
    Counting.elementsFrom m count s = done ([], 0) s := by
  cases count with
  | zero => rfl
  | succ count =>
    rw [Counting.elementsFrom, peek_bind]
    cases hcomma : s.place.token with
    | comma => exact absurd hcomma hp
    | _ => rfl

/-- **Elements keep to elements,** by induction on those that follow; no height is checked before
the array is closed. -/
theorem keeps_elementsFrom (hm : KeepsAt n m f) (count : Nat) (p : Place) :
    Keeps ⟨p, n⟩ Elements.trees (Counting.elementsFrom m count ⟨p, n⟩)
      (elementsFrom f count p) := by
  induction count generalizing p with
  | zero => exact keeps_done (⟨[], 0, p⟩ : Elements) n
  | succ count ih =>
    by_cases hp : p.token = .comma
    · rw [elementsFrom_comma hp, elementsFrom_counting_comma hp]
      refine Keeps.next hp (by simp) ((hm p.advance).bind fun first => ?_)
      exact (ih first.place).bind fun more => keeps_done (Elements.cons first more) n
    · rw [elementsFrom_of_ne_comma hp, elementsFrom_counting_of_ne_comma hp]
      exact keeps_done (⟨[], 0, p⟩ : Elements) n

/-- The elements of an array keep to elements, an empty array included, where the closing bracket
follows at once. -/
theorem keeps_elements (hm : KeepsAt n m f) (p : Place) :
    Keeps ⟨p, n⟩ Elements.trees (Counting.elements m ⟨p, n⟩) (elements f p) := by
  by_cases hp : p.token = .closeBracket
  · have hread : elements f p = .ok ⟨[], 0, p⟩ := by rw [elements, hp]
    have hcourse : Counting.elements m ⟨p, n⟩ = done ([], 0) ⟨p, n⟩ := by
      unfold Counting.elements
      rw [peek_bind]
      simp only [hp]
      rfl
    rw [hread, hcourse]
    exact keeps_done (⟨[], 0, p⟩ : Elements) n
  · have hcourse : Counting.elements m ⟨p, n⟩ = (m >>= fun first =>
        Counting.elementsFrom m p.rest.length >>= fun more =>
          done (first.1 :: more.1, max first.2 more.2)) ⟨p, n⟩ := by
      unfold Counting.elements
      rw [peek_bind]
      cases hclose : (⟨p, n⟩ : Counted).place.token with
      | closeBracket => exact absurd hclose hp
      | _ => rfl
    rw [elements_eq hp, hcourse]
    refine (hm p).bind fun first => ?_
    exact (keeps_elementsFrom hm p.rest.length first.place).bind fun more =>
      keeps_done (Elements.cons first more) n

end

/-! ## Operands and expressions -/

section

variable {negation : Bool}

/-- A closing parenthesis keeps to the reader's: the tree inside is taken as it is, without another
level. -/
theorem keeps_closeParen (hroom : n + room = maxDepth) (r : Reading) :
    Keeps ⟨r.place, n⟩ Reading.tree
      ((expect .closeParen .unclosedParen >>= fun _ => done r.tree) ⟨r.place, n⟩)
      (close room .openParen r) := by
  rw [close_openParen]
  exact Keeps.expected (by simp) hroom _
    (keeps_done (⟨r.expr, r.height, r.place.advance⟩ : Reading) n)

/-- A closing bracket keeps to the reader's: the array is one higher than its elements and is
checked for that. -/
theorem keeps_closeBracket (hroom : n + room = maxDepth) (es : Elements) :
    Keeps ⟨es.place, n⟩ Reading.tree
      ((expect .closeBracket .unclosedBracket >>= fun _ =>
        measured (.array es.items) (es.height + 1)) ⟨es.place, n⟩)
      (close room .openBracket ⟨.array es.items, es.height, es.place⟩) := by
  rw [close_openBracket]
  exact Keeps.expected (by simp) hroom _ (keeps_measured hroom _ _ _)

section

variable {inner : Bool → Counting (Expr × Nat)}

/-- An opening token is counted if there is room for it, and what stands inside is read with one
room less. -/
theorem keeps_opening (hroom : n + room = maxDepth)
    (hinner : ∀ room', room = room' + 1 → ∀ negation,
      KeepsAt (n + 1) (inner negation) (operand room' negation))
    (h : Opening negation p.token) :
    Keeps ⟨p, n⟩ Reading.tree (operandBy inner negation ⟨p, n⟩) (operand room negation p) := by
  unfold operandBy
  rw [peek_bind]
  cases room with
  | zero =>
    rw [operand_zero h]
    rcases Token.opens_iff.1 h.1 with hp | hp | hp
    · simp only [hp, h.2 hp, if_true]
      exact keeps_tooDeep hp (by simp) hroom
    · simp only [hp]
      exact keeps_tooDeep hp (by simp) hroom
    · simp only [hp]
      exact keeps_tooDeep hp (by simp) hroom
  | succ room =>
    have hn : n < maxDepth := by omega
    have hdeeper : n + 1 + room = maxDepth := by omega
    rw [operand_succ h]
    rcases Token.opens_iff.1 h.1 with hp | hp | hp
    · simp only [hp, h.2 hp, if_true]
      exact Keeps.enter hp (by simp) hn (hinner room rfl true p.advance) fun r =>
        keeps_measured hroom (.not r.expr) (r.height + 1) r.place
    · simp only [hp]
      exact Keeps.enter hp (by simp) hn (keeps_either hdeeper (hinner room rfl true) p.advance)
        (keeps_closeParen hroom)
    · -- the reader makes an array of the elements before the bracket is closed, not behind it
      have hcontent : (content room .openBracket p.advance).bind (close (room + 1) .openBracket) =
          (elements (operand room false) p.advance).bind fun es =>
            close (room + 1) .openBracket ⟨.array es.items, es.height, es.place⟩ := by
        rw [content]
        cases elements (operand room false) p.advance <;> rfl
      simp only [hp]
      rw [hcontent]
      exact Keeps.enter hp (by simp) hn (keeps_elements (hinner room rfl false) p.advance)
        (keeps_closeBracket hroom)

/-- A token that opens nothing is read by itself, without the counter and without what reads
inside. -/
theorem operandBy_plain (h : ¬Opening negation p.token) :
    operandBy inner negation ⟨p, n⟩ = single p.token ⟨p, n⟩ := by
  unfold operandBy
  rw [peek_bind]
  cases hp : (⟨p, n⟩ : Counted).place.token with
  | not =>
    have hnot : negation = false := by
      cases negation with
      | false => rfl
      | true => exact absurd ⟨congrArg Token.opens hp, fun _ => rfl⟩ h
    subst hnot
    rfl
  | openParen => exact absurd ⟨congrArg Token.opens hp, fun hnot => by simp [hp] at hnot⟩ h
  | openBracket => exact absurd ⟨congrArg Token.opens hp, fun hnot => by simp [hp] at hnot⟩ h
  | _ => rfl

/-- Any other token is an operand of its own, or none, and keeps to the reader's answer either
way. -/
theorem keeps_plain (hroom : n + room = maxDepth) (h : ¬Opening negation p.token) :
    Keeps ⟨p, n⟩ Reading.tree (operandBy inner negation ⟨p, n⟩) (operand room negation p) := by
  rw [operandBy_plain h, operand_plain h]
  unfold single
  cases hplain : plain p.token with
  | ok e => exact Keeps.next rfl (plain_ok hplain).1 (keeps_done (⟨e, 1, p.advance⟩ : Reading) n)
  | error fault => exact keeps_fail hroom fault p

/-- **Operands keep to operands** if those that they hold do, which is the step of the induction on
the room. -/
theorem keeps_operandBy (hroom : n + room = maxDepth)
    (hinner : ∀ room', room = room' + 1 → ∀ negation,
      KeepsAt (n + 1) (inner negation) (operand room' negation)) (negation : Bool) :
    KeepsAt n (operandBy inner negation) (operand room negation) := by
  intro p
  by_cases h : Opening negation p.token
  · exact keeps_opening hroom hinner h
  · exact keeps_plain hroom h

end

/-- **Operands keep to operands,** by induction on the calls that may stand inside one another. -/
theorem keeps_operand (hroom : n + room = maxDepth) (calls : Nat) (hcalls : maxDepth ≤ n + calls)
    (negation : Bool) : KeepsAt n (Counting.operand calls negation) (operand room negation) := by
  induction calls generalizing n room negation with
  | zero =>
    -- without calls the counter is at its bound, so that nothing may stand inside an operand
    refine keeps_operandBy hroom (fun room' h => ?_) negation
    omega
  | succ calls ih =>
    refine keeps_operandBy hroom (fun room' h negation => ih ?_ ?_ negation) negation
    · omega
    · omega

/-- A whole expression keeps to the reader's, given enough calls for the room that is left. -/
theorem keeps_expression (hroom : n + room = maxDepth) (calls : Nat)
    (hcalls : maxDepth ≤ n + calls) :
    KeepsAt n (Counting.expression calls) (expression room) := by
  intro p
  have hoperand := keeps_operand hroom calls hcalls true
  rw [expression_eq]
  refine (keeps_either hroom hoperand p).bind fun r => ?_
  rw [peek_bind]
  unfold atEnd
  cases (⟨r.place, n⟩ : Counted).place.token with
  | eof => exact keeps_done r n
  | _ => exact keeps_fail hroom _ r.place

end

/-! ## The rules of the grammar -/

/-- The rules of the grammar that an expression is read by, to state once what holds of each of
them. -/
inductive Phrase where
  | whole
  | either
  | both
  | relation
  | unary
  | primary

namespace Phrase

/-- How a parser that counts reads by a rule, with `calls` to bound how deep operands stand in
operands. -/
def counting (calls : Nat) : Phrase → Counting (Expr × Nat)
  | whole => Counting.expression calls
  | either => Counting.either (Counting.operand calls true)
  | both => Counting.chain .both (Counting.chain .relation (Counting.operand calls true))
  | relation => Counting.chain .relation (Counting.operand calls true)
  | unary => Counting.operand calls true
  | primary => Counting.operand calls false

/-- How a reader that is told its room reads by a rule; the room takes the place of the counter. -/
def read (room : Nat) : Phrase → Place → Outcome
  | whole => expression room
  | either => When.either (operand room true) room
  | both => When.chain .both (When.chain .relation (operand room true) room) room
  | relation => When.chain .relation (operand room true) room
  | unary => operand room true
  | primary => operand room false

/-- What is derived by a rule, among the sentences of the grammar and their parts. -/
def rule : Phrase → Rule
  | whole | either => Sentence
  | both => Chain .both (Chain .relation Unary)
  | relation => Chain .relation Unary
  | unary => Unary
  | primary => Primary

/-- What is derived by a rule ends in a token that is not the end, so at least one token is
taken. -/
theorem rule_exists_last {phrase : Phrase} {ts : List Token} {e : Expr} {n : Nat}
    (h : phrase.rule ts e n) : ∃ us t, ts = us ++ [t] ∧ t ≠ .eof := by
  cases phrase with
  | whole => exact Sentence.exists_last h
  | either => exact Sentence.exists_last h
  | both => exact Chain.exists_last (Chain.exists_last Unary.exists_last) h
  | relation => exact Chain.exists_last Unary.exists_last h
  | unary => exact Unary.exists_last h
  | primary => exact Primary.exists_last h

/-- **What has been read by a rule is derived by it,** from just the tokens between the two
places. -/
theorem read_sound {phrase : Phrase} {room : Nat} {p : Place} {r : Reading}
    (h : phrase.read room p = .ok r) : ∃ ts, Reads phrase.rule room p r ts := by
  have hrelation := Follows.chain .relation (follows_operand room true)
  cases phrase with
  | whole => exact (expression_sound h).1
  | either => exact (follows_either room).sound h
  | both => exact (Follows.chain .both hrelation).sound h
  | relation => exact hrelation.sound h
  | unary => exact (follows_operand room true).sound h
  | primary => exact (follows_operand room false).sound h

/-- Reading by a rule takes a token at least, so no rule can be read forever at one place. -/
theorem position_lt {phrase : Phrase} {room : Nat} {p : Place} {r : Reading}
    (h : phrase.read room p = .ok r) : p.position < r.place.position := by
  obtain ⟨ts, hts⟩ := read_sound h
  obtain ⟨n, -, hderives⟩ := hts.derives
  obtain ⟨us, t, rfl, -⟩ := rule_exists_last hderives
  rw [hts.position, List.length_append, List.length_singleton]
  omega

/-- **The parser that counts keeps to the reader, by every rule,** where counter and room make up
the greatest depth and the calls suffice for the room. -/
theorem keeps (phrase : Phrase) (hroom : n + room = maxDepth) (calls : Nat)
    (hcalls : maxDepth ≤ n + calls) : KeepsAt n (phrase.counting calls) (phrase.read room) := by
  have hunary := keeps_operand hroom calls hcalls true
  have hrelation := keeps_chain hroom hunary .relation
  cases phrase with
  | whole => exact keeps_expression hroom calls hcalls
  | either => exact keeps_either hroom hunary
  | both => exact keeps_chain hroom hrelation .both
  | relation => exact hrelation
  | unary => exact hunary
  | primary => exact keeps_operand hroom calls hcalls false

end Phrase

/-- What a course comes to, as a reader tells it: the tree and the place, or the fault with the room
that was left. -/
def Course.outcome (c : Course (Expr × Nat)) : Outcome :=
  match c.answer with
  | .ok r => .ok ⟨r.1, r.2, c.stop.place⟩
  | .error fault => .error ⟨fault, c.stop.place, maxDepth - c.stop.nesting⟩

/-- A course that keeps to an outcome comes to it, so both answer alike. -/
theorem Keeps.outcome {s : Counted} {c : Course (Expr × Nat)} {o : Outcome}
    (h : Keeps s Reading.tree c o) : c.outcome = o := by
  cases h with
  | ok steps => rfl
  | error steps hroom =>
    rw [Course.outcome]
    simp only
    rw [← hroom, Nat.add_sub_cancel_left]

/-- Where a course that keeps to an outcome finds no fault, the counter is in the end what it was at
first. -/
theorem Keeps.nesting {s : Counted} {c : Course α} {o : Except Failure β} {a : α}
    (h : Keeps s view c o) (ha : c.answer = .ok a) : c.stop.nesting = s.nesting := by
  cases h with
  | ok steps => rfl
  | error steps hroom => cases ha

/-! ## Readings in a row -/

namespace Counted

/-- The state of a new parser: before the first token, with nothing counted. -/
def start (tokens : List Token) : Counted := ⟨⟨tokens, 0⟩, 0⟩

/-- A state of a parser over `tokens`: the place is one of theirs, or the one behind them. -/
structure Inside (tokens : List Token) (s : Counted) : Prop where
  rest : s.place.rest = tokens.drop s.place.position
  position_le : s.place.position ≤ tokens.length
  nesting_le : s.nesting ≤ maxDepth

variable {s t : Counted} {tokens : List Token} {passed : List Counted}

/-- A new parser is inside the tokens and the bounds, which is where the induction along its steps
begins. -/
theorem inside_start (tokens : List Token) : (start tokens).Inside tokens where
  rest := List.drop_zero.symm
  position_le := Nat.zero_le _
  nesting_le := Nat.zero_le _

/-- **Steps stay inside the tokens and the bounds:** the place stays a place of the tokens and the
counter between zero and its bound. -/
theorem Step.inside (h : Step s t) (hs : s.Inside tokens) : t.Inside tokens := by
  obtain ⟨hrest, hposition, hnesting⟩ := hs
  cases h with
  | @advance p n hne =>
    have hlt : p.position < tokens.length := by
      refine Nat.lt_of_le_of_ne hposition fun heq => hne ?_
      rw [hrest, heq, List.drop_length]
    refine ⟨?_, hlt, hnesting⟩
    show p.rest.tail = tokens.drop (p.position + 1)
    rw [hrest, List.tail_drop]
  | descend hlt => exact ⟨hrest, hposition, hlt⟩
  | ascend => exact ⟨hrest, hposition, Nat.le_of_succ_le hnesting⟩

/-- No step goes back in the tokens, and only taking a token goes on. -/
theorem Step.position_le (h : Step s t) : s.place.position ≤ t.place.position := by
  cases h with
  | advance => exact Nat.le_succ _
  | descend | ascend => exact Nat.le_refl _

/-- All states that are passed are inside the tokens and the bounds if the first one is. -/
theorem Steps.inside (h : s.Steps passed t) (hs : s.Inside tokens) :
    ∀ u ∈ passed, u.Inside tokens := by
  induction h with
  | none => exact fun u hu => absurd hu List.not_mem_nil
  | step hstep _ ih =>
    have hnext := hstep.inside hs
    intro u hu
    rcases List.mem_cons.1 hu with rfl | hu
    · exact hnext
    · exact ih hnext u hu

/-- The states that are passed form a chain, each one step from the one before. -/
theorem Steps.isChain (h : s.Steps passed t) : (s :: passed).IsChain Step := by
  induction h with
  | none => exact .singleton _
  | step hstep _ ih => exact List.isChain_cons_cons.2 ⟨hstep, ih⟩

/-- Positions never decrease along steps, for any two states and not only for neighbours. -/
theorem Steps.pairwise (h : s.Steps passed t) :
    (s :: passed).Pairwise fun u v => u.place.position ≤ v.place.position := by
  have htrans : IsTrans Counted fun u v => u.place.position ≤ v.place.position :=
    ⟨fun _ _ _ => Nat.le_trans⟩
  exact List.isChain_iff_pairwise.1 (h.isChain.imp fun _ _ => Step.position_le)

end Counted

/-- One reading comes to the answer of the reader and leaves a parser to go on with. -/
theorem attempt_eq {s : Counted} (hroom : s.nesting + room = maxDepth) :
    ∃ passed t, attempt (Counting.expression maxDepth) s =
        ⟨passed, t, .ok (Parser.parse ⟨s.place, room⟩).1⟩ ∧
      s.Steps passed t ∧ t.place = (Parser.parse ⟨s.place, room⟩).2.place ∧
      t.nesting + (Parser.parse ⟨s.place, room⟩).2.room = maxDepth := by
  have h := keeps_expression hroom maxDepth (Nat.le_add_left _ _) s.place
  unfold attempt Parser.parse
  generalize Counting.expression maxDepth s = c at h ⊢
  generalize expression room s.place = o at h ⊢
  cases h with
  | ok steps => exact ⟨_, _, rfl, steps, rfl, hroom⟩
  | error steps hrest => exact ⟨_, _, rfl, steps, rfl, hrest⟩

/-- **Readings in a row keep to the answers of the parser,** by induction on their number. -/
theorem answers_eq {s : Counted} (hroom : s.nesting + room = maxDepth) (count : Nat) :
    ∃ passed t, Counting.answers count s =
      ⟨passed, t, .ok (Parser.answers count ⟨s.place, room⟩)⟩ ∧ s.Steps passed t := by
  induction count generalizing s room with
  | zero => exact ⟨[], s, rfl, .none⟩
  | succ count ih =>
    obtain ⟨first, t, hfirst, hsteps, hplace, hleft⟩ := attempt_eq hroom
    obtain ⟨more, u, hmore, hsteps'⟩ := ih hleft
    refine ⟨first ++ (more ++ []), u, ?_, hsteps.trans ?_⟩
    · show andThen (attempt (Counting.expression maxDepth)) _ s = _
      rw [andThen, hfirst]
      show (⟨first ++ (andThen _ _ t).passed, (andThen _ _ t).stop, (andThen _ _ t).answer⟩ :
        Course (List (Except ParseError Expr))) = _
      rw [andThen, hmore, hplace]
      rfl
    · rwa [List.append_nil]

/-- The tree of a parser's answer is not higher than the greatest depth, whatever the parser was
asked before. -/
theorem height_le_of_parse {p : Parser} {e : Expr} (h : p.parse.1 = .ok e) :
    e.height ≤ maxDepth := by
  unfold Parser.parse at h
  split at h
  · next r hread =>
    obtain rfl : r.expr = e := Except.ok.inj h
    obtain ⟨ts, hts⟩ := (expression_sound hread).1
    exact hts.height_le
  · cases h

/-- All trees among the answers of one parser are within the greatest depth, also those behind a
fault. -/
theorem height_le_of_mem_answers {count : Nat} {p : Parser} {e : Expr}
    (h : .ok e ∈ p.answers count) : e.height ≤ maxDepth := by
  induction count generalizing p with
  | zero => cases h
  | succ count ih =>
    rcases List.mem_cons.1 h with h | h
    · exact height_le_of_parse h.symm
    · exact ih h

/-- **A parser that counts keeps its books.**  The answers are those of the parser, however many
readings stand in a row and whatever the tokens are.  The states go from one to the next by a step,
which never counts below zero or above `maxDepth` and never goes back or beyond the tokens.  A
reading by any rule that comes to an expression gives the counter back, has taken a token at least
and tells the height of the tree.  No tree that is answered is so high that working on it needs more
than `maxDepth` calls inside one another. -/
theorem Counting.bookkeeping (tokens : List Token) (count : Nat) :
    let start := Counted.start tokens
    let run := Counting.answers count start
    run.answer = .ok (Parser.answers count (Parser.ofTokens tokens)) ∧
    (start :: run.passed).IsChain Counted.Step ∧
    (∀ s ∈ run.passed, s.Inside tokens) ∧
    ((start :: run.passed).Pairwise fun s t => s.place.position ≤ t.place.position) ∧
    (∀ (phrase : Phrase) (calls : Nat) (s : Counted),
      s.nesting ≤ maxDepth → maxDepth ≤ s.nesting + calls →
        (phrase.counting calls s).outcome = phrase.read (maxDepth - s.nesting) s.place ∧
        ∀ e height, (phrase.counting calls s).answer = .ok (e, height) →
          (phrase.counting calls s).stop.nesting = s.nesting ∧
          s.place.position < (phrase.counting calls s).stop.place.position ∧
          height = e.height ∧ e.height ≤ maxDepth) ∧
    ∀ e, .ok e ∈ Parser.answers count (Parser.ofTokens tokens) →
      e.height ≤ maxDepth ∧ e.IsShallow maxDepth := by
  have hstart : (Counted.start tokens).nesting + maxDepth = maxDepth := Nat.zero_add _
  obtain ⟨passed, t, hrun, hsteps⟩ := answers_eq hstart count
  intro start run
  have hanswer : run.answer = _ := congrArg Course.answer hrun
  have hpassed : run.passed = passed := congrArg Course.passed hrun
  rw [hpassed]
  refine ⟨hanswer, hsteps.isChain, hsteps.inside (Counted.inside_start tokens), hsteps.pairwise,
    fun phrase calls s hn hcalls => ?_, fun e he => ?_⟩
  · have hroom : s.nesting + (maxDepth - s.nesting) = maxDepth := Nat.add_sub_of_le hn
    have hkeeps := phrase.keeps hroom calls hcalls s.place
    have houtcome := hkeeps.outcome
    refine ⟨houtcome, fun e height hanswer => ?_⟩
    have hread : phrase.read (maxDepth - s.nesting) s.place =
        .ok ⟨e, height, (phrase.counting calls s).stop.place⟩ := by
      rw [← houtcome]
      show Course.outcome (phrase.counting calls s) = _
      rw [Course.outcome, hanswer]
    obtain ⟨ts, hts⟩ := Phrase.read_sound hread
    exact ⟨hkeeps.nesting hanswer, Phrase.position_lt hread, hts.height, hts.height_le⟩
  · have hheight := height_le_of_mem_answers he
    exact ⟨hheight, Expr.isShallow_of_height_le hheight⟩

/-- Where a token is missing behind two parentheses, both stay counted. -/
example : (Counting.answers 1 (Counted.start [.openParen, .openParen])).stop =
    ⟨⟨[], 2⟩, 2⟩ := by rfl

end When
end CommitForm
