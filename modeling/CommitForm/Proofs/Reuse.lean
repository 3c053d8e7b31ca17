/-
# Asking a parser again

A parser goes on behind its last answer.  Does it then answer like a new parser over the tokens that
are left?  It does as long as it has all its room, and a reading that succeeds gives back the room
that it took.  A reading that fails gives back less: from then on the parser holds the tokens to a
smaller room, and where they need more it answers that they are too deep.

| room of the parser | open tokens in the reading of a new one | answer |
| --- | --- | --- |
| all | any | the same |
| less | never more than that | the same |
| less | more | too deep, at the first token for which there is no room |
-/

import CommitForm.Proofs.Rooms

namespace CommitForm
namespace When

/-- The tokens that are open behind tokens from the beginning of an expression, the innermost in
front.  Their number is what the room of a parser is used up by. -/
def openBehind (ts : List Token) : List Token := ts.foldl nest []

/-- A fault, counted from further in front, as the positions of a new parser begin where the old one
has stopped. -/
def ParseError.shift (k : Nat) (e : ParseError) : ParseError := ⟨e.fault, k + e.position⟩

namespace Parser

/-- The parser after some readings in a row, whatever they have answered: the place and the room
that are left for the next one. -/
def after : (count : Nat) → Parser → Parser
  | 0, p => p
  | count + 1, p => after count p.parse.2

/-- The answer of an index in the list of answers is what the parser answers after as many
readings. -/
theorem getElem?_answers (count : Nat) (p : Parser) :
    (answers (count + 1) p)[count]? = some (after count p).parse.1 := by
  induction count generalizing p with
  | zero => rfl
  | succ count ih =>
    rw [answers, List.getElem?_cons_succ]
    exact ih p.parse.2

/-- What a parser over some tokens keeps: it is at the rest of them, and all the room that it lacks
has been taken by opening tokens in front of it. -/
structure IsOver (tokens : List Token) (p : Parser) : Prop where
  rest : p.place.rest = tokens.drop p.place.position
  room_le : p.room ≤ maxDepth
  spent : maxDepth ≤ p.room + (tokens.take p.place.position).countP Token.opens

variable {tokens : List Token} {p : Parser}

/-- A new parser is at the beginning of its tokens and has all its room. -/
theorem isOver_ofTokens (tokens : List Token) : IsOver tokens (ofTokens tokens) :=
  ⟨rfl, Nat.le_refl _, Nat.le_add_right _ _⟩

/-- A parser that has taken more tokens is still over the same list, if the room it has lost is
covered by the opening tokens among them. -/
theorem IsOver.move (h : IsOver tokens p) {ts : List Token} {q : Place} {room : Nat}
    (hq : Between p.place ts q) (hroom : room ≤ p.room)
    (hspent : p.room ≤ room + ts.countP Token.opens) : IsOver tokens ⟨q, room⟩ := by
  have hrest := h.rest
  rw [hq.rest] at hrest
  have hspent' := h.spent
  constructor
  · show q.rest = tokens.drop q.position
    rw [hq.position, ← List.drop_drop, ← hrest, List.drop_left]
  · exact Nat.le_trans hroom h.room_le
  · show maxDepth ≤ room + (tokens.take q.position).countP Token.opens
    rw [hq.position, List.take_add, ← hrest, List.take_left, List.countP_append]
    omega

/-- **A reading keeps it.**  A reading that succeeds leaves the room as it was, and one that fails
lacks at most what the opening tokens that it has taken used up. -/
theorem IsOver.parse (h : IsOver tokens p) : IsOver tokens p.parse.2 := by
  obtain ⟨ts, hts⟩ := (compares_expression 0 0 p.room p.place).takes
  rw [Nat.add_zero] at hts
  unfold Parser.parse
  cases hread : expression p.room p.place with
  | ok r =>
    rw [hread] at hts
    cases hts with
    | ok between ahead => exact h.move between (Nat.le_refl _) (Nat.le_add_right _ _)
  | error e =>
    rw [hread] at hts
    cases hts with
    | error between ahead room_le spent => exact h.move between room_le spent

/-- By induction on the number of readings, any number of them keeps a parser over its tokens. -/
theorem IsOver.after (h : IsOver tokens p) (count : Nat) : IsOver tokens (after count p) := by
  induction count generalizing p with
  | zero => exact h
  | succ count ih => exact ih h.parse

/-- Where the expression can be read, the parser answers it and stands behind it, with the room that
it had. -/
theorem parse_of_ok {r : Reading} (h : expression p.room p.place = .ok r) :
    p.parse = (.ok r.expr, ⟨r.place, p.room⟩) := by
  rw [Parser.parse, h]

/-- Where it cannot, the parser stays where the fault was found, with the room that was left
there. -/
theorem parse_of_error {e : Failure} (h : expression p.room p.place = .error e) :
    p.parse = (.error ⟨e.fault, e.place.position⟩, ⟨e.place, e.room⟩) := by
  rw [Parser.parse, h]

/-- A reading that succeeds gives back the room that it took for the tokens that it opened. -/
theorem room_of_ok {e : Expr} (h : p.parse.1 = .ok e) : p.parse.2.room = p.room := by
  cases hread : expression p.room p.place with
  | ok r => rw [parse_of_ok hread]
  | error e =>
    rw [parse_of_error hread] at h
    cases h

/-! ## Against a new parser -/

/-- The answer of a new parser over the rest of the tokens, counted from their beginning. -/
def freshAnswer (tokens : List Token) (position : Nat) : Except ParseError Expr :=
  (ofTokens (tokens.drop position)).parse.1.mapError (ParseError.shift position)

/-- How many tokens a new parser takes from the rest of the tokens, be it for an expression or up to
a fault. -/
def freshLength (tokens : List Token) (position : Nat) : Nat :=
  (ofTokens (tokens.drop position)).parse.2.place.position

/-- The tokens that a new parser takes from there.  They decide if the room of the old one is
enough. -/
def freshTokens (tokens : List Token) (position : Nat) : List Token :=
  (tokens.drop position).take (freshLength tokens position)

/-- Where the rest of the tokens begins, counted from its own beginning as a new parser counts. -/
def restPlace (tokens : List Token) (position : Nat) : Place := ⟨tokens.drop position, 0⟩

section

variable {position room least : Nat} {ts : List Token} {o : Outcome}

/-- Where the rest begins with an expression, a new parser reads it and has all its room again. -/
theorem freshParse_of_ok {r : Reading}
    (h : expression maxDepth (restPlace tokens position) = .ok r) :
    (ofTokens (tokens.drop position)).parse = (.ok r.expr, ⟨r.place, maxDepth⟩) := parse_of_ok h

/-- Where it does not, a new parser stays at the fault and counts its position from the beginning of
the rest. -/
theorem freshParse_of_error {e : Failure}
    (h : expression maxDepth (restPlace tokens position) = .error e) :
    (ofTokens (tokens.drop position)).parse =
      (.error ⟨e.fault, e.place.position⟩, ⟨e.place, e.room⟩) := parse_of_error h

/-- The tokens that a reading from there takes are those of the new parser, as they lie between
where it begins and where it ends. -/
theorem freshTokens_eq (hnew : expression maxDepth (restPlace tokens position) = o)
    (h : Takes room least (restPlace tokens position) ts o) :
    freshTokens tokens position = ts := by
  have htake {q : Place} (hq : Between (restPlace tokens position) ts q) :
      (tokens.drop position).take q.position = ts := by
    have hrest : tokens.drop position = ts ++ q.rest := hq.rest
    have hposition : q.position = ts.length := hq.position.trans (Nat.zero_add _)
    rw [hposition, hrest, List.take_left]
  unfold freshTokens freshLength
  cases h with
  | ok between ahead =>
    rw [freshParse_of_ok hnew]
    exact htake between
  | error between ahead room_le spent =>
    rw [freshParse_of_error hnew]
    exact htake between

/-- A new parser that goes on behind a token finds nothing too deep there. -/
theorem freshAnswer_ne {count : Nat} (hnew : expression maxDepth (restPlace tokens position) = o)
    (h : Takes room (count + 1) (restPlace tokens position) ts o) :
    freshAnswer tokens position ≠ .error ⟨.tooDeep, position + count⟩ := by
  intro heq
  cases h with
  | ok between ahead =>
    rw [freshAnswer, freshParse_of_ok hnew] at heq
    cases heq
  | @error e between ahead room_le spent =>
    rw [freshAnswer, freshParse_of_error hnew] at heq
    obtain ⟨hfault, hsame⟩ := ParseError.mk.inj (Except.error.inj heq)
    have hahead := ahead hfault
    have hposition : e.place.position = ts.length := between.position.trans (Nat.zero_add _)
    have hsame : position + e.place.position = position + count := hsame
    omega

end

/-- The place of a parser is where the rest of its tokens begins, counted from further in front.  So
the comparison of readings applies to the two parsers. -/
theorem IsOver.place_eq (h : IsOver tokens p) :
    p.place = (restPlace tokens p.place.position).shift p.place.position := by
  obtain ⟨⟨rest, position⟩, room⟩ := p
  obtain rfl : rest = tokens.drop position := h.rest
  rfl

/-- **A parser answers like a new one,** or it has no room for an opening token which the new one
takes. -/
theorem IsOver.answer (h : IsOver tokens p) :
    (p.parse.1 = freshAnswer tokens p.place.position ∧
      p.parse.2.place.position = p.place.position + freshLength tokens p.place.position ∧
      (p.room = maxDepth ∨ Within p.room [] (freshTokens tokens p.place.position))) ∨
    (p.parse.1 ≠ freshAnswer tokens p.place.position ∧ p.room < maxDepth ∧
      ∃ us t, us ++ [t] <+: freshTokens tokens p.place.position ∧ Within p.room [] us ∧
        (openBehind (us ++ [t])).length = p.room + 1 ∧
        p.parse.1 = .error ⟨.tooDeep, p.place.position + (us.length + 1)⟩) := by
  have hroom : p.room + (maxDepth - p.room) = maxDepth := Nat.add_sub_cancel' h.room_le
  have hcompares := compares_expression p.place.position (maxDepth - p.room) p.room
    (restPlace tokens p.place.position)
  rw [← h.place_eq, hroom] at hcompares
  generalize hread : expression p.room p.place = o at hcompares
  generalize hnew : expression maxDepth (restPlace tokens p.place.position) = o' at hcompares
  cases hcompares with
  | ok takes within opened =>
    rw [freshTokens_eq hnew takes, freshAnswer, freshLength, parse_of_ok hread,
      freshParse_of_ok hnew]
    exact .inl ⟨rfl, rfl, .inr within⟩
  | error takes within =>
    rw [freshTokens_eq hnew takes, freshAnswer, freshLength, parse_of_error hread,
      freshParse_of_error hnew]
    refine .inl ⟨rfl, rfl, within.symm.imp_left fun hnone => ?_⟩
    omega
  | @deep ts us t q _ more between within full least_le takes =>
    have hq : q.position = ts.length + 1 := by
      rw [between.position, List.length_append, List.length_singleton]
      exact Nat.zero_add _
    have hanswer : p.parse.1 = .error ⟨.tooDeep, p.place.position + (ts.length + 1)⟩ := by
      rw [parse_of_error hread, ← hq]
      rfl
    rw [freshTokens_eq hnew takes, hanswer]
    exact .inr ⟨(freshAnswer_ne hnew takes).symm, by omega, ts, t, ⟨us, by simp⟩, within, full, rfl⟩

/-- Few opening tokens need no more room than a parser has left, for what it lacks was used up by
opening tokens in front of it. -/
theorem IsOver.within (h : IsOver tokens p) (hfew : tokens.countP Token.opens ≤ maxDepth) :
    Within p.room [] (freshTokens tokens p.place.position) := by
  intro us hus
  have hspent := h.spent
  have hopen := length_foldl_nest_le us []
  have htaken : us.Sublist (tokens.drop p.place.position) :=
    hus.sublist.trans (List.take_sublist _ _)
  have hcount : us.countP Token.opens ≤ (tokens.drop p.place.position).countP Token.opens :=
    htaken.countP_le
  have hall : tokens.countP Token.opens = (tokens.take p.place.position).countP Token.opens +
      (tokens.drop p.place.position).countP Token.opens := by
    rw [← List.countP_append, List.take_append_drop]
  rw [List.length_nil] at hopen
  omega

/-- **Each answer of a parser is that of a new one** over the tokens that are left, exactly if the
parser has all its room or the reading of the new one never has more tokens open than it has room
for.  If it is another answer then it is that the tokens are too deep, at the first token for which
there is no room.  A reading that succeeds costs no room, and one that fails costs no more than the
opening tokens that it has taken; so tokens with few opening tokens among them are read as by a new
parser. -/
theorem answers_of_reuse (tokens : List Token) (count : Nat) :
    let p := after count (ofTokens tokens)
    let position := p.place.position
    (answers (count + 1) (ofTokens tokens))[count]? = some p.parse.1 ∧
      (p.parse.1 = freshAnswer tokens position ↔
        p.room = maxDepth ∨
          ∀ us, us <+: freshTokens tokens position → (openBehind us).length ≤ p.room) ∧
      (p.parse.1 = freshAnswer tokens position →
        p.parse.2.place.position = position + freshLength tokens position) ∧
      (p.parse.1 ≠ freshAnswer tokens position →
        ∃ us t, us ++ [t] <+: freshTokens tokens position ∧
          (∀ vs, vs <+: us → (openBehind vs).length ≤ p.room) ∧
          (openBehind (us ++ [t])).length = p.room + 1 ∧
          p.parse.1 = .error ⟨.tooDeep, position + (us.length + 1)⟩) ∧
      (∀ e, p.parse.1 = .ok e → p.parse.2.room = p.room) ∧
      maxDepth ≤ p.room + (tokens.take position).countP Token.opens ∧
      (tokens.countP Token.opens ≤ maxDepth → p.parse.1 = freshAnswer tokens position) := by
  intro p position
  have hover : IsOver tokens p := (isOver_ofTokens tokens).after count
  have hiff : p.parse.1 = freshAnswer tokens position ↔
      p.room = maxDepth ∨ Within p.room [] (freshTokens tokens position) := by
    rcases hover.answer with ⟨hsame, -, hroom⟩ | ⟨hother, hless, us, t, hus, -, hfull, -⟩
    · exact ⟨fun _ => hroom, fun _ => hsame⟩
    · refine ⟨fun hsame => absurd hsame hother, ?_⟩
      rintro (hroom | hwithin)
      · omega
      · have hle : (openBehind (us ++ [t])).length ≤ p.room := hwithin _ hus
        omega
  refine ⟨getElem?_answers count _, hiff, fun hsame => ?_, fun hother => ?_, fun e => room_of_ok,
    hover.spent, fun hfew => hiff.2 (.inr (hover.within hfew))⟩
  · rcases hover.answer with ⟨-, hposition, -⟩ | ⟨hother, -⟩
    · exact hposition
    · exact absurd hsame hother
  · rcases hover.answer with ⟨hsame, -⟩ | ⟨-, -, us, t, hus, hwithin, hfull, hanswer⟩
    · exact absurd hsame hother
    · exact ⟨us, t, hus, hwithin, hfull, hanswer⟩

/-- An expression whose first operand fails fails with it, without a look at what follows. -/
theorem either_of_error {unary : Place → Outcome} {place : Place} {e : Failure}
    (h : unary place = .error e) (room : Nat) : either unary room place = .error e := by
  unfold either
  rw [chain_eq, chain_eq, chain_eq, h]
  rfl

/-- Parentheses that take all the room, none of which is closed.  Only the innermost gives back what
it took. -/
theorem operand_unclosed (room : Nat) (negation : Bool) (name : String) (rest : List Token)
    (position : Nat) :
    operand (room + 1) negation
        ⟨List.replicate (room + 1) .openParen ++ .identifier name :: .openParen :: rest, position⟩ =
      .error ⟨.unclosedParen, ⟨.openParen :: rest, position + (room + 2)⟩, 1⟩ := by
  have hopening : Opening negation .openParen := ⟨rfl, by simp⟩
  induction room generalizing negation position with
  | zero => rfl
  | succ room ih =>
    have hinside : either (operand (room + 1) true) (room + 1)
        ⟨List.replicate (room + 1) .openParen ++ .identifier name :: .openParen :: rest,
          position + 1⟩ = _ :=
      either_of_error (ih true (position + 1) ⟨rfl, by simp⟩) (room + 1)
    rw [List.replicate_succ, List.cons_append, operand_succ hopening]
    show (either (operand (room + 1) true) (room + 1)
      ⟨List.replicate (room + 1) .openParen ++ .identifier name :: .openParen :: rest,
        position + 1⟩).bind _ = _
    rw [hinside, Nat.add_assoc, Nat.add_comm 1]
    rfl

/-- As many parentheses as there is room for, none closed, and then two that are closed. -/
def unclosedThenClosed : List Token :=
  List.replicate maxDepth .openParen ++ .identifier "a" :: .openParen ::
    [.openParen, .identifier "b", .closeParen, .closeParen, .eof]

/-- A closing parenthesis is missing first.  Then there is room for one token only: two parentheses
are too deep, though a new parser reads them. -/
theorem reuse_unclosedThenClosed :
    (ofTokens unclosedThenClosed).parse.1 = .error ⟨.unclosedParen, 129⟩ ∧
      (after 1 (ofTokens unclosedThenClosed)).place.position = 129 ∧
      (after 1 (ofTokens unclosedThenClosed)).parse.1 = .error ⟨.tooDeep, 131⟩ ∧
      freshAnswer unclosedThenClosed 129 = .ok (.identifier "b") ∧
      (after 1 (ofTokens unclosedThenClosed)).parse.1 ≠ freshAnswer unclosedThenClosed 129 := by
  let closed : List Token :=
    [.openParen, .openParen, .identifier "b", .closeParen, .closeParen, .eof]
  have hopen : operand maxDepth true ⟨unclosedThenClosed, 0⟩ =
      .error ⟨.unclosedParen, ⟨closed, 129⟩, 1⟩ := operand_unclosed 127 true "a" closed.tail 0
  have hread : expression maxDepth ⟨unclosedThenClosed, 0⟩ =
      .error ⟨.unclosedParen, ⟨closed, 129⟩, 1⟩ := by
    rw [expression_eq, either_of_error hopen, Except.bind]
  have hparse : (ofTokens unclosedThenClosed).parse = _ := parse_of_error hread
  have hafter : after 1 (ofTokens unclosedThenClosed) = ⟨⟨closed, 129⟩, 1⟩ := by
    show (ofTokens unclosedThenClosed).parse.2 = _
    rw [hparse]
  have hreused : (after 1 (ofTokens unclosedThenClosed)).parse.1 = .error ⟨.tooDeep, 131⟩ := by
    rw [hafter]
    rfl
  have hfresh : freshAnswer unclosedThenClosed 129 = .ok (.identifier "b") := rfl
  refine ⟨by rw [hparse], by rw [hafter], hreused, hfresh, ?_⟩
  rw [hreused, hfresh]
  exact fun heq => by cases heq

end Parser

end When
end CommitForm
