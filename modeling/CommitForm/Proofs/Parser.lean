/-
# The parser reads the grammar

`Follows rule strength room f` says that the reader `f`, with room for `room` opening tokens, reads
what a rule of the grammar derives.

| half | statement |
| --- | --- |
| `sound` | what has been read derives the tree, within the room and with its height counted |
| `complete` | what derives a tree that is not too high is read, unless an operator goes on |

Chains of readers that follow a rule follow the rule of chains, and so do elements; `operand`
follows the rules of operands by induction on the room.
-/

import CommitForm.Proofs.Grammar
import CommitForm.Proofs.Openings

namespace CommitForm
namespace When

/-! ## Places -/

/-- A token that is not the end stands in front of what is left behind it. -/
theorem Place.rest_of_token {p : Place} {t : Token} (h : p.token = t) (ht : t ≠ .eof) :
    p.rest = t :: p.advance.rest := by
  obtain ⟨rest, position⟩ := p
  cases rest with
  | nil => exact absurd h.symm ht
  | cons u us =>
    obtain rfl : u = t := h
    rfl

/-- The token at a place is the first of those that are left. -/
@[simp] theorem Place.token_cons (t : Token) (ts : List Token) (position : Nat) :
    (Place.mk (t :: ts) position).token = t := rfl

/-- Taking a token leaves those behind it. -/
@[simp] theorem Place.advance_cons (t : Token) (ts : List Token) (position : Nat) :
    (Place.mk (t :: ts) position).advance = ⟨ts, position + 1⟩ := rfl

/-- Taking a token goes one position on. -/
@[simp] theorem Place.advance_position (p : Place) : p.advance.position = p.position + 1 := rfl

/-- From an opening token over `ts` and a closing token, with the tokens that were taken and the
position behind them. -/
theorem Place.enclosed {p q : Place} {opening closing : Token} {ts : List Token}
    (hp : p.token = opening) (hq : q.token = closing) (ho : opening ≠ .eof) (hc : closing ≠ .eof)
    (hrest : p.advance.rest = ts ++ q.rest)
    (hposition : q.position = p.advance.position + ts.length) :
    p.rest = opening :: ts ++ [closing] ++ q.advance.rest ∧
      q.advance.position = p.position + (opening :: ts ++ [closing]).length := by
  constructor
  · rw [rest_of_token hp ho, hrest, rest_of_token hq hc]
    simp
  · rw [advance_position, hposition, advance_position, List.length_append, List.length_cons,
      List.length_singleton]
    omega

/-! ## Readers and rules -/

/-- The reading `r` at `p` has read the tokens `ts` by a rule: they are derived by it within the
room, and the height is that of the tree. -/
structure Reads (rule : Rule) (room : Nat) (p : Place) (r : Reading) (ts : List Token) : Prop where
  rest : p.rest = ts ++ r.place.rest
  position : r.place.position = p.position + ts.length
  derives : ∃ n ≤ room, rule ts r.expr n
  height : r.height = r.expr.height
  height_le : r.expr.height ≤ maxDepth

/-- A reader reads what a rule derives: all that it reads is derived, and all that is derived within
its limits is read where something else follows. -/
structure Follows (rule : Rule) (strength room : Nat) (f : Place → Outcome) : Prop where
  sound : ∀ {p : Place} {r : Reading}, f p = .ok r → ∃ ts, Reads rule room p r ts
  complete : ∀ {ts : List Token} {e : Expr} {n : Nat}, rule ts e n → n ≤ room →
    e.height ≤ maxDepth → ∀ (rest : List Token) (position : Nat), Stops strength rest →
      f ⟨ts ++ rest, position⟩ = .ok ⟨e, e.height, ⟨rest, position + ts.length⟩⟩

/-- A tree is accepted just if it is not too high, and then it is answered as it is. -/
theorem checked_eq_ok_iff {room height : Nat} {e : Expr} {p : Place} {r : Reading} :
    checked room e height p = .ok r ↔ height ≤ maxDepth ∧ r = ⟨e, height, p⟩ := by
  rw [checked]
  split
  · next h => simp [Nat.not_le.2 h]
  · next h => simp [Nat.not_lt.1 h, eq_comm]

/-- A tree that is not too high is accepted, whatever room is left. -/
theorem checked_of_le {room height : Nat} (h : height ≤ maxDepth) (e : Expr) (p : Place) :
    checked room e height p = .ok ⟨e, height, p⟩ := checked_eq_ok_iff.2 ⟨h, rfl⟩

/-! ## Chains -/

section

variable {operand : Rule} {level : Level} {room : Nat} {f : Place → Outcome}

/-- A step of a chain takes an operator and an operand, and goes on with the node of both if that is
not too high. -/
theorem chainFrom_succ {op : Operator} (hop : op.level = level) {count : Nat} {left right : Reading}
    {ts : List Token} {position : Nat} (hleft : left.place = ⟨.operator op :: ts, position⟩)
    (hright : f ⟨ts, position + 1⟩ = .ok right)
    (hheight : max left.height right.height + 1 ≤ maxDepth) :
    chainFrom level f room (count + 1) left =
      chainFrom level f room count ⟨.binary op left.expr right.expr,
        max left.height right.height + 1, right.place⟩ := by
  simp only [chainFrom, hleft, Place.token_cons, Place.advance_cons, if_pos hop, hright,
    checked_of_le hheight]

/-- A chain ends before a token that is no operator of its level, and takes nothing more. -/
theorem chainFrom_of_stops {left : Reading} (h : Stops level.strength left.place.rest)
    (count : Nat) : chainFrom level f room count left = .ok left := by
  cases count with
  | zero => rfl
  | succ count =>
    rw [chainFrom]
    split
    · next op hop =>
      rw [Place.rest_of_token hop (by simp)] at h
      rw [if_neg fun hl => not_stops_operator hl _ h]
    · rfl

/-- An operator of its level and an operand behind it go on with a chain. -/
theorem Reads.more {p : Place} {left right : Reading} {ts us : List Token} {op : Operator}
    (hleft : Reads (Chain level operand) room p left ts) (hlevel : op.level = level)
    (hop : left.place.token = .operator op)
    (hright : Reads operand room left.place.advance right us)
    (hheight : max left.height right.height + 1 ≤ maxDepth) :
    Reads (Chain level operand) room p
      ⟨.binary op left.expr right.expr, max left.height right.height + 1, right.place⟩
      (ts ++ .operator op :: us) where
  rest := by
    rw [hleft.rest, Place.rest_of_token hop (by simp), hright.rest]
    simp
  position := by
    rw [hright.position, Place.advance_position, hleft.position, List.length_append,
      List.length_cons]
    omega
  derives := by
    obtain ⟨m, hm, hts⟩ := hleft.derives
    obtain ⟨n, hn, hus⟩ := hright.derives
    exact ⟨max m n, Nat.max_le.2 ⟨hm, hn⟩, .more hlevel hts hus⟩
  height := by rw [hleft.height, hright.height, Expr.height]
  height_le := by rwa [hleft.height, hright.height] at hheight

/-- **Every step of a chain keeps a derivation** of the tokens read so far. -/
theorem chainFrom_sound {strength : Nat} (hf : Follows operand strength room f) {count : Nat}
    {p : Place} {left r : Reading} {ts : List Token}
    (hleft : Reads (Chain level operand) room p left ts)
    (h : chainFrom level f room count left = .ok r) :
    ∃ us, Reads (Chain level operand) room p r us := by
  induction count generalizing left ts with
  | zero =>
    obtain rfl : left = r := Except.ok.inj h
    exact ⟨ts, hleft⟩
  | succ count ih =>
    rw [chainFrom] at h
    split at h
    · next op hop =>
      split at h
      · next hl =>
        split at h
        · simp at h
        · next right hright =>
          split at h
          · simp at h
          · next both hboth =>
            obtain ⟨us, hus⟩ := hf.sound hright
            obtain ⟨hheight, hbinary⟩ := checked_eq_ok_iff.1 hboth
            subst hbinary
            exact ih (hleft.more hl hop hus hheight) h
      · obtain rfl : left = r := Except.ok.inj h
        exact ⟨ts, hleft⟩
    · obtain rfl : left = r := Except.ok.inj h
      exact ⟨ts, hleft⟩

/-- A chain that begins with a derived one goes on behind it, and its count of steps still reaches
the end of the tokens. -/
theorem chain_complete (hf : Follows operand (level.strength + 1) room f) {ts : List Token}
    {e : Expr} {n : Nat} (h : Chain level operand ts e n) (hn : n ≤ room)
    (he : e.height ≤ maxDepth) (rest : List Token) (position : Nat)
    (hrest : Stops (level.strength + 1) rest) :
    ∃ count, rest.length ≤ count ∧ chain level f room ⟨ts ++ rest, position⟩ =
      chainFrom level f room count ⟨e, e.height, ⟨rest, position + ts.length⟩⟩ := by
  induction h generalizing rest with
  | @single ts e n h =>
    refine ⟨(ts ++ rest).length, by simp, ?_⟩
    rw [chain, hf.complete h hn he rest position hrest]
  | @more op ts us l r m n hop _ hr ih =>
    rw [Expr.height] at he
    obtain ⟨count, hcount, hchain⟩ := ih (by omega) (by omega) (.operator op :: us ++ rest)
      (stops_operator hop _)
    cases count with
    | zero => simp at hcount
    | succ count =>
      refine ⟨count, ?_, ?_⟩
      · simp only [List.cons_append, List.length_cons, List.length_append] at hcount
        omega
      · have hread := hf.complete hr (by omega) (by omega) rest (position + ts.length + 1) hrest
        rw [List.append_assoc, hchain, List.cons_append,
          chainFrom_succ hop rfl hread (by simpa using he), Expr.height]
        simp only [List.length_append, List.length_cons]
        congr 3
        omega

/-- **Chains of readers follow the rule of chains,** if readers of operands follow the rule of
operands. -/
theorem Follows.chain (level : Level) (hf : Follows operand (level.strength + 1) room f) :
    Follows (Chain level operand) level.strength room (chain level f room) where
  sound := by
    intro p r h
    rw [When.chain] at h
    split at h
    · simp at h
    · next left hleft =>
      obtain ⟨ts, hts⟩ := hf.sound hleft
      obtain ⟨n, hn, hderives⟩ := hts.derives
      exact chainFrom_sound hf { hts with derives := ⟨n, hn, .single hderives⟩ } h
  complete := by
    intro ts e n h hn he rest position hrest
    obtain ⟨count, -, hchain⟩ :=
      chain_complete hf h hn he rest position (hrest.mono (Nat.le_succ _))
    rw [hchain, chainFrom_of_stops hrest]

/-- The reader of sentences follows their rule, through the three levels of chains. -/
theorem Follows.either (hf : Follows Unary 3 room f) : Follows Sentence 0 room (either f room) :=
  Follows.chain .either (Follows.chain .both (Follows.chain .relation hf))

end

/-! ## Elements -/

/-- The elements `es` at `p` have been read from the tokens `ts`, each within the room and with the
greatest height counted. -/
structure ReadsItems (element : Rule) (room : Nat) (p : Place) (es : Elements) (ts : List Token) :
    Prop where
  rest : p.rest = ts ++ es.place.rest
  position : es.place.position = p.position + ts.length
  derives : ∃ n ≤ room, Items element ts es.items n
  height : es.height = Expr.heights es.items
  height_le : Expr.heights es.items ≤ maxDepth

/-- An element and those behind it, with the greater of their heights. -/
def Elements.cons (first : Reading) (more : Elements) : Elements :=
  ⟨first.expr :: more.items, max first.height more.height, more.place⟩

section

variable {element : Rule} {room : Nat} {f : Place → Outcome}

/-- An element with nothing behind it, or with a comma and elements, is read as elements. -/
theorem Reads.cons {p : Place} {first : Reading} {ts : List Token} {more : Elements}
    (hts : Reads element room p first ts)
    (hmore : more = ⟨[], 0, first.place⟩ ∨
      first.place.token = .comma ∧ ∃ us, ReadsItems element room first.place.advance more us) :
    ∃ us, ReadsItems element room p (.cons first more) us := by
  obtain ⟨m, hm, hderives⟩ := hts.derives
  have hle := hts.height_le
  rcases hmore with rfl | ⟨hcomma, us, hus⟩
  · exact ⟨ts,
      { rest := hts.rest
        position := hts.position
        derives := ⟨m, hm, .last hderives⟩
        height := by rw [Elements.cons, hts.height]; rfl
        height_le := by simpa [Elements.cons, Expr.heights] using hle }⟩
  · obtain ⟨n, hn, hderives'⟩ := hus.derives
    have hle' := hus.height_le
    exact ⟨ts ++ .comma :: us,
      { rest := by
          rw [hts.rest, Place.rest_of_token hcomma (by simp), hus.rest, Elements.cons]
          simp
        position := by
          rw [Elements.cons, hus.position, Place.advance_position, hts.position,
            List.length_append, List.length_cons]
          omega
        derives := ⟨max m n, Nat.max_le.2 ⟨hm, hn⟩, .more hderives hderives'⟩
        height := by rw [Elements.cons, hts.height, hus.height, Expr.heights]
        height_le := Nat.max_le.2 ⟨hle, hle'⟩ }⟩

/-- What is read behind an element: nothing, or a comma and elements. -/
theorem elementsFrom_sound {strength : Nat} (hf : Follows element strength room f) {count : Nat}
    {p : Place} {es : Elements} (h : elementsFrom f count p = .ok es) :
    es = ⟨[], 0, p⟩ ∨ p.token = .comma ∧ ∃ ts, ReadsItems element room p.advance es ts := by
  induction count generalizing p es with
  | zero => exact .inl (Except.ok.inj h).symm
  | succ count ih =>
    rw [elementsFrom] at h
    split at h
    · next hcomma =>
      split at h
      · simp at h
      · next first hfirst =>
        split at h
        · simp at h
        · next more hmore =>
          obtain ⟨ts, hts⟩ := hf.sound hfirst
          obtain rfl : Elements.cons first more = es := Except.ok.inj h
          exact .inr ⟨hcomma, hts.cons (ih hmore)⟩
    · exact .inl (Except.ok.inj h).symm

/-- What is read between brackets: nothing, or elements of an array. -/
theorem elements_sound {strength : Nat} (hf : Follows element strength room f) {p : Place}
    {es : Elements} (h : elements f p = .ok es) :
    es = ⟨[], 0, p⟩ ∨ ∃ ts, ReadsItems element room p es ts := by
  rw [elements] at h
  split at h
  · exact .inl (Except.ok.inj h).symm
  · split at h
    · simp at h
    · next first hfirst =>
      split at h
      · simp at h
      · next more hmore =>
        obtain ⟨ts, hts⟩ := hf.sound hfirst
        obtain rfl : Elements.cons first more = es := Except.ok.inj h
        exact .inr (hts.cons (elementsFrom_sound hf hmore))

/-- There is at most one element more than there are tokens, so the tokens that are left suffice as
fuel. -/
theorem Items.length_le {ts : List Token} {es : List Expr} {n : Nat} (h : Items element ts es n) :
    es.length ≤ ts.length + 1 := by
  induction h with
  | last => simp
  | more _ _ ih =>
    simp only [List.length_cons, List.length_append]
    omega

/-- Without a comma no further element is read. -/
theorem elementsFrom_of_ne_comma {p : Place} (h : p.token ≠ .comma) (count : Nat) :
    elementsFrom f count p = .ok ⟨[], 0, p⟩ := by
  cases count with
  | zero => rfl
  | succ count =>
    rw [elementsFrom]
    split
    · next hcomma => exact absurd hcomma h
    · rfl

/-- Derived elements are read one by one, if the count of steps reaches their end. -/
theorem items_complete (hf : Follows element 3 room f) {ts : List Token} {es : List Expr} {n : Nat}
    (h : Items element ts es n) (hn : n ≤ room) (hes : Expr.heights es ≤ maxDepth)
    {rest : List Token} (hrest : rest.head? ≠ some .comma) {count : Nat}
    (hcount : es.length ≤ count + 1) (position : Nat) :
    ∃ first more, f ⟨ts ++ rest, position⟩ = .ok first ∧
      elementsFrom f count first.place = .ok more ∧
      Elements.cons first more = ⟨es, Expr.heights es, ⟨rest, position + ts.length⟩⟩ := by
  induction h generalizing count position with
  | @last ts e n h =>
    have he : e.height ≤ maxDepth := Nat.le_trans (Nat.le_max_left _ _) hes
    have hend : (Place.mk rest (position + ts.length)).token ≠ .comma := by
      cases rest with
      | nil => simp [Place.token]
      | cons t rest => simpa using hrest
    exact ⟨_, _, hf.complete h hn he rest position (stops_three rest),
      elementsFrom_of_ne_comma hend count, rfl⟩
  | @more ts us e es m n h hs ih =>
    have he : e.height ≤ maxDepth := Nat.le_trans (Nat.le_max_left _ _) hes
    have hes' : Expr.heights es ≤ maxDepth := Nat.le_trans (Nat.le_max_right _ _) hes
    cases count with
    | zero => cases hs <;> simp at hcount
    | succ count =>
      obtain ⟨first, more, hfirst, hmore, hcons⟩ :=
        ih (by omega) hes' (Nat.le_of_succ_le_succ hcount) (position + ts.length + 1)
      refine ⟨⟨e, e.height, ⟨.comma :: us ++ rest, position + ts.length⟩⟩, .cons first more,
        ?_, ?_, ?_⟩
      · rw [List.append_assoc]
        exact hf.complete h (by omega) he _ position (stops_three _)
      · simp only [List.cons_append, elementsFrom, Place.token_cons, Place.advance_cons, hfirst,
          hmore]
        rfl
      · rw [hcons]
        simp only [Elements.cons, Expr.heights, List.length_append, List.length_cons]
        congr 2
        omega

end

/-! ## Operands -/

/-- Elements of an array are read up to the closing bracket, by induction on the elements. -/
theorem elements_complete {room : Nat} {f : Place → Outcome} (hf : Follows Primary 3 room f)
    {ts : List Token} {es : List Expr} {n : Nat} (h : Items Primary ts es n) (hn : n ≤ room)
    (hes : Expr.heights es ≤ maxDepth) (rest : List Token) (position : Nat) :
    elements f ⟨ts ++ .closeBracket :: rest, position⟩ =
      .ok ⟨es, Expr.heights es, ⟨.closeBracket :: rest, position + ts.length⟩⟩ := by
  have hcount : es.length ≤ (ts ++ .closeBracket :: rest).length + 1 := by
    have := h.length_le
    simp only [List.length_append]
    omega
  have hend : (Token.closeBracket :: rest).head? ≠ some .comma := by simp
  obtain ⟨first, more, hfirst, hmore, hcons⟩ := items_complete hf h hn hes hend hcount position
  obtain ⟨t, us, rfl, ht⟩ := h.exists_cons
  rw [elements]
  split
  · next hclose =>
    obtain rfl : t = .closeBracket := hclose
    exact absurd ht (by decide)
  · simp only [hfirst, hmore]
    exact congrArg Except.ok hcons

/-- The rule of operands: with or without signs of negation, as the place allows. -/
def operandRule (negation : Bool) : Rule := if negation then Unary else Primary

/-- An operand without signs is an operand whether or not signs are allowed. -/
theorem Primary.toOperand {ts : List Token} {e : Expr} {n : Nat} (h : Primary ts e n)
    (negation : Bool) : operandRule negation ts e n := by
  cases negation with
  | false => exact h
  | true => exact .primary h

/-- A reading of one token, for the operands that are a token by themselves. -/
theorem reads_token {p : Place} {t : Token} {e : Expr} (room : Nat) (negation : Bool)
    (hp : p.token = t) (ht : t ≠ .eof) (h : Primary [t] e 0) (he : e.height = 1) :
    Reads (operandRule negation) room p ⟨e, 1, p.advance⟩ [t] where
  rest := Place.rest_of_token hp ht
  position := rfl
  derives := ⟨0, Nat.zero_le _, h.toOperand negation⟩
  height := he.symm
  height_le := by rw [he]; decide

/-- With one opening token open, operands are read by their rules: the hypothesis of the induction
on the room. -/
def FollowsInside (room : Nat) : Prop :=
  ∀ room' negation, room = room' + 1 →
    Follows (operandRule negation) 3 room' (operand room' negation)

/-- What a token is by itself is an operand without signs, of height one. -/
theorem primary_of_plain {t : Token} {e : Expr} (h : plain t = .ok e) :
    t ≠ .eof ∧ Primary [t] e 0 ∧ e.height = 1 := by
  cases t with
  | number n =>
    obtain rfl := Except.ok.inj h
    exact ⟨by simp, .number n, rfl⟩
  | string s =>
    obtain rfl := Except.ok.inj h
    exact ⟨by simp, .string s, rfl⟩
  | identifier name =>
    obtain rfl := Except.ok.inj h
    exact ⟨by simp, .identifier name, rfl⟩
  | pattern literal =>
    rw [plain] at h
    split at h
    · next body flags hcut =>
      obtain rfl := Except.ok.inj h
      obtain ⟨rfl, hbody, hflags⟩ := splitPattern?_eq_some_iff.1 hcut
      exact ⟨by simp, .pattern hbody hflags, rfl⟩
    · cases h
  | _ => cases h

section

variable {room : Nat} {p : Place} {r inner : Reading} {ts : List Token}

/-- A sign and the operand that has been read behind it are read as an operand with a sign. -/
theorem Reads.not (hp : p.token = .not) (hts : Reads Unary room p.advance inner ts)
    (h : close (room + 1) .not inner = .ok r) : Reads Unary (room + 1) p r (.not :: ts) := by
  obtain ⟨hheight, rfl⟩ := checked_eq_ok_iff.1 h
  obtain ⟨n, hn, hderives⟩ := hts.derives
  exact
    { rest := by rw [Place.rest_of_token hp (by simp), hts.rest]; rfl
      position := by
        rw [hts.position, Place.advance_position, List.length_cons]
        omega
      derives := ⟨n + 1, Nat.succ_le_succ hn, .not hderives⟩
      height := by rw [hts.height, Expr.height]
      height_le := by rwa [hts.height] at hheight }

/-- Parentheses and the sentence that has been read between them are read as an operand, without a
node of their own. -/
theorem Reads.parens (hp : p.token = .openParen) (hts : Reads Sentence room p.advance inner ts)
    (h : close (room + 1) .openParen inner = .ok r) (negation : Bool) :
    Reads (operandRule negation) (room + 1) p r (.openParen :: ts ++ [.closeParen]) := by
  rw [close_openParen] at h
  split at h
  · next hclose =>
    obtain rfl := Except.ok.inj h
    obtain ⟨n, hn, hderives⟩ := hts.derives
    obtain ⟨hrest, hposition⟩ :=
      Place.enclosed hp hclose (by simp) (by simp) hts.rest hts.position
    exact
      { rest := hrest
        position := hposition
        derives := ⟨n + 1, Nat.succ_le_succ hn, (Primary.parens hderives).toOperand _⟩
        height := hts.height
        height_le := hts.height_le }
  · cases h

/-- Brackets with nothing between them are read as an array without elements. -/
theorem reads_emptyArray (hp : p.token = .openBracket)
    (h : close (room + 1) .openBracket ⟨.array [], 0, p.advance⟩ = .ok r) (negation : Bool) :
    Reads (operandRule negation) (room + 1) p r [.openBracket, .closeBracket] := by
  rw [close_openBracket] at h
  split at h
  · next hclose =>
    obtain ⟨hheight, rfl⟩ := checked_eq_ok_iff.1 h
    obtain ⟨hrest, hposition⟩ :=
      Place.enclosed hp hclose (by simp) (by simp) (List.nil_append _).symm rfl
    exact
      { rest := hrest
        position := hposition
        derives := ⟨1, Nat.le_add_left _ _, Primary.emptyArray.toOperand _⟩
        height := rfl
        height_le := hheight }
  · cases h

/-- Brackets and the elements that have been read between them are read as an array of them. -/
theorem ReadsItems.brackets {es : Elements} (hp : p.token = .openBracket)
    (hts : ReadsItems Primary room p.advance es ts)
    (h : close (room + 1) .openBracket ⟨.array es.items, es.height, es.place⟩ = .ok r)
    (negation : Bool) :
    Reads (operandRule negation) (room + 1) p r (.openBracket :: ts ++ [.closeBracket]) := by
  rw [close_openBracket] at h
  split at h
  · next hclose =>
    obtain ⟨hheight, rfl⟩ := checked_eq_ok_iff.1 h
    obtain ⟨n, hn, hderives⟩ := hts.derives
    obtain ⟨hrest, hposition⟩ :=
      Place.enclosed hp hclose (by simp) (by simp) hts.rest hts.position
    exact
      { rest := hrest
        position := hposition
        derives := ⟨n + 1, Nat.succ_le_succ hn, (Primary.array hderives).toOperand _⟩
        height := by rw [hts.height, Expr.height]
        height_le := by rwa [hts.height] at hheight }
  · cases h

/-- An opening token and what has been read behind it are read as an operand, whichever of the three
it is. -/
theorem opening_sound (ih : FollowsInside (room + 1)) {negation : Bool}
    (h : Opening negation p.token) (hinner : content room p.token p.advance = .ok inner)
    (hclose : close (room + 1) p.token inner = .ok r) :
    ∃ ts, Reads (operandRule negation) (room + 1) p r ts := by
  obtain ⟨hopens, hnot⟩ := h
  rcases Token.opens_iff.1 hopens with hp | hp | hp
  · rw [hp] at hinner hclose
    obtain rfl := hnot hp
    obtain ⟨ts, hts⟩ := (ih room true rfl).sound hinner
    exact ⟨_, hts.not hp hclose⟩
  · rw [hp] at hinner hclose
    obtain ⟨ts, hts⟩ := (ih room true rfl).either.sound hinner
    exact ⟨_, hts.parens hp hclose negation⟩
  · rw [hp] at hinner hclose
    obtain ⟨es, hes, rfl⟩ := content_openBracket_eq_ok hinner
    rcases elements_sound (ih room false rfl) hes with rfl | ⟨ts, hts⟩
    · exact ⟨_, reads_emptyArray hp hclose negation⟩
    · exact ⟨_, hts.brackets hp hclose negation⟩

end

/-- **What has been read as an operand is one,** by the token it begins with. -/
theorem operand_sound {room : Nat} (ih : FollowsInside room) {negation : Bool} {p : Place}
    {r : Reading} (h : operand room negation p = .ok r) :
    ∃ ts, Reads (operandRule negation) room p r ts := by
  by_cases hp : Opening negation p.token
  · cases room with
    | zero =>
      rw [operand_zero hp] at h
      cases h
    | succ room =>
      rw [operand_succ hp] at h
      obtain ⟨inner, hinner, hclose⟩ := bind_eq_ok h
      exact opening_sound ih hp hinner hclose
  · rw [operand_plain hp] at h
    split at h
    · next e he =>
      obtain rfl := Except.ok.inj h
      obtain ⟨heof, hprimary, hheight⟩ := primary_of_plain he
      exact ⟨_, reads_token room negation rfl heof hprimary hheight⟩
    · cases h

/-- An opening token is read with what has been read behind it and with what ends it. -/
theorem operand_of_content {room position : Nat} {negation : Bool} {t : Token} {ts : List Token}
    {inner : Reading} (ht : Opening negation t)
    (h : content room t ⟨ts, position + 1⟩ = .ok inner) :
    operand (room + 1) negation ⟨t :: ts, position⟩ = close (room + 1) t inner := by
  have hp : Opening negation (Place.mk (t :: ts) position).token := ht
  rw [operand_succ hp, Place.token_cons, Place.advance_cons, h]
  rfl

/-- A token that is an operand by itself is read as that, whatever follows it. -/
theorem operand_of_plain {t : Token} {e : Expr} (ht : t.opens = false) (h : plain t = .ok e)
    (room : Nat) (negation : Bool) (rest : List Token) (position : Nat) :
    operand room negation ⟨t :: rest, position⟩ = .ok ⟨e, 1, ⟨rest, position + 1⟩⟩ := by
  have hp : ¬Opening negation (Place.mk (t :: rest) position).token := by
    rintro ⟨hopens, -⟩
    rw [Place.token_cons, ht] at hopens
    cases hopens
  rw [operand_plain hp, Place.token_cons, h]
  rfl

section

variable {room n : Nat} {us : List Token} {e : Expr} {es : List Expr}

/-- A sentence in parentheses is read, since its chains end before the closing one. -/
theorem parens_complete (hf : Follows Unary 3 room (operand room true)) (h : Sentence us e n)
    (hn : n ≤ room) (he : e.height ≤ maxDepth) (negation : Bool) (rest : List Token)
    (position : Nat) :
    operand (room + 1) negation ⟨.openParen :: us ++ [.closeParen] ++ rest, position⟩ =
      .ok ⟨e, e.height,
        ⟨rest, position + (Token.openParen :: us ++ [Token.closeParen]).length⟩⟩ := by
  have hinner : content room .openParen ⟨us ++ [.closeParen] ++ rest, position + 1⟩ =
      .ok ⟨e, e.height, ⟨.closeParen :: rest, position + 1 + us.length⟩⟩ := by
    rw [List.append_assoc]
    exact hf.either.complete h hn he (.closeParen :: rest) (position + 1)
      (stops_cons (by simp) _ _)
  rw [List.cons_append, List.cons_append, operand_of_content ⟨rfl, by simp⟩ hinner,
    close_openParen, if_pos (Place.token_cons _ _ _)]
  simp
  omega

/-- Brackets with nothing between them are read, given room for the one opening token. -/
theorem emptyArray_complete (room : Nat) (negation : Bool) (rest : List Token) (position : Nat) :
    operand (room + 1) negation ⟨.openBracket :: .closeBracket :: rest, position⟩ =
      .ok ⟨.array [], 1, ⟨rest, position + 2⟩⟩ := by
  have hone : 1 ≤ maxDepth := by decide
  have hinner : content room .openBracket ⟨.closeBracket :: rest, position + 1⟩ =
      .ok ⟨.array [], 0, ⟨.closeBracket :: rest, position + 1⟩⟩ := rfl
  rw [operand_of_content ⟨rfl, by simp⟩ hinner, close_openBracket,
    if_pos (Place.token_cons _ _ _)]
  exact checked_of_le hone _ _

/-- Elements in brackets are read, if the array is not too high. -/
theorem array_complete (hf : Follows Primary 3 room (operand room false))
    (h : Items Primary us es n) (hn : n ≤ room) (he : Expr.heights es + 1 ≤ maxDepth)
    (negation : Bool) (rest : List Token) (position : Nat) :
    operand (room + 1) negation ⟨.openBracket :: us ++ [.closeBracket] ++ rest, position⟩ =
      .ok ⟨.array es, Expr.heights es + 1,
        ⟨rest, position + (Token.openBracket :: us ++ [Token.closeBracket]).length⟩⟩ := by
  have hread := elements_complete hf h hn (Nat.le_of_succ_le he) rest (position + 1)
  have hinner : content room .openBracket ⟨us ++ [.closeBracket] ++ rest, position + 1⟩ =
      .ok ⟨.array es, Expr.heights es, ⟨.closeBracket :: rest, position + 1 + us.length⟩⟩ := by
    rw [content, List.append_assoc, List.singleton_append, hread]
    rfl
  rw [List.cons_append, List.cons_append, operand_of_content ⟨rfl, by simp⟩ hinner,
    close_openBracket, if_pos (Place.token_cons _ _ _), checked_of_le he]
  simp
  omega

end

/-- **An operand without signs is read,** whatever follows it, given room for what it opens. -/
theorem operand_complete {room : Nat} (ih : FollowsInside room) {ts : List Token} {e : Expr}
    {n : Nat} (h : Primary ts e n) (hn : n ≤ room) (he : e.height ≤ maxDepth) (negation : Bool)
    (rest : List Token) (position : Nat) :
    operand room negation ⟨ts ++ rest, position⟩ =
      .ok ⟨e, e.height, ⟨rest, position + ts.length⟩⟩ := by
  cases h with
  | number | string | identifier => exact operand_of_plain rfl rfl room negation rest position
  | pattern hbody hflags =>
    exact operand_of_plain rfl (by simp [plain, splitPattern?_written hbody hflags]) room negation
      rest position
  | parens h =>
    obtain ⟨room, rfl⟩ := Nat.exists_eq_succ_of_ne_zero (Nat.ne_zero_of_lt hn)
    exact parens_complete (ih room true rfl) h (Nat.le_of_succ_le_succ hn) he negation rest position
  | emptyArray =>
    obtain ⟨room, rfl⟩ := Nat.exists_eq_succ_of_ne_zero (Nat.ne_zero_of_lt hn)
    exact emptyArray_complete room negation rest position
  | array h =>
    obtain ⟨room, rfl⟩ := Nat.exists_eq_succ_of_ne_zero (Nat.ne_zero_of_lt hn)
    exact array_complete (ih room false rfl) h (Nat.le_of_succ_le_succ hn) he negation rest position

/-- **An operand with signs is read,** whatever follows it, by induction on the signs. -/
theorem unary_complete {room : Nat} (ih : FollowsInside room) {ts : List Token} {e : Expr} {n : Nat}
    (h : Unary ts e n) (hn : n ≤ room) (he : e.height ≤ maxDepth) (rest : List Token)
    (position : Nat) :
    operand room true ⟨ts ++ rest, position⟩ =
      .ok ⟨e, e.height, ⟨rest, position + ts.length⟩⟩ := by
  cases h with
  | primary h => exact operand_complete ih h hn he true rest position
  | @not us e n h =>
    cases room with
    | zero => simp at hn
    | succ room =>
      rw [Expr.height] at he
      have hinner : content room .not ⟨us ++ rest, position + 1⟩ = _ :=
        (ih room true rfl).complete h (Nat.le_of_succ_le_succ hn) (Nat.le_of_succ_le he) rest
          (position + 1) (stops_three rest)
      rw [List.cons_append, operand_of_content ⟨rfl, fun _ => rfl⟩ hinner, close_not,
        checked_of_le he, Expr.height]
      simp
      omega

/-- The reader of operands follows their rule if it does with less room, which is the step of the
induction. -/
theorem FollowsInside.follows {room : Nat} (ih : FollowsInside room) (negation : Bool) :
    Follows (operandRule negation) 3 room (operand room negation) where
  sound := operand_sound ih
  complete := by
    intro ts e n h hn he rest position _
    cases negation with
    | false => exact operand_complete ih h hn he false rest position
    | true => exact unary_complete ih h hn he rest position

/-- **Operands are read by their rules,** by induction on the room for opening tokens. -/
theorem follows_operand (room : Nat) (negation : Bool) :
    Follows (operandRule negation) 3 room (operand room negation) := by
  induction room generalizing negation with
  | zero => exact FollowsInside.follows (fun room' _ h => absurd h (Nat.succ_ne_zero room').symm) _
  | succ room ih =>
    refine FollowsInside.follows (fun room' negation h => ?_) _
    obtain rfl : room = room' := Nat.succ.inj h
    exact ih negation

/-! ## Whole expressions -/

/-- The end is found where no token is left, or where the end token stands. -/
theorem Place.token_eq_eof {p : Place} (h : p.token = .eof) :
    p.rest = [] ∨ ∃ ts, p.rest = .eof :: ts := by
  obtain ⟨rest, position⟩ := p
  cases rest with
  | nil => exact .inl rfl
  | cons t ts =>
    obtain rfl : t = .eof := h
    exact .inr ⟨ts, rfl⟩

/-- An operand without signs has a last token, which is not the end of the source. -/
theorem Primary.exists_last {ts : List Token} {e : Expr} {n : Nat} (h : Primary ts e n) :
    ∃ us t, ts = us ++ [t] ∧ t ≠ .eof := by
  cases h with
  | emptyArray => exact ⟨[.openBracket], .closeBracket, rfl, by simp⟩
  | parens | array => exact ⟨_ :: _, _, rfl, by simp⟩
  | _ => exact ⟨[], _, rfl, by simp⟩

/-- An operand with signs has a last token, which is not the end of the source. -/
theorem Unary.exists_last {ts : List Token} {e : Expr} {n : Nat} (h : Unary ts e n) :
    ∃ us t, ts = us ++ [t] ∧ t ≠ .eof := by
  induction ts generalizing e n with
  | nil =>
    cases h with
    | primary h => exact h.exists_last
  | cons t ts ih =>
    cases h with
    | not h =>
      obtain ⟨us, u, rfl, hu⟩ := ih h
      exact ⟨.not :: us, u, rfl, hu⟩
    | primary h => exact h.exists_last

/-- A chain has a last token, that of its last operand. -/
theorem Chain.exists_last {level : Level} {operand : Rule}
    (ho : ∀ {ts e n}, operand ts e n → ∃ us t, ts = us ++ [t] ∧ t ≠ .eof) {ts : List Token}
    {e : Expr} {n : Nat} (h : Chain level operand ts e n) : ∃ us t, ts = us ++ [t] ∧ t ≠ .eof := by
  cases h with
  | single h => exact ho h
  | @more op vs _ _ _ _ _ _ _ hr =>
    obtain ⟨us, t, rfl, ht⟩ := ho hr
    exact ⟨vs ++ .operator op :: us, t, by simp, ht⟩

/-- The last token of a sentence is not the end of the source, so a reader cannot mistake one for
the other. -/
theorem Sentence.exists_last {ts : List Token} {e : Expr} {n : Nat} (h : Sentence ts e n) :
    ∃ us t, ts = us ++ [t] ∧ t ≠ .eof :=
  Chain.exists_last (Chain.exists_last (Chain.exists_last Unary.exists_last)) h

/-- The reader of sentences follows their rule with any room. -/
theorem follows_either (room : Nat) : Follows Sentence 0 room (either (operand room true) room) :=
  Follows.either (follows_operand room true)

/-- What has been read as a whole expression is a sentence, with the end of the source behind it. -/
theorem expression_sound {room : Nat} {p : Place} {r : Reading} (h : expression room p = .ok r) :
    (∃ ts, Reads Sentence room p r ts) ∧ r.place.token = .eof := by
  rw [expression] at h
  split at h
  · simp at h
  · next hread =>
    split at h
    · next heof =>
      obtain rfl := Except.ok.inj h
      exact ⟨(follows_either room).sound hread, heof⟩
    · simp at h

/-- A sentence is read as a whole expression where the end of the source follows. -/
theorem expression_complete {room : Nat} {ts : List Token} {e : Expr} {n : Nat}
    (h : Sentence ts e n) (hn : n ≤ room) (he : e.height ≤ maxDepth) (rest : List Token)
    (position : Nat) :
    expression room ⟨ts ++ .eof :: rest, position⟩ =
      .ok ⟨e, e.height, ⟨.eof :: rest, position + ts.length⟩⟩ := by
  rw [expression, (follows_either room).complete h hn he (.eof :: rest) position
    (stops_cons (by simp) _ _)]
  rfl

/-- Parsing tokens gives the tree of the expression that is read from the first of them on. -/
theorem parseTokens_eq_ok_iff {ts : List Token} {e : Expr} :
    parseTokens ts = .ok e ↔
      ∃ r, expression maxDepth ⟨ts, 0⟩ = .ok r ∧ r.expr = e := by
  rw [parseTokens, Parser.parse, Parser.ofTokens]
  split
  · next r hr => simp [hr]
  · next hr => simp [hr]

/-- Tokens that do not end with `eof` but end before it, or with the list, end before the first. -/
theorem eq_of_append_eof {ts us rest : List Token} {t : Token} (hts : .eof ∉ ts) (ht : t ≠ .eof)
    (hrest : rest = [] ∨ ∃ vs, rest = .eof :: vs) (h : ts ++ [.eof] = us ++ [t] ++ rest) :
    us ++ [t] = ts := by
  rcases hrest with rfl | ⟨vs, rfl⟩
  · rw [List.append_nil] at h
    exact absurd (List.singleton_inj.1 (List.append_inj_right' h rfl)).symm ht
  · rcases List.append_eq_append_iff.1 h with ⟨as, has, heof⟩ | ⟨as, has, heof⟩
    · cases as with
      | nil => rw [has, List.append_nil]
      | cons a as => simp at heof
    · cases as with
      | nil => rw [has, List.append_nil]
      | cons a as =>
        obtain rfl : Token.eof = a := (List.cons.inj heof).1
        exact absurd (has ▸ List.mem_append_right _ List.mem_cons_self) hts

/-- **The parser reads exactly the sentences of the grammar** that keep to the two limits of depth,
and a list of tokens has at most one tree. -/
theorem parseTokens_iff_sentence {ts : List Token} (hts : .eof ∉ ts) (e : Expr) :
    (parseTokens (ts ++ [.eof]) = .ok e ↔
      (∃ n ≤ maxDepth, Sentence ts e n) ∧ e.height ≤ maxDepth) ∧
    ∀ (e' : Expr) (n n' : Nat), Sentence ts e n → Sentence ts e' n' → e = e' ∧ n = n' := by
  refine ⟨⟨fun h => ?_, fun ⟨⟨n, hn, hs⟩, he⟩ => ?_⟩, fun e' n n' h h' => h.unique h'⟩
  · obtain ⟨r, hread, rfl⟩ := parseTokens_eq_ok_iff.1 h
    obtain ⟨⟨us, hus⟩, heof⟩ := expression_sound hread
    obtain ⟨n, hn, hs⟩ := hus.derives
    obtain ⟨vs, t, rfl, ht⟩ := hs.exists_last
    obtain rfl := eq_of_append_eof hts ht (Place.token_eq_eof heof) hus.rest
    exact ⟨⟨n, hn, hs⟩, hus.height_le⟩
  · exact parseTokens_eq_ok_iff.2 ⟨_, expression_complete hs hn he [] 0, rfl⟩

/-- The clause `!a || (b in ['x'])`, parsed to its tree, with all that the general statement asks
for. -/
theorem parseTokens_sign_and_elements :
    Token.eof ∉ [.not, .identifier "a", .operator .either, .openParen, .identifier "b",
        .operator .isIn, .openBracket, .string "x", .closeBracket, .closeParen] ∧
      parseTokens ([.not, .identifier "a", .operator .either, .openParen, .identifier "b",
        .operator .isIn, .openBracket, .string "x", .closeBracket, .closeParen] ++ [.eof]) =
        .ok (.binary .either (.not (.identifier "a"))
          (.binary .isIn (.identifier "b") (.array [.string "x"]))) := by
  have hleft : Unary [.not, .identifier "a"] (.not (.identifier "a")) 1 :=
    .not (.primary (.identifier "a"))
  have hname : Chain .relation Unary [.identifier "b"] (.identifier "b") 0 :=
    .single (.primary (.identifier "b"))
  have harray : Unary [.openBracket, .string "x", .closeBracket] (.array [.string "x"]) 1 :=
    .primary (.array (.last (.string "x")))
  have hmember : Operator.isIn.level = .relation := rfl
  have hin := Primary.parens (.single (.single (.more hmember hname harray)))
  have heither : Operator.either.level = .either := rfl
  have hboth : Chain .both (Chain .relation Unary) _ _ _ := .single (.single hleft)
  have hboth' : Chain .both (Chain .relation Unary) _ _ _ := .single (.single (.primary hin))
  have hs := Chain.more heither (.single hboth) hboth'
  have hts : Token.eof ∉ [.not, .identifier "a", .operator .either, .openParen, .identifier "b",
      .operator .isIn, .openBracket, .string "x", .closeBracket, .closeParen] := by simp
  refine ⟨hts, (parseTokens_iff_sentence hts _).1.2 ⟨⟨_, by decide, hs⟩, ?_⟩⟩
  simp [Expr.height, Expr.heights, maxDepth]

end When
end CommitForm
