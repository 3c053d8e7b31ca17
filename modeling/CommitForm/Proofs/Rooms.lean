/-
# Readings with different rooms

Two readers of the same tokens, one of which has room for `d` opening tokens more than the other and
counts its positions from `k` tokens further behind.  They are compared by the tokens that are open
behind each token (`nest`): while these are no more than the smaller room allows, the two read the
same.

| `Compares` | the first reader | the second reader |
| --- | --- | --- |
| `ok` | reads an expression | reads it too |
| `error` | finds a fault | finds it too, at the same token |
| `deep` | has no room for an opening token | takes it and goes on behind it |

`Compares.bind` puts readings one behind the other, and `Compares.enter` puts one behind an opening
token.  With them the comparison follows the readers, up to operands by induction on the room.
-/

import CommitForm.Proofs.Viability

namespace CommitForm
namespace When

/-! ## Open tokens -/

/-- What stays open behind an operand: the negations in front of it end with it. -/
def settle (opened : List Token) : List Token := opened.dropWhile (· = .not)

/-- The tokens that are open behind a token, the innermost in front.  A bracket that closes ends the
one that was open, and each operand ends the negations in front of it. -/
def nest (opened : List Token) : Token → List Token
  | .not => .not :: opened
  | .openParen => .openParen :: opened
  | .openBracket => .openBracket :: opened
  | .closeParen | .closeBracket => settle opened.tail
  | .operator _ | .comma | .eof => opened
  | .number _ | .string _ | .pattern _ | .identifier _ => settle opened

section

variable {opened : List Token} {t : Token} {bound : Nat} {ts us : List Token}

/-- A token that opens something lies inside all that is open in front of it. -/
theorem nest_of_opens (ht : t.opens) : nest opened t = t :: opened := by
  rcases Token.opens_iff.1 ht with rfl | rfl | rfl <;> rfl

/-- Settling closes tokens and opens none. -/
theorem length_settle_le (opened : List Token) : (settle opened).length ≤ opened.length :=
  (List.dropWhile_sublist _).length_le

/-- An open bracket stays open behind an operand, and so do the negations outside of it. -/
theorem settle_cons_of_ne (ht : t ≠ .not) : settle (t :: opened) = t :: opened := by
  unfold settle
  exact List.dropWhile_cons_of_neg (by simpa using ht)

/-- A negation in front of an operand ends with it. -/
theorem settle_not_cons (opened : List Token) : settle (.not :: opened) = settle opened := by
  unfold settle
  exact List.dropWhile_cons_of_pos (by simp)

/-- A token opens at most itself. -/
theorem length_nest_le (opened : List Token) (t : Token) :
    (nest opened t).length ≤ opened.length + [t].countP Token.opens := by
  have hsettle := length_settle_le opened
  have htail := length_settle_le opened.tail
  have hlength : opened.tail.length ≤ opened.length := by
    rw [List.length_tail]
    omega
  cases t <;> simp [nest, Token.opens] <;> omega

/-- No more tokens are open than opening tokens have been met.  This is why few opening tokens fit
into any room that has not lost more. -/
theorem length_foldl_nest_le (ts opened : List Token) :
    (ts.foldl nest opened).length ≤ opened.length + ts.countP Token.opens := by
  induction ts generalizing opened with
  | nil => simp
  | cons t ts ih =>
    have hhead := length_nest_le opened t
    have htail := ih (nest opened t)
    rw [List.foldl_cons, List.countP_cons]
    rw [List.countP_singleton] at hhead
    omega

/-- No more than some tokens are ever open: not behind the tokens alone, but behind every beginning
of them, where the reader has been in between. -/
def Within (bound : Nat) (opened ts : List Token) : Prop :=
  ∀ us, us <+: ts → (us.foldl nest opened).length ≤ bound

/-- Without tokens nothing is opened, so what was open before decides. -/
theorem within_nil (h : opened.length ≤ bound) : Within bound opened [] := by
  intro us hus
  rw [List.prefix_nil.1 hus]
  exact h

/-- One token more in front: what is open before it is within the bound, and so is what is ever open
behind it. -/
theorem within_cons :
    Within bound opened (t :: ts) ↔ opened.length ≤ bound ∧ Within bound (nest opened t) ts := by
  constructor
  · intro h
    refine ⟨h [] List.nil_prefix, fun us hus => ?_⟩
    exact h (t :: us) (List.prefix_cons_inj t |>.2 hus)
  · rintro ⟨hopened, hts⟩ us hus
    rcases List.prefix_cons_iff.1 hus with rfl | ⟨vs, rfl, hvs⟩
    · exact hopened
    · exact hts vs hvs

/-- Two runs of tokens stay within the bound if the second one does from what the first one leaves
open. -/
theorem within_append (hts : Within bound opened ts)
    (hus : Within bound (ts.foldl nest opened) us) : Within bound opened (ts ++ us) := by
  induction ts generalizing opened with
  | nil => exact hus
  | cons t ts ih =>
    obtain ⟨hopened, hts⟩ := within_cons.1 hts
    exact within_cons.2 ⟨hopened, ih hts hus⟩

end

/-! ## What a reading takes -/

/-- What ends at a place and can be moved with it: a reading of an expression, or of the elements of
an array. -/
class Placed (α : Type) where
  place : α → Place
  shift : Nat → α → α

/-- A place, counted from further in front.  The tokens that follow are the same, and only the
number of those that have been passed is another. -/
def Place.shift (k : Nat) (p : Place) : Place := ⟨p.rest, k + p.position⟩

instance : Placed Reading := ⟨Reading.place, fun k r => ⟨r.expr, r.height, r.place.shift k⟩⟩

instance : Placed Elements := ⟨Elements.place, fun k es => ⟨es.items, es.height, es.place.shift k⟩⟩

variable {α β : Type} [Placed α] [Placed β] {k d room bound least least' : Nat}
  {p q : Place} {t : Token} {ts us S T U : List Token}

/-- A reading at `p` takes the tokens `ts`, at least `least` of them unless it finds a fault other
than depth.  A fault gives back no more room than there was, and all but what the opening tokens
took. -/
inductive Takes (room least : Nat) (p : Place) (ts : List Token) : Except Failure α → Prop
  | ok {a : α} (between : Between p ts (Placed.place a)) (ahead : least ≤ ts.length) :
      Takes room least p ts (.ok a)
  | error {e : Failure} (between : Between p ts e.place)
      (ahead : e.fault = .tooDeep → least ≤ ts.length) (room_le : e.room ≤ room)
      (spent : room ≤ e.room + ts.countP Token.opens) : Takes room least p ts (.error e)

/-- What a reading takes behind tokens that have been passed, together with these. -/
theorem Takes.after {o : Except Failure α} (h : Takes room least' q us o) (hp : Between p ts q)
    (hleast : least ≤ ts.length + least') : Takes room least p (ts ++ us) o := by
  cases h with
  | ok between ahead =>
    refine .ok (hp.trans between) ?_
    rw [List.length_append]
    omega
  | error between ahead room_le spent =>
    refine .error (hp.trans between) (fun hdeep => ?_) room_le ?_
    · have := ahead hdeep
      rw [List.length_append]
      omega
    · rw [List.countP_append]
      omega

/-- What a reading takes behind an opening token, which costs one step of the room and is covered by
the token itself. -/
theorem Takes.enter {o : Except Failure α} (h : Takes room least p.advance ts o) (hp : p.token = t)
    (ht : t.opens) : Takes (room + 1) (least + 1) p (t :: ts) o := by
  have hstep : Between p [t] p.advance := .advance hp (by rintro rfl; cases ht)
  cases h with
  | ok between ahead => exact .ok (hstep.trans between) (Nat.succ_le_succ ahead)
  | error between ahead room_le spent =>
    refine .error (hstep.trans between) (fun hdeep => Nat.succ_le_succ (ahead hdeep)) ?_ ?_
    · omega
    · rw [List.countP_cons_of_pos ht]
      omega

/-- A reading behind another one takes some tokens more, or none if the first one fails. -/
theorem Takes.bind {o : Except Failure α} {f : α → Except Failure β} (h : Takes room least p ts o)
    (hf : ∀ a, ∃ us, Takes room 0 (Placed.place a) us (f a)) :
    ∃ us, Takes room least p (ts ++ us) (o.bind f) := by
  cases h with
  | @ok a between ahead =>
    obtain ⟨us, hus⟩ := hf a
    exact ⟨us, hus.after between ahead⟩
  | error between ahead room_le spent =>
    refine ⟨[], ?_⟩
    rw [List.append_nil]
    exact .error between ahead room_le spent

/-! ## Comparing two readers -/

/-- The first reader, with `S` open and room for `room` more, against the second, which has room for
`room + d`.  At most `bound` tokens can be open before the first one is out of room, and `T` are
open behind what both have read.  Where the first one is out of room, the last token that it takes
is the one for which there is none. -/
inductive Compares (k d room bound : Nat) (S T : List Token) (least : Nat) (p : Place) :
    Except Failure α → Except Failure α → Prop
  | ok {ts : List Token} {a : α} (takes : Takes (room + d) least p ts (.ok a))
      (within : Within bound S ts) (opened : ts.foldl nest S = T) :
      Compares k d room bound S T least p (.ok (Placed.shift k a)) (.ok a)
  | error {ts : List Token} {fault : ParseFault} {q : Place} {left : Nat}
      (takes : Takes (room + d) least p ts (.error ⟨fault, q, left + d⟩ : Except Failure α))
      (within : Within bound S ts ∨ d = 0) :
      Compares k d room bound S T least p (.error ⟨fault, q.shift k, left⟩)
        (.error ⟨fault, q, left + d⟩)
  | deep {ts us : List Token} {t : Token} {q : Place} {o : Except Failure α} (more : 0 < d)
      (between : Between p (ts ++ [t]) q) (within : Within bound S ts)
      (full : ((ts ++ [t]).foldl nest S).length = bound + 1)
      (least_le : least ≤ ts.length + 2)
      (takes : Takes (room + d) (ts.length + 2) p (ts ++ t :: us) o) :
      Compares k d room bound S T least p (.error ⟨.tooDeep, q.shift k, 0⟩) o

/-- A reading that takes at least so many tokens takes at least fewer. -/
theorem Takes.mono {o : Except Failure α} (h : Takes room least' p ts o) (hleast : least ≤ least') :
    Takes room least p ts o :=
  h.after (.refl p) (by simpa using hleast)

/-- In a comparison the second reader takes tokens in each case, also where the first one is out of
room. -/
theorem Compares.takes {o o' : Except Failure α} (h : Compares k d room bound S T least p o o') :
    ∃ ts, Takes (room + d) least p ts o' := by
  cases h with
  | ok takes within opened => exact ⟨_, takes⟩
  | error takes within => exact ⟨_, takes⟩
  | deep more between within full least_le takes => exact ⟨_, takes.mono least_le⟩

/-- A comparison from further in front, where what the second reader takes is told from there. -/
theorem Compares.lift {room' : Nat} {o o' : Except Failure α}
    (h : Compares k d room bound T U least' q o o')
    (htakes : ∀ {n : Nat} {us : List Token} {o : Except Failure α},
      Takes (room + d) n q us o → Takes (room' + d) (ts.length + n) p (ts ++ us) o)
    (hp : Between p ts q) (hwithin : Within bound S ts) (hopened : ts.foldl nest S = T)
    (hleast : least ≤ ts.length + least') : Compares k d room' bound S U least p o o' := by
  subst hopened
  cases h with
  | ok takes within opened =>
    refine .ok ((htakes takes).mono hleast) (within_append hwithin within) ?_
    rw [List.foldl_append, opened]
  | error takes within =>
    refine .error ((htakes takes).mono hleast) ?_
    exact within.imp_left (within_append hwithin)
  | @deep us vs t q o more between within full least_le takes =>
    have hbetween : Between p (ts ++ us ++ [t]) q := by
      rw [List.append_assoc]
      exact hp.trans between
    have hfull : ((ts ++ us ++ [t]).foldl nest S).length = bound + 1 := by
      rw [List.append_assoc, List.foldl_append, full]
    have hlength : (ts ++ us).length = ts.length + us.length := List.length_append
    have hall : Takes (room' + d) ((ts ++ us).length + 2) p (ts ++ us ++ t :: vs) o' := by
      rw [List.append_assoc]
      exact (htakes takes).mono (by omega)
    exact .deep more hbetween (within_append hwithin within) hfull (by omega) hall

/-- A comparison behind tokens that both readers have taken, which stay within the bound and leave
open what the comparison begins with. -/
theorem Compares.after {o o' : Except Failure α} (h : Compares k d room bound T U least' q o o')
    (hp : Between p ts q) (hwithin : Within bound S ts) (hopened : ts.foldl nest S = T)
    (hleast : least ≤ ts.length + least') : Compares k d room bound S U least p o o' :=
  h.lift (fun htakes => htakes.after hp (Nat.le_refl _)) hp hwithin hopened hleast

/-- A comparison behind one token that both readers have taken and that costs no room, such as an
operator, a comma or a closing bracket. -/
theorem Compares.next {o o' : Except Failure α}
    (h : Compares k d room bound T U least' p.advance o o') (hp : p.token = t) (ht : t ≠ .eof)
    (hS : S.length ≤ bound) (hT : T.length ≤ bound) (hnest : nest S t = T)
    (hleast : least ≤ least' + 1) : Compares k d room bound S U least p o o' := by
  have hwithin : Within bound S [t] := within_cons.2 ⟨hS, within_nil (by rwa [hnest])⟩
  have hmore : least ≤ [t].length + least' := by rwa [List.length_singleton, Nat.add_comm]
  exact h.after (.advance hp ht) hwithin hnest hmore

/-- A comparison with at least so many tokens taken is one with at least fewer, in all three
cases. -/
theorem Compares.mono {o o' : Except Failure α} (h : Compares k d room bound S T least' p o o')
    (hleast : least ≤ least') : Compares k d room bound S T least p o o' := by
  cases h with
  | ok takes within opened => exact .ok (takes.mono hleast) within opened
  | error takes within => exact .error (takes.mono hleast) within
  | deep more between within full least_le takes =>
    exact .deep more between within full (Nat.le_trans hleast least_le) takes

/-- **A comparison behind an opening token,** for which the first reader has room.  Both readers are
one step of room poorer behind it, and the token is open there. -/
theorem Compares.enter {o o' : Except Failure α}
    (h : Compares k d room bound (t :: S) T least p.advance o o') (hp : p.token = t) (ht : t.opens)
    (hS : S.length < bound) : Compares k d (room + 1) bound S T (least + 1) p o o' := by
  have hstep : Between p [t] p.advance := .advance hp (by rintro rfl; cases ht)
  have hopened : [t].foldl nest S = t :: S := nest_of_opens ht
  have hwithin : Within bound S [t] :=
    within_cons.2 ⟨Nat.le_of_lt hS, within_nil (by rwa [nest_of_opens ht])⟩
  refine h.lift (fun htakes => ?_) hstep hwithin hopened (Nat.le_of_eq (Nat.add_comm _ _))
  have hroom : room + 1 + d = room + d + 1 := by omega
  rw [hroom, List.length_singleton, Nat.add_comm 1]
  exact htakes.enter hp ht

/-- **A reading behind another one.**  Where the first reader has run out of room, the second goes
on and may take more tokens, which changes nothing about the first answer. -/
theorem Compares.bind {o o' : Except Failure α} {f f' : α → Except Failure β}
    (h : Compares k d room bound S T least p o o')
    (hf : ∀ a, Compares k d room bound T U 0 (Placed.place a) (f (Placed.shift k a)) (f' a)) :
    Compares k d room bound S U least p (o.bind f) (o'.bind f') := by
  cases h with
  | @ok ts a takes within opened =>
    cases takes with
    | ok between ahead => exact (hf a).after between within opened ahead
  | error takes within =>
    cases takes with
    | error between ahead room_le spent =>
      exact .error (.error between ahead room_le spent) within
  | deep more between within full least_le takes =>
    obtain ⟨vs, hvs⟩ := takes.bind fun a => (hf a).takes
    rw [List.append_assoc, List.cons_append] at hvs
    exact .deep more between within full least_le hvs

/-- Both have read something and take nothing more.  The first one has it further behind, as its
positions are shifted. -/
theorem Compares.done (hS : S.length ≤ bound) (a : α) :
    Compares k d room bound S S 0 (Placed.place a) (.ok (Placed.shift k a)) (.ok a) :=
  .ok (.ok (.refl _) (Nat.le_refl 0)) (within_nil hS) rfl

/-- Both find a fault where they are.  Only a fault of depth has to take a token before, so no such
token may be asked for here. -/
theorem Compares.fault {fault : ParseFault} (hS : S.length ≤ bound)
    (hfault : fault = .tooDeep → least = 0) (p : Place) :
    Compares (α := α) k d room bound S T least p (.error ⟨fault, p.shift k, room⟩)
      (.error ⟨fault, p, room + d⟩) :=
  .error (.error (.refl p) (fun hdeep => Nat.le_of_eq (hfault hdeep)) (Nat.le_refl _)
    (Nat.le_add_right _ _)) (.inl (within_nil hS))

/-- The check of the height of a tree does not depend on the room, so both readers pass it or both
find the fault. -/
theorem compares_checked (hS : S.length ≤ bound) (e : Expr) (height : Nat) (p : Place) :
    Compares k d room bound S S 0 p (checked room e height (p.shift k))
      (checked (room + d) e height p) := by
  unfold checked
  split
  · exact .fault hS (fun _ => rfl) p
  · exact .done hS (⟨e, height, p⟩ : Reading)

/-! ## Chains and elements -/

section

variable {f g : Place → Outcome}

/-- The two readers of operands are compared with the same tokens open before and behind. -/
def ComparesAt (k d room bound : Nat) (S : List Token) (f g : Place → Outcome) : Prop :=
  ∀ p, Compares k d room bound S S 1 p (f (p.shift k)) (g p)

/-- A chain that meets an operator of its level goes on with the next operand, and with the check of
the tree that has grown by one. -/
theorem chainFrom_operator {level : Level} {op : Operator} {left : Reading}
    (hop : left.place.token = .operator op) (hlevel : op.level = level) (f : Place → Outcome)
    (room count : Nat) :
    chainFrom level f room (count + 1) left =
      (f left.place.advance).bind fun right =>
        (checked room (.binary op left.expr right.expr) (max left.height right.height + 1)
          right.place).bind (chainFrom level f room count) := by
  simp only [chainFrom, hop, if_pos hlevel]
  cases f left.place.advance with
  | error e => rfl
  | ok right =>
    simp only [Except.bind]
    cases checked room _ _ _ <;> rfl

/-- A chain ends at any token that is no operator of its level. -/
theorem chainFrom_other {level : Level} {left : Reading}
    (h : ∀ op, left.place.token = .operator op → op.level ≠ level) (f : Place → Outcome)
    (room count : Nat) : chainFrom level f room count left = .ok left := by
  cases count with
  | zero => rfl
  | succ count =>
    rw [chainFrom]
    split
    · next op hop => rw [if_neg (h op hop)]
    · rfl

/-- **Chains are compared,** by induction on the operators that follow.  Operators open nothing, so
the same tokens are open before each of them. -/
theorem compares_chainFrom (hS : S.length ≤ bound) (hf : ComparesAt k d room bound S f g)
    (level : Level) (count : Nat) (left : Reading) :
    Compares k d room bound S S 0 left.place (chainFrom level f room count (Placed.shift k left))
      (chainFrom level g (room + d) count left) := by
  induction count generalizing left with
  | zero => exact .done hS left
  | succ count ih =>
    by_cases h : ∃ op, left.place.token = .operator op ∧ op.level = level
    · obtain ⟨op, hop, hlevel⟩ := h
      have hmoved : (Placed.shift k left).place.token = .operator op := hop
      rw [chainFrom_operator hop hlevel, chainFrom_operator hmoved hlevel]
      refine Compares.next (Compares.bind (hf left.place.advance) fun right => ?_) hop (by simp)
        hS hS rfl (Nat.zero_le _)
      exact (compares_checked hS (.binary op left.expr right.expr)
        (max left.height right.height + 1) right.place).bind ih
    · have hother : ∀ op, left.place.token = .operator op → op.level ≠ level :=
        fun op hop hlevel => h ⟨op, hop, hlevel⟩
      have hmoved : ∀ op, (Placed.shift k left).place.token = .operator op → op.level ≠ level :=
        hother
      rw [chainFrom_other hother, chainFrom_other hmoved]
      exact .done hS left

/-- A chain is its first operand and what follows, as one reading behind another. -/
theorem chain_eq (level : Level) (f : Place → Outcome) (room : Nat) (p : Place) :
    chain level f room p = (f p).bind (chainFrom level f room p.rest.length) := by
  unfold chain
  cases f p <;> rfl

/-- A chain of operands is compared if the operands are, with the same tokens open around them. -/
theorem compares_chain (hS : S.length ≤ bound) (hf : ComparesAt k d room bound S f g)
    (level : Level) :
    ComparesAt k d room bound S (chain level f room) (chain level g (room + d)) := by
  intro p
  rw [chain_eq, chain_eq]
  exact (hf p).bind (compares_chainFrom hS hf level p.rest.length)

/-- The three levels of chains in an expression, one inside the other: the comparison passes from
operands to relations, from these to conjunctions, and on to disjunctions. -/
theorem compares_either (hS : S.length ≤ bound) (hf : ComparesAt k d room bound S f g) :
    ComparesAt k d room bound S (either f room) (either g (room + d)) :=
  have hrelation := compares_chain hS hf .relation
  have hboth := compares_chain hS hrelation .both
  compares_chain hS hboth .either

/-- Behind a comma an element has to follow, and the elements behind it are read in the same way. -/
theorem elementsFrom_comma (hp : p.token = .comma) (f : Place → Outcome) (count : Nat) :
    elementsFrom f (count + 1) p = (f p.advance).bind fun first =>
      (elementsFrom f count first.place).bind fun more => .ok (.cons first more) := by
  simp only [elementsFrom, hp]
  cases f p.advance with
  | error e => rfl
  | ok first =>
    simp only [Except.bind]
    cases elementsFrom f count first.place <;> rfl

/-- **Elements are compared,** by induction on those that follow.  Where no comma follows, both
readers end with what they have. -/
theorem compares_elementsFrom (hS : S.length ≤ bound) (hf : ComparesAt k d room bound S f g)
    (count : Nat) (p : Place) :
    Compares k d room bound S S 0 p (elementsFrom f count (p.shift k))
      (elementsFrom g count p) := by
  induction count generalizing p with
  | zero => exact .done hS (⟨[], 0, p⟩ : Elements)
  | succ count ih =>
    by_cases hp : p.token = .comma
    · have hmoved : (p.shift k).token = .comma := hp
      rw [elementsFrom_comma hp, elementsFrom_comma hmoved]
      refine Compares.next (Compares.bind (hf p.advance) fun first => ?_) hp (by simp) hS hS rfl
        (Nat.zero_le _)
      exact (ih first.place).bind fun more => .done hS (Elements.cons first more)
    · have hmoved : (p.shift k).token ≠ .comma := hp
      rw [elementsFrom_of_ne_comma hp, elementsFrom_of_ne_comma hmoved]
      exact .done hS (⟨[], 0, p⟩ : Elements)

/-- An array that does not close at once has a first element and elements behind commas. -/
theorem elements_eq (hp : p.token ≠ .closeBracket) (f : Place → Outcome) :
    elements f p = (f p).bind fun first =>
      (elementsFrom f p.rest.length first.place).bind fun more => .ok (.cons first more) := by
  rw [elements]
  split
  · next hclose => exact absurd hclose hp
  · cases f p with
    | error e => rfl
    | ok first =>
      simp only [Except.bind]
      cases elementsFrom f p.rest.length first.place <;> rfl

/-- The elements of an array are compared if its expressions are.  An empty array takes no token,
all others take at least one. -/
theorem compares_elements (hS : S.length ≤ bound) (hf : ComparesAt k d room bound S f g)
    (hleast : least = 0 ∨ least = 1 ∧ p.token ≠ .closeBracket) :
    Compares k d room bound S S least p (elements f (p.shift k)) (elements g p) := by
  by_cases hp : p.token = .closeBracket
  · have hmoved : (p.shift k).token = .closeBracket := hp
    obtain rfl : least = 0 := hleast.resolve_right fun h => h.2 hp
    rw [elements, elements, hp, hmoved]
    exact .done hS (⟨[], 0, p⟩ : Elements)
  · have hmoved : (p.shift k).token ≠ .closeBracket := hp
    rw [elements_eq hp, elements_eq hmoved]
    have hmore : least ≤ 1 := by omega
    refine ((hf p).mono hmore).bind fun first => ?_
    exact (compares_elementsFrom hS hf p.rest.length first.place).bind fun more =>
      .done hS (Elements.cons first more)

end

/-! ## Operands -/

section

variable {negation : Bool}

/-- A token that stands for an operand by itself is not the end, and settles what was open in front
of it. -/
theorem plain_ok {e : Expr} (h : plain t = .ok e) : t ≠ .eof ∧ ∀ S, nest S t = settle S := by
  cases t <;> simp_all [plain, nest]

/-- Operands are compared by the tokens that are open around them.  The bound is what is open and
the room together, so it stays the same when a token is opened. -/
def ComparesInside (k d room : Nat) : Prop :=
  ∀ (negation : Bool) (S : List Token) (p : Place),
    Compares k d room (S.length + room) S (settle S) 1 p (operand room negation (p.shift k))
      (operand (room + d) negation p)

/-- What stands behind an opening token is compared: an operand behind a negation, an expression in
parentheses, elements in brackets. -/
theorem compares_content (h : ComparesInside k d room) (ht : t.opens)
    (hleast : least = 0 ∨ least = 1 ∧ (t = .openBracket → p.token ≠ .closeBracket))
    (S : List Token) :
    Compares k d room ((t :: S).length + room) (t :: S) (settle (t :: S)) least p
      (content room t (p.shift k)) (content (room + d) t p) := by
  have hroom : (t :: S).length ≤ (t :: S).length + room := Nat.le_add_right _ _
  have hone : least ≤ 1 := by omega
  have hoperand (negation : Bool) (hsettle : settle (t :: S) = t :: S) :
      ComparesAt k d room ((t :: S).length + room) (t :: S) (operand room negation)
        (operand (room + d) negation) := by
    intro q
    have hq := h negation (t :: S) q
    rwa [hsettle] at hq
  rcases Token.opens_iff.1 ht with rfl | rfl | rfl
  · exact (h true (.not :: S) p).mono hone
  · have hsettle : settle (.openParen :: S) = .openParen :: S := settle_cons_of_ne (by simp)
    rw [hsettle]
    exact (compares_either hroom (hoperand true hsettle) p).mono hone
  · have hsettle : settle (.openBracket :: S) = .openBracket :: S := settle_cons_of_ne (by simp)
    rw [hsettle]
    have helements := compares_elements hroom (hoperand false hsettle)
      (hleast.imp_right fun h => ⟨h.1, h.2 rfl⟩)
    exact helements.bind fun es => .done hroom (⟨.array es.items, es.height, es.place⟩ : Reading)

/-- What closes an opening token is the same for both readers, and they get back the step of room
that it took. -/
theorem compares_close (ht : t.opens) (hS : S.length < bound) (r : Reading) :
    Compares k d room bound (settle (t :: S)) (settle S) 0 r.place
      (close room t (Placed.shift k r)) (close (room + d) t r) := by
  have hsettled : (settle S).length ≤ bound := Nat.le_trans (length_settle_le S) (Nat.le_of_lt hS)
  rcases Token.opens_iff.1 ht with rfl | rfl | rfl
  · rw [settle_not_cons]
    exact compares_checked hsettled (.not r.expr) (r.height + 1) r.place
  · have hopened : (.openParen :: S : List Token).length ≤ bound := hS
    rw [settle_cons_of_ne (by simp), close_openParen, close_openParen]
    by_cases hclose : r.place.token = .closeParen
    · have hmoved : (Placed.shift k r).place.token = .closeParen := hclose
      rw [if_pos hclose, if_pos hmoved]
      have hend : Compares k d room bound (settle S) (settle S) 0 _ _ _ :=
        .done hsettled (⟨r.expr, r.height, r.place.advance⟩ : Reading)
      exact hend.next hclose (by simp) hopened hsettled rfl (Nat.zero_le _)
    · have hmoved : (Placed.shift k r).place.token ≠ .closeParen := hclose
      rw [if_neg hclose, if_neg hmoved]
      exact .fault hopened (fun _ => rfl) r.place
  · have hopened : (.openBracket :: S : List Token).length ≤ bound := hS
    rw [settle_cons_of_ne (by simp), close_openBracket, close_openBracket]
    by_cases hclose : r.place.token = .closeBracket
    · have hmoved : (Placed.shift k r).place.token = .closeBracket := hclose
      rw [if_pos hclose, if_pos hmoved]
      have hend : Compares k d room bound (settle S) (settle S) 0 _ _ _ :=
        compares_checked hsettled r.expr (r.height + 1) r.place.advance
      exact hend.next hclose (by simp) hopened hsettled rfl (Nat.zero_le _)
    · have hmoved : (Placed.shift k r).place.token ≠ .closeBracket := hclose
      rw [if_neg hclose, if_neg hmoved]
      exact .fault hopened (fun _ => rfl) r.place

/-- A reader with room for an opening token takes more than that token, or finds a fault other than
depth. -/
theorem takes_opening (hinside : ComparesInside 0 0 room) (h : Opening negation p.token) :
    ∃ us, Takes (room + 1) 2 p (p.token :: us) (operand (room + 1) negation p) := by
  rw [operand_succ h]
  by_cases hempty : p.token = .openBracket ∧ p.advance.token = .closeBracket
  · obtain ⟨hp, hclose⟩ := hempty
    have hread : (content room p.token p.advance).bind (close (room + 1) p.token) =
        .ok ⟨.array [], 1, p.advance.advance⟩ := by
      rw [hp]
      show ((elements (operand room false) p.advance).bind _).bind
        (close (room + 1) .openBracket) = _
      rw [elements, hclose]
      show close (room + 1) .openBracket ⟨.array [], 0, p.advance⟩ = _
      simp only [close, hclose]
      exact checked_of_le (by decide) _ _
    rw [hread]
    have hbetween := (Between.advance hp (by simp)).trans (.advance hclose (by simp))
    exact ⟨[.closeBracket], by rw [hp]; exact .ok hbetween (Nat.le_refl 2)⟩
  · have hfull : p.token = .openBracket → p.advance.token ≠ .closeBracket :=
      fun hp hclose => hempty ⟨hp, hclose⟩
    obtain ⟨us, hus⟩ := (compares_content hinside h.1 (.inr ⟨rfl, hfull⟩) []).takes
    have hclose (r : Reading) :
        ∃ vs, Takes (room + 1) 0 r.place vs (close (room + 1) p.token r) := by
      have hend : Compares 0 0 (room + 1) 1 (settle [p.token]) (settle []) 0 r.place _ _ :=
        compares_close h.1 Nat.zero_lt_one r
      exact hend.takes
    obtain ⟨vs, hvs⟩ := (hus.enter rfl h.1).bind hclose
    exact ⟨us ++ vs, hvs⟩

/-- Without room in the first reader, an opening token is where it ends.  The second reader takes
the token, and what it reads behind it is not compared any more. -/
theorem compares_opening_zero (hmore : ∀ d', d = d' + 1 → ComparesInside 0 0 d')
    (h : Opening negation p.token) (S : List Token) :
    Compares k d 0 (S.length + 0) S (settle S) 1 p (operand 0 negation (p.shift k))
      (operand (0 + d) negation p) := by
  have hmoved : Opening negation (p.shift k).token := h
  have hstep : Between p [p.token] p.advance :=
    .advance rfl fun heof => by rw [heof] at h; cases h.1
  rw [operand_zero hmoved]
  cases d with
  | zero =>
    rw [Nat.zero_add, operand_zero h]
    refine .error (.error hstep (fun _ => Nat.le_refl 1) (Nat.zero_le _) ?_) (.inr rfl)
    exact Nat.zero_le _
  | succ d =>
    obtain ⟨us, hus⟩ := takes_opening (hmore d rfl) h
    have hfull : ([p.token].foldl nest S).length = S.length + 0 + 1 := by
      rw [List.foldl_cons, List.foldl_nil, nest_of_opens h.1, List.length_cons, Nat.add_zero]
    rw [← Nat.zero_add (d + 1)] at hus
    exact .deep (Nat.zero_lt_succ d) hstep (within_nil (Nat.le_refl _)) hfull (Nat.le_succ 1) hus

/-- With room in both readers, an opening token is taken by both, what stands behind it is compared,
and then how it is closed. -/
theorem compares_opening_succ (hinside : ComparesInside k d room) (h : Opening negation p.token)
    (S : List Token) :
    Compares k d (room + 1) (S.length + (room + 1)) S (settle S) 1 p
      (operand (room + 1) negation (p.shift k)) (operand (room + 1 + d) negation p) := by
  have hmoved : Opening negation (p.shift k).token := h
  have hroom : room + 1 + d = room + d + 1 := by omega
  have hbound : S.length + (room + 1) = (p.token :: S).length + room := by
    rw [List.length_cons]
    omega
  have hlt : S.length < (p.token :: S).length + room := by omega
  rw [hroom, operand_succ h, operand_succ hmoved, ← hroom, hbound]
  have hcontent := compares_content (p := p.advance) hinside h.1 (.inl rfl) S
  exact (hcontent.enter rfl h.1 hlt).bind (compares_close h.1 hlt)

/-- A token that is an operand by itself, or none, is one for both readers. -/
theorem compares_plain (h : ¬Opening negation p.token) (S : List Token) :
    Compares k d room (S.length + room) S (settle S) 1 p (operand room negation (p.shift k))
      (operand (room + d) negation p) := by
  have hmoved : ¬Opening negation (p.shift k).token := h
  have htoken : (p.shift k).token = p.token := rfl
  have hS : S.length ≤ S.length + room := Nat.le_add_right _ _
  rw [operand_plain h, operand_plain hmoved, htoken]
  cases hplain : plain p.token with
  | ok e =>
    obtain ⟨heof, hnest⟩ := plain_ok hplain
    have hsettled : (settle S).length ≤ S.length + room := Nat.le_trans (length_settle_le S) hS
    have hend : Compares k d room (S.length + room) (settle S) (settle S) 0 _ _ _ :=
      .done hsettled (⟨e, 1, p.advance⟩ : Reading)
    exact hend.next rfl heof hS hsettled (hnest S) (Nat.le_refl 1)
  | error fault => exact .fault hS (fun hdeep => absurd hdeep (plain_error hplain)) p

/-- **Operands are compared** if those that they hold are.  The cases are those of the reader: a
token that stands for itself, one that opens something, and a fault. -/
theorem compares_operand_step (hinside : ∀ room', room = room' + 1 → ComparesInside k d room')
    (hmore : ∀ d', d = d' + 1 → ComparesInside 0 0 d') : ComparesInside k d room := by
  intro negation S p
  by_cases h : Opening negation p.token
  · cases room with
    | zero => exact compares_opening_zero hmore h S
    | succ room => exact compares_opening_succ (hinside room rfl) h S
  · exact compares_plain h S

end

/-- Operands are compared, by induction on the room of the first reader.  Where it has none, only
what the second reader takes has to be known. -/
theorem comparesInside_of (hmore : ∀ d', d = d' + 1 → ComparesInside 0 0 d') (room : Nat) :
    ComparesInside k d room := by
  induction room with
  | zero =>
    exact compares_operand_step (fun room' h => absurd h (Nat.succ_ne_zero room').symm) hmore
  | succ room ih =>
    refine compares_operand_step (fun room' h => ?_) hmore
    obtain rfl : room = room' := Nat.succ.inj h
    exact ih

/-- **Operands are compared.**  What the second reader does with an opening token for which there is
no room in the first one is told by comparing it with itself. -/
theorem comparesInside (k d room : Nat) : ComparesInside k d room := by
  have hself (room : Nat) : ComparesInside 0 0 room :=
    comparesInside_of (fun d' h => absurd h (Nat.succ_ne_zero d').symm) room
  exact comparesInside_of (fun d' _ => hself d') room

/-! ## Whole expressions -/

/-- What becomes of a reading that has to stand at the end: it is the answer there, and the next
token is a fault anywhere else. -/
def atEnd (room : Nat) (r : Reading) : Outcome :=
  match r.place.token with
  | .eof => .ok r
  | t => .error ⟨.unexpected t, r.place, room⟩

/-- A whole expression is its reading and the check that nothing follows, as one reading behind
another. -/
theorem expression_eq (room : Nat) (p : Place) :
    expression room p = (either (operand room true) room p).bind (atEnd room) := by
  unfold expression
  cases either (operand room true) room p <;> rfl

/-- **Readings of whole expressions are compared,** from any place and with any two rooms.  This is
what a parser with less room is told by. -/
theorem compares_expression (k d room : Nat) (p : Place) :
    Compares k d room room [] [] 1 p (expression room (p.shift k)) (expression (room + d) p) := by
  have hroom : ([] : List Token).length ≤ room := Nat.zero_le room
  have hoperand : ComparesAt k d room room [] (operand room true) (operand (room + d) true) := by
    intro q
    have hq := comparesInside k d room true [] q
    rwa [List.length_nil, Nat.zero_add] at hq
  rw [expression_eq, expression_eq]
  refine (compares_either hroom hoperand p).bind fun r => ?_
  unfold atEnd
  show Compares k d room room [] [] 0 r.place
    (match r.place.token with | .eof => _ | t => .error ⟨.unexpected t, r.place.shift k, room⟩) _
  split
  · exact .done hroom r
  · exact .fault hroom (fun _ => rfl) r.place

end When
end CommitForm
