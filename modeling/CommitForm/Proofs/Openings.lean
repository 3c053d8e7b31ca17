/-
# Operands by their first token

| first token | the operand |
| --- | --- |
| `!`, `(` or `[` | what is read behind it (`content`), as its token has it end (`close`) |
| any other | what the token is by itself (`plain`) |

`operand` has an equation for each row and one for an opening token without room.  What holds of
operands is proved along these, and not along the text of the reader.
-/

import CommitForm.When.Parser

namespace CommitForm
namespace When

/-- Where two steps go well, the first has a result and the second goes well with it. -/
theorem bind_eq_ok {ε α β : Type} {r : Except ε α} {k : α → Except ε β} {b : β}
    (h : r.bind k = .ok b) : ∃ a, r = .ok a ∧ k a = .ok b := by
  cases r with
  | error g => cases h
  | ok a => exact ⟨a, rfl, h⟩

/-- Where two steps fail, the first does, or the second does with the result of the first. -/
theorem bind_eq_error {ε α β : Type} {r : Except ε α} {k : α → Except ε β} {f : ε}
    (h : r.bind k = .error f) : r = .error f ∨ ∃ a, r = .ok a ∧ k a = .error f := by
  cases r with
  | error g =>
    obtain rfl := Except.error.inj h
    exact .inl rfl
  | ok a => exact .inr ⟨a, rfl, h⟩

/-- The tokens that take room: a sign of negation, a parenthesis and a bracket. -/
def Token.opens : Token → Bool
  | .not | .openParen | .openBracket => true
  | _ => false

/-- What is read behind an opening token: an operand, a sentence, or the elements of an array. -/
def content (room : Nat) (opening : Token) (p : Place) : Outcome :=
  match opening with
  | .openParen => either (operand room true) room p
  | .openBracket =>
    (elements (operand room false) p).bind fun es => .ok ⟨.array es.items, es.height, es.place⟩
  | _ => operand room true p

/-- What becomes of it where its opening token ends: a closing token is asked for, and what makes a
node is checked for its height. -/
def close (room : Nat) (opening : Token) (r : Reading) : Outcome :=
  match opening with
  | .openParen =>
    match r.place.token with
    | .closeParen => .ok ⟨r.expr, r.height, r.place.advance⟩
    | _ => .error ⟨.unclosedParen, r.place, room⟩
  | .openBracket =>
    match r.place.token with
    | .closeBracket => checked room r.expr (r.height + 1) r.place.advance
    | _ => .error ⟨.unclosedBracket, r.place, room⟩
  | _ => checked room (.not r.expr) (r.height + 1) r.place

/-- An operand may begin with an opening token, which has to be no negation behind a bracket. -/
def Opening (negation : Bool) (t : Token) : Prop := t.opens ∧ (t = .not → negation = true)

section

variable {negation : Bool} {room : Nat} {p : Place} {t : Token}

/-- Three tokens open something, which is the case split that lemmas about them make. -/
theorem Token.opens_iff : t.opens ↔ t = .not ∨ t = .openParen ∨ t = .openBracket := by
  cases t <;> simp [Token.opens]

/-- A sign ends with its operand and makes a node that is one higher. -/
theorem close_not (room : Nat) (r : Reading) :
    close room .not r = checked room (.not r.expr) (r.height + 1) r.place := rfl

/-- A parenthesis ends with a closing one and makes no node; without it the fault is found where it
should stand. -/
theorem close_openParen (room : Nat) (r : Reading) :
    close room .openParen r =
      if r.place.token = .closeParen then .ok ⟨r.expr, r.height, r.place.advance⟩
      else .error ⟨.unclosedParen, r.place, room⟩ := by
  rw [close]
  split
  · next hclose => rw [if_pos hclose]
  · next hother => rw [if_neg hother]

/-- A bracket ends with a closing one and makes an array that is one higher; without it the fault is
found where it should stand. -/
theorem close_openBracket (room : Nat) (r : Reading) :
    close room .openBracket r =
      if r.place.token = .closeBracket then checked room r.expr (r.height + 1) r.place.advance
      else .error ⟨.unclosedBracket, r.place, room⟩ := by
  rw [close]
  split
  · next hclose => rw [if_pos hclose]
  · next hother => rw [if_neg hother]

/-- What is read between brackets are elements, put together as an array whose height is not checked
yet. -/
theorem content_openBracket_eq_ok {r : Reading} (h : content room .openBracket p = .ok r) :
    ∃ es, elements (operand room false) p = .ok es ∧
      r = ⟨.array es.items, es.height, es.place⟩ := by
  obtain ⟨es, hes, hr⟩ := bind_eq_ok h
  exact ⟨es, hes, (Except.ok.inj hr).symm⟩

/-- A fault between brackets is a fault of the elements. -/
theorem content_openBracket_eq_error {e : Failure} (h : content room .openBracket p = .error e) :
    elements (operand room false) p = .error e := by
  rcases bind_eq_error h with hes | ⟨es, -, hr⟩
  · exact hes
  · cases hr

/-- Without room an opening token is one too many, and the fault stands behind it. -/
theorem operand_zero (h : Opening negation p.token) :
    operand 0 negation p = .error ⟨.tooDeep, p.advance, 0⟩ := by
  obtain ⟨hopens, hnot⟩ := h
  unfold operand
  rcases Token.opens_iff.1 hopens with hp | hp | hp
  · simp [hp, hnot hp]
  · simp [hp]
  · simp [hp]

/-- With room an operand that begins with an opening token is what stands inside and then its
end. -/
theorem operand_succ (h : Opening negation p.token) (room : Nat) :
    operand (room + 1) negation p =
      (content room p.token p.advance).bind (close (room + 1) p.token) := by
  obtain ⟨hopens, hnot⟩ := h
  rw [operand]
  rcases Token.opens_iff.1 hopens with hp | hp | hp
  · simp only [hp, hnot hp, content, if_true]
    cases operand room true p.advance <;> rfl
  · simp only [hp, content]
    cases either (operand room true) room p.advance <;> rfl
  · simp only [hp, content]
    cases elements (operand room false) p.advance <;> rfl

/-- What a token is as an operand of its own, or the fault that it is none. -/
def plain : Token → Except ParseFault Expr
  | .number n => .ok (.number n)
  | .string s => .ok (.string s)
  | .identifier name => .ok (.identifier name)
  | .pattern literal =>
    match splitPattern? literal with
    | some (body, flags) => .ok (.pattern body flags)
    | none => .error (.badPattern literal)
  | .eof => .error .endOfExpression
  | t => .error (.unexpected t)

/-- A token that is no operand is never a matter of depth, so such a fault does not depend on the
room. -/
theorem plain_error {fault : ParseFault} (h : plain t = .error fault) : fault ≠ .tooDeep := by
  rintro rfl
  cases t <;> simp [plain] at h
  split at h <;> simp at h

/-- Other operands do not depend on the room, and take the one token that they are. -/
theorem operand_plain (h : ¬Opening negation p.token) (room : Nat) :
    operand room negation p =
      match plain p.token with
      | .ok e => .ok ⟨e, 1, p.advance⟩
      | .error fault => .error ⟨fault, p, room⟩ := by
  unfold operand
  cases hp : p.token <;> rw [hp] at h
  case not =>
    have hnot : negation = false := by simpa [Opening, Token.opens] using h
    rw [hnot]
    rfl
  case openParen | openBracket => exact absurd ⟨rfl, by simp⟩ h
  case pattern literal =>
    simp only [plain]
    cases splitPattern? literal <;> rfl
  all_goals rfl

end

end When
end CommitForm
