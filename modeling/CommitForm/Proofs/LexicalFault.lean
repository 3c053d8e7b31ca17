/-
# What stands before a lexical fault

A source that cannot be cut into lexemes is cut up to a character where no lexeme begins.  The fault
has the place of this character, whatever has been read behind it:

| fault | the character |
| --- | --- |
| an unexpected character | itself |
| `=`, `&`, `\|` without its partner | the `=`, `&`, `\|` |
| an open string, an open pattern | the opening quote, the opening slash |

Without what follows, the text before it has the same lexemes: where a lexeme ends depends on the
next character only, and a lexeme that ends before this character may also end there for good
(`Fits.of_prefix`).  So the tokens that have been read before the fault (`Cursor.Run`) are those of
the text before it (`tokenize_before_fault`).
-/

import CommitForm.Proofs.Lexer

namespace CommitForm
namespace When

/-! ## Tokens before a fault -/

/-- Tokens are read one after another from one place to another, and none is the end. -/
inductive Cursor.Run : Cursor → List Token → Cursor → Prop where
  | done {c : Cursor} : Run c [] c
  | step {c c' d : Cursor} {t : Token} {ts : List Token} (h : c.next = (.ok t, c')) (ht : t ≠ .eof)
      (hr : Run c' ts d) : Run c (t :: ts) d

/-- Tokens are read from a place on, and the next reading is a fault. -/
def Cursor.FailsAfter (c : Cursor) (ts : List Token) (e : LexError) : Prop :=
  ∃ d, c.Run ts d ∧ d.next.1 = .error e

/-- Where the lexer answers a fault, this is what reading all tokens comes to. -/
theorem Cursor.tokens_of_next_error {c : Cursor} {e : LexError} (h : c.next.1 = .error e) :
    c.tokens = .error e := by
  rw [Cursor.tokens]
  split
  · next hread =>
    rw [hread] at h
    rw [Except.error.inj h]
  · next hread =>
    rw [hread] at h
    cases h

/-- **The fault of a source** is the first one that is met reading token after token. -/
theorem Cursor.tokens_eq_error_iff {c : Cursor} {e : LexError} :
    c.tokens = .error e ↔ ∃ ts, c.FailsAfter ts e := by
  constructor
  · intro h
    fun_induction Cursor.tokens c with
    | case1 c e' c' hread =>
      obtain rfl : e' = e := Except.error.inj h
      exact ⟨[], c, .done, by rw [hread]⟩
    | case2 => cases h
    | case3 c t c' hread hne ih =>
      cases hrest : c'.tokens with
      | ok us =>
        rw [hrest] at h
        cases h
      | error e' =>
        rw [hrest] at h
        obtain rfl : e' = e := Except.error.inj h
        obtain ⟨ts, d, hrun, hfault⟩ := ih hrest
        exact ⟨t :: ts, d, .step hread hne hrun, hfault⟩
  · rintro ⟨ts, d, hrun, hfault⟩
    induction hrun with
    | done => exact Cursor.tokens_of_next_error hfault
    | step hread hne _ ih =>
      rw [Cursor.tokens_of_ne_eof hread hne, ih hfault]
      rfl

/-- Reading has one course, so the tokens before a fault are determined by the text. -/
theorem Cursor.FailsAfter.unique {c : Cursor} {ts us : List Token} {e e' : LexError}
    (h : c.FailsAfter ts e) (h' : c.FailsAfter us e') : us = ts := by
  obtain ⟨d, hrun, hfault⟩ := h
  obtain ⟨d', hrun', hfault'⟩ := h'
  induction hrun generalizing us with
  | done =>
    cases hrun' with
    | done => rfl
    | step hread =>
      rw [hread] at hfault
      cases hfault
  | step hread _ _ ih =>
    cases hrun' with
    | done =>
      rw [hread] at hfault'
      cases hfault'
    | step hread' _ hrun' =>
      rw [hread] at hread'
      obtain ⟨ht, rfl⟩ := Prod.mk.inj hread'
      rw [Except.ok.inj ht, ih hfault hrun']

/-! ## The text before a fault -/

/-- A lexeme that may end before a text may end before less of it. -/
theorem Fits.of_prefix {previous : Option Char} {l rest rest' : List Char} {t : Token}
    (h : Fits previous l t rest) (hrest : rest' <+: rest) : Fits previous l t rest' where
  spells := h.spells
  ends := fun c hc => h.ends c (by
    obtain ⟨more, rfl⟩ := hrest
    rw [List.head?_append, hc]
    rfl)
  slash := h.slash

/-- **What has been read is cut in the same way** if nothing but some of the blanks behind it is
left. -/
theorem Cursor.Run.cut {c d : Cursor} {ts : List Token} (h : c.Run ts d) :
    ∃ read, c.after = read ++ d.after ∧ d.before.reverse = c.before.reverse ++ read ∧
      ∀ w, (∀ x ∈ w, Text.isBlank x = true) → w <+: d.after →
        Cut c.before.reverse (read ++ w) ts := by
  induction h with
  | done => exact ⟨[], rfl, (List.append_nil _).symm, fun w hw _ => .blanks hw⟩
  | @step c c' d t ts hread hne _ ih =>
    obtain ⟨read, hafter, hbefore, hcut⟩ := ih
    obtain ⟨heof, -⟩ | ⟨v, l, hv, hafter', hbefore', hl⟩ := c.next_sound hread
    · exact absurd heof hne
    · -- Less follows the lexeme than in the source, and it still ends there.
      refine ⟨v ++ l ++ read, by simp [hafter', hafter], ?_, fun w hw hwd => ?_⟩
      · rw [hbefore, hbefore']
        simp
      · have hprefix : read ++ w <+: c'.after := by
          rw [hafter]
          exact (List.prefix_append_right_inj read).2 hwd
        have hrest := hcut w hw hwd
        rw [hbefore'] at hrest
        rw [List.append_assoc (v ++ l)]
        exact .lexeme hv (hl.of_prefix hprefix) hrest

/-- A fault has the place of the character behind the blanks, and no lexeme begins there. -/
theorem Cursor.next_eq_error {c : Cursor} {e : LexError} (h : c.next.1 = .error e) :
    ∃ x rest, c.skipBlanks.after = x :: rest ∧ Text.isBlank x = false ∧
      e.position = c.skipBlanks.offset ∧
      ∀ l t more, x :: rest = l ++ more → ¬ Fits c.skipBlanks.before.head? l t more := by
  unfold Cursor.next at h
  dsimp only at h
  split at h
  · cases h
  · next x rest hafter =>
    have hblank : Text.isBlank x = false :=
      eq_false_of_head?_dropWhile (congrArg List.head? hafter)
    have hplace : e.position = c.skipBlanks.offset ∧
        ∀ l t, lexeme? c.skipBlanks.before.head? x rest = some l → l.outcome ≠ .ok t := by
      split at h
      · next hnone =>
        refine ⟨by rw [← Except.error.inj h], fun l t hl => ?_⟩
        rw [hnone] at hl
        cases hl
      · next l hl =>
        cases hfault : l.outcome with
        | ok t =>
          rw [hfault] at h
          cases h
        | error fault =>
          rw [hfault] at h
          refine ⟨by rw [← Except.error.inj h], fun l' t hl' => ?_⟩
          rw [hl] at hl'
          rw [← Option.some.inj hl', hfault]
          simp
    refine ⟨x, rest, hafter, hblank, hplace.1, fun l t more hcut hfits => ?_⟩
    obtain ⟨y, ys, rfl, -, hread⟩ := lexeme?_complete hfits
    obtain ⟨rfl, rfl⟩ := List.cons.inj hcut
    exact hplace.2 _ t hread rfl

/-- **A lexical fault points at the start of the offending lexeme, and everything before it is
good.**  The position of a fault is that of a character of the source that is not blank and where no
lexeme begins.  The text before it, by itself, has exactly the tokens that have been read when the
fault is met. -/
theorem tokenize_before_fault {source : String} {e : LexError} (h : tokenize source = .error e) :
    ∃ before c after ts, source = before ++ String.singleton c ++ after ∧
      before.utf8ByteSize = e.position ∧ Text.isBlank c = false ∧
      (∀ l t rest, c :: after.toList = l ++ rest → ¬ Fits before.toList.getLast? l t rest) ∧
      (∀ us, (Cursor.start source.toList).FailsAfter us e ↔ us = ts) ∧
      tokenize before = .ok (ts ++ [.eof]) := by
  obtain ⟨ts, hfails⟩ := Cursor.tokens_eq_error_iff.1 h
  obtain ⟨d, hrun, hfault⟩ := hfails
  obtain ⟨read, hafter, hbefore, hcut⟩ := hrun.cut
  obtain ⟨c, rest, hrest, hblank, hposition, hno⟩ := Cursor.next_eq_error hfault
  -- The text before the fault is what has been read and the blanks behind it.
  have hblanks : ∀ x ∈ d.after.takeWhile Text.isBlank, Text.isBlank x = true :=
    fun _ => List.mem_takeWhile_imp
  have hbegin : d.skipBlanks.before = (read ++ d.after.takeWhile Text.isBlank).reverse := by
    have hread : d.before = read.reverse := by
      simpa [Cursor.start] using congrArg List.reverse hbefore
    simp [Cursor.skipBlanks, Cursor.past, hread]
  have hsplit : d.after.takeWhile Text.isBlank ++ c :: rest = d.after := by
    rw [← hrest]
    exact List.takeWhile_append_dropWhile
  refine ⟨.ofList (read ++ d.after.takeWhile Text.isBlank), c, .ofList rest, ts, ?_, ?_, hblank, ?_,
    fun us => ⟨fun hus => Cursor.FailsAfter.unique ⟨d, hrun, hfault⟩ hus, ?_⟩, ?_⟩
  · rw [← String.toList_inj]
    have hsource : source.toList = read ++ (d.after.takeWhile Text.isBlank ++ c :: rest) := by
      rw [hsplit]
      exact hafter
    simp [hsource]
  · rw [← Text.byteLength_toList, String.toList_ofList, hposition, Cursor.offset, hbegin,
      Text.byteLength_reverse]
  · rw [String.toList_ofList, String.toList_ofList, ← List.head?_reverse, ← hbegin]
    exact hno
  · rintro rfl
    exact ⟨d, hrun, hfault⟩
  · have hcut' := hcut _ hblanks (List.takeWhile_prefix _)
    unfold tokenize Cursor.start
    rw [String.toList_ofList]
    exact Cursor.tokens_complete hcut'

/-- An open string behind a string and a blank that are longer in bytes than in characters. -/
theorem tokenize_before_openString :
    tokenize "'ä'\u00A0'x" = .error ⟨.openString, 6⟩ ∧
    ∃ before c after ts, "'ä'\u00A0'x" = before ++ String.singleton c ++ after ∧
      before.utf8ByteSize = 6 ∧ Text.isBlank c = false ∧
      (∀ l t rest, c :: after.toList = l ++ rest → ¬ Fits before.toList.getLast? l t rest) ∧
      (∀ us, (Cursor.start "'ä'\u00A0'x".toList).FailsAfter us ⟨.openString, 6⟩ ↔ us = ts) ∧
      tokenize before = .ok (ts ++ [.eof]) :=
  have h : tokenize "'ä'\u00A0'x" = .error ⟨.openString, 6⟩ := by decide +kernel
  ⟨h, tokenize_before_fault h⟩

end When
end CommitForm
