/-
# Asking the lexer again

A lexer goes on behind its last answer, whatever that was.

| answer | consumed |
| --- | --- |
| the end | the blanks that are left |
| an unexpected character | the blanks before the character |
| a token or another fault | blanks and a lexeme, which begins with a character that is no blank |

What has been consumed is remembered, so the look behind a slash sees the character before it
(`Cursor.Calls.source_eq`).  The first two answers change nothing more (`Cursor.next_of_isLast`),
and any other takes a character, so that one of the two is given after no more calls than the source
has characters (`Cursor.isLast_answer`).  The tokens of a source are the answers up to the first
that is the end or a fault (`Cursor.exists_tokens`).
-/

import CommitForm.Proofs.Lexer

namespace CommitForm
namespace When

/-! ## Lexemes that are read -/

/-- A lexeme at the character `c` before the text `rest`: it begins with the character, loses
nothing of the text, and is neither the end nor an unexpected character. -/
structure Lexeme.Covers (l : Lexeme) (c : Char) (rest : List Char) : Prop where
  text : ∃ more, l.text = c :: more ∧ rest = more ++ l.rest
  ne_eof : l.outcome ≠ .ok .eof
  ne_unexpected : ∀ d, l.outcome ≠ .error (.unexpected d)

/-- What stands between delimiters is covered if what is made of it is.  Without the second
delimiter everything that is left is taken as a fault. -/
theorem covers_delimited {q : Char} {fault : LexFault} {close : List Char → List Char → Lexeme}
    (hfault : ∀ d, fault ≠ .unexpected d)
    (hclose : ∀ body rest, (close body rest).Covers q (body ++ q :: rest)) (rest : List Char) :
    (delimited q fault close rest).Covers q rest := by
  unfold delimited
  split
  · exact
      ⟨⟨rest, rfl, (List.append_nil rest).symm⟩, by simp, fun d h => hfault d (by simpa using h)⟩
  · next body more hsplit =>
    rw [(splitUnescaped?_sound hsplit).2]
    exact hclose body more

/-- A string covers its quotes and what stands between them. -/
theorem covers_stringLexeme (q : Char) (rest : List Char) : (stringLexeme q rest).Covers q rest :=
  covers_delimited (by simp) (fun body _ => ⟨⟨body ++ [q], rfl, by simp⟩, by simp, by simp⟩) rest

/-- A pattern covers its slashes, what stands between them, and the flags behind. -/
theorem covers_patternLexeme (rest : List Char) : (patternLexeme rest).Covers '/' rest :=
  covers_delimited (by simp)
    (fun body more => ⟨⟨body ++ '/' :: more.takeWhile isFlag, rfl, by simp⟩, by simp, by simp⟩) rest

/-- An operator of one or of two characters covers them.  A lone `&` or `|` is a fault, but not an
unexpected character. -/
theorem covers_oneOrTwo {a b : Char} {long : Token} {short : Except LexFault Token}
    (hlong : long ≠ .eof) (heof : short ≠ .ok .eof) (hfault : ∀ d, short ≠ .error (.unexpected d))
    (rest : List Char) : (oneOrTwo a b long short rest).Covers a rest := by
  cases rest with
  | nil => exact ⟨⟨[], rfl, rfl⟩, heof, hfault⟩
  | cons c cs =>
    rw [oneOrTwo]
    split
    · next hc => exact ⟨⟨[b], rfl, by rw [hc]; rfl⟩, by simpa using hlong, by simp⟩
    · exact ⟨⟨[], rfl, rfl⟩, heof, hfault⟩

/-- The operators that begin with an equals sign cover their characters, as does the sign alone,
which is a fault. -/
theorem covers_equalsLexeme (rest : List Char) : (equalsLexeme rest).Covers '=' rest := by
  unfold equalsLexeme
  split
  · exact ⟨⟨['='], rfl, rfl⟩, by simp, by simp⟩
  · exact ⟨⟨['~'], rfl, rfl⟩, by simp, by simp⟩
  · exact ⟨⟨[], rfl, rfl⟩, by simp, by simp⟩

/-- No word stands for the end: it is a name or the operator that is written as a word. -/
theorem wordToken_ne_eof (word : List Char) : wordToken word ≠ .eof := by
  rw [wordToken]
  split <;> simp

/-- **Whatever is read begins with the character at hand,** faults included.  This is why any answer
but the last ones takes a character from the source. -/
theorem covers_lexeme? {previous : Option Char} {c : Char} {rest : List Char} {l : Lexeme}
    (h : lexeme? previous c rest = some l) : l.Covers c rest := by
  unfold lexeme? at h
  dsimp only at h
  split at h
  case h_1 =>
    split at h
    · cases h
    · obtain rfl := Option.some.inj h
      exact covers_patternLexeme rest
  case h_15 =>
    split at h
    · obtain rfl := Option.some.inj h
      exact ⟨⟨_, rfl, List.takeWhile_append_dropWhile.symm⟩, by simp, by simp⟩
    · split at h
      · obtain rfl := Option.some.inj h
        refine ⟨⟨_, rfl, List.takeWhile_append_dropWhile.symm⟩, ?_, by simp⟩
        exact fun heof => wordToken_ne_eof _ (Except.ok.inj heof)
      · cases h
  all_goals
    obtain rfl := Option.some.inj h
    first
      | exact covers_stringLexeme _ rest
      | exact covers_equalsLexeme rest
      | exact covers_oneOrTwo (by simp) (by simp) (by simp) rest
      | exact ⟨⟨[], rfl, rfl⟩, by simp, by simp⟩

/-! ## One call -/

/-- The answers behind which nothing changes: the end and an unexpected character.  After any other
fault the lexer goes on behind the text that was at fault. -/
def IsLast (answer : Except LexError Token) : Prop :=
  answer = .ok .eof ∨ ∃ c position, answer = .error ⟨.unexpected c, position⟩

/-- A lexeme that covers its text is never answered as the end or as an unexpected character. -/
theorem Lexeme.Covers.not_isLast {l : Lexeme} {c : Char} {rest : List Char} (h : l.Covers c rest)
    (position : Nat) : ¬IsLast (l.outcome.mapError (⟨·, position⟩)) := by
  have heof := h.ne_eof
  have hunexpected := h.ne_unexpected
  cases houtcome : l.outcome with
  | ok t =>
    rintro (hlast | ⟨d, place, hlast⟩)
    · exact heof (by rw [houtcome, Except.ok.inj hlast])
    · cases hlast
  | error fault =>
    rintro (hlast | ⟨d, place, hlast⟩)
    · cases hlast
    · exact hunexpected d (by rw [houtcome, (LexError.mk.inj (Except.error.inj hlast)).1])

namespace Cursor

/-- The character before a place, at which a slash looks back: it opens a pattern only behind some
character that is no slash. -/
def previous (c : Cursor) : Option Char := c.before.head?

/-- What a call at a place answers and where it leaves the lexer: behind all blanks at the end,
before a character that begins nothing, or behind a lexeme. -/
inductive Calls (c : Cursor) : Except LexError Token → Cursor → Prop where
  | ends (hblank : ∀ x ∈ c.after, Text.isBlank x = true) : Calls c (.ok .eof) (c.past c.after [])
  | refuses {blanks rest : List Char} {x : Char} (hblanks : ∀ y ∈ blanks, Text.isBlank y = true)
      (hx : Text.isBlank x = false) (hafter : c.after = blanks ++ x :: rest) :
      Calls c (.error ⟨.unexpected x, (c.past blanks (x :: rest)).offset⟩)
        (c.past blanks (x :: rest))
  | consumes {blanks more rest : List Char} {x : Char} {answer : Except LexError Token}
      (hblanks : ∀ y ∈ blanks, Text.isBlank y = true) (hx : Text.isBlank x = false)
      (hafter : c.after = blanks ++ x :: more ++ rest) (hanswer : ¬IsLast answer) :
      Calls c answer (c.past (blanks ++ x :: more) rest)

variable {c c' : Cursor} {a : Except LexError Token}

/-- To move on past two texts in a row is to move on past both at once. -/
theorem past_past (c : Cursor) (l m rest rest' : List Char) :
    (c.past l rest).past m rest' = c.past (l ++ m) rest' := by
  simp [past]

/-- Behind blanks that have been skipped there is none to skip. -/
theorem skipBlanks_skipBlanks (c : Cursor) : c.skipBlanks.skipBlanks = c.skipBlanks := by
  have hstop : ∀ x, c.skipBlanks.after.head? = some x → Text.isBlank x = false :=
    fun x => eq_false_of_head?_dropWhile
  have htake := takeWhile_append_of_head (List.forall_mem_nil _) hstop
  have hdrop := dropWhile_append_of_head (List.forall_mem_nil _) hstop
  rw [List.nil_append] at htake hdrop
  rw [skipBlanks, htake, hdrop]
  rfl

/-- Nothing but what follows the blanks counts, so skipping them before the call changes neither the
answer nor the place. -/
theorem next_skipBlanks (c : Cursor) : c.skipBlanks.next = c.next := by
  rw [next, next, skipBlanks_skipBlanks]

/-- **The three kinds of calls.**  Each call is of one of them, and one of the last answers leaves
the lexer just behind the blanks. -/
theorem next_calls (c : Cursor) :
    c.Calls c.next.1 c.next.2 ∧ (IsLast c.next.1 → c.next.2 = c.skipBlanks) := by
  have hblanks : ∀ x ∈ c.after.takeWhile Text.isBlank, Text.isBlank x = true :=
    fun _ => List.mem_takeWhile_imp
  have hsplit : c.after = c.after.takeWhile Text.isBlank ++ c.skipBlanks.after :=
    List.takeWhile_append_dropWhile.symm
  unfold next
  dsimp only
  split
  · next hend =>
    refine ⟨?_, fun _ => rfl⟩
    have hall : c.skipBlanks = c.past c.after [] := by
      rw [hend, List.append_nil] at hsplit
      rw [skipBlanks, ← hsplit]
      exact congrArg (c.past c.after) hend
    rw [hall]
    exact .ends (all_blank_of_skipBlanks hend)
  · next x rest hrest =>
    have hx : Text.isBlank x = false := eq_false_of_head?_dropWhile (congrArg List.head? hrest)
    have hskip : c.skipBlanks = c.past (c.after.takeWhile Text.isBlank) (x :: rest) :=
      congrArg (c.past _) hrest
    rw [hrest] at hsplit
    split
    · refine ⟨?_, fun _ => rfl⟩
      rw [hskip]
      exact .refuses hblanks hx hsplit
    · next l hl =>
      obtain ⟨more, htext, hmore⟩ := (covers_lexeme? hl).text
      have hanswer := (covers_lexeme? hl).not_isLast c.skipBlanks.offset
      refine ⟨?_, fun hlast => absurd hlast hanswer⟩
      have hpast : c.skipBlanks.past l.text l.rest =
          c.past (c.after.takeWhile Text.isBlank ++ x :: more) l.rest := by
        rw [hskip, past_past, htext]
      rw [hpast]
      refine .consumes hblanks hx ?_ hanswer
      rw [List.append_assoc, List.cons_append, ← hmore]
      exact hsplit

/-- **A call loses nothing:** it remembers what it has consumed, so the two sides of the place still
make up the source. -/
theorem Calls.source_eq (h : c.Calls a c') : c'.source = c.source := by
  cases h with
  | ends | refuses _ _ hafter | consumes _ _ hafter =>
    simp [source, past, *]

/-- The end and an unexpected character are answered again, at the same place, as a call that gives
one of them has only skipped blanks. -/
theorem next_of_isLast (h : IsLast c.next.1) : c.next.2.next = c.next := by
  rw [(next_calls c).2 h, next_skipBlanks]

/-- Any other call takes at least one character, as it goes behind a lexeme. -/
theorem Calls.length_lt (h : c.Calls a c') (hanswer : ¬IsLast a) :
    c'.after.length < c.after.length := by
  cases h with
  | ends => exact absurd (.inl rfl) hanswer
  | refuses => exact absurd (.inr ⟨_, _, rfl⟩) hanswer
  | consumes _ _ hafter =>
    rw [hafter]
    simp [past]
    omega

/-! ## Calls in a row -/

/-- The place after some calls in a row, whatever they have answered. -/
def proceed : (count : Nat) → Cursor → Cursor
  | 0, c => c
  | count + 1, c => proceed count c.next.2

/-- The answer of the call that is made after `count` others at a place. -/
def answer (c : Cursor) (count : Nat) : Except LexError Token := (c.proceed count).next.1

/-- One call more is made where the others have ended. -/
theorem proceed_succ (count : Nat) (c : Cursor) :
    c.proceed (count + 1) = (c.proceed count).next.2 := by
  induction count generalizing c with
  | zero => rfl
  | succ count ih => exact ih c.next.2

/-- The answer of each call belongs to the place where it was made and to the one where it has left
the lexer. -/
theorem calls_answer (c : Cursor) (count : Nat) :
    (c.proceed count).Calls (c.answer count) (c.proceed (count + 1)) := by
  rw [proceed_succ]
  exact (next_calls _).1

/-- However many calls are made, what is consumed and what is left make up the same source. -/
theorem source_proceed (c : Cursor) (count : Nat) : (c.proceed count).source = c.source := by
  induction count with
  | zero => rfl
  | succ count ih => rw [(calls_answer c count).source_eq, ih]

/-- **An answer that changes nothing more is every later answer.**  By induction on the calls that
come later, each of which is made at the same place. -/
theorem answer_of_isLast {count later : Nat} (h : IsLast (c.answer count)) (hle : count ≤ later) :
    c.answer later = c.answer count := by
  induction later, hle using Nat.le_induction with
  | base => rfl
  | succ later _ ih =>
    have hlast : IsLast (c.proceed later).next.1 := by
      rw [← answer, ih]
      exact h
    rw [answer, proceed_succ, next_of_isLast hlast]
    exact ih

/-- **Such an answer is given,** at the latest when there have been as many calls as there are
characters: any other answer takes one of them. -/
theorem isLast_answer {count : Nat} (h : c.after.length ≤ count) : IsLast (c.answer count) := by
  induction count generalizing c with
  | zero =>
    have hnone : c.after = [] := List.eq_nil_of_length_eq_zero (Nat.le_zero.1 h)
    by_contra hlast
    have hless := (calls_answer c 0).length_lt hlast
    rw [proceed, hnone] at hless
    exact absurd hless (Nat.not_lt_zero _)
  | succ count ih =>
    by_cases hlast : IsLast (c.answer 0)
    · rw [answer_of_isLast hlast (Nat.zero_le _)]
      exact hlast
    · have hless : c.next.2.after.length < c.after.length := (calls_answer c 0).length_lt hlast
      exact ih (Nat.le_of_lt_succ (Nat.lt_of_lt_of_le hless h))

/-- **The tokens of a text are answers in a row,** up to the first that is the end or a fault. -/
theorem exists_tokens (c : Cursor) :
    ∃ ts : List Token, ts.length ≤ c.after.length ∧
      (∀ i t, ts[i]? = some t → c.answer i = .ok t ∧ t ≠ .eof) ∧
      (c.answer ts.length = .ok .eof ∧ c.tokens = .ok (ts ++ [.eof]) ∨
        ∃ e, c.answer ts.length = .error e ∧ c.tokens = .error e) := by
  fun_induction Cursor.tokens c with
  | case1 c e c' hread =>
    exact ⟨[], Nat.zero_le _, by simp, .inr ⟨e, congrArg Prod.fst hread, rfl⟩⟩
  | case2 c c' hread => exact ⟨[], Nat.zero_le _, by simp, .inl ⟨congrArg Prod.fst hread, rfl⟩⟩
  | case3 c t c' hread hne ih =>
    obtain ⟨ts, hlength, htokens, hlast⟩ := ih
    have hless := Cursor.length_next hread hne
    have hlater (count : Nat) : c.answer (count + 1) = c'.answer count := by
      rw [answer, proceed, hread]
      rfl
    refine ⟨t :: ts, Nat.lt_of_le_of_lt hlength hless, fun i u hu => ?_, ?_⟩
    · cases i with
      | zero =>
        obtain rfl : t = u := Option.some.inj hu
        exact ⟨congrArg Prod.fst hread, hne⟩
      | succ i =>
        rw [hlater]
        exact htokens i u hu
    · rw [List.length_cons, hlater]
      rcases hlast with ⟨heof, hall⟩ | ⟨e, hfault, hall⟩
      · exact .inl ⟨heof, by rw [hall]; rfl⟩
      · exact .inr ⟨e, hfault, by rw [hall]; rfl⟩

end Cursor

/-- **Repeated tokenising settles.**  Whatever the lexer has answered, the text that it has consumed
is a part at the front of the source, and the character it looks back at is the last one of this
part.  Each call is at the end, at an unexpected character or takes a character that is no blank.
The first two are answered forever; one of them is answered from the call on that is made after as
many as the source has characters, and the tokens of the source are answered before. -/
theorem tokenize_settles (source : String) :
    let lexer := Cursor.start source.toList
    (∀ count,
      (∃ consumed, consumed ++ (lexer.proceed count).after = source.toList ∧
        (lexer.proceed count).previous = consumed.getLast?) ∧
      (lexer.proceed count).Calls (lexer.answer count) (lexer.proceed (count + 1)) ∧
      (IsLast (lexer.answer count) →
        ∀ later, count ≤ later → lexer.answer later = lexer.answer count)) ∧
    (∀ count, source.length ≤ count →
      IsLast (lexer.answer count) ∧ lexer.answer count = lexer.answer source.length) ∧
    ∃ ts : List Token, ts.length ≤ source.length ∧
      (∀ i t, ts[i]? = some t → lexer.answer i = .ok t ∧ t ≠ .eof) ∧
      (lexer.answer ts.length = .ok .eof ∧ tokenize source = .ok (ts ++ [.eof]) ∨
        ∃ e, lexer.answer ts.length = .error e ∧ tokenize source = .error e) := by
  intro lexer
  have hlength : lexer.after.length ≤ source.length := by
    rw [← String.length_toList]
    exact Nat.le_refl _
  have hsettled : IsLast (lexer.answer source.length) := Cursor.isLast_answer hlength
  refine ⟨fun count => ⟨?_, lexer.calls_answer count, fun h later => Cursor.answer_of_isLast h⟩,
    fun count hcount => ⟨Cursor.isLast_answer (Nat.le_trans hlength hcount),
      Cursor.answer_of_isLast hsettled hcount⟩, ?_⟩
  · refine ⟨(lexer.proceed count).before.reverse, lexer.source_proceed count, ?_⟩
    rw [Cursor.previous, List.getLast?_reverse]
  · obtain ⟨ts, hts, htokens, hlast⟩ := lexer.exists_tokens
    exact ⟨ts, Nat.le_trans hts hlength, htokens, hlast⟩

end When
end CommitForm
