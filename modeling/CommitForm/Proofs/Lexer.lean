/-
# The lexer cuts a source into lexemes

| lexeme | token |
| --- | --- |
| a fixed spelling, `in` among them | the operator or the punctuation |
| `[A-Za-z_][A-Za-z0-9_]*` but not `in` | the name |
| a run of digits | the number it denotes |
| a quote, a `Body`, the same quote | the string of the raw body |
| a slash, a `Body`, a slash, flags | the pattern, written as it stands |

`Cut before text tokens` says that a text behind `before` is cut into blanks and lexemes that spell
the tokens.  No lexeme could take the character behind it (`Token.takes`), so that nothing longer
there spells a token (`ends_iff_longest`), and a pattern literal stands behind a character that is
no slash.  The lexer finds exactly these cuts (`tokenize_iff_cut`); one step of it is one lexeme
(`Cursor.next_sound`, `Cursor.next_complete`).
-/

import Mathlib.Data.List.TakeWhile
import CommitForm.When.Lexer

namespace CommitForm
namespace When

/-! ## Lexemes -/

/-- What stands between two marks `q`: a backslash has a character behind it, and `q` stands only
behind a backslash. -/
inductive Body (q : Char) : List Char → Prop where
  | nil : Body q []
  | escaped {c : Char} {cs : List Char} (h : Body q cs) : Body q ('\\' :: c :: cs)
  | plain {c : Char} {cs : List Char} (hc : c ≠ '\\') (hq : c ≠ q) (h : Body q cs) :
      Body q (c :: cs)

/-- The tokens of one character that are no binary operators, each with its character. -/
def punctuation : List (Char × Token) :=
  [('!', .not), ('(', .openParen), (')', .closeParen), ('[', .openBracket), (']', .closeBracket),
    (',', .comma)]

/-- The characters that spell a token, without regard to what stands around them. -/
inductive Spells : List Char → Token → Prop where
  | operator (op : Operator) : Spells op.spelling.toList (.operator op)
  | punctuation {c : Char} {t : Token} (ht : (c, t) ∈ punctuation) : Spells [c] t
  | name {c : Char} {cs : List Char} (hc : isNameStart c = true)
      (hcs : ∀ d ∈ cs, isNameChar d = true) (hin : c :: cs ≠ ['i', 'n']) :
      Spells (c :: cs) (.identifier (String.ofList (c :: cs)))
  | number {ds : List Char} (hne : ds ≠ []) (hds : ∀ d ∈ ds, Literal.isDigit d = true) :
      Spells ds (.number (Literal.digitRun ds))
  | string {q : Char} {body : List Char} (hq : q = '"' ∨ q = '\'') (h : Body q body) :
      Spells (q :: body ++ [q]) (.string (String.ofList body))
  | pattern {body flags : List Char} (h : Body '/' body) (hflags : ∀ c ∈ flags, isFlag c = true) :
      Spells ('/' :: body ++ '/' :: flags)
        (.pattern (String.ofList ('/' :: body ++ '/' :: flags)))

/-- Whether the lexeme of a token would be longer with a character directly behind it. -/
def Token.takes : Token → Char → Bool
  | .number _, c => Literal.isDigit c
  | .identifier _, c => isNameChar c
  | .operator .isIn, c => isNameChar c
  | .operator .lt, c => c == '='
  | .operator .gt, c => c == '='
  | .not, c => c == '='
  | .pattern _, c => isFlag c
  | _, _ => false

/-- What a lexeme between the character `previous` and the text `rest` has to be: the spelling of
its token, as long as can be, and not behind a slash or nothing if it is a pattern literal. -/
structure Fits (previous : Option Char) (l : List Char) (t : Token) (rest : List Char) : Prop where
  spells : Spells l t
  ends : ∀ c, rest.head? = some c → t.takes c = false
  slash : ∀ s, t = .pattern s → ∃ c, previous = some c ∧ c ≠ '/'

/-- A text behind `before` is cut into blanks and lexemes, each as long as it can be; `before` is
kept for the lexemes that look behind. -/
inductive Cut : List Char → List Char → List Token → Prop where
  | blanks {before w : List Char} (hw : ∀ c ∈ w, Text.isBlank c = true) : Cut before w []
  | lexeme {before w l rest : List Char} {t : Token} {ts : List Token}
      (hw : ∀ c ∈ w, Text.isBlank c = true) (hl : Fits (before ++ w).getLast? l t rest)
      (h : Cut (before ++ w ++ l) rest ts) : Cut before (w ++ l ++ rest) (t :: ts)

/-! ## Runs of characters -/

section

variable {p : Char → Bool} {w rest : List Char}

/-- What is left when all characters of a kind are dropped does not begin with one of them. -/
theorem eq_false_of_head?_dropWhile {cs : List Char} {c : Char}
    (h : (cs.dropWhile p).head? = some c) : p c = false := by
  have := List.head?_dropWhile_not p cs
  rwa [h] at this

/-- A run of characters of a kind is taken whole, and no more than it, where the next character is
not of that kind. -/
theorem takeWhile_append_of_head (hw : ∀ c ∈ w, p c = true)
    (hrest : ∀ c, rest.head? = some c → p c = false) : (w ++ rest).takeWhile p = w := by
  rw [List.takeWhile_append_of_pos hw]
  cases rest with
  | nil => simp
  | cons c cs => simp [hrest c rfl]

/-- A run of characters of a kind is dropped whole, and no more than it, where the next character is
not of that kind. -/
theorem dropWhile_append_of_head (hw : ∀ c ∈ w, p c = true)
    (hrest : ∀ c, rest.head? = some c → p c = false) : (w ++ rest).dropWhile p = rest := by
  rw [List.dropWhile_append_of_pos hw]
  cases rest with
  | nil => simp
  | cons c cs => simp [hrest c rfl]

end

/-! ## Bodies -/

/-- A body is split off at the quote behind it, since no quote in it is without a backslash. -/
theorem splitUnescaped?_complete {q : Char} {body : List Char} (h : Body q body) (hq : q ≠ '\\')
    (rest : List Char) : splitUnescaped? q (body ++ q :: rest) = some (body, rest) := by
  induction h with
  | nil => simp [splitUnescaped?]
  | escaped h ih => simp [splitUnescaped?, ih]
  | plain _ hq' h ih => simp [splitUnescaped?, hq', ih]

/-- What is split off at a quote is a body, and the quote stands right behind it. -/
theorem splitUnescaped?_sound {q : Char} {cs body rest : List Char}
    (h : splitUnescaped? q cs = some (body, rest)) : Body q body ∧ cs = body ++ q :: rest := by
  fun_induction splitUnescaped? q cs generalizing body rest with
  | case1 => simp at h
  | case2 => simp at h
  | case3 c cs ih =>
    obtain ⟨⟨b, r⟩, hb, he⟩ := Option.map_eq_some_iff.1 h
    simp only [Prod.mk.injEq] at he
    obtain ⟨rfl, rfl⟩ := he
    obtain ⟨hbody, rfl⟩ := ih hb
    exact ⟨.escaped hbody, rfl⟩
  | case4 cs hs =>
    simp only [Option.some.injEq, Prod.mk.injEq] at h
    obtain ⟨rfl, rfl⟩ := h
    exact ⟨.nil, rfl⟩
  | case5 c cs hs hc ih =>
    obtain ⟨⟨b, r⟩, hb, he⟩ := Option.map_eq_some_iff.1 h
    simp only [Prod.mk.injEq] at he
    obtain ⟨rfl, rfl⟩ := he
    obtain ⟨hbody, rfl⟩ := ih hb
    exact ⟨.plain hs hc hbody, rfl⟩

/-! ## Reading one lexeme -/

/-- A lexeme between delimiters has a body and a closing delimiter, and is what is made of them. -/
theorem delimited_eq_ok {q : Char} {fault : LexFault} {close : List Char → List Char → Lexeme}
    {after : List Char} {t : Token} (h : (delimited q fault close after).outcome = .ok t) :
    ∃ body rest, Body q body ∧ after = body ++ q :: rest ∧
      delimited q fault close after = close body rest := by
  unfold delimited at h ⊢
  split at h
  · simp at h
  · next body rest hsplit =>
    obtain ⟨hbody, hafter⟩ := splitUnescaped?_sound hsplit
    exact ⟨body, rest, hbody, hafter, rfl⟩

/-- A body with its closing delimiter makes the lexeme that is made of them, whatever follows. -/
theorem delimited_of_body {q : Char} {body : List Char} (h : Body q body) (hq : q ≠ '\\')
    (fault : LexFault) (close : List Char → List Char → Lexeme) (rest : List Char) :
    delimited q fault close (body ++ q :: rest) = close body rest := by
  rw [delimited, splitUnescaped?_complete h hq]

/-- A string that is read is a lexeme of a string, cut off at its closing quote. -/
theorem stringLexeme_sound {previous : Option Char} {q : Char} (hq : q = '"' ∨ q = '\'')
    {rest : List Char} {t : Token} (h : (stringLexeme q rest).outcome = .ok t) :
    q :: rest = (stringLexeme q rest).text ++ (stringLexeme q rest).rest ∧
      Fits previous (stringLexeme q rest).text t (stringLexeme q rest).rest := by
  obtain ⟨body, after, hbody, rfl, hread⟩ := delimited_eq_ok h
  rw [stringLexeme, hread] at h ⊢
  obtain rfl := Except.ok.inj h
  exact ⟨by simp, .string hq hbody, fun _ _ => rfl, fun s hs => by simp at hs⟩

/-- A pattern that is read is a lexeme of a pattern where one may stand, with all flags that follow
it. -/
theorem patternLexeme_sound {previous : Option Char} (hp : previous ≠ none ∧ previous ≠ some '/')
    {rest : List Char} {t : Token} (h : (patternLexeme rest).outcome = .ok t) :
    '/' :: rest = (patternLexeme rest).text ++ (patternLexeme rest).rest ∧
      Fits previous (patternLexeme rest).text t (patternLexeme rest).rest := by
  obtain ⟨body, after, hbody, rfl, hread⟩ := delimited_eq_ok h
  rw [patternLexeme, hread] at h ⊢
  obtain rfl := Except.ok.inj h
  refine ⟨by simp, .pattern hbody fun _ => List.mem_takeWhile_imp, fun c hc => ?_, fun _ _ => ?_⟩
  · exact eq_false_of_head?_dropWhile hc
  · obtain ⟨c, rfl⟩ := Option.ne_none_iff_exists'.1 hp.1
    exact ⟨c, rfl, fun hc => hp.2 (congrArg some hc)⟩

/-- An operator of one or two characters that is read is the longer one if the second character
follows. -/
theorem oneOrTwo_sound {previous : Option Char} {a b : Char} {long : Token}
    {short : Except LexFault Token} {rest : List Char} {t : Token}
    (hlong : Spells [a, b] long ∧ (∀ c, long.takes c = false) ∧ ∀ s, long ≠ .pattern s)
    (hshort : ∀ t, short = .ok t →
      Spells [a] t ∧ (∀ c, c ≠ b → t.takes c = false) ∧ ∀ s, t ≠ .pattern s)
    (h : (oneOrTwo a b long short rest).outcome = .ok t) :
    a :: rest = (oneOrTwo a b long short rest).text ++ (oneOrTwo a b long short rest).rest ∧
      Fits previous (oneOrTwo a b long short rest).text t (oneOrTwo a b long short rest).rest := by
  cases rest with
  | nil =>
    obtain ⟨hs, -, hp⟩ := hshort t h
    exact ⟨rfl, hs, fun c hc => by simp [oneOrTwo] at hc, fun s hs => absurd hs (hp s)⟩
  | cons c cs =>
    rw [oneOrTwo] at h ⊢
    by_cases hc : c = b
    · rw [if_pos hc] at h ⊢
      obtain rfl := Except.ok.inj h
      exact ⟨by rw [hc]; rfl, hlong.1, fun c _ => hlong.2.1 c, fun s hs => absurd hs (hlong.2.2 s)⟩
    · rw [if_neg hc] at h ⊢
      obtain ⟨hs, he, hp⟩ := hshort t h
      refine ⟨rfl, hs, fun d hd => he d ?_, fun s hs => absurd hs (hp s)⟩
      rwa [← Option.some.inj hd]

/-- What is read behind an equals sign is one of the two operators that begin with it; a lone sign
is none. -/
theorem equalsLexeme_sound {previous : Option Char} {rest : List Char} {t : Token}
    (h : (equalsLexeme rest).outcome = .ok t) :
    '=' :: rest = (equalsLexeme rest).text ++ (equalsLexeme rest).rest ∧
      Fits previous (equalsLexeme rest).text t (equalsLexeme rest).rest := by
  unfold equalsLexeme at h ⊢
  split at h
  · obtain rfl := Except.ok.inj h
    exact ⟨rfl, .operator .eq, fun _ _ => rfl, fun s hs => by simp at hs⟩
  · obtain rfl := Except.ok.inj h
    exact ⟨rfl, .operator .isMatch, fun _ _ => rfl, fun s hs => by simp at hs⟩
  · simp at h

/-- A word is spelled by its characters, whether it is a name or the operator `in`. -/
theorem spells_wordToken {c : Char} {cs : List Char} (hc : isNameStart c = true)
    (hcs : ∀ d ∈ cs, isNameChar d = true) : Spells (c :: cs) (wordToken (c :: cs)) := by
  rw [wordToken]
  split
  · next hin =>
    rw [hin]
    exact .operator .isIn
  · next hin => exact .name hc hcs hin

/-- A word takes the characters of names, so it ends where none of them follows. -/
theorem takes_wordToken (word : List Char) (c : Char) :
    (wordToken word).takes c = isNameChar c := by
  rw [wordToken]
  split <;> rfl

/-- A word is no pattern, so it does not matter what stands before it. -/
theorem wordToken_ne_pattern (word : List Char) (s : String) : wordToken word ≠ .pattern s := by
  rw [wordToken]
  split <;> simp

/-- A lexeme of a fixed spelling that cannot be made longer fits in front of any text. -/
theorem fits_single {previous : Option Char} {t : Token} {c : Char} (hl : Spells [c] t)
    (hends : ∀ d, t.takes d = false) (hp : ∀ s, t ≠ .pattern s) (rest : List Char) :
    Fits previous [c] t rest := ⟨hl, fun d _ => hends d, fun s hs => absurd hs (hp s)⟩

/-- A run of digits fits in front of the rest, and is one number however long it is. -/
theorem fits_digits {previous : Option Char} {c : Char} (hc : Literal.isDigit c = true)
    (rest : List Char) :
    Fits previous (c :: rest.takeWhile Literal.isDigit)
      (.number (Literal.digitRun (c :: rest.takeWhile Literal.isDigit)))
      (rest.dropWhile Literal.isDigit) where
  spells := .number (by simp) (List.forall_mem_cons.2 ⟨hc, fun _ => List.mem_takeWhile_imp⟩)
  ends _ := eq_false_of_head?_dropWhile
  slash := by simp

/-- A run of name characters fits in front of the rest, as a name or as the operator that it
spells. -/
theorem fits_word {previous : Option Char} {c : Char} (hc : isNameStart c = true)
    (rest : List Char) :
    Fits previous (c :: rest.takeWhile isNameChar) (wordToken (c :: rest.takeWhile isNameChar))
      (rest.dropWhile isNameChar) where
  spells := spells_wordToken hc fun _ => List.mem_takeWhile_imp
  ends d hd := by
    rw [takes_wordToken]
    exact eq_false_of_head?_dropWhile hd
  slash s hs := absurd hs (wordToken_ne_pattern _ s)

/-- **What is read is a lexeme,** cut off the front of the text, and it cannot be made longer with
what follows. -/
theorem lexeme?_sound {previous : Option Char} {c : Char} {rest : List Char} {l : Lexeme}
    {t : Token} (h : lexeme? previous c rest = some l) (ht : l.outcome = .ok t) :
    c :: rest = l.text ++ l.rest ∧ Fits previous l.text t l.rest := by
  unfold lexeme? at h
  simp only at h
  split at h
  case h_1 =>
    split at h
    · simp at h
    · next hp =>
      obtain rfl := Option.some.inj h
      exact patternLexeme_sound (not_or.1 hp) ht
  case h_2 =>
    obtain rfl := Option.some.inj h
    exact stringLexeme_sound (.inl rfl) ht
  case h_3 =>
    obtain rfl := Option.some.inj h
    exact stringLexeme_sound (.inr rfl) ht
  case h_4 =>
    obtain rfl := Option.some.inj h
    exact equalsLexeme_sound ht
  case h_5 =>
    obtain rfl := Option.some.inj h
    refine oneOrTwo_sound ⟨.operator .ne, fun _ => rfl, by simp⟩ ?_ ht
    rintro _ ⟨⟩
    exact ⟨.punctuation (by decide), fun c hc => by simpa [Token.takes] using hc, by simp⟩
  case h_6 =>
    obtain rfl := Option.some.inj h
    refine oneOrTwo_sound ⟨.operator .le, fun _ => rfl, by simp⟩ ?_ ht
    rintro _ ⟨⟩
    exact ⟨.operator .lt, fun c hc => by simpa [Token.takes] using hc, by simp⟩
  case h_7 =>
    obtain rfl := Option.some.inj h
    refine oneOrTwo_sound ⟨.operator .ge, fun _ => rfl, by simp⟩ ?_ ht
    rintro _ ⟨⟩
    exact ⟨.operator .gt, fun c hc => by simpa [Token.takes] using hc, by simp⟩
  case h_8 =>
    obtain rfl := Option.some.inj h
    exact oneOrTwo_sound ⟨.operator .both, fun _ => rfl, by simp⟩ (by simp) ht
  case h_9 =>
    obtain rfl := Option.some.inj h
    exact oneOrTwo_sound ⟨.operator .either, fun _ => rfl, by simp⟩ (by simp) ht
  case h_15 =>
    split at h
    · next hdigit =>
      obtain rfl := Option.some.inj h
      obtain rfl := Except.ok.inj ht
      exact ⟨by simp, fits_digits hdigit rest⟩
    · split at h
      · next hstart =>
        obtain rfl := Option.some.inj h
        obtain rfl := Except.ok.inj ht
        exact ⟨by simp, fits_word hstart rest⟩
      · simp at h
  all_goals
    obtain rfl := Option.some.inj h
    obtain rfl := Except.ok.inj ht
    exact ⟨rfl, fits_single (.punctuation (by decide)) (fun _ => rfl) (by simp) _⟩

/-! ## Every lexeme is read -/

/-- The code points of digits, by which digits are told from the characters of other lexemes. -/
theorem toNat_of_isDigit {c : Char} (h : Literal.isDigit c = true) :
    48 ≤ c.toNat ∧ c.toNat ≤ 57 := by
  simp only [Literal.isDigit, Char.le_def, UInt32.le_iff_toNat_le, decide_eq_true_eq] at h
  exact h

/-- The code points of the characters that a name begins with, letters of ASCII and the
underscore. -/
theorem toNat_of_isNameStart {c : Char} (h : isNameStart c = true) :
    (97 ≤ c.toNat ∧ c.toNat ≤ 122) ∨ (65 ≤ c.toNat ∧ c.toNat ≤ 90) ∨ c.toNat = 95 := by
  simp only [isNameStart, Char.le_def, UInt32.le_iff_toNat_le, Bool.or_eq_true, Bool.and_eq_true,
    decide_eq_true_eq, beq_iff_eq] at h
  rcases h with (h | h) | rfl
  · exact .inl h
  · exact .inr (.inl h)
  · exact .inr (.inr rfl)

/-- A name does not begin with a digit, so names and numbers are told by their first character. -/
theorem isDigit_eq_false_of_isNameStart {c : Char} (h : isNameStart c = true) :
    Literal.isDigit c = false := by
  rw [Bool.eq_false_iff]
  intro hd
  have := toNat_of_isDigit hd
  have := toNat_of_isNameStart h
  omega

/-- The visible ASCII characters are not blank, and all lexemes begin with one of them. -/
theorem isBlank_eq_false {c : Char} (h : 33 ≤ c.toNat) (h' : c.toNat ≤ 126) :
    Text.isBlank c = false := by
  simp only [Text.isBlank, Bool.or_eq_false_iff, Bool.and_eq_false_iff, decide_eq_false_iff_not,
    beq_eq_false_iff_ne]
  omega

/-- Digits up to where no further digit follows are read as one number. -/
theorem lexeme?_digits {c : Char} {cs rest : List Char} (hc : Literal.isDigit c = true)
    (hcs : ∀ d ∈ cs, Literal.isDigit d = true)
    (hrest : ∀ d, rest.head? = some d → Literal.isDigit d = false) (previous : Option Char) :
    lexeme? previous c (cs ++ rest) =
      some ⟨.ok (.number (Literal.digitRun (c :: cs))), c :: cs, rest⟩ := by
  unfold lexeme?
  simp only [takeWhile_append_of_head hcs hrest, dropWhile_append_of_head hcs hrest]
  split
  case h_15 => rw [if_pos hc]
  all_goals exact absurd hc (by decide)

/-- Name characters up to where no further one follows are read as one word. -/
theorem lexeme?_word {c : Char} {cs rest : List Char} (hc : isNameStart c = true)
    (hcs : ∀ d ∈ cs, isNameChar d = true)
    (hrest : ∀ d, rest.head? = some d → isNameChar d = false) (previous : Option Char) :
    lexeme? previous c (cs ++ rest) = some ⟨.ok (wordToken (c :: cs)), c :: cs, rest⟩ := by
  have hdigit := isDigit_eq_false_of_isNameStart hc
  unfold lexeme?
  simp only [takeWhile_append_of_head hcs hrest, dropWhile_append_of_head hcs hrest]
  split
  case h_15 => rw [if_neg (by simp [hdigit]), if_pos hc]
  all_goals exact absurd hc (by decide)

/-- An operator without its second character is read as the shorter one, or as the fault that this
is. -/
theorem oneOrTwo_short {a b : Char} {long : Token} {short : Except LexFault Token}
    {rest : List Char} (h : rest.head? ≠ some b) :
    oneOrTwo a b long short rest = ⟨short, [a], rest⟩ := by
  cases rest with
  | nil => rfl
  | cons c cs => rw [oneOrTwo, if_neg fun hc => h (congrArg some hc)]

/-- A body between quotes is read as a string, with its backslashes kept as they are. -/
theorem stringLexeme_complete {q : Char} {body : List Char} (hq : q = '"' ∨ q = '\'')
    (h : Body q body) (rest : List Char) :
    stringLexeme q (body ++ [q] ++ rest) =
      ⟨.ok (.string (String.ofList body)), q :: body ++ [q], rest⟩ := by
  rw [List.append_assoc]
  exact delimited_of_body h (by rcases hq with rfl | rfl <;> decide) _ _ _

/-- Flags are letters, so there is no slash among them: the slash that closes a pattern is the last
one of its literal. -/
theorem not_mem_slash_of_isFlag {flags : List Char} (h : ∀ c ∈ flags, isFlag c = true) :
    '/' ∉ flags := by
  intro hmem
  exact absurd (h '/' hmem) (by decide)

/-- A body between slashes is read as a pattern with its flags, up to where no further flag
follows. -/
theorem patternLexeme_complete {body flags rest : List Char} (h : Body '/' body)
    (hflags : ∀ c ∈ flags, isFlag c = true) (hrest : ∀ c, rest.head? = some c → isFlag c = false) :
    patternLexeme (body ++ '/' :: flags ++ rest) =
      ⟨.ok (.pattern (String.ofList ('/' :: body ++ '/' :: flags))), '/' :: body ++ '/' :: flags,
        rest⟩ := by
  rw [List.append_assoc, List.cons_append, patternLexeme, delimited_of_body h (by decide)]
  simp only [takeWhile_append_of_head hflags hrest, dropWhile_append_of_head hflags hrest]

/-- **Every lexeme that cannot be made longer is read,** with the characters that spell it and no
others. -/
theorem lexeme?_complete {previous : Option Char} {l rest : List Char} {t : Token}
    (h : Fits previous l t rest) :
    ∃ c cs, l = c :: cs ∧ Text.isBlank c = false ∧
      lexeme? previous c (cs ++ rest) = some ⟨.ok t, l, rest⟩ := by
  obtain ⟨hl, hend, hslash⟩ := h
  have hequals (hd : ∀ c, t.takes c = (c == '=')) : rest.head? ≠ some '=' := by
    intro he
    have := hend '=' he
    rw [hd] at this
    simp at this
  cases hl with
  | operator op =>
    cases op with
    | isIn =>
      have htail : ∀ d ∈ ['n'], isNameChar d = true := List.forall_mem_singleton.2 rfl
      exact ⟨'i', ['n'], rfl, by decide, lexeme?_word (by decide) htail hend previous⟩
    | lt =>
      refine ⟨'<', [], rfl, by decide, ?_⟩
      exact congrArg some (oneOrTwo_short (hequals fun _ => rfl))
    | gt =>
      refine ⟨'>', [], rfl, by decide, ?_⟩
      exact congrArg some (oneOrTwo_short (hequals fun _ => rfl))
    | _ => exact ⟨_, _, rfl, by decide, rfl⟩
  | punctuation ht =>
    simp only [When.punctuation, List.mem_cons, Prod.mk.injEq, List.not_mem_nil, or_false] at ht
    rcases ht with ⟨rfl, rfl⟩ | ⟨rfl, rfl⟩ | ⟨rfl, rfl⟩ | ⟨rfl, rfl⟩ | ⟨rfl, rfl⟩ | ⟨rfl, rfl⟩
    · refine ⟨'!', [], rfl, by decide, ?_⟩
      exact congrArg some (oneOrTwo_short (hequals fun _ => rfl))
    all_goals exact ⟨_, _, rfl, by decide, rfl⟩
  | @name c cs hc hcs hin =>
    have hnat := toNat_of_isNameStart hc
    refine ⟨c, cs, rfl, isBlank_eq_false (by omega) (by omega), ?_⟩
    rw [lexeme?_word hc hcs hend, wordToken, if_neg hin]
  | number hne hds =>
    obtain ⟨c, cs, rfl⟩ := List.exists_cons_of_ne_nil hne
    obtain ⟨hc, hcs⟩ := List.forall_mem_cons.1 hds
    have hnat := toNat_of_isDigit hc
    exact ⟨c, cs, rfl, isBlank_eq_false (by omega) (by omega), lexeme?_digits hc hcs hend previous⟩
  | @string q body hq hbody =>
    refine ⟨q, body ++ [q], rfl, by rcases hq with rfl | rfl <;> decide, ?_⟩
    have hread := stringLexeme_complete hq hbody rest
    rcases hq with rfl | rfl <;> exact congrArg some hread
  | @pattern body flags hbody hflags =>
    refine ⟨'/', body ++ '/' :: flags, rfl, by decide, ?_⟩
    obtain ⟨c, rfl, hc⟩ := hslash _ rfl
    rw [← patternLexeme_complete hbody hflags hend]
    exact if_neg (by simpa using hc)

/-- A character that a lexeme takes makes another lexeme of it, so being as long as possible is a
condition on lexemes alone. -/
theorem exists_spells_of_takes {l : List Char} {t : Token} {c : Char} (hl : Spells l t)
    (h : t.takes c = true) : ∃ u, Spells (l ++ [c]) u := by
  cases hl with
  | operator op =>
    cases op with
    | isIn =>
      have hc : isNameChar c = true := h
      have hcs : ∀ d ∈ ['n', c], isNameChar d = true := by simp [hc, show isNameChar 'n' from rfl]
      exact ⟨_, spells_wordToken (show isNameStart 'i' = true from rfl) hcs⟩
    | lt =>
      obtain rfl : c = '=' := by simpa [Token.takes] using h
      exact ⟨_, .operator .le⟩
    | gt =>
      obtain rfl : c = '=' := by simpa [Token.takes] using h
      exact ⟨_, .operator .ge⟩
    | _ => simp [Token.takes] at h
  | punctuation ht =>
    simp only [When.punctuation, List.mem_cons, Prod.mk.injEq, List.not_mem_nil, or_false] at ht
    rcases ht with ⟨rfl, rfl⟩ | ⟨rfl, rfl⟩ | ⟨rfl, rfl⟩ | ⟨rfl, rfl⟩ | ⟨rfl, rfl⟩ | ⟨rfl, rfl⟩
    · obtain rfl : c = '=' := by simpa [Token.takes] using h
      exact ⟨_, .operator .ne⟩
    all_goals simp [Token.takes] at h
  | name hc hcs _ =>
    have hall := List.forall_mem_append.2 ⟨hcs, List.forall_mem_singleton.2 h⟩
    exact ⟨_, spells_wordToken hc hall⟩
  | number hne hds =>
    have hall := List.forall_mem_append.2 ⟨hds, List.forall_mem_singleton.2 h⟩
    exact ⟨_, .number (by simp) hall⟩
  | string => simp [Token.takes] at h
  | @pattern body flags hbody hflags =>
    have hall := List.forall_mem_append.2 ⟨hflags, List.forall_mem_singleton.2 h⟩
    rw [List.append_assoc, List.cons_append]
    exact ⟨_, .pattern hbody hall⟩

/-- Where the lexeme of a token may end is where no longer text spells a token. -/
theorem ends_iff_longest {l rest : List Char} {t : Token} (hl : Spells l t) :
    (∀ c, rest.head? = some c → t.takes c = false) ↔
      ∀ m u, m <+: rest → Spells (l ++ m) u → m = [] := by
  constructor
  · rintro hend m u ⟨r, rfl⟩ hu
    -- Both lexemes begin alike, and the lexer reads only one of them.
    have hm : ∀ c, m.head? = some c → t.takes c = false := by
      intro c hc
      rw [List.head?_append, hc] at hend
      exact hend c rfl
    have hx : ∃ c, some 'x' = some c ∧ c ≠ '/' := ⟨'x', rfl, by decide⟩
    obtain ⟨c, cs, rfl, -, hshort⟩ := lexeme?_complete ⟨hl, hm, fun _ _ => hx⟩
    have hfits : Fits (some 'x') (c :: cs ++ m) u [] :=
      ⟨hu, fun d hd => by simp at hd, fun _ _ => hx⟩
    obtain ⟨d, ds, hd, -, hlong⟩ := lexeme?_complete hfits
    have hds : cs ++ m = ds := (List.cons.inj hd).2
    rw [← (List.cons.inj hd).1, ← hds, List.append_nil, hshort] at hlong
    simp only [Option.some.injEq, Lexeme.mk.injEq] at hlong
    exact hlong.2.2
  · intro hlongest c hc
    rw [Bool.eq_false_iff]
    intro htakes
    obtain ⟨u, hu⟩ := exists_spells_of_takes hl htakes
    obtain ⟨cs, rfl⟩ : ∃ cs, rest = c :: cs := by
      cases rest with
      | nil => simp at hc
      | cons d cs => exact ⟨cs, by rw [Option.some.inj hc]⟩
    exact absurd (hlongest [c] u ⟨cs, rfl⟩ hu) (by simp)

/-! ## Cutting a source -/

/-- No characters spell the end token, which stands only behind the last lexeme. -/
theorem Spells.ne_eof {l : List Char} {t : Token} (h : Spells l t) : t ≠ .eof := by
  cases h with
  | punctuation ht =>
    rintro rfl
    simp [When.punctuation] at ht
  | _ => simp

/-- Where nothing is left behind blanks, there were only blanks. -/
theorem all_blank_of_skipBlanks {c : Cursor} (h : c.skipBlanks.after = []) :
    ∀ d ∈ c.after, Text.isBlank d = true := by
  have hsplit : c.after.takeWhile Text.isBlank ++ c.skipBlanks.after = c.after :=
    List.takeWhile_append_dropWhile
  rw [h, List.append_nil] at hsplit
  intro d hd
  rw [← hsplit] at hd
  exact List.mem_takeWhile_imp hd

/-- What the lexer answers at a place: the end behind blanks, or a lexeme behind blanks. -/
theorem Cursor.next_sound {c c' : Cursor} {t : Token} (h : c.next = (.ok t, c')) :
    (t = .eof ∧ ∀ d ∈ c.after, Text.isBlank d = true) ∨
      ∃ w l, (∀ d ∈ w, Text.isBlank d = true) ∧ c.after = w ++ l ++ c'.after ∧
        c'.before.reverse = c.before.reverse ++ w ++ l ∧
        Fits (c.before.reverse ++ w).getLast? l t c'.after := by
  unfold Cursor.next at h
  simp only at h
  split at h
  · next hend =>
    simp only [Prod.mk.injEq, Except.ok.injEq] at h
    exact .inl ⟨h.1.symm, all_blank_of_skipBlanks hend⟩
  · next d ds hd =>
    split at h
    · simp at h
    · next l hl =>
      simp only [Prod.mk.injEq] at h
      obtain ⟨ht, rfl⟩ := h
      have ht' : l.outcome = .ok t := by
        cases ho : l.outcome with
        | error f =>
          rw [ho] at ht
          cases ht
        | ok u =>
          rw [ho] at ht
          exact congrArg Except.ok (Except.ok.inj ht)
      obtain ⟨htext, hfits⟩ := lexeme?_sound hl ht'
      refine .inr ⟨c.after.takeWhile Text.isBlank, l.text, ?_, ?_, ?_, ?_⟩
      · exact fun _ => List.mem_takeWhile_imp
      · rw [Cursor.past, List.append_assoc, ← htext, ← hd]
        exact List.takeWhile_append_dropWhile.symm
      · simp [Cursor.past, Cursor.skipBlanks]
      · have hlast : (c.before.reverse ++ c.after.takeWhile Text.isBlank).getLast? =
            c.skipBlanks.before.head? := by
          rw [← List.head?_reverse]
          simp [Cursor.past, Cursor.skipBlanks]
        rw [hlast]
        exact hfits

/-- A lexeme behind blanks is what the lexer answers, and it goes on right behind the lexeme. -/
theorem Cursor.next_complete {before w l rest : List Char} {t : Token}
    (hw : ∀ d ∈ w, Text.isBlank d = true) (hl : Fits (before ++ w).getLast? l t rest) :
    Cursor.next ⟨before.reverse, w ++ l ++ rest⟩ = (.ok t, ⟨(before ++ w ++ l).reverse, rest⟩) := by
  obtain ⟨c, cs, rfl, hc, hread⟩ := lexeme?_complete hl
  have hstop : ∀ d, (c :: cs ++ rest).head? = some d → Text.isBlank d = false := by
    intro d hd
    rwa [← Option.some.inj hd]
  have hskip : Cursor.skipBlanks ⟨before.reverse, w ++ (c :: cs) ++ rest⟩ =
      ⟨(before ++ w).reverse, c :: (cs ++ rest)⟩ := by
    rw [Cursor.skipBlanks, List.append_assoc, takeWhile_append_of_head hw hstop,
      dropWhile_append_of_head hw hstop]
    simp [Cursor.past]
  rw [Cursor.next, hskip]
  simp only [List.head?_reverse, hread, Cursor.past, @List.reverse_append Char (before ++ w)]
  rfl

/-- Blanks alone are answered by the end token. -/
theorem Cursor.next_blank (before : List Char) {w : List Char}
    (hw : ∀ d ∈ w, Text.isBlank d = true) : (Cursor.next ⟨before, w⟩).1 = .ok .eof := by
  have hdrop : (w ++ []).dropWhile Text.isBlank = [] := List.dropWhile_append_of_pos hw
  rw [List.append_nil] at hdrop
  simp only [Cursor.next, Cursor.skipBlanks, Cursor.past, hdrop]

/-- Where the lexer answers the end token, this is the only token that is left, which ends the
induction along the tokens. -/
theorem Cursor.tokens_of_eof {c : Cursor} (h : c.next.1 = .ok .eof) : c.tokens = .ok [.eof] := by
  unfold Cursor.tokens
  split
  · next hread => rw [hread] at h; cases h
  · next hread =>
    rw [hread] at h
    exact dif_pos (Except.ok.inj h)

/-- Where the lexer answers another token, this is the first one, and those behind it are read from
where it stopped. -/
theorem Cursor.tokens_of_ne_eof {c c' : Cursor} {t : Token} (h : c.next = (.ok t, c'))
    (ht : t ≠ .eof) : c.tokens = c'.tokens.map (t :: ·) := by
  rw [Cursor.tokens]
  split
  · next hread => rw [hread] at h; cases h
  · next hread =>
    rw [hread] at h
    cases h
    exact dif_neg ht

/-- **The lexer loses nothing:** its tokens are spelled by lexemes that the text is cut into. -/
theorem Cursor.tokens_sound {c : Cursor} {us : List Token} (h : c.tokens = .ok us) :
    ∃ ts, us = ts ++ [.eof] ∧ Cut c.before.reverse c.after ts := by
  fun_induction Cursor.tokens c generalizing us with
  | case1 => simp at h
  | case2 c c' hread =>
    obtain rfl := Except.ok.inj h
    rcases c.next_sound hread with ⟨-, hblank⟩ | ⟨w, l, -, -, -, hl⟩
    · exact ⟨[], rfl, .blanks hblank⟩
    · exact absurd rfl hl.spells.ne_eof
  | case3 c t c' hread hne ih =>
    rcases c.next_sound hread with ⟨heof, -⟩ | ⟨w, l, hw, hafter, hbefore, hl⟩
    · exact absurd heof hne
    · cases hrest : c'.tokens with
      | error e => simp [hrest, Except.map] at h
      | ok us' =>
        rw [hrest] at h
        obtain rfl := Except.ok.inj h
        obtain ⟨ts, rfl, hcut⟩ := ih hrest
        rw [hbefore] at hcut
        rw [hafter]
        exact ⟨t :: ts, rfl, .lexeme hw hl hcut⟩

/-- **The lexer invents nothing:** what a text can be cut into is what it answers. -/
theorem Cursor.tokens_complete {before text : List Char} {ts : List Token}
    (h : Cut before text ts) : Cursor.tokens ⟨before.reverse, text⟩ = .ok (ts ++ [.eof]) := by
  induction h with
  | @blanks before w hw => exact Cursor.tokens_of_eof (Cursor.next_blank before.reverse hw)
  | lexeme hw hl h ih =>
    rw [Cursor.tokens_of_ne_eof (Cursor.next_complete hw hl) hl.spells.ne_eof, ih]
    rfl

/-- **The lexer finds exactly the cuts of a source into lexemes,** and ends with `eof`. -/
theorem tokenize_iff_cut (source : String) (us : List Token) :
    tokenize source = .ok us ↔ ∃ ts, us = ts ++ [.eof] ∧ Cut [] source.toList ts := by
  constructor
  · intro h
    exact Cursor.tokens_sound h
  · rintro ⟨ts, rfl, h⟩
    exact Cursor.tokens_complete h

end When
end CommitForm
