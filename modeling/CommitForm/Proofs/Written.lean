/-
# Expressions as text

| node | text |
| --- | --- |
| an operator | `(` left ` ` operator ` ` right `)` |
| a negation | `(!` operand `)` |
| an array | `[` elements with `, ` between them `]` |
| a name | itself |
| a number | a run of digits that denotes it |
| a string | `'` string `'` |
| a pattern | `/` body `/` flags |

A tree is recovered from its text (`ofSource_written`), and no two trees have a text in common
(`Written.unique`).  With its parentheses every node is an operand, so nothing depends on how tight
operators bind.  The text of an operand is cut into the same tokens wherever it stands behind no
slash and before one of the `closers` (`LexesAs`).  A node opens at most one bracket and one sign,
which keeps trees of height 64 within the limit of depth.
-/

import Mathlib.Data.List.Forall2
import CommitForm.Proofs.Lexer
import CommitForm.Proofs.Names

namespace CommitForm
namespace When

/-! ## Texts of expressions -/

/-- The texts of an expression.  A number may be any run of digits that denotes it, so an expression
can have several texts. -/
inductive Written : Expr → String → Prop where
  | binary {op : Operator} {l r : Expr} {s t : String} (hl : Written l s) (hr : Written r t) :
      Written (.binary op l r) ("(" ++ s ++ " " ++ op.spelling ++ " " ++ t ++ ")")
  | not {e : Expr} {s : String} (h : Written e s) : Written (.not e) ("(!" ++ s ++ ")")
  | string (s : String) : Written (.string s) ("'" ++ s ++ "'")
  | number {ds : List Char} (hne : ds ≠ []) (hds : ∀ d ∈ ds, Literal.isDigit d = true) :
      Written (.number (Literal.digitRun ds)) (String.ofList ds)
  | identifier (name : String) : Written (.identifier name) name
  | array {es : List Expr} {ss : List String} (h : List.Forall₂ Written es ss) :
      Written (.array es) ("[" ++ String.intercalate ", " ss ++ "]")
  | pattern (body flags : String) : Written (.pattern body flags) ("/" ++ body ++ "/" ++ flags)

/-- Whether a node itself can be written: names are words other than `in`, numbers are denoted by
digits, and a string or a pattern contains its own mark only behind a backslash. -/
def Expr.Spellable : Expr → Prop
  | .identifier name =>
    name ≠ "in" ∧ ∃ c cs, name.toList = c :: cs ∧ isNameStart c = true ∧
      ∀ d ∈ cs, isNameChar d = true
  | .string s => Body '\'' s.toList
  | .number n => ∃ ds, ds ≠ [] ∧ (∀ d ∈ ds, Literal.isDigit d = true) ∧ Literal.digitRun ds = n
  | .pattern body flags =>
    body ≠ "" ∧ Body '/' body.toList ∧ ∀ c ∈ flags.toList, isFlag c = true
  | _ => True

/-- What holds of an operator and of everything below it holds of both operands and of everything
below them. -/
theorem forall_mem_operands {p : Expr → Prop} {op : Operator} {l r : Expr}
    (h : ∀ x ∈ Expr.binary op l r :: (Expr.binary op l r).descendants, p x) :
    (∀ x ∈ l :: l.descendants, p x) ∧ ∀ x ∈ r :: r.descendants, p x := by
  rw [Expr.descendants, List.forall_mem_cons, List.forall_mem_append] at h
  exact h.2

mutual

/-- An expression with parts that can be spelled has a text, by recursion over its parts. -/
theorem exists_written {e : Expr} (h : ∀ x ∈ e :: e.descendants, x.Spellable) :
    ∃ text, Written e text := by
  cases e with
  | binary op l r =>
    obtain ⟨hl, hr⟩ := forall_mem_operands h
    obtain ⟨s, hs⟩ := exists_written hl
    obtain ⟨t, ht⟩ := exists_written hr
    exact ⟨_, .binary hs ht⟩
  | not e =>
    obtain ⟨s, hs⟩ := exists_written (List.forall_mem_cons.1 h).2
    exact ⟨_, .not hs⟩
  | string s => exact ⟨_, .string s⟩
  | number n =>
    obtain ⟨ds, hne, hds, rfl⟩ := h _ List.mem_cons_self
    exact ⟨_, .number hne hds⟩
  | identifier name => exact ⟨_, .identifier name⟩
  | array es =>
    obtain ⟨ss, hss⟩ := exists_written_of_items (List.forall_mem_cons.1 h).2
    exact ⟨_, .array hss⟩
  | pattern body flags => exact ⟨_, .pattern body flags⟩

/-- The same for the elements of an array, each of which has a text. -/
theorem exists_written_of_items {es : List Expr} (h : ∀ x ∈ Expr.descendantsOf es, x.Spellable) :
    ∃ ss, List.Forall₂ Written es ss := by
  cases es with
  | nil => exact ⟨[], .nil⟩
  | cons e es =>
    rw [Expr.descendantsOf, List.forall_mem_append] at h
    obtain ⟨s, hs⟩ := exists_written h.1
    obtain ⟨ss, hss⟩ := exists_written_of_items h.2
    exact ⟨s :: ss, .cons hs hss⟩

end

/-! ## Cutting texts -/

/-- The characters that stand directly behind a written operand: a blank, a closing bracket, or a
comma. -/
def closers : List Char := [' ', ')', ']', ',']

/-- No lexeme takes a closer, so an operand ends where it has been written. -/
theorem takes_closer {c : Char} (hc : c ∈ closers) (t : Token) : t.takes c = false := by
  simp only [closers, List.mem_cons, List.not_mem_nil, or_false] at hc
  cases t with
  | operator op => rcases hc with rfl | rfl | rfl | rfl <;> cases op <;> rfl
  | _ => rcases hc with rfl | rfl | rfl | rfl <;> rfl

/-- A text is cut into tokens wherever it stands behind a character that is no slash and before a
closer or nothing. -/
def LexesAs (text : List Char) (ts : List Token) : Prop :=
  ∀ ⦃before rest : List Char⦄ ⦃us : List Token⦄,
    (∃ c, before.getLast? = some c ∧ c ≠ '/') → (∀ c, rest.head? = some c → c ∈ closers) →
      Cut (before ++ text) rest us → Cut before (text ++ rest) (ts ++ us)

section

variable {before l rest text text' : List Char} {ts ts' : List Token} {t : Token} {c : Char}

/-- A blank may be put in front of what is cut.  It separates lexemes and belongs to none. -/
theorem Cut.blank (h : Cut (before ++ [' ']) rest ts) : Cut before (' ' :: rest) ts := by
  have hblank : Text.isBlank ' ' = true := rfl
  cases h with
  | blanks hw => exact .blanks (List.forall_mem_cons.2 ⟨hblank, hw⟩)
  | @lexeme _ w l rest t ts hw hl h =>
    have hbefore : before ++ [' '] ++ w = before ++ ' ' :: w := List.append_assoc ..
    rw [hbefore] at hl h
    exact .lexeme (List.forall_mem_cons.2 ⟨hblank, hw⟩) hl h

/-- A lexeme may be put in front of what is cut, if it cannot be longer there and, for a pattern, a
character other than a slash stands before it. -/
theorem Cut.token (h : Cut (before ++ l) rest ts) (hl : Spells l t)
    (hends : ∀ c, rest.head? = some c → t.takes c = false)
    (hslash : ∀ s, t = .pattern s → ∃ c, before.getLast? = some c ∧ c ≠ '/') :
    Cut before (l ++ rest) (t :: ts) := by
  rw [← List.append_nil before] at hslash h
  exact .lexeme (List.forall_mem_nil _) ⟨hl, hends, hslash⟩ h

/-- A bracket or a comma is a lexeme, whatever stands behind it, unlike the sign, which may begin an
operator. -/
theorem Cut.bracket (h : Cut (before ++ [c]) rest ts) (ht : (c, t) ∈ punctuation)
    (hne : t ≠ .not) : Cut before (c :: rest) (t :: ts) := by
  simp only [punctuation, List.mem_cons, Prod.mk.injEq, List.not_mem_nil, or_false] at ht
  rcases ht with ⟨rfl, rfl⟩ | ⟨rfl, rfl⟩ | ⟨rfl, rfl⟩ | ⟨rfl, rfl⟩ | ⟨rfl, rfl⟩ | ⟨rfl, rfl⟩
  · exact absurd rfl hne
  all_goals exact h.token (.punctuation (by decide)) (fun _ _ => rfl) (by simp)

/-- No text is cut into no tokens. -/
theorem lexesAs_nil : LexesAs [] [] := by
  intro before rest us _ _ hcut
  rwa [List.append_nil] at hcut

/-- The spelling of a token is cut into this token, as a closer stands behind it and no slash before
it. -/
theorem lexesAs_token (h : Spells l t) : LexesAs l [t] := by
  intro before rest us hbefore hrest hcut
  exact hcut.token h (fun c hc => takes_closer (hrest c hc) t) fun _ _ => hbefore

/-- A sign is a lexeme before whatever makes no other operator of it. -/
theorem LexesAs.not (h : LexesAs (c :: text) ts) (hc : c ≠ '=') :
    LexesAs ('!' :: c :: text) (.not :: ts) := by
  intro before rest us hbefore hrest hcut
  have hoperand : Cut (before ++ ['!']) (c :: text ++ rest) (ts ++ us) :=
    h ⟨'!', List.getLast?_concat, by decide⟩ hrest (by simpa using hcut)
  have hends : ∀ d, (c :: text ++ rest).head? = some d → Token.takes .not d = false := by
    rintro _ ⟨⟩
    simpa [Token.takes] using hc
  have hsign : Spells ['!'] .not := .punctuation (by decide)
  exact hoperand.token hsign hends (by simp)

/-- Two operands with an operator and blanks between them: the blanks are closers of the first
operand and of the operator. -/
theorem LexesAs.operator (hl : LexesAs text ts) (hr : LexesAs text' ts') (op : Operator) :
    LexesAs (text ++ ' ' :: op.spelling.toList ++ ' ' :: text') (ts ++ .operator op :: ts') := by
  intro before rest us hbefore hrest hcut
  have hright : Cut (before ++ text ++ ' ' :: op.spelling.toList ++ [' ']) (text' ++ rest)
      (ts' ++ us) := hr ⟨' ', List.getLast?_concat, by decide⟩ hrest (by simpa using hcut)
  have hop : Cut (before ++ text ++ [' ']) (op.spelling.toList ++ ' ' :: (text' ++ rest))
      (.operator op :: (ts' ++ us)) := by
    have hblank : Cut (before ++ text ++ [' '] ++ op.spelling.toList) (' ' :: (text' ++ rest))
        (ts' ++ us) := .blank (by simpa using hright)
    refine hblank.token (.operator op) (fun d hd => ?_) (by simp)
    exact takes_closer (Option.some.inj hd ▸ List.mem_cons_self) _
  simpa using hl hbefore (by simp [closers]) hop.blank

/-- Two elements with a comma and a blank between them, cut one behind the other. -/
theorem LexesAs.comma (h : LexesAs text ts) (h' : LexesAs text' ts') :
    LexesAs (text ++ ',' :: ' ' :: text') (ts ++ .comma :: ts') := by
  intro before rest us hbefore hrest hcut
  have hnext : Cut (before ++ text ++ [',', ' ']) (text' ++ rest) (ts' ++ us) :=
    h' ⟨' ', by simp, by decide⟩ hrest (by simpa using hcut)
  have hcomma : Cut (before ++ text) (',' :: ' ' :: (text' ++ rest)) (.comma :: (ts' ++ us)) :=
    .bracket (.blank (by simpa using hnext)) (by decide) (by decide)
  simpa using h hbefore (by simp [closers]) hcomma

/-- Between brackets no slash stands before a text, and a closer stands behind it. -/
theorem LexesAs.enclosed {o k : Char} {t u : Token} (h : LexesAs text ts)
    (ho : (o, t) ∈ punctuation) (ht : t ≠ .not) (hk : (k, u) ∈ punctuation) (hu : u ≠ .not)
    (hclose : k ∈ closers) : LexesAs (o :: text ++ [k]) (t :: ts ++ [u]) := by
  intro before rest us hbefore hrest hcut
  have hend : Cut (before ++ o :: text) (k :: rest) (u :: us) :=
    .bracket (by simpa using hcut) hk hu
  have hslash : o ≠ '/' := by
    rintro rfl
    revert ho
    simp [punctuation]
  have hinside : Cut (before ++ [o]) (text ++ k :: rest) (ts ++ u :: us) :=
    h ⟨o, List.getLast?_concat, hslash⟩ (fun d hd => Option.some.inj hd ▸ hclose)
      (by simpa using hend)
  simpa using hinside.bracket ho ht

/-- A text in parentheses is cut as by itself, since the closing one is a closer. -/
theorem LexesAs.parens (h : LexesAs text ts) :
    LexesAs ('(' :: text ++ [')']) (.openParen :: ts ++ [.closeParen]) :=
  h.enclosed (by decide) (by decide) (by decide) (by decide) (by decide)

/-- A text in brackets is cut as by itself, since the closing one is a closer. -/
theorem LexesAs.brackets (h : LexesAs text ts) :
    LexesAs ('[' :: text ++ [']']) (.openBracket :: ts ++ [.closeBracket]) :=
  h.enclosed (by decide) (by decide) (by decide) (by decide) (by decide)

end

/-! ## Operands -/

/-- An operator between two operands is an expression at the level of the operator, and so at the
top. -/
theorem sentence_binary {op : Operator} {ts us : List Token} {l r : Expr} {m n : Nat}
    (hl : Primary ts l m) (hr : Primary us r n) :
    Sentence (ts ++ .operator op :: us) (.binary op l r) (max m n) := by
  cases hlevel : op.level with
  | relation => exact .single (.single (.more hlevel (.single (.primary hl)) (.primary hr)))
  | both =>
    exact .single (.more hlevel (.single (.single (.primary hl))) (.single (.primary hr)))
  | either =>
    exact .more hlevel (.single (.single (.single (.primary hl))))
      (.single (.single (.primary hr)))

/-- A text is cut into the tokens of an operand.  At most two of them are open at once for each node
of the longest branch.  The text begins with no equals sign, which would make `!=` of a sign. -/
structure ReadsAs (text : String) (e : Expr) : Prop where
  operand : ∃ ts n, LexesAs text.toList ts ∧ Primary ts e n ∧ n < 2 * e.height
  head : ∃ c cs, text.toList = c :: cs ∧ c ≠ '='

section

variable {e l r : Expr} {s t : String}

/-- An operator with its operands is read from the text in parentheses.  It opens one bracket, so
its height covers what the parser nests. -/
theorem ReadsAs.binary (hl : ReadsAs s l) (hr : ReadsAs t r) (op : Operator) :
    ReadsAs ("(" ++ s ++ " " ++ op.spelling ++ " " ++ t ++ ")") (.binary op l r) := by
  obtain ⟨ts, m, hts, hprimary, hm⟩ := hl.operand
  obtain ⟨us, n, hus, hprimary', hn⟩ := hr.operand
  have htext : ("(" ++ s ++ " " ++ op.spelling ++ " " ++ t ++ ")").toList =
      '(' :: (s.toList ++ ' ' :: op.spelling.toList ++ ' ' :: t.toList) ++ [')'] := by simp
  have hcount : max m n + 1 < 2 * (Expr.binary op l r).height := by
    rw [Expr.height]
    omega
  refine ⟨⟨_, _, ?_, .parens (sentence_binary hprimary hprimary'), hcount⟩, '(', _, htext, ?_⟩
  · rw [htext]
    exact (hts.operator hus op).parens
  · decide

/-- A negation is read from the text in parentheses.  It opens a bracket and a sign, which is why a
step of height counts for two of depth. -/
theorem ReadsAs.not (h : ReadsAs s e) : ReadsAs ("(!" ++ s ++ ")") (.not e) := by
  obtain ⟨ts, n, hts, hprimary, hn⟩ := h.operand
  obtain ⟨c, cs, hs, hc⟩ := h.head
  have htext : ("(!" ++ s ++ ")").toList = '(' :: ('!' :: c :: cs) ++ [')'] := by simp [hs]
  have hcount : n + 1 + 1 < 2 * (Expr.not e).height := by
    rw [Expr.height]
    omega
  have hsentence : Sentence (.not :: ts) (.not e) (n + 1) :=
    .single (.single (.single (.not (.primary hprimary))))
  rw [hs] at hts
  refine ⟨⟨_, _, ?_, .parens hsentence, hcount⟩, '(', _, htext, ?_⟩
  · rw [htext]
    exact (hts.not hc).parens
  · decide

/-- Brackets with nothing between them are the empty array. -/
theorem readsAs_emptyArray : ReadsAs "[]" (.array []) where
  operand := ⟨_, _, lexesAs_nil.brackets, .emptyArray, by simp [Expr.height, Expr.heights]⟩
  head := ⟨'[', _, rfl, by decide⟩

/-- An array is read from its elements in brackets, if these are read from the text between. -/
theorem readsAs_array {es : List Expr} {text : String} {ts : List Token} {n : Nat}
    (hlexes : LexesAs text.toList ts) (hitems : Items Primary ts es n)
    (hn : n < 2 * Expr.heights es) : ReadsAs ("[" ++ text ++ "]") (.array es) := by
  have htext : ("[" ++ text ++ "]").toList = '[' :: text.toList ++ [']'] := by simp
  have hcount : n + 1 < 2 * (Expr.array es).height := by
    rw [Expr.height]
    omega
  refine ⟨⟨_, _, ?_, .array hitems, hcount⟩, '[', _, htext, ?_⟩
  · rw [htext]
    exact hlexes.brackets
  · decide

/-- A leaf is one token, and opens nothing. -/
theorem readsAs_leaf {tok : Token} (hl : Spells s.toList tok) (h : Primary [tok] e 0)
    (hhead : ∃ c cs, s.toList = c :: cs ∧ c ≠ '=') (he : e.height = 1) : ReadsAs s e where
  operand := ⟨_, _, lexesAs_token hl, h, by rw [he]; decide⟩
  head := hhead

end

/-- A name does not begin with an equals sign, so a sign in front of it is a negation. -/
theorem ne_equals_of_isNameStart {c : Char} (h : isNameStart c = true) : c ≠ '=' := by
  rintro rfl
  exact absurd h (by decide)

/-- A number does not begin with an equals sign, so a sign in front of it is a negation. -/
theorem ne_equals_of_isDigit {c : Char} (h : Literal.isDigit c = true) : c ≠ '=' := by
  rintro rfl
  exact absurd h (by decide)

/-- A string is read from its text between quotes. -/
theorem readsAs_string {s : String} (h : Body '\'' s.toList) :
    ReadsAs ("'" ++ s ++ "'") (.string s) := by
  have hspells : Spells ('\'' :: s.toList ++ ['\'']) (.string (String.ofList s.toList)) :=
    .string (.inr rfl) h
  rw [String.ofList_toList] at hspells
  refine readsAs_leaf (by simpa using hspells) (.string s) ⟨'\'', s.toList ++ ['\''], ?_, ?_⟩ rfl
  · simp
  · decide

/-- A number is read from any run of digits that denotes it. -/
theorem readsAs_number {ds : List Char} (hne : ds ≠ [])
    (hds : ∀ d ∈ ds, Literal.isDigit d = true) :
    ReadsAs (String.ofList ds) (.number (Literal.digitRun ds)) := by
  refine readsAs_leaf (by simpa using Spells.number hne hds) (.number _) ?_ rfl
  obtain ⟨d, ds, rfl⟩ := List.exists_cons_of_ne_nil hne
  exact ⟨d, ds, String.toList_ofList, ne_equals_of_isDigit (hds d List.mem_cons_self)⟩

/-- A name is read from itself.  It is not the word `in`, which would be read as the operator. -/
theorem readsAs_identifier {name : String} (h : (Expr.identifier name).Spellable) :
    ReadsAs name (.identifier name) := by
  obtain ⟨hin, c, cs, hname, hc, hcs⟩ := h
  have hword : c :: cs ≠ ['i', 'n'] := by
    intro he
    rw [← hname] at he
    exact hin (String.toList_inj.1 he)
  have hspells := Spells.name hc hcs hword
  rw [← hname, String.ofList_toList] at hspells
  exact readsAs_leaf hspells (.identifier name) ⟨c, cs, hname, ne_equals_of_isNameStart hc⟩ rfl

/-- A pattern is read from its body and flags between and behind slashes. -/
theorem readsAs_pattern {body flags : String} (h : (Expr.pattern body flags).Spellable) :
    ReadsAs ("/" ++ body ++ "/" ++ flags) (.pattern body flags) := by
  obtain ⟨hbody, hmarks, hflags⟩ := h
  have htext : '/' :: body.toList ++ '/' :: flags.toList =
      ("/" ++ body ++ "/" ++ flags).toList := by simp
  have hspells := Spells.pattern hmarks hflags
  rw [htext, String.ofList_toList] at hspells
  refine readsAs_leaf hspells (.pattern hbody (not_mem_slash_of_isFlag hflags)) ?_ rfl
  exact ⟨'/', _, htext.symm, by decide⟩

mutual

/-- **Every text of an expression is read as an operand.**  The cases are those of the expression,
with the parts of each read before it. -/
theorem readsAs_of_written {e : Expr} {text : String} (he : ∀ x ∈ e :: e.descendants, x.Spellable)
    (h : Written e text) : ReadsAs text e := by
  cases e with
  | binary op l r =>
    obtain ⟨hel, her⟩ := forall_mem_operands he
    cases h with
    | binary hl hr => exact (readsAs_of_written hel hl).binary (readsAs_of_written her hr) op
  | not e =>
    cases h with
    | not h => exact (readsAs_of_written (List.forall_mem_cons.1 he).2 h).not
  | string s =>
    cases h
    exact readsAs_string (he _ List.mem_cons_self)
  | number n =>
    cases h with
    | number hne hds => exact readsAs_number hne hds
  | identifier name =>
    cases h
    exact readsAs_identifier (he _ List.mem_cons_self)
  | array es =>
    cases h with
    | @array _ ss h =>
      by_cases hne : es = []
      · subst hne
        cases h
        exact readsAs_emptyArray
      · obtain ⟨ts, n, hlexes, hitems, hn⟩ :=
          items_of_written (List.forall_mem_cons.1 he).2 h hne
        exact readsAs_array hlexes hitems hn
  | pattern body flags =>
    cases h
    exact readsAs_pattern (he _ List.mem_cons_self)

/-- The texts of the elements of an array, with commas between them, are read as these elements. -/
theorem items_of_written {es : List Expr} {ss : List String}
    (hes : ∀ x ∈ Expr.descendantsOf es, x.Spellable) (h : List.Forall₂ Written es ss)
    (hne : es ≠ []) :
    ∃ ts n, LexesAs (String.intercalate ", " ss).toList ts ∧ Items Primary ts es n ∧
      n < 2 * Expr.heights es := by
  cases es with
  | nil => exact absurd rfl hne
  | cons e es =>
    rw [Expr.descendantsOf, List.forall_mem_append] at hes
    cases h with
    | @cons _ s _ ss h hs =>
      obtain ⟨ts, m, hts, hprimary, hm⟩ := (readsAs_of_written hes.1 h).operand
      by_cases hnil : es = []
      · subst hnil
        cases hs
        refine ⟨ts, m, ?_, .last hprimary, ?_⟩
        · rwa [String.intercalate_singleton]
        · simpa [Expr.heights] using hm
      · obtain ⟨us, n, hus, hitems, hn⟩ := items_of_written hes.2 hs hnil
        have hss : ss ≠ [] := by
          rintro rfl
          cases hs
          exact hnil rfl
        refine ⟨_, _, ?_, .more hprimary hitems, ?_⟩
        · rw [String.intercalate_cons_of_ne_nil hss]
          simpa using hts.comma hus
        · rw [Expr.heights]
          omega

end

/-! ## Reading texts -/

section

variable {e e' : Expr} {text : String}

/-- Behind a blank a text of an expression is a whole source, a pattern literal too. -/
theorem tokenize_written (he : ∀ x ∈ e :: e.descendants, x.Spellable) (h : Written e text) :
    ∃ ts n, tokenize (" " ++ text) = .ok (ts ++ [.eof]) ∧ Sentence ts e n ∧ n < 2 * e.height := by
  obtain ⟨ts, n, hlexes, hprimary, hn⟩ := (readsAs_of_written he h).operand
  have hend : Cut ([' '] ++ text.toList) [] [] := .blanks (List.forall_mem_nil _)
  have hcut : Cut [' '] (text.toList ++ []) (ts ++ []) :=
    hlexes ⟨' ', rfl, by decide⟩ (by simp) hend
  rw [List.append_nil, List.append_nil] at hcut
  have hsource : Cut [] (' ' :: text.toList) ts := hcut.blank
  refine ⟨ts, n, ?_, .single (.single (.single (.primary hprimary))), hn⟩
  rw [tokenize, String.toList_append]
  exact Cursor.tokens_complete hsource

/-- **No two expressions have a text in common.**  A text is read as one operand, so it can be that
of one expression only. -/
theorem Written.unique (he : ∀ x ∈ e :: e.descendants, x.Spellable)
    (he' : ∀ x ∈ e' :: e'.descendants, x.Spellable) (h : Written e text) (h' : Written e' text) :
    e = e' := by
  obtain ⟨ts, m, hts, hs, -⟩ := tokenize_written he h
  obtain ⟨us, n, hus, hs', -⟩ := tokenize_written he' h'
  rw [hts] at hus
  obtain rfl := List.append_cancel_right (Except.ok.inj hus)
  exact (hs.unique hs').1

/-- **An expression is recovered from its text.**  There is a text, and parsing any of them behind a
blank gives the expression, up to the height that the limit of depth covers. -/
theorem ofSource_written (hheight : e.height ≤ 64)
    (he : ∀ x ∈ e :: e.descendants, x.Spellable) :
    (∃ text, Written e text) ∧
      ∀ text, Written e text → Clause.ofSource (" " ++ text) = .ok ⟨" " ++ text, e⟩ := by
  refine ⟨exists_written he, fun text h => ?_⟩
  obtain ⟨ts, n, htokens, hsentence, hn⟩ := tokenize_written he h
  have hroom : n ≤ maxDepth := by
    rw [maxDepth]
    omega
  have hdepth : e.height ≤ maxDepth := Nat.le_trans hheight (by decide)
  have hparse : parseTokens (ts ++ [.eof]) = .ok e :=
    parseTokens_eq_ok_iff.2 ⟨_, expression_complete hsentence hroom hdepth [] 0, rfl⟩
  exact Clause.ofSource_eq_ok_iff.2 ⟨_, htokens, hparse, rfl⟩

end

/-- The tree of `!(scope =~ /a\/b/i) || kind in ['it\'s', 007]`, with escapes in a pattern and in a
string and with a number that has other texts. -/
def searchOrMember : Expr :=
  .binary .either (.not (.binary .isMatch (.identifier "scope") (.pattern "a\\/b" "i")))
    (.binary .isIn (.identifier "kind")
      (.array [.string "it\\'s", .number (Literal.digitRun ['0', '0', '7'])]))

/-- A tree with every kind of node is spelled, and its text in full parentheses is parsed to it. -/
theorem ofSource_searchOrMember :
    searchOrMember.height ≤ 64 ∧
      (∀ x ∈ searchOrMember :: searchOrMember.descendants, x.Spellable) ∧
      Written searchOrMember "((!(scope =~ /a\\/b/i)) || (kind in ['it\\'s', 007]))" ∧
      Clause.ofSource " ((!(scope =~ /a\\/b/i)) || (kind in ['it\\'s', 007]))" =
        .ok ⟨" ((!(scope =~ /a\\/b/i)) || (kind in ['it\\'s', 007]))", searchOrMember⟩ := by
  have hheight : searchOrMember.height ≤ 64 := by
    simp [searchOrMember, Expr.height, Expr.heights]
  have hscope : (Expr.identifier "scope").Spellable :=
    ⟨by decide, 's', ['c', 'o', 'p', 'e'], rfl, by decide, List.all_eq_true.1 rfl⟩
  have hkind : (Expr.identifier "kind").Spellable :=
    ⟨by decide, 'k', ['i', 'n', 'd'], rfl, by decide, List.all_eq_true.1 rfl⟩
  have hpattern : (Expr.pattern "a\\/b" "i").Spellable :=
    ⟨by decide, .plain (by decide) (by decide) (.escaped (.plain (by decide) (by decide) .nil)),
      List.all_eq_true.1 rfl⟩
  have hstring : (Expr.string "it\\'s").Spellable :=
    .plain (by decide) (by decide) (.plain (by decide) (by decide)
      (.escaped (.plain (by decide) (by decide) .nil)))
  have hdigits : ∀ d ∈ ['0', '0', '7'], Literal.isDigit d = true := List.all_eq_true.1 rfl
  have hnumber : (Expr.number (Literal.digitRun ['0', '0', '7'])).Spellable :=
    ⟨_, by decide, hdigits, rfl⟩
  have hspellable : ∀ x ∈ searchOrMember :: searchOrMember.descendants, x.Spellable := by
    simp only [searchOrMember, Expr.descendants, Expr.descendantsOf, List.cons_append,
      List.nil_append, List.append_nil, List.forall_mem_cons]
    exact ⟨trivial, trivial, trivial, hscope, hpattern, trivial, hkind, trivial, hstring, hnumber,
      List.forall_mem_nil _⟩
  have hwritten : Written searchOrMember
      "((!(scope =~ /a\\/b/i)) || (kind in ['it\\'s', 007]))" :=
    .binary (.not (.binary (.identifier "scope") (.pattern "a\\/b" "i")))
      (.binary (.identifier "kind")
        (.array (.cons (.string "it\\'s") (.cons (.number (by decide) hdigits) .nil))))
  exact ⟨hheight, hspellable, hwritten, (ofSource_written hheight hspellable).2 _ hwritten⟩

end When
end CommitForm
