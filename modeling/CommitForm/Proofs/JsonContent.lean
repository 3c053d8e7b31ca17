/-
# Any JSON value

Readers at a text of a value: what follows is given by lexemes (`Follow`), and a reader agrees with
a result if it gives the result and leaves the lexemes behind the value (`Agrees`).

Any value can be read as far as the branches of a choice look at it (`readContent_gives`), and
skipped (`skipValue_follow`).  Skipping holds the open brackets in a list, however deep a value
nests; what is left of the text is what the brackets still have to hold (`skipRounds_value`).
-/

import CommitForm.Proofs.Decoding
import CommitForm.Proofs.JsonParts

namespace CommitForm
namespace Json

open Document

/-! ## Lexemes at a cursor -/

/-- Lexemes follow at a cursor, with blanks between them as the text has them and nothing behind the
last one. -/
abbrev Follow (ls : List Lexeme) (c : Cursor) : Prop := Written Spells ls c.rest

/-- A digit is no blank, so a number begins where the blanks before it end. -/
theorem isBlank_of_isDigit {c : Char} (h : c.isDigit) : Cursor.isBlank c = false := by
  rw [Cursor.isBlank]
  simp only [Bool.or_eq_false_iff, beq_eq_false_iff_ne]
  refine ⟨⟨⟨?_, ?_⟩, ?_⟩, ?_⟩ <;> (rintro rfl; revert h; decide)

/-- The first character of a lexeme, by which a reader decides what it has in front of it. -/
def Lexeme.StartsWith (a : Char) : Lexeme → Prop
  | .null => a = 'n'
  | .flag true => a = 't'
  | .flag false => a = 'f'
  | .number _ => a = '-' ∨ a.isDigit
  | .text _ | .key _ => a = '"'
  | .listStart => a = '['
  | .listEnd => a = ']'
  | .objectStart => a = '\x7b'
  | .objectEnd => a = '\x7d'
  | .comma => a = ','

/-- A lexeme is spelled by one character at least, the first of which tells its kind and is no
blank. -/
theorem Spells.exists_head {l : Lexeme} {cs : List Char} (h : Spells l cs) :
    ∃ a as, cs = a :: as ∧ l.StartsWith a ∧ Cursor.isBlank a = false := by
  cases h with
  | number h =>
    obtain ⟨hsign, hwhole, -, -⟩ := h
    simp only [List.mem_cons, List.not_mem_nil, or_false] at hsign
    rcases hsign with rfl | rfl
    · obtain ⟨d, ds, rfl⟩ := List.exists_cons_of_ne_nil hwhole.1.1
      have hdigit := hwhole.1.2 d List.mem_cons_self
      exact ⟨d, _, rfl, .inr hdigit, isBlank_of_isDigit hdigit⟩
    · exact ⟨'-', _, rfl, .inl rfl, by decide⟩
  | _ => exact ⟨_, _, rfl, rfl, by decide⟩

/-- Dropping the blanks before a lexeme leaves the lexeme, since it begins with something else. -/
theorem dropWhile_blank {ws cs : List Char} (hws : AreBlank ws) {a : Char} {as : List Char}
    (hcs : cs = a :: as) (ha : Cursor.isBlank a = false) :
    (ws ++ cs).dropWhile Cursor.isBlank = cs := by
  rw [List.dropWhile_append_of_pos hws, hcs, List.dropWhile_cons_of_neg (by simp [ha])]

/-- The cursor behind the blanks before a lexeme, where its characters begin and the further lexemes
follow behind them. -/
theorem Follow.exists_lexeme {l : Lexeme} {ls : List Lexeme} {c : Cursor} (h : Follow (l :: ls) c) :
    ∃ cs rest, c.skipBlanks.rest = cs ++ rest ∧ Spells l cs ∧ Written Spells ls rest := by
  obtain ⟨text, hrest⟩ : ∃ text, c.rest = text := ⟨_, rfl⟩
  rw [Follow, hrest] at h
  cases h with
  | @cons _ _ ws cs rest hws hl h =>
    obtain ⟨a, as, hcs, -, ha⟩ := hl.exists_head
    refine ⟨cs, rest, ?_, hl, h⟩
    rw [Cursor.rest_skipBlanks, hrest]
    exact dropWhile_blank hws (by rw [hcs]; rfl) ha

/-- Skipping blanks changes nothing about the lexemes that follow. -/
theorem Follow.skipBlanks {l : Lexeme} {ls : List Lexeme} {c : Cursor} (h : Follow (l :: ls) c) :
    Follow (l :: ls) c.skipBlanks := by
  obtain ⟨cs, rest, hrest, hl, hls⟩ := h.exists_lexeme
  rw [Follow, hrest]
  exact .put hl hls

/-- The next character behind the blanks is one that the next lexeme can begin with. -/
theorem Follow.peek {l : Lexeme} {ls : List Lexeme} {c : Cursor} (h : Follow (l :: ls) c) :
    ∃ a, c.skipBlanks.peek = some a ∧ l.StartsWith a := by
  obtain ⟨cs, rest, hrest, hl, -⟩ := h.exists_lexeme
  obtain ⟨a, as, rfl, ha, -⟩ := hl.exists_head
  exact ⟨a, by rw [Cursor.peek_eq, hrest]; rfl, ha⟩

/-- Where no lexeme follows, there are only blanks up to the end of the text. -/
theorem Follow.nil {c : Cursor} (h : Follow [] c) : c.skipBlanks.peek = none := by
  obtain ⟨text, hrest⟩ : ∃ text, c.rest = text := ⟨_, rfl⟩
  rw [Follow, hrest] at h
  cases h with
  | nil hws =>
    have hdrop : (text ++ []).dropWhile Cursor.isBlank = [].dropWhile Cursor.isBlank :=
      List.dropWhile_append_of_pos hws
    rw [List.append_nil] at hdrop
    rw [Cursor.peek_eq, Cursor.rest_skipBlanks, hrest, hdrop]
    rfl

/-- The lexemes that are a single character, brackets and commas, to treat them alike. -/
def Lexeme.char? : Lexeme → Option Char
  | .listStart => some '['
  | .listEnd => some ']'
  | .objectStart => some '\x7b'
  | .objectEnd => some '\x7d'
  | .comma => some ','
  | _ => none

/-- A lexeme of a single character is that character behind the blanks, and the further lexemes
follow behind it. -/
theorem Follow.char {l : Lexeme} {ls : List Lexeme} {c : Cursor} (h : Follow (l :: ls) c) {a : Char}
    (ha : l.char? = some a) : c.skipBlanks.peek = some a ∧ Follow ls c.skipBlanks.advance := by
  obtain ⟨cs, rest, hrest, hl, hls⟩ := h.exists_lexeme
  have hcs : cs = [a] := by
    cases hl <;> first | exact congrArg (· :: []) (Option.some.inj ha) | cases ha
  subst hcs
  refine ⟨by rw [Cursor.peek_eq, hrest]; rfl, ?_⟩
  rw [Follow, Cursor.rest_advance, hrest]
  exact hls

/-- The lexemes that are a word: the first letter, by which a reader knows it, and the others. -/
def Lexeme.word? : Lexeme → Option (Char × List Char)
  | .null => some ('n', ['u', 'l', 'l'])
  | .flag true => some ('t', ['r', 'u', 'e'])
  | .flag false => some ('f', ['a', 'l', 's', 'e'])
  | _ => none

/-- A word is its first letter and then the others, with the further lexemes behind them. -/
theorem Follow.word {l : Lexeme} {ls : List Lexeme} {c : Cursor} (h : Follow (l :: ls) c) {a : Char}
    {word : List Char} (hword : l.word? = some (a, word)) :
    c.skipBlanks.peek = some a ∧ ∃ rest, c.skipBlanks.advance.rest = word ++ rest ∧
      Written Spells ls rest := by
  obtain ⟨cs, rest, hrest, hl, hls⟩ := h.exists_lexeme
  have hcs : cs = a :: word := by
    cases hl <;> first
      | (obtain ⟨rfl, rfl⟩ := Prod.mk.inj (Option.some.inj hword); rfl)
      | cases hword
  subst hcs
  refine ⟨by rw [Cursor.peek_eq, hrest]; rfl, rest, ?_, hls⟩
  rw [Cursor.rest_advance, hrest]
  rfl

/-- A text begins with a quote, and its characters are spelled up to the closing quote. -/
theorem Follow.text {s : String} {ls : List Lexeme} {c : Cursor} (h : Follow (.text s :: ls) c) :
    c.skipBlanks.peek = some '"' ∧ ∃ body rest, c.skipBlanks.advance.rest = body ++ '"' :: rest ∧
      SpellsText s.toList body ∧ Written Spells ls rest := by
  obtain ⟨cs, rest, hrest, hl, hls⟩ := h.exists_lexeme
  cases hl with
  | @text _ body hbody =>
    refine ⟨by rw [Cursor.peek_eq, hrest]; rfl, body, rest, ?_, hbody, hls⟩
    rw [Cursor.rest_advance, hrest]
    simp

/-- A key is a text with a colon behind it, and there may be blanks before the colon. -/
theorem Follow.key {k : String} {ls : List Lexeme} {c : Cursor} (h : Follow (.key k :: ls) c) :
    c.skipBlanks.peek = some '"' ∧ ∃ body ws rest,
      c.skipBlanks.advance.rest = body ++ '"' :: (ws ++ ':' :: rest) ∧
      SpellsText k.toList body ∧ AreBlank ws ∧ Written Spells ls rest := by
  obtain ⟨cs, rest, hrest, hl, hls⟩ := h.exists_lexeme
  cases hl with
  | @key _ body ws hbody hws =>
    refine ⟨by rw [Cursor.peek_eq, hrest]; rfl, body, ws, rest, ?_, hbody, hws, hls⟩
    rw [Cursor.rest_advance, hrest]
    simp

/-- The parts of a number that follows, the sign apart, as the reader of numbers takes them one by
one. -/
theorem Follow.number {cs : List Char} {ls : List Lexeme} {c : Cursor}
    (h : Follow (.number cs :: ls) c) : ∃ whole fraction exponent rest,
      IsWhole whole ∧ IsFraction fraction ∧ IsExponent exponent ∧ Written Spells ls rest ∧
      (cs = '-' :: (whole ++ (fraction ++ exponent)) ∧ c.skipBlanks.peek = some '-' ∧
          c.skipBlanks.advance.rest = whole ++ (fraction ++ (exponent ++ rest)) ∨
        cs = whole ++ (fraction ++ exponent) ∧ (∃ d, c.skipBlanks.peek = some d ∧ d.isDigit) ∧
          c.skipBlanks.rest = whole ++ (fraction ++ (exponent ++ rest))) := by
  obtain ⟨cs', rest, hrest, hl, hls⟩ := h.exists_lexeme
  cases hl with
  | number hcs =>
    obtain @⟨sign, whole, fraction, exponent, hsign, hwhole, hfraction, hexponent⟩ := hcs
    refine ⟨whole, fraction, exponent, rest, hwhole, hfraction, hexponent, hls, ?_⟩
    simp only [List.append_assoc] at hrest
    simp only [List.mem_cons, List.not_mem_nil, or_false] at hsign
    rcases hsign with rfl | rfl
    · obtain ⟨d, ds, hd⟩ := List.exists_cons_of_ne_nil hwhole.1.1
      refine .inr ⟨rfl, ⟨d, ?_, hwhole.1.2 d (hd ▸ List.mem_cons_self)⟩, hrest⟩
      rw [Cursor.peek_eq, hrest, hd]
      rfl
    · refine .inl ⟨rfl, by rw [Cursor.peek_eq, hrest]; rfl, ?_⟩
      rw [Cursor.rest_advance, hrest]
      rfl

/-! ## Agreement -/

/-- A reader agrees with a result: it gives the result and leaves lexemes, or fails if there is
none. -/
def Agrees {α : Type} (ls : List Lexeme) : Option α → Outcome α → Prop
  | some a, r => ∃ c, r = .ok (a, c) ∧ Follow ls c
  | none, r => ∃ e, r = .error e

/-- Agreement is kept where what was read and what was decoded are turned into something else in the
same way. -/
theorem Agrees.map {α β : Type} {ls : List Lexeme} {o : Option α} {r : Outcome α}
    (h : Agrees ls o r) (f : α → β) : Agrees ls (o.map f) (r.map fun x => (f x.1, x.2)) := by
  cases o with
  | none =>
    obtain ⟨e, rfl⟩ := h
    exact ⟨e, rfl⟩
  | some a =>
    obtain ⟨c, rfl, hc⟩ := h
    exact ⟨c, rfl, hc⟩

/-- A reader that gives a result and leaves the right text agrees with that result. -/
theorem Agrees.of_leaves {α : Type} {ls : List Lexeme} {a : α} {r : Outcome α} {rest : List Char}
    (h : Leaves r a rest) (hrest : Written Spells ls rest) : Agrees ls (some a) r := by
  obtain ⟨c, rfl, rfl⟩ := h
  exact ⟨c, rfl, hrest⟩

/-- What may stand behind a value: the end of the text, or a comma or closing bracket. -/
def EndsValue : List Lexeme → Prop
  | [] | .listEnd :: _ | .objectEnd :: _ | .comma :: _ => True
  | _ => False

/-- What ends a value ends a number, since it is a comma, a closing bracket or the end of the
text. -/
theorem EndsValue.endsNumber {ls : List Lexeme} (h : EndsValue ls) {rest : List Char}
    (hrest : Written Spells ls rest) : EndsNumber rest := by
  have hblank {c : Char} (hc : Cursor.isBlank c) :
      c.isDigit = false ∧ c ≠ '.' ∧ c ≠ 'e' ∧ c ≠ 'E' := by
    simp only [Cursor.isBlank, Bool.or_eq_true, beq_iff_eq] at hc
    rcases hc with ((rfl | rfl) | rfl) | rfl <;> decide
  cases hrest with
  | nil hws => exact fun c hc => hblank (hws c (List.mem_of_mem_head? hc))
  | @cons l ls ws cs rest hws hl _ =>
    intro c hc
    cases ws with
    | cons w ws =>
      obtain rfl := Option.some.inj hc
      exact hblank (hws w List.mem_cons_self)
    | nil =>
      cases hl with
      | listEnd | objectEnd | comma =>
        obtain rfl := Option.some.inj hc
        decide
      | _ => exact h.elim

/-! ## Items and entries -/

/-- The separator before an item is a comma, unless the item is the first. -/
theorem separator_append (first : Bool) (ls : List Lexeme) :
    separator first ++ ls = if first then ls else .comma :: ls := by
  cases first <;> rfl

/-- The first lexeme of a value, which begins with no closing bracket and no comma, so a value is
told from the end of a list. -/
theorem Value.exists_lexeme (v : Value) : ∃ l ls, v.lexemes = l :: ls ∧
    (∀ a, l.StartsWith a → a ≠ ']' ∧ a ≠ '\x7d' ∧ a ≠ ',') := by
  have hdigit {a : Char} (h : a = '-' ∨ a.isDigit) : a ≠ ']' ∧ a ≠ '\x7d' ∧ a ≠ ',' := by
    refine ⟨?_, ?_, ?_⟩ <;> (rintro rfl; revert h; decide)
  cases v with
  | number cs => exact ⟨.number cs, [], by rw [Value.lexemes], fun a ha => hdigit ha⟩
  | flag b =>
    refine ⟨_, _, by rw [Value.lexemes], fun a ha => ?_⟩
    cases b <;> (obtain rfl : a = _ := ha; decide)
  | _ =>
    refine ⟨_, _, by rw [Value.lexemes], fun a ha => ?_⟩
    obtain rfl : a = _ := ha
    decide

/-- With no item left the reader finds the closing bracket and answers that there is none. -/
theorem hasItem_nil {first : Bool} {ls : List Lexeme} {c : Cursor}
    (h : Follow (itemLexemes first [] ++ ls) c) :
    ∃ c', hasItem first c = .ok (false, c') ∧ Follow (.listEnd :: ls) c' := by
  rw [itemLexemes] at h
  refine ⟨c.skipBlanks, ?_, Follow.skipBlanks h⟩
  rw [hasItem, (Follow.char h rfl).1]
  rfl

/-- With an item left the reader passes the comma, if there has to be one, and stands before the
item. -/
theorem hasItem_cons {first : Bool} {v : Value} {vs : List Value} {ls : List Lexeme} {c : Cursor}
    (h : Follow (itemLexemes first (v :: vs) ++ ls) c) :
    ∃ c', hasItem first c = .ok (true, c') ∧
      Follow (v.lexemes ++ (itemLexemes false vs ++ ls)) c' := by
  obtain ⟨l, ls', hl, hstart⟩ := v.exists_lexeme
  rw [itemLexemes, List.append_assoc, List.append_assoc, separator_append] at h
  cases first with
  | true =>
    rw [if_pos rfl, hl, List.cons_append] at h
    obtain ⟨a, hpeek, ha⟩ := h.peek
    refine ⟨c.skipBlanks, ?_, ?_⟩
    · rw [hasItem, hpeek]
      dsimp only
      split
      · next he => cases he
      · next he => exact absurd (Option.some.inj he) (hstart a ha).1
      · rfl
    · rw [hl]
      exact h.skipBlanks
  | false =>
    rw [if_neg Bool.false_ne_true] at h
    obtain ⟨hcomma, h⟩ := h.char rfl
    rw [hl, List.cons_append] at h
    obtain ⟨a, hpeek, ha⟩ := h.peek
    refine ⟨c.skipBlanks.advance.skipBlanks, ?_, ?_⟩
    · rw [hasItem, hcomma]
      simp only [hpeek]
      split
      · next he => cases he
      · next he => cases he
      · next he =>
        rw [if_neg Bool.false_ne_true, if_pos (Option.some.inj he).symm]
        split
        · next he => cases he
        · next he => exact absurd (Option.some.inj he) (hstart a ha).1
        · rfl
    · rw [hl]
      exact h.skipBlanks

/-- With no entry left the reader finds the closing brace and answers that there is none. -/
theorem hasEntry_nil {first : Bool} {ls : List Lexeme} {c : Cursor}
    (h : Follow (entryLexemes first [] ++ ls) c) :
    ∃ c', hasEntry first c = .ok (false, c') ∧ Follow (.objectEnd :: ls) c' := by
  rw [entryLexemes] at h
  refine ⟨c.skipBlanks, ?_, Follow.skipBlanks h⟩
  rw [hasEntry, (Follow.char h rfl).1]
  rfl

/-- With an entry left the reader passes the comma, if there has to be one, and stands before the
quote of the key. -/
theorem hasEntry_cons {first : Bool} {k : String} {v : Value} {bs : List (String × Value)}
    {ls : List Lexeme} {c : Cursor} (h : Follow (entryLexemes first ((k, v) :: bs) ++ ls) c) :
    ∃ c', hasEntry first c = .ok (true, c') ∧ ∃ body ws rest,
      c'.advance.rest = body ++ '"' :: (ws ++ ':' :: rest) ∧ SpellsText k.toList body ∧
      AreBlank ws ∧ Written Spells (v.lexemes ++ (entryLexemes false bs ++ ls)) rest := by
  replace h : Follow (separator first ++ .key k :: (v.lexemes ++
      (entryLexemes false bs ++ ls))) c := by simpa [entryLexemes] using h
  rw [separator_append] at h
  cases first with
  | true =>
    rw [if_pos rfl] at h
    obtain ⟨hpeek, hkey⟩ := Follow.key h
    refine ⟨c.skipBlanks, ?_, hkey⟩
    rw [hasEntry, hpeek]
    rfl
  | false =>
    rw [if_neg Bool.false_ne_true] at h
    obtain ⟨hcomma, h⟩ := Follow.char h rfl
    obtain ⟨hpeek, hkey⟩ := Follow.key h
    refine ⟨c.skipBlanks.advance.skipBlanks, ?_, hkey⟩
    rw [hasEntry, hcomma]
    simp only [hpeek]
    rfl

/-- The colon behind a key is read with the blanks before it. -/
theorem readColon_leaves {ws rest : List Char} (hws : AreBlank ws) {c : Cursor}
    (h : c.rest = ws ++ ':' :: rest) : Leaves (readColon c) () rest := by
  have hskip : c.skipBlanks.rest = ':' :: rest := by
    rw [Cursor.rest_skipBlanks, h]
    exact dropWhile_blank hws rfl (by decide)
  have hpeek : c.skipBlanks.peek = some ':' := by rw [Cursor.peek_eq, hskip]; rfl
  refine ⟨c.skipBlanks.advance, ?_, by rw [Cursor.rest_advance, hskip]; rfl⟩
  rw [readColon, hpeek]
  rfl

/-- A key is read with its colon, and the reader stands before the value. -/
theorem readString_key {k : String} {body ws rest : List Char} (hbody : SpellsText k.toList body)
    (hws : AreBlank ws) {c : Cursor} (h : c.rest = body ++ '"' :: (ws ++ ':' :: rest)) :
    ∃ c', readString c = .ok (k, c') ∧ Leaves (readColon c') () rest := by
  obtain ⟨c', hread, hrest⟩ := readString_leaves hbody h
  exact ⟨c', hread, readColon_leaves hws hrest⟩

/-- At a closing bracket a list ends without a fault, and the further lexemes follow behind it. -/
theorem endList_eq {ls : List Lexeme} {c : Cursor} (h : Follow (.listEnd :: ls) c) :
    ∃ c', endList c = (none, c') ∧ Follow ls c' := by
  obtain ⟨hpeek, hls⟩ := h.char rfl
  refine ⟨c.skipBlanks.advance, ?_, hls⟩
  rw [endList, hpeek]
  rfl

/-- At a closing brace an object ends without a fault, and the further lexemes follow behind it. -/
theorem endObject_eq {ls : List Lexeme} {c : Cursor} (h : Follow (.objectEnd :: ls) c) :
    ∃ c', endObject c = (none, c') ∧ Follow ls c' := by
  obtain ⟨hpeek, hls⟩ := h.char rfl
  refine ⟨c.skipBlanks.advance, ?_, hls⟩
  rw [endObject, hpeek]
  rfl

/-- Closing a bracket keeps agreement, if the bracket follows where the reader inside stopped. -/
theorem Agrees.closing {α : Type} {l : Lexeme} {ls : List Lexeme}
    {close : Cursor → Option Fault × Cursor}
    (hclose : ∀ c, Follow (l :: ls) c → ∃ c', close c = (none, c') ∧ Follow ls c')
    {o : Option α} {r : Outcome α} (h : Agrees (l :: ls) o r) : Agrees ls o (closing close r) := by
  cases o with
  | none =>
    obtain ⟨e, rfl⟩ := h
    cases e with
    | placed e => exact ⟨_, rfl⟩
    | unplaced m c => exact ⟨_, rfl⟩
  | some a =>
    obtain ⟨c, rfl, hc⟩ := h
    obtain ⟨c', hclosed, hls⟩ := hclose c hc
    refine ⟨c', ?_, hls⟩
    rw [Json.closing, hclosed]

/-- There are not more lexemes than characters, which is why the length of the text suffices as
fuel. -/
theorem Written.length_le {ls : List Lexeme} {cs : List Char} (h : Written Spells ls cs) :
    ls.length ≤ cs.length := by
  induction h with
  | nil => exact Nat.zero_le _
  | cons _ hl _ ih =>
    obtain ⟨a, as, rfl, -⟩ := hl.exists_head
    simp only [List.length_append, List.length_cons]
    omega

/-- There are fewer items than lexemes, since the closing bracket is one too. -/
theorem length_le_itemLexemes (first : Bool) (vs : List Value) :
    vs.length < (itemLexemes first vs).length := by
  induction vs generalizing first with
  | nil => exact Nat.zero_lt_one
  | cons v vs ih =>
    obtain ⟨l, ls, hl, -⟩ := v.exists_lexeme
    have := ih false
    rw [itemLexemes]
    simp only [List.length_append, List.length_cons, hl]
    omega

/-- There are fewer entries than lexemes, since the closing brace is one too. -/
theorem length_le_entryLexemes (first : Bool) (bs : List (String × Value)) :
    bs.length < (entryLexemes first bs).length := by
  induction bs generalizing first with
  | nil => exact Nat.zero_lt_one
  | cons b bs ih =>
    have := ih false
    rw [entryLexemes]
    simp only [List.length_append, List.length_cons]
    omega

/-- Behind an item a value ends: a comma or the closing bracket follows. -/
theorem endsValue_items (vs : List Value) (ls : List Lexeme) :
    EndsValue (itemLexemes false vs ++ ls) := by
  cases vs <;> exact trivial

/-- Behind an entry a value ends: a comma or the closing brace follows. -/
theorem endsValue_entries (bs : List (String × Value)) (ls : List Lexeme) :
    EndsValue (entryLexemes false bs ++ ls) := by
  rcases bs with _ | ⟨⟨k, v⟩, bs⟩ <;> exact trivial

/-- A reader of values agrees with a decoder on one value, wherever it stands and whatever ends
it. -/
def AgreesOn {α : Type} (v : Value) (o : Option α) (read : Cursor → Outcome α) : Prop :=
  ∀ ls c, EndsValue ls → Follow (v.lexemes ++ ls) c → Agrees ls o (read c)

/-- Reading items agrees with decoding them, if reading one does, by induction on the items. -/
theorem readItems_agrees {α : Type} {item : Cursor → Outcome α} {decode : Value → Option α}
    {vs : List Value} (hitem : ∀ v ∈ vs, AgreesOn v (decode v) item) {fuel : Nat}
    (hfuel : vs.length < fuel) {first : Bool} {ls : List Lexeme} {c : Cursor}
    (h : Follow (itemLexemes first vs ++ ls) c) :
    Agrees (.listEnd :: ls) (vs.mapM decode) (readItems item fuel first c) := by
  induction vs generalizing fuel first c with
  | nil =>
    obtain ⟨fuel, rfl⟩ : ∃ n, fuel = n + 1 := ⟨fuel - 1, by omega⟩
    obtain ⟨c', hread, hc'⟩ := hasItem_nil h
    exact ⟨c', by rw [readItems, hread]; rfl, hc'⟩
  | cons v vs ih =>
    obtain ⟨fuel, rfl⟩ : ∃ n, fuel = n + 1 := ⟨fuel - 1, by omega⟩
    simp only [List.length_cons, Nat.add_lt_add_iff_right] at hfuel
    obtain ⟨c', hread, hc'⟩ := hasItem_cons h
    have hv := hitem v List.mem_cons_self _ c' (endsValue_items vs ls) hc'
    rw [readItems, hread, List.mapM_cons]
    cases hd : decode v with
    | none =>
      rw [hd] at hv
      obtain ⟨e, he⟩ := hv
      exact ⟨e, by simp [he]⟩
    | some a =>
      rw [hd] at hv
      obtain ⟨c'', he, hc''⟩ := hv
      have hvs := ih (fun v hv => hitem v (List.mem_cons_of_mem _ hv)) hfuel hc''
      have hcons : (some a >>= fun a => vs.mapM decode >>= fun as => pure (a :: as)) =
          (vs.mapM decode).map (a :: ·) := by
        cases vs.mapM decode <;> rfl
      simp only [he, hcons]
      exact hvs.map (a :: ·)

/-- The fuel that the reader of items takes from the length of the text exceeds the number of
items. -/
theorem length_lt_of_items {first : Bool} {vs : List Value} {ls : List Lexeme} {c : Cursor}
    {n : Nat} (h : Follow (itemLexemes first vs ++ ls) c) (hn : c.rest.length ≤ n) :
    vs.length < n + 1 := by
  have hwritten := h.length_le
  have hitems := length_le_itemLexemes first vs
  simp only [List.length_append] at hwritten
  omega

/-- The fuel that the reader of entries takes from the length of the text exceeds the number of
entries. -/
theorem length_lt_of_entries {first : Bool} {bs : List (String × Value)} {ls : List Lexeme}
    {c : Cursor} {n : Nat} (h : Follow (entryLexemes first bs ++ ls) c) (hn : c.rest.length ≤ n) :
    bs.length < n + 1 := by
  have hwritten := h.length_le
  have hentries := length_le_entryLexemes first bs
  simp only [List.length_append] at hwritten
  omega

/-- Going one character on does not make the rest of the text longer. -/
theorem length_advance_le (c : Cursor) : c.advance.rest.length ≤ c.rest.length := by
  rw [Cursor.rest_advance]
  exact List.tail_sublist _ |>.length_le

/-! ## Any value -/

/-- A reader gives a result and leaves lexemes, or fails for a reason, which is what can be said
where numbers may be refused. -/
def Gives {α : Type} (ls : List Lexeme) (a : α) (reason : Prop) (r : Outcome α) : Prop :=
  (∃ c, r = .ok (a, c) ∧ Follow ls c) ∨ (∃ e, r = .error e) ∧ reason

/-- A reader that gives the result and leaves the right text gives it without a reason to fail. -/
theorem Gives.of_leaves {α : Type} {ls : List Lexeme} {a : α} {reason : Prop} {r : Outcome α}
    {rest : List Char} (h : Leaves r a rest) (hrest : Written Spells ls rest) :
    Gives ls a reason r := by
  obtain ⟨c, rfl, rfl⟩ := h
  exact .inl ⟨c, rfl, hrest⟩

/-- What a reader gives is turned into something else together with its result, and the reason
stays. -/
theorem Gives.map {α β : Type} {ls : List Lexeme} {a : α} {reason : Prop} {r : Outcome α}
    (h : Gives ls a reason r) (f : α → β) :
    Gives ls (f a) reason (r.map fun x => (f x.1, x.2)) := by
  rcases h with ⟨c, rfl, hc⟩ | ⟨⟨e, rfl⟩, hreason⟩
  · exact .inl ⟨c, rfl, hc⟩
  · exact .inr ⟨⟨e, rfl⟩, hreason⟩

/-- A reason to fail may be replaced by a weaker one. -/
theorem Gives.mono {α : Type} {ls : List Lexeme} {a : α} {reason reason' : Prop} {r : Outcome α}
    (h : Gives ls a reason r) (hreason : reason → reason') : Gives ls a reason' r :=
  h.imp_right (And.imp_right hreason)

/-- Closing a bracket keeps what a reader gives, if the bracket follows where it stopped. -/
theorem Gives.closing {α : Type} {l : Lexeme} {ls : List Lexeme}
    {close : Cursor → Option Fault × Cursor}
    (hclose : ∀ c, Follow (l :: ls) c → ∃ c', close c = (none, c') ∧ Follow ls c')
    {a : α} {reason : Prop} {r : Outcome α} (h : Gives (l :: ls) a reason r) :
    Gives ls a reason (closing close r) := by
  rcases h with ⟨c, hc⟩ | ⟨he, hreason⟩
  · exact .inl (Agrees.closing (o := some a) hclose ⟨c, hc⟩)
  · exact .inr ⟨Agrees.closing (o := (none : Option α)) hclose he, hreason⟩

/-- A text or a list of texts, the only values that the branches of a choice take. -/
def Value.IsPlain : Value → Prop
  | .text _ => True
  | .list vs => ∀ v ∈ vs, ∃ s, v = .text s
  | _ => False

/-- Only texts and lists of texts fit a branch, so for other values it does not matter what a reader
makes of them. -/
theorem firstFit?_of_not_isPlain {v : Value} (h : ¬ v.IsPlain) (branches : List Shape) :
    v.content.firstFit? branches = none := by
  rw [Content.firstFit?, List.findSome?_eq_none_iff]
  intro branch _
  cases v with
  | text s => exact absurd trivial h
  | list vs =>
    rw [Value.content]
    have hnone : (contents vs).mapM Content.text? = none := by
      induction vs with
      | nil => exact absurd (fun _ hv => absurd hv List.not_mem_nil) h
      | cons v vs ih =>
        rw [contents, List.mapM_cons]
        cases v with
        | text s =>
          have hvs : ¬ (Value.list vs).IsPlain := fun hvs =>
            h (List.forall_mem_cons.2 ⟨⟨s, rfl⟩, hvs⟩)
          rw [ih hvs]
          rfl
        | _ => rfl
    cases branch with
    | list item =>
      cases item with
      | text => rw [Content.fit?, hnone]; rfl
      | _ => rfl
    | _ => rfl
  | _ => cases branch <;> rfl

/-- A number is read to its end, or refused; either way it counts as a value that fits no branch. -/
theorem Stops.gives {result : Numeral → Prop} {rest : List Char} {r : Outcome Numeral}
    (h : Stops result rest r) {ls : List Lexeme} (hrest : Written Spells ls rest) {α : Type}
    (a : α) : Gives ls a True (r.map fun x => (a, x.2)) := by
  cases hr : r with
  | error e => exact .inr ⟨⟨e, rfl⟩, trivial⟩
  | ok x =>
    obtain ⟨n, c⟩ := x
    obtain ⟨-, rfl⟩ := h n c hr
    exact .inl ⟨c, rfl, hrest⟩

/-- Any number is read to its end or refused, whatever its sign and its parts are. -/
theorem readNumeral_any {positive : Bool} {whole fraction exponent rest : List Char}
    (hwhole : IsWhole whole) (hfraction : IsFraction fraction) (hexponent : IsExponent exponent)
    (hrest : EndsNumber rest) {c : Cursor}
    (h : c.rest = whole ++ (fraction ++ (exponent ++ rest))) :
    Stops (fun _ => True) rest (readNumeral positive c) := by
  by_cases hplain : positive ∧ fraction = [] ∧ exponent = [] ∧
      Nat.ofDigitChars 10 whole 0 ≤ maxWord
  · obtain ⟨rfl, rfl, rfl, hmax⟩ := hplain
    obtain ⟨c', hread, hc'⟩ := readNumeral_whole hwhole hmax hrest h
    rw [hread]
    exact .ok trivial hc'
  · exact fun n c' he =>
      ⟨trivial, (readNumeral_stops hwhole hfraction hexponent hrest hplain h n c' he).2⟩

/-- Why reading any value may fail: it is no text, and fits no branch where a list may be opened. -/
def Value.IsOdd (depth : Nat) (v : Value) : Prop :=
  (∀ s, v ≠ .text s) ∧ (2 ≤ depth → ¬ v.IsPlain)

/-- A value that begins with a digit is read as a number, of which only its end is kept. -/
theorem readContent_digit {d : Char} {c : Cursor} (hpeek : c.skipBlanks.peek = some d)
    (hdigit : d.isDigit) (depth : Nat) :
    readContent depth c = (readNumeral true c.skipBlanks).map fun x => (.other, x.2) := by
  rw [readContent.eq_def]
  simp only [hpeek]
  split
  case h_1 he => cases he
  case h_9 he => rw [if_pos (Option.some.inj he ▸ hdigit)]
  -- No other value begins with a digit.
  all_goals next he => exact absurd (Option.some.inj he ▸ hdigit) (by decide)

/-- A number is read as a value that fits no branch, or refused because it is too large. -/
theorem readContent_number {cs : List Char} {ls : List Lexeme} {c : Cursor} (hls : EndsValue ls)
    (h : Follow (.number cs :: ls) c) (depth : Nat) :
    Gives ls .other True (readContent depth c) := by
  obtain ⟨whole, fraction, exponent, rest, hwhole, hfraction, hexponent, hrest, hparts⟩ := h.number
  have hends := hls.endsNumber hrest
  rcases hparts with ⟨-, hpeek, hbehind⟩ | ⟨-, ⟨d, hpeek, hdigit⟩, hbehind⟩
  · rw [readContent.eq_def]
    simp only [hpeek]
    exact (readNumeral_any hwhole hfraction hexponent hends hbehind).gives hrest _
  · rw [readContent_digit hpeek hdigit]
    exact (readNumeral_any hwhole hfraction hexponent hends hbehind).gives hrest _

mutual

/-- **Any value is read** as its content; one that is refused is no text, and no list of texts
either if there is room for two levels. -/
theorem readContent_gives : (v : Value) → ∀ depth ls c, EndsValue ls →
    Follow (v.lexemes ++ ls) c → Gives ls v.content (v.IsOdd depth) (readContent depth c)
  | .null, depth, ls, c, _, h => by
    obtain ⟨hpeek, rest, hword, hrest⟩ := h.word rfl
    rw [readContent.eq_def]
    simp only [hpeek]
    exact .of_leaves ((readWord_leaves hword).map fun _ => Content.other) hrest
  | .flag b, depth, ls, c, _, h => by
    cases b <;>
    · obtain ⟨hpeek, rest, hword, hrest⟩ := Follow.word h rfl
      rw [readContent.eq_def]
      simp only [hpeek]
      exact .of_leaves ((readWord_leaves hword).map fun _ => Content.other) hrest
  | .number _, depth, _, _, hls, h =>
    (readContent_number hls h depth).mono fun _ => ⟨nofun, fun _ => id⟩
  | .text s, depth, ls, c, _, h => by
    obtain ⟨hpeek, body, rest, hbody, hspells, hrest⟩ := h.text
    rw [readContent.eq_def]
    simp only [hpeek]
    exact .of_leaves ((readString_leaves hspells hbody).map Content.text) hrest
  | .list vs, depth, ls, c, _, h => by
    obtain ⟨hpeek, hitems⟩ := h.char rfl
    rw [readContent.eq_def]
    simp only [hpeek]
    split
    · next depth =>
      have hlength := length_lt_of_items hitems (length_advance_le _)
      have hgives := readContents_give vs (depth + 1) ls hlength hitems
      refine ((hgives.map Content.list).closing fun c => endList_eq).mono ?_
      rintro ⟨v, hv, hodd⟩
      exact ⟨nofun, fun _ hplain => (hplain v hv).elim hodd⟩
    · next hsmall =>
      refine .inr ⟨⟨_, rfl⟩, nofun, fun hdepth => ?_⟩
      exact absurd (Nat.sub_add_cancel hdepth).symm (hsmall (depth - 2))
  | .object bs, depth, ls, c, _, h => by
    obtain ⟨hpeek, hentries⟩ := h.char rfl
    have hodd : True → (Value.object bs).IsOdd depth := fun _ => ⟨nofun, fun _ => id⟩
    rw [readContent.eq_def]
    simp only [hpeek]
    split
    · next depth =>
      have hlength := length_lt_of_entries hentries (length_advance_le _)
      obtain ⟨a, hgives⟩ := readContentEntries_give bs (depth + 1) ls hlength hentries
      exact ((hgives.map fun _ => Content.other).closing fun c => endObject_eq).mono hodd
    · exact .inr ⟨⟨_, rfl⟩, hodd trivial⟩

/-- The items of a list are read as the contents of a list, unless one of them is no text. -/
theorem readContents_give : (vs : List Value) → ∀ depth ls {fuel first c}, vs.length < fuel →
    Follow (itemLexemes first vs ++ ls) c →
    Gives (.listEnd :: ls) (contents vs) (∃ v ∈ vs, ∀ s, v ≠ .text s)
      (readItems (readContent depth) fuel first c)
  | [], depth, ls, fuel, first, c, hfuel, h => by
    obtain ⟨fuel, rfl⟩ : ∃ n, fuel = n + 1 := ⟨fuel - 1, by omega⟩
    obtain ⟨c', hread, hc'⟩ := hasItem_nil h
    exact .inl ⟨c', by rw [readItems, hread]; rfl, hc'⟩
  | v :: vs, depth, ls, fuel, first, c, hfuel, h => by
    obtain ⟨fuel, rfl⟩ : ∃ n, fuel = n + 1 := ⟨fuel - 1, by omega⟩
    simp only [List.length_cons, Nat.add_lt_add_iff_right] at hfuel
    obtain ⟨c', hread, hc'⟩ := hasItem_cons h
    rw [readItems, hread]
    rcases readContent_gives v depth _ c' (endsValue_items vs ls) hc' with
      ⟨c'', he, hc''⟩ | ⟨⟨e, he⟩, hodd⟩
    · simp only [he]
      refine ((readContents_give vs depth ls hfuel hc'').map (v.content :: ·)).mono ?_
      rintro ⟨v', hv', hodd⟩
      exact ⟨v', List.mem_cons_of_mem _ hv', hodd⟩
    · exact .inr ⟨⟨e, by simp [he]⟩, v, List.mem_cons_self, hodd.1⟩

/-- The entries of an object are read to the closing brace, or refused; what they hold does not
matter to the branches. -/
theorem readContentEntries_give : (bs : List (String × Value)) → ∀ depth ls {fuel first c},
    bs.length < fuel → Follow (entryLexemes first bs ++ ls) c →
    ∃ a, Gives (.objectEnd :: ls) a True (readBindings (readContent depth) fuel first c)
  | [], depth, ls, fuel, first, c, hfuel, h => by
    obtain ⟨fuel, rfl⟩ : ∃ n, fuel = n + 1 := ⟨fuel - 1, by omega⟩
    obtain ⟨c', hread, hc'⟩ := hasEntry_nil h
    exact ⟨[], .inl ⟨c', by rw [readBindings, hread], hc'⟩⟩
  | (k, v) :: bs, depth, ls, fuel, first, c, hfuel, h => by
    obtain ⟨fuel, rfl⟩ : ∃ n, fuel = n + 1 := ⟨fuel - 1, by omega⟩
    simp only [List.length_cons, Nat.add_lt_add_iff_right] at hfuel
    obtain ⟨c₁, hread, body, ws, rest, hrest, hbody, hws, hvalue⟩ := hasEntry_cons h
    obtain ⟨c₂, hkey, c₃, hcolon, rfl⟩ := readString_key hbody hws hrest
    rw [readBindings, hread]
    simp only [hkey, hcolon]
    rcases readContent_gives v depth _ c₃ (endsValue_entries bs ls) hvalue with
      ⟨c₄, he, hc₄⟩ | ⟨⟨e, he⟩, -⟩
    · simp only [he]
      obtain ⟨as, has⟩ := readContentEntries_give bs depth ls hfuel hc₄
      exact ⟨_, has.map ((k, v.content) :: ·)⟩
    · exact ⟨[], .inr ⟨⟨e, by simp [he]⟩, trivial⟩⟩

end

/-! ## Skipping values -/

/-- What skipping does behind a value: it closes brackets and goes on with the next value or key. -/
def afterSkipped (fuel : Nat) (brackets : List Bracket) (c : Cursor) : Outcome Unit :=
  let closed : Outcome (List Bracket) :=
    match brackets with
    | inner :: outer => closeBrackets (c.rest.length + 1) inner outer true c
    | [] => .ok ([], c)
  match closed with
  | .error e => .error e
  | .ok ([], c) => .ok ((), c)
  | .ok (.list :: outer, c) => skipRounds fuel (.list :: outer) c
  | .ok (.object :: outer, c) =>
    match skipKey c with
    | .error e => .error e
    | .ok ((), c) => skipRounds fuel (.object :: outer) c

/-- The closing bracket as a lexeme, of the kind of bracket that is open. -/
def Bracket.lexeme : Bracket → Lexeme
  | list => .listEnd
  | object => .objectEnd

/-- Skipping a value without brackets takes one round and goes on with the brackets that are
open. -/
theorem skipRounds_scalar {fuel : Nat} {brackets : List Bracket} {c c' : Cursor}
    (h : skipOne c = .ok (.scalar, c')) :
    skipRounds (fuel + 1) brackets c = afterSkipped fuel brackets c' := by
  rw [skipRounds, h]
  cases brackets <;> rfl

/-- Where a character follows, going behind it makes the rest of the text shorter. -/
theorem length_advance_lt {c : Cursor} {a : Char} (h : c.skipBlanks.peek = some a) :
    c.skipBlanks.advance.rest.length < c.rest.length := by
  have hlength : c.skipBlanks.rest.length ≤ c.rest.length := by
    rw [Cursor.rest_skipBlanks]
    exact (List.dropWhile_suffix _).length_le
  rw [Cursor.rest_advance]
  rw [Cursor.peek_eq] at h
  cases hrest : c.skipBlanks.rest with
  | nil => rw [hrest] at h; cases h
  | cons b bs =>
    rw [hrest] at hlength
    exact hlength

/-- Closing brackets does not depend on the bound on its steps, as long as this exceeds the length
of the text. -/
theorem closeBrackets_fuel {fuel fuel' : Nat} {inner : Bracket} {outer : List Bracket}
    {comma : Bool} {c : Cursor} (h : c.rest.length < fuel) (h' : c.rest.length < fuel') :
    closeBrackets fuel inner outer comma c = closeBrackets fuel' inner outer comma c := by
  induction fuel generalizing fuel' inner outer comma c with
  | zero => exact absurd h (Nat.not_lt_zero _)
  | succ fuel ih =>
    obtain ⟨fuel', rfl⟩ : ∃ n, fuel' = n + 1 := ⟨fuel' - 1, by omega⟩
    rw [closeBrackets.eq_def, closeBrackets.eq_def (fuel' + 1)]
    dsimp only
    cases hpeek : c.skipBlanks.peek with
    | none => rfl
    | some a =>
      have hlt := length_advance_lt hpeek
      dsimp only
      split
      · cases outer with
        | nil => rfl
        | cons next outer => exact ih (by omega) (by omega)
      · rfl

/-- A closing bracket behind a value closes the innermost bracket, and skipping goes on with those
around it. -/
theorem afterSkipped_close {fuel : Nat} {b : Bracket} {outer : List Bracket} {ls : List Lexeme}
    {c : Cursor} (h : Follow (b.lexeme :: ls) c) : ∃ c', Follow ls c' ∧
      afterSkipped fuel (b :: outer) c = afterSkipped fuel outer c' := by
  obtain ⟨hpeek, hls⟩ : c.skipBlanks.peek = some b.closing ∧ Follow ls c.skipBlanks.advance := by
    cases b <;> exact Follow.char h rfl
  refine ⟨c.skipBlanks.advance, hls, ?_⟩
  have hlt := length_advance_lt hpeek
  rw [afterSkipped, closeBrackets.eq_def]
  simp only [hpeek, if_true]
  cases outer with
  | nil => rfl
  | cons next outer =>
    rw [afterSkipped]
    dsimp only
    rw [closeBrackets_fuel hlt (Nat.lt_succ_self _)]

/-- The round that opens a bracket: it may be closed at once, and otherwise its first item or entry
is skipped. -/
def afterOpened (fuel : Nat) (b : Bracket) (outer : List Bracket) (c : Cursor) : Outcome Unit :=
  match closeBrackets (c.rest.length + 1) b outer false c with
  | .error e => .error e
  | .ok ([], c) => .ok ((), c)
  | .ok (.list :: outer, c) => skipRounds fuel (.list :: outer) c
  | .ok (.object :: outer, c) =>
    match skipKey c with
    | .error e => .error e
    | .ok ((), c) => skipRounds fuel (.object :: outer) c

/-- Skipping a value that opens a bracket takes one round and goes on inside it. -/
theorem skipRounds_opened {fuel : Nat} {b : Bracket} {outer : List Bracket} {c c' : Cursor}
    (h : skipOne c = .ok (.opened b, c')) :
    skipRounds (fuel + 1) outer c = afterOpened fuel b outer c' := by
  rw [skipRounds, h]
  cases outer <;> rfl

/-- An empty list or object is opened and closed in one round. -/
theorem afterOpened_close {fuel : Nat} {b : Bracket} {outer : List Bracket} {ls : List Lexeme}
    {c : Cursor} (h : Follow (b.lexeme :: ls) c) : ∃ c', Follow ls c' ∧
      afterOpened fuel b outer c = afterSkipped fuel outer c' := by
  obtain ⟨hpeek, hls⟩ : c.skipBlanks.peek = some b.closing ∧ Follow ls c.skipBlanks.advance := by
    cases b <;> exact Follow.char h rfl
  refine ⟨c.skipBlanks.advance, hls, ?_⟩
  have hlt := length_advance_lt hpeek
  rw [afterOpened, closeBrackets.eq_def]
  simp only [hpeek, if_true]
  cases outer with
  | nil => rfl
  | cons next outer =>
    rw [afterSkipped]
    dsimp only
    rw [closeBrackets_fuel hlt (Nat.lt_succ_self _)]

/-- Skipping a key with its colon leaves the value that the key is bound to. -/
theorem skipKey_eq {k : String} {ls : List Lexeme} {c : Cursor} (h : Follow (.key k :: ls) c) :
    ∃ c', skipKey c = .ok ((), c') ∧ Follow ls c' := by
  obtain ⟨hpeek, body, ws, rest, hrest, hbody, hws, hls⟩ := h.key
  obtain ⟨c₁, hskip, hc₁⟩ := skipString_leaves hbody hrest
  have hcolon : c₁.skipBlanks.rest = ':' :: rest := by
    rw [Cursor.rest_skipBlanks, hc₁]
    exact dropWhile_blank hws rfl (by decide)
  have hpeek' : c₁.skipBlanks.peek = some ':' := by rw [Cursor.peek_eq, hcolon]; rfl
  refine ⟨c₁.skipBlanks.advance, ?_, ?_⟩
  · rw [skipKey]
    simp only [hpeek, hskip, hpeek']
  · rw [Follow, Cursor.rest_advance, hcolon]
    exact hls

/-- The next thing in an open bracket, behind a comma or at the beginning. -/
theorem closeBrackets_open {fuel : Nat} {inner : Bracket} {outer : List Bracket} {a : Char}
    {c : Cursor} (hpeek : c.skipBlanks.peek = some a) (ha : a ≠ inner.closing) :
    closeBrackets (fuel + 1) inner outer false c = .ok (inner :: outer, c.skipBlanks) := by
  rw [closeBrackets.eq_def]
  simp only [hpeek, if_neg ha]
  rfl

/-- A comma ends the closing of brackets, and skipping goes on in the innermost one. -/
theorem closeBrackets_comma {fuel : Nat} {inner : Bracket} {outer : List Bracket} {c : Cursor}
    (hpeek : c.skipBlanks.peek = some ',') :
    closeBrackets (fuel + 1) inner outer true c = .ok (inner :: outer, c.skipBlanks.advance) := by
  have hne : ',' ≠ inner.closing := by cases inner <;> decide
  rw [closeBrackets.eq_def]
  simp only [hpeek, if_neg hne]
  rfl

/-- A value has been skipped: skipping goes on behind it with enough fuel for the lexemes that are
left. -/
def Skips (ls : List Lexeme) (brackets : List Bracket) (r : Outcome Unit) : Prop :=
  ∃ fuel c, Follow ls c ∧ ls.length < fuel ∧ r = afterSkipped fuel brackets c

/-- A value that begins with a digit is skipped as a number. -/
theorem skipOne_digit {d : Char} {c : Cursor} (hpeek : c.skipBlanks.peek = some d)
    (hdigit : d.isDigit) :
    skipOne c = (skipNumeral c.skipBlanks).map fun x => (.scalar, x.2) := by
  rw [skipOne]
  simp only [hpeek]
  split
  case h_1 he => cases he
  case h_9 he => rw [if_pos (Option.some.inj he ▸ hdigit)]
  all_goals next he => exact absurd (Option.some.inj he ▸ hdigit) (by decide)

/-- A value without brackets is skipped to its end in one go. -/
theorem skipOne_scalar {v : Value} (hv : v.IsScalar) {ls : List Lexeme} {c : Cursor}
    (hls : EndsValue ls) (h : Follow (v.lexemes ++ ls) c) :
    ∃ c', skipOne c = .ok (.scalar, c') ∧ Follow ls c' := by
  have hdone {r : Outcome Unit} {rest : List Char} (hr : Leaves r () rest)
      (hrest : Written Spells ls rest) :
      ∃ c', (r.map fun x => (Skipped.scalar, x.2)) = .ok (.scalar, c') ∧ Follow ls c' := by
    obtain ⟨c', rfl, rfl⟩ := hr
    exact ⟨c', rfl, hrest⟩
  cases v with
  | null =>
    obtain ⟨hpeek, rest, hword, hrest⟩ := Follow.word h rfl
    rw [skipOne]
    simp only [hpeek]
    exact hdone (readWord_leaves hword) hrest
  | flag b =>
    cases b <;>
    · obtain ⟨hpeek, rest, hword, hrest⟩ := Follow.word h rfl
      rw [skipOne]
      simp only [hpeek]
      exact hdone (readWord_leaves hword) hrest
  | number cs =>
    obtain ⟨whole, fraction, exponent, rest, hwhole, hfraction, hexponent, hrest, hparts⟩ :=
      Follow.number h
    have hends := hls.endsNumber hrest
    rcases hparts with ⟨-, hpeek, hbehind⟩ | ⟨-, ⟨d, hpeek, hdigit⟩, hbehind⟩
    · rw [skipOne]
      simp only [hpeek]
      exact hdone (skipNumeral_leaves hwhole hfraction hexponent hends hbehind) hrest
    · rw [skipOne_digit hpeek hdigit]
      exact hdone (skipNumeral_leaves hwhole hfraction hexponent hends hbehind) hrest
  | text s =>
    obtain ⟨hpeek, body, rest, hbody, hspells, hrest⟩ := Follow.text h
    rw [skipOne]
    simp only [hpeek]
    exact hdone (skipString_leaves hspells hbody) hrest
  | list vs => exact hv.elim
  | object bs => exact hv.elim

/-- A value of a single lexeme has been skipped after one round. -/
theorem skipRounds_ofScalar {v : Value} (hv : v.IsScalar) (hlength : v.lexemes.length = 1)
    {fuel : Nat} {brackets : List Bracket} {ls : List Lexeme} {c : Cursor} (hls : EndsValue ls)
    (h : Follow (v.lexemes ++ ls) c) (hfuel : (v.lexemes ++ ls).length < fuel) :
    Skips ls brackets (skipRounds fuel brackets c) := by
  rw [List.length_append, hlength] at hfuel
  obtain ⟨fuel, rfl⟩ : ∃ n, fuel = n + 1 := ⟨fuel - 1, by omega⟩
  obtain ⟨c', hskip, hc'⟩ := skipOne_scalar hv hls h
  exact ⟨fuel, c', hc', by omega, skipRounds_scalar hskip⟩

/-- Opening a list or an object takes the bracket alone. -/
theorem skipOne_opened {l : Lexeme} {b : Bracket} {ls : List Lexeme} {c : Cursor}
    (hl : l = .listStart ∧ b = .list ∨ l = .objectStart ∧ b = .object) (h : Follow (l :: ls) c) :
    skipOne c = .ok (.opened b, c.skipBlanks.advance) ∧ Follow ls c.skipBlanks.advance := by
  rcases hl with ⟨rfl, rfl⟩ | ⟨rfl, rfl⟩ <;>
  · obtain ⟨hpeek, hls⟩ := h.char rfl
    refine ⟨?_, hls⟩
    rw [skipOne]
    simp only [hpeek]

/-- A value that follows is no closing bracket, so inside brackets it is taken for an item. -/
theorem Follow.value {v : Value} {ls : List Lexeme} {c : Cursor} (h : Follow (v.lexemes ++ ls) c) :
    Follow (v.lexemes ++ ls) c.skipBlanks ∧
      ∃ a, c.skipBlanks.peek = some a ∧ a ≠ ']' ∧ a ≠ '\x7d' := by
  obtain ⟨l, ls', hl, hstart⟩ := v.exists_lexeme
  rw [hl, List.cons_append] at h ⊢
  obtain ⟨a, hpeek, ha⟩ := h.peek
  exact ⟨h.skipBlanks, a, hpeek, (hstart a ha).1, (hstart a ha).2.1⟩

/-! ### One round -/

variable {fuel : Nat} {outer : List Bracket} {ls : List Lexeme} {c : Cursor}

/-- Behind an opening bracket with an item the next round skips this item. -/
theorem afterOpened_item {v : Value} (h : Follow (v.lexemes ++ ls) c) :
    ∃ c', Follow (v.lexemes ++ ls) c' ∧
      afterOpened fuel .list outer c = skipRounds fuel (.list :: outer) c' := by
  obtain ⟨hv, a, hpeek, ha, -⟩ := h.value
  have hclose : a ≠ Bracket.list.closing := ha
  exact ⟨c.skipBlanks, hv, by rw [afterOpened, closeBrackets_open hpeek hclose]⟩

/-- Behind an item and a comma the next round skips the next item. -/
theorem afterSkipped_item (h : Follow (.comma :: ls) c) :
    ∃ c', Follow ls c' ∧
      afterSkipped fuel (.list :: outer) c = skipRounds fuel (.list :: outer) c' := by
  obtain ⟨hpeek, hls⟩ := h.char rfl
  exact ⟨_, hls, by simp only [afterSkipped, closeBrackets_comma hpeek]⟩

/-- Behind an opening brace with an entry the next round skips the value of its key. -/
theorem afterOpened_entry {k : String} (h : Follow (.key k :: ls) c) :
    ∃ c', Follow ls c' ∧
      afterOpened fuel .object outer c = skipRounds fuel (.object :: outer) c' := by
  have hclose : '"' ≠ Bracket.object.closing := by decide
  obtain ⟨c', hkey, hls⟩ := skipKey_eq h.skipBlanks
  exact ⟨c', hls, by rw [afterOpened, closeBrackets_open h.key.1 hclose]; simp only [hkey]⟩

/-- Behind an entry and a comma the next round skips the value of the next key. -/
theorem afterSkipped_entry {k : String} (h : Follow (.comma :: .key k :: ls) c) :
    ∃ c', Follow ls c' ∧
      afterSkipped fuel (.object :: outer) c = skipRounds fuel (.object :: outer) c' := by
  obtain ⟨hpeek, hkey⟩ := h.char rfl
  obtain ⟨c', hskip, hls⟩ := skipKey_eq hkey
  exact ⟨c', hls, by simp only [afterSkipped, closeBrackets_comma hpeek, hskip]⟩

mutual

/-- **Skipping a value** ends behind it, whatever brackets are open, by induction on the value along
its lexemes. -/
theorem skipRounds_value : (v : Value) → ∀ {fuel brackets ls c}, EndsValue ls →
    Follow (v.lexemes ++ ls) c → (v.lexemes ++ ls).length < fuel →
    Skips ls brackets (skipRounds fuel brackets c)
  | .null, _, _, _, _, hls, h, hfuel => skipRounds_ofScalar (v := .null) trivial rfl hls h hfuel
  | .flag b, _, _, _, _, hls, h, hfuel => skipRounds_ofScalar (v := .flag b) trivial rfl hls h hfuel
  | .number cs, _, _, _, _, hls, h, hfuel =>
    skipRounds_ofScalar (v := .number cs) trivial rfl hls h hfuel
  | .text s, _, _, _, _, hls, h, hfuel => skipRounds_ofScalar (v := .text s) trivial rfl hls h hfuel
  | .list [], fuel, brackets, ls, c, _, h, hfuel => by
    obtain ⟨fuel, rfl⟩ : ∃ n, fuel = n + 1 := ⟨fuel - 1, by omega⟩
    obtain ⟨hskip, hitems⟩ := skipOne_opened (b := .list) (.inl ⟨rfl, rfl⟩) h
    obtain ⟨c', hc', he⟩ := afterOpened_close (b := .list) hitems
    simp only [Value.lexemes, itemLexemes, List.cons_append, List.length_cons] at hfuel
    exact ⟨fuel, c', hc', by simp at hfuel; omega, by rw [skipRounds_opened hskip, he]⟩
  | .list (v :: vs), fuel, brackets, ls, c, hls, h, hfuel => by
    obtain ⟨fuel, rfl⟩ : ∃ n, fuel = n + 1 := ⟨fuel - 1, by omega⟩
    obtain ⟨hskip, hitems⟩ := skipOne_opened (b := .list) (.inl ⟨rfl, rfl⟩) h
    have hlexemes : itemLexemes true (v :: vs) ++ ls =
        v.lexemes ++ (itemLexemes false vs ++ ls) := by simp [itemLexemes, separator]
    rw [Value.lexemes, List.cons_append, hlexemes, List.length_cons] at hfuel
    replace hitems : Follow (itemLexemes true (v :: vs) ++ ls) c.skipBlanks.advance := hitems
    rw [hlexemes] at hitems
    obtain ⟨c₁, hvalue, hopened⟩ := afterOpened_item hitems
    obtain ⟨fuel', c₂, hc₂, hfuel', he⟩ := skipRounds_value v (endsValue_items vs ls) hvalue
      (Nat.lt_of_succ_lt_succ hfuel)
    rw [skipRounds_opened hskip, hopened, he]
    exact afterSkipped_items vs hls hc₂ hfuel'
  | .object [], fuel, brackets, ls, c, _, h, hfuel => by
    obtain ⟨fuel, rfl⟩ : ∃ n, fuel = n + 1 := ⟨fuel - 1, by omega⟩
    obtain ⟨hskip, hentries⟩ := skipOne_opened (b := .object) (.inr ⟨rfl, rfl⟩) h
    obtain ⟨c', hc', he⟩ := afterOpened_close (b := .object) hentries
    simp only [Value.lexemes, entryLexemes, List.cons_append, List.length_cons] at hfuel
    exact ⟨fuel, c', hc', by simp at hfuel; omega, by rw [skipRounds_opened hskip, he]⟩
  | .object ((k, v) :: bs), fuel, brackets, ls, c, hls, h, hfuel => by
    obtain ⟨fuel, rfl⟩ : ∃ n, fuel = n + 1 := ⟨fuel - 1, by omega⟩
    obtain ⟨hskip, hentries⟩ := skipOne_opened (b := .object) (.inr ⟨rfl, rfl⟩) h
    have hlexemes : entryLexemes true ((k, v) :: bs) ++ ls =
        .key k :: (v.lexemes ++ (entryLexemes false bs ++ ls)) := by simp [entryLexemes, separator]
    rw [Value.lexemes, List.cons_append, hlexemes, List.length_cons, List.length_cons] at hfuel
    replace hentries : Follow (entryLexemes true ((k, v) :: bs) ++ ls) c.skipBlanks.advance :=
      hentries
    rw [hlexemes] at hentries
    obtain ⟨c₁, hvalue, hopened⟩ := afterOpened_entry hentries
    obtain ⟨fuel', c₂, hc₂, hfuel', he⟩ := skipRounds_value v (endsValue_entries bs ls) hvalue
      (Nat.lt_of_succ_lt (Nat.lt_of_succ_lt_succ hfuel))
    rw [skipRounds_opened hskip, hopened, he]
    exact afterSkipped_entries bs hls hc₂ hfuel'

/-- Skipping the items of a list, each behind a comma, ends behind the closing bracket. -/
theorem afterSkipped_items : (vs : List Value) → ∀ {fuel brackets ls c}, EndsValue ls →
    Follow (itemLexemes false vs ++ ls) c → (itemLexemes false vs ++ ls).length < fuel →
    Skips ls brackets (afterSkipped fuel (.list :: brackets) c)
  | [], fuel, brackets, ls, c, _, h, hfuel => by
    obtain ⟨c', hc', he⟩ := afterSkipped_close (b := .list) h
    exact ⟨fuel, c', hc', by simp [itemLexemes] at hfuel; omega, he⟩
  | v :: vs, fuel, brackets, ls, c, hls, h, hfuel => by
    have hlexemes : itemLexemes false (v :: vs) ++ ls =
        .comma :: (v.lexemes ++ (itemLexemes false vs ++ ls)) := by simp [itemLexemes, separator]
    rw [hlexemes] at h hfuel
    obtain ⟨c₁, hvalue, hcomma⟩ := afterSkipped_item h
    obtain ⟨fuel', c₂, hc₂, hfuel', he⟩ := skipRounds_value v (endsValue_items vs ls) hvalue
      (Nat.lt_of_succ_lt hfuel)
    rw [hcomma, he]
    exact afterSkipped_items vs hls hc₂ hfuel'

/-- Skipping the entries of an object, each behind a comma, ends behind the closing brace. -/
theorem afterSkipped_entries : (bs : List (String × Value)) → ∀ {fuel brackets ls c}, EndsValue ls →
    Follow (entryLexemes false bs ++ ls) c → (entryLexemes false bs ++ ls).length < fuel →
    Skips ls brackets (afterSkipped fuel (.object :: brackets) c)
  | [], fuel, brackets, ls, c, _, h, hfuel => by
    obtain ⟨c', hc', he⟩ := afterSkipped_close (b := .object) h
    exact ⟨fuel, c', hc', by simp [entryLexemes] at hfuel; omega, he⟩
  | (k, v) :: bs, fuel, brackets, ls, c, hls, h, hfuel => by
    have hlexemes : entryLexemes false ((k, v) :: bs) ++ ls =
        .comma :: .key k :: (v.lexemes ++ (entryLexemes false bs ++ ls)) := by
      simp [entryLexemes, separator]
    rw [hlexemes] at h hfuel
    simp only [List.length_cons] at hfuel
    obtain ⟨c₁, hvalue, hcomma⟩ := afterSkipped_entry h
    obtain ⟨fuel', c₂, hc₂, hfuel', he⟩ := skipRounds_value v (endsValue_entries bs ls) hvalue
      (Nat.lt_of_succ_lt (Nat.lt_of_succ_lt hfuel))
    rw [hcomma, he]
    exact afterSkipped_entries bs hls hc₂ hfuel'

end

/-- A value whose key nothing asks for is skipped, and reading goes on behind it. -/
theorem skipValue_follow {v : Value} (hls : EndsValue ls) (h : Follow (v.lexemes ++ ls) c) :
    ∃ c', skipValue c = .ok ((), c') ∧ Follow ls c' := by
  obtain ⟨fuel, c', hc', -, he⟩ := skipRounds_value v hls h
    (Nat.lt_succ_of_le h.length_le)
  exact ⟨c', he, hc'⟩

end Json
end CommitForm
