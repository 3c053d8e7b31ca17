/-
# JSON texts

A JSON text writes the lexemes of a value one behind the other, with blanks before, between and
behind them.

| lexeme | written as |
| --- | --- |
| a number | a sign, digits, a fraction, an exponent |
| a text | characters and escapes between quotes; beyond the basic plane also pairs of escapes |
| a key | a text, and a colon behind it |
| any other | its word or its character |

The text of a tree writes the value of the tree without blanks (`Tree.written_render`).
-/

import CommitForm.Json.Reader
import CommitForm.Json.Tree

namespace CommitForm
namespace Json

/-! ## Values -/

/-- A JSON value; a number is held as it is written, since that decides whether it is a count. -/
inductive Value where
  | null
  | flag (b : Bool)
  | number (cs : List Char)
  | text (s : String)
  | list (items : List Value)
  | object (entries : List (String × Value))
deriving Inhabited

/-- Whether a value is neither a list nor an object, and so is one lexeme. -/
def Value.IsScalar : Value → Prop
  | .list _ | .object _ => False
  | _ => True

/-- A part of a JSON text.  The colon belongs to the key, so that a text and a key are told
apart. -/
inductive Lexeme where
  | null
  | flag (b : Bool)
  | number (cs : List Char)
  | text (s : String)
  | key (k : String)
  | listStart
  | listEnd
  | objectStart
  | objectEnd
  | comma
deriving DecidableEq

/-- The comma in front of all items and entries but the first, and nothing in front of that one. -/
def separator (first : Bool) : List Lexeme := if first then [] else [.comma]

mutual

/-- The lexemes of a value, in the order in which every text of it writes them. -/
def Value.lexemes : Value → List Lexeme
  | .null => [.null]
  | .flag b => [.flag b]
  | .number cs => [.number cs]
  | .text s => [.text s]
  | .list vs => .listStart :: itemLexemes true vs
  | .object bs => .objectStart :: entryLexemes true bs

/-- The lexemes of items, with the closing bracket, which is written also where there is no item. -/
def itemLexemes : (first : Bool) → List Value → List Lexeme
  | _, [] => [.listEnd]
  | first, v :: vs => separator first ++ v.lexemes ++ itemLexemes false vs

/-- The lexemes of entries, with the closing bracket, which is written also where there is no
entry. -/
def entryLexemes : (first : Bool) → List (String × Value) → List Lexeme
  | _, [] => [.objectEnd]
  | first, (k, v) :: bs => separator first ++ .key k :: v.lexemes ++ entryLexemes false bs

end

/-! ## Numbers -/

/-- Digits of which there is one at least, as they stand in every part of a number. -/
def AreDigits (ds : List Char) : Prop := ds ≠ [] ∧ ∀ d ∈ ds, d.isDigit

/-- The digits of a whole number, without leading zeros, so that a zero in front stands alone. -/
def IsWhole (ds : List Char) : Prop := AreDigits ds ∧ (ds.head? = some '0' → ds = ['0'])

/-- The fraction of a number, if any: a point and at least one digit behind it. -/
def IsFraction (cs : List Char) : Prop := cs = [] ∨ ∃ ds, AreDigits ds ∧ cs = '.' :: ds

/-- The exponent of a number, if any: a letter, a sign that may be missing, and at least one
digit. -/
def IsExponent (cs : List Char) : Prop :=
  cs = [] ∨ ∃ letter ∈ ['e', 'E'], ∃ sign ∈ [[], ['+'], ['-']], ∃ ds, AreDigits ds ∧
    cs = letter :: (sign ++ ds)

/-- The text of a number: a minus sign that may be missing, a whole part, a fraction and an
exponent. -/
inductive IsNumber : List Char → Prop where
  | mk {sign whole fraction exponent : List Char} (hsign : sign ∈ [[], ['-']])
      (hwhole : IsWhole whole) (hfraction : IsFraction fraction)
      (hexponent : IsExponent exponent) :
      IsNumber (sign ++ (whole ++ (fraction ++ exponent)))

/-! ## Texts -/

/-- The escape of a code unit, with four hexadecimal digits in either case. -/
inductive SpellsUnit (n : Nat) : List Char → Prop where
  | mk {a b c d : Char} (h : fourDigits? [a, b, c, d] = some n) :
      SpellsUnit n ['\\', 'u', a, b, c, d]

/-- The characters and escapes of a text: each character stands for itself, or is escaped by a
letter, by one unit or by two. -/
inductive SpellsText : List Char → List Char → Prop where
  | nil : SpellsText [] []
  | plain {c : Char} {cs body : List Char} (hcontrol : 0x20 ≤ c.toNat) (hquote : c ≠ '"')
      (hslash : c ≠ '\\') (h : SpellsText cs body) : SpellsText (c :: cs) (c :: body)
  | letter {c a : Char} {cs body : List Char} (ha : escaped? a = some c) (h : SpellsText cs body) :
      SpellsText (c :: cs) ('\\' :: a :: body)
  | unit {c : Char} {cs unit body : List Char} (hunit : SpellsUnit c.toNat unit)
      (h : SpellsText cs body) : SpellsText (c :: cs) (unit ++ body)
  | pair {c : Char} {leading trailing : Nat} {cs unit unit' body : List Char}
      (hleading : isLeading leading) (htrailing : isTrailing trailing)
      (hc : c.toNat = (leading - 0xD800) * 0x400 + (trailing - 0xDC00) + 0x10000)
      (hunit : SpellsUnit leading unit) (hunit' : SpellsUnit trailing unit')
      (h : SpellsText cs body) : SpellsText (c :: cs) (unit ++ (unit' ++ body))

/-! ## Lexemes and texts -/

/-- Blanks, which may stand before every lexeme and behind the last one. -/
def AreBlank (ws : List Char) : Prop := ∀ c ∈ ws, Cursor.isBlank c

/-- A lexeme is written, in one of the ways that the grammar allows for it. -/
inductive Spells : Lexeme → List Char → Prop where
  | null : Spells .null ['n', 'u', 'l', 'l']
  | flagTrue : Spells (.flag true) ['t', 'r', 'u', 'e']
  | flagFalse : Spells (.flag false) ['f', 'a', 'l', 's', 'e']
  | number {cs : List Char} (h : IsNumber cs) : Spells (.number cs) cs
  | text {s : String} {body : List Char} (h : SpellsText s.toList body) :
      Spells (.text s) ('"' :: (body ++ ['"']))
  | key {k : String} {body ws : List Char} (h : SpellsText k.toList body) (hws : AreBlank ws) :
      Spells (.key k) ('"' :: (body ++ '"' :: (ws ++ [':'])))
  | listStart : Spells .listStart ['[']
  | listEnd : Spells .listEnd [']']
  | objectStart : Spells .objectStart ['\x7b']
  | objectEnd : Spells .objectEnd ['\x7d']
  | comma : Spells .comma [',']

/-- A text writes lexemes in a way, with blanks around them; `spells` says which ways of writing a
lexeme are allowed. -/
inductive Written (spells : Lexeme → List Char → Prop) : List Lexeme → List Char → Prop where
  | nil {ws : List Char} (hws : AreBlank ws) : Written spells [] ws
  | cons {l : Lexeme} {ls : List Lexeme} {ws cs rest : List Char} (hws : AreBlank ws)
      (hl : spells l cs) (h : Written spells ls rest) :
      Written spells (l :: ls) (ws ++ (cs ++ rest))

/-- **A JSON text of a value:** any spacing and any spelling of its texts, but the entries in the
order of the value. -/
def IsTextOf (v : Value) (text : String) : Prop := Written Spells v.lexemes text.toList

/-! ## Trees -/

mutual

/-- The value of a tree, which is what the text that is rendered of it stands for. -/
def Tree.value : Tree → Value
  | .flag b => .flag b
  | .count n => .number (Nat.toDigits 10 n)
  | .text s => .text s
  | .list ts => .list (Tree.values ts)
  | .object es => .object (Tree.bindings es)

/-- The values of the items of a list, item by item, so that the recursion follows the tree. -/
def Tree.values : List Tree → List Value
  | [] => []
  | t :: ts => t.value :: Tree.values ts

/-- The keys and values of an object, entry by entry, so that the recursion follows the tree. -/
def Tree.bindings : List (String × Tree) → List (String × Value)
  | [] => []
  | (k, t) :: es => (k, t.value) :: Tree.bindings es

end

/-- A lexeme without blanks before it, which is how everything that is rendered is written. -/
theorem Written.put {spells : Lexeme → List Char → Prop} {l : Lexeme} {ls : List Lexeme}
    {cs rest : List Char} (hl : spells l cs) (h : Written spells ls rest) :
    Written spells (l :: ls) (cs ++ rest) :=
  .cons (fun _ hc => absurd hc List.not_mem_nil) hl h

/-- The digits of a number are those of a whole number, without a superfluous zero in front. -/
theorem isWhole_toDigits (n : Nat) : IsWhole (Nat.toDigits 10 n) := by
  refine ⟨⟨Nat.toDigits_ne_nil, fun d hd =>
    Nat.isDigit_of_mem_toDigits (by decide) (by decide) hd⟩, fun h => ?_⟩
  induction n using Nat.strongRecOn with
  | ind n ih =>
    rcases Nat.lt_or_ge n 10 with hn | hn
    · rw [Nat.toDigits_of_lt_base hn] at h ⊢
      exact congrArg (· :: []) (Option.some.inj h)
    · rw [Nat.toDigits_of_base_le (by decide) hn] at h
      have hhead : (Nat.toDigits 10 (n / 10)).head? = some '0' := by
        cases hdigits : Nat.toDigits 10 (n / 10) with
        | nil => exact absurd hdigits Nat.toDigits_ne_nil
        | cons d ds => rw [hdigits] at h; exact h
      have hzero := ih (n / 10) (by omega) hhead
      have hvalue := congrArg (Nat.ofDigitChars 10 · 0) hzero
      rw [Nat.ofDigitChars_ten_toDigits] at hvalue
      have : n / 10 = 0 := hvalue
      omega

/-- The digits of a number are the text of a number. -/
theorem isNumber_toDigits (n : Nat) : IsNumber (Nat.toDigits 10 n) := by
  have hsign : ([] : List Char) ∈ [[], ['-']] := List.mem_cons_self
  have h := IsNumber.mk hsign (isWhole_toDigits n) (.inl rfl) (.inl rfl)
  simpa using h

/-- A control character is written by the last two digits of its code, with zeros in front to make
them four. -/
theorem spellsUnit_escapedChar {n : Nat} (h : n < 0x20) :
    SpellsUnit n ('\\' :: 'u' ::
      (List.replicate (4 - (Text.hexDigits n).length) '0' ++ Text.hexDigits n)) := by
  have hall : ∀ n < 0x20, (List.replicate (4 - (Text.hexDigits n).length) '0' ++
      Text.hexDigits n).length = 4 ∧ fourDigits? (List.replicate (4 - (Text.hexDigits n).length) '0'
        ++ Text.hexDigits n) = some n := by decide
  obtain ⟨hlength, hn⟩ := hall n h
  generalize List.replicate (4 - (Text.hexDigits n).length) '0' ++ Text.hexDigits n = digits
    at hlength hn
  match digits, hlength, hn with
  | [a, b, c, d], _, hn => exact .mk hn

/-- A text whose characters are escaped one by one, as rendering does it, spells the text. -/
theorem spellsText_escaped (cs : List Char) : SpellsText cs (cs.flatMap escapedChar) := by
  induction cs with
  | nil => exact .nil
  | cons c cs ih =>
    rw [List.flatMap_cons]
    unfold escapedChar
    split
    · exact .letter rfl ih
    · exact .letter rfl ih
    · exact .letter rfl ih
    · exact .letter rfl ih
    · exact .letter rfl ih
    · exact .letter rfl ih
    · exact .letter rfl ih
    · next hquote hslash _ _ _ _ _ =>
      split
      · next hcontrol => exact .unit (spellsUnit_escapedChar hcontrol) ih
      · next hcontrol => exact .plain (Nat.le_of_not_lt hcontrol) hquote hslash ih

/-- A text is rendered as a lexeme of it. -/
theorem spells_renderText (s : String) : Spells (.text s) (renderText s) := by
  have h := Spells.text (spellsText_escaped s.toList)
  simpa [renderText] using h

/-- A key is rendered as a text with a colon right behind it. -/
theorem spells_renderKey (k : String) : Spells (.key k) (renderText k ++ [':']) := by
  have hblank : AreBlank [] := fun _ hc => absurd hc List.not_mem_nil
  have h := Spells.key (spellsText_escaped k.toList) hblank
  simpa [renderText] using h

mutual

/-- **The text of a tree writes its value**, in front of any other text. -/
theorem Tree.written_render : (t : Tree) → {ls : List Lexeme} → {rest : List Char} →
    Written Spells ls rest → Written Spells (t.value.lexemes ++ ls) (t.render ++ rest)
  | .flag true, _, _, h => .put .flagTrue h
  | .flag false, _, _, h => .put .flagFalse h
  | .count n, _, _, h => .put (.number (isNumber_toDigits n)) h
  | .text s, _, _, h => .put (spells_renderText s) h
  | .list [], ls, rest, h => by
    have hlist := Written.put .listStart (.put .listEnd h)
    simpa [Tree.render, Tree.value, Tree.values, Value.lexemes, itemLexemes] using hlist
  | .list (t :: ts), ls, rest, h => by
    have hitems := Tree.written_render t (Tree.written_renderItems ts h)
    have hlist := Written.put .listStart hitems
    simpa [Tree.render, Tree.value, Tree.values, Value.lexemes, itemLexemes, separator] using hlist
  | .object [], ls, rest, h => by
    have hobject := Written.put .objectStart (.put .objectEnd h)
    simpa [Tree.render, Tree.value, Tree.bindings, Value.lexemes, entryLexemes] using hobject
  | .object ((k, t) :: es), ls, rest, h => by
    have hentries := Tree.written_render t (Tree.written_renderEntries es h)
    have hobject := Written.put .objectStart (.put (spells_renderKey k) hentries)
    simpa [Tree.render, Tree.value, Tree.bindings, Value.lexemes, entryLexemes, separator]
      using hobject

/-- The items of a list are rendered as their lexemes, each behind a comma, by recursion along the
list. -/
theorem Tree.written_renderItems : (ts : List Tree) → {ls : List Lexeme} → {rest : List Char} →
    Written Spells ls rest →
    Written Spells (itemLexemes false (Tree.values ts) ++ ls) (Tree.renderItems ts ++ rest)
  | [], _, _, h => .put .listEnd h
  | t :: ts, ls, rest, h => by
    have hitems := Tree.written_render t (Tree.written_renderItems ts h)
    have hlist := Written.put .comma hitems
    simpa [Tree.renderItems, Tree.values, itemLexemes, separator] using hlist

/-- The entries of an object are rendered as their lexemes, each behind a comma, by recursion along
the object. -/
theorem Tree.written_renderEntries : (es : List (String × Tree)) → {ls : List Lexeme} →
    {rest : List Char} → Written Spells ls rest →
    Written Spells (entryLexemes false (Tree.bindings es) ++ ls) (Tree.renderEntries es ++ rest)
  | [], _, _, h => .put .objectEnd h
  | (k, t) :: es, ls, rest, h => by
    have hentries := Tree.written_render t (Tree.written_renderEntries es h)
    have hobject := Written.put .comma (.put (spells_renderKey k) hentries)
    simpa [Tree.renderEntries, Tree.bindings, entryLexemes, separator] using hobject

end

/-- What is rendered of a tree is a text of its value, so what holds of every text holds of it. -/
theorem Tree.isTextOf_render (t : Tree) : IsTextOf t.value (String.ofList t.render) := by
  have hnil : Written Spells [] [] := .nil fun _ hc => absurd hc List.not_mem_nil
  have h := t.written_render hnil
  simpa [IsTextOf] using h

end Json
end CommitForm
