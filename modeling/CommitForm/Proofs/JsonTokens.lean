/-
# JSON texts as YAML tokens

A JSON text that is written alike (`SpellsAlike`) is cut into the YAML tokens of its lexemes.

| lexeme | tokens |
| --- | --- |
| a bracket, a comma | a bracket, a comma |
| a word, a number | a plain scalar |
| a text | a scalar in quotes |
| a key | a key, a scalar in quotes, a value |

The token of a key is put in at its colon, before the scalar; so the colon has to follow on the same
line and within `keyLimit` characters.
-/

import CommitForm.Proofs.JsonContent
import CommitForm.Proofs.YamlScanner

namespace CommitForm
namespace Json

/-- Whether a lexeme is a text in quotes, which may be the beginning of a key for the scanner of
YAML. -/
def Lexeme.isQuoted : Lexeme → Bool
  | .text _ | .key _ => true
  | _ => false

/-- A lexeme is written so that it means the same in YAML; for keys this limits the blanks before
the colon and the length. -/
inductive SpellsAlike : Lexeme → List Char → Prop where
  | text {s : String} {body : List Char} (h : SpellsTextAlike s.toList body) :
      SpellsAlike (.text s) ('"' :: (body ++ ['"']))
  | key {k : String} {body ws : List Char} (h : SpellsTextAlike k.toList body)
      (hws : ∀ c ∈ ws, c = ' ' ∨ c = '\t') (hlength : body.length + 2 + ws.length ≤ Yaml.keyLimit) :
      SpellsAlike (.key k) ('"' :: (body ++ '"' :: (ws ++ [':'])))
  | other {l : Lexeme} {cs : List Char} (hl : l.isQuoted = false) (h : Spells l cs) :
      SpellsAlike l cs

/-- What is written alike is written in one of the ways of JSON. -/
theorem SpellsAlike.spells {l : Lexeme} {cs : List Char} (h : SpellsAlike l cs) : Spells l cs := by
  cases h with
  | text h => exact .text h.spellsText
  | key h hws _ =>
    refine .key h.spellsText fun c hc => ?_
    rcases hws c hc with rfl | rfl <;> decide
  | other _ h => exact h

/-- A text that writes lexemes in some ways writes them if more ways are allowed. -/
theorem Written.mono {spells spells' : Lexeme → List Char → Prop}
    (h : ∀ l cs, spells l cs → spells' l cs) {ls : List Lexeme} {cs : List Char}
    (hwritten : Written spells ls cs) : Written spells' ls cs := by
  induction hwritten with
  | nil hws => exact .nil hws
  | cons hws hl _ ih => exact .cons hws (h _ _ hl) ih

end Json

namespace Yaml

/-- The tokens of a lexeme: a key makes three, since the scanner reveals that it is one only at its
colon. -/
def tokensOf : Json.Lexeme → List Lexeme
  | .null => [.scalar .plain ['n', 'u', 'l', 'l']]
  | .flag true => [.scalar .plain ['t', 'r', 'u', 'e']]
  | .flag false => [.scalar .plain ['f', 'a', 'l', 's', 'e']]
  | .number cs => [.scalar .plain cs]
  | .text s => [.scalar .doubleQuoted s.toList]
  | .key k => [.key, .scalar .doubleQuoted k.toList, .value]
  | .listStart => [.flowListStart]
  | .listEnd => [.flowListEnd]
  | .objectStart => [.flowMapStart]
  | .objectEnd => [.flowMapEnd]
  | .comma => [.flowEntry]

namespace Scanner

/-! ## Words and numbers -/

/-- The scalars that are not written in quotes, which the scanner reads as words. -/
def plain? : Json.Lexeme → Option (List Char)
  | .null => some ['n', 'u', 'l', 'l']
  | .flag true => some ['t', 'r', 'u', 'e']
  | .flag false => some ['f', 'a', 'l', 's', 'e']
  | .number cs => some cs
  | _ => none

/-- A digit may stand in a word, so a number is one word. -/
theorem isWordChar_of_isDigit {a : Char} (h : a.isDigit) : IsWordChar a := by
  have hspecial := not_mem_specials_of_isDigit h
  have hsubset : [':', ',', '[', ']', '\x7b', '\x7d'] ⊆ specials := by decide
  have hne (b : Char) (hb : b ∈ [':', ',', '[', ']', '\x7b', '\x7d']) : a ≠ b :=
    fun hab => hspecial (hab ▸ hsubset hb)
  refine ⟨not_isSpace_of_not_mem hspecial, hne ':' (by simp), ?_⟩
  simp [isFlowEnd, hne ',' (by simp), hne '[' (by simp), hne ']' (by simp), hne '\x7b' (by simp),
    hne '\x7d' (by simp)]

/-- The characters of a word that has no blanks, colons and brackets may all stand in a word. -/
theorem isWordChar_of_mem {cs : List Char}
    (h : (cs.all fun c => !isSpace c && c != ':' && !isFlowEnd c) = true) {c : Char} (hc : c ∈ cs) :
    IsWordChar c := by
  have hall := List.all_eq_true.1 h c hc
  simp only [Bool.and_eq_true, Bool.not_eq_true', bne_iff_ne] at hall
  exact ⟨hall.1.1, hall.1.2, hall.2⟩

/-- A number begins a word, also with a minus sign, behind which a digit follows and no blank. -/
theorem beginsWord_of_isNumber {cs : List Char} (h : Json.IsNumber cs) : BeginsWord cs := by
  obtain @⟨sign, whole, fraction, exponent, hsign, hwhole, -, -⟩ := h
  obtain ⟨d, ds, rfl⟩ := List.exists_cons_of_ne_nil hwhole.1.1
  have hd := not_mem_specials_of_isDigit (hwhole.1.2 d List.mem_cons_self)
  simp only [List.mem_cons, List.not_mem_nil, or_false] at hsign
  rcases hsign with rfl | rfl
  · exact ⟨d, _, rfl, .inl hd⟩
  · exact ⟨'-', _, rfl, .inr ⟨rfl, d, _, rfl, hd⟩⟩

/-- The characters of a number are digits, signs, points and the letter of an exponent. -/
theorem mem_of_isNumber {cs : List Char} (h : Json.IsNumber cs) {c : Char} (hc : c ∈ cs) :
    c.isDigit ∨ c ∈ ['-', '+', '.', 'e', 'E'] := by
  obtain @⟨sign, whole, fraction, exponent, hsign, hwhole, hfraction, hexponent⟩ := h
  simp only [List.mem_append] at hc
  rcases hc with hc | hc | hc | hc
  · simp only [List.mem_cons, List.not_mem_nil, or_false] at hsign
    rcases hsign with rfl | rfl <;> simp_all
  · exact .inl (hwhole.1.2 c hc)
  · obtain rfl | ⟨ds, hds, rfl⟩ := hfraction
    · cases hc
    · rcases List.mem_cons.1 hc with rfl | hc
      · simp
      · exact .inl (hds.2 c hc)
  · obtain rfl | ⟨letter, hletter, sign', hsign', ds, hds, rfl⟩ := hexponent
    · cases hc
    · rcases List.mem_cons.1 hc with rfl | hc
      · exact .inr (List.mem_append_right ['-', '+', '.'] hletter)
      · rcases List.mem_append.1 hc with hc | hc
        · simp only [List.mem_cons, List.not_mem_nil, or_false] at hsign'
          rcases hsign' with rfl | rfl | rfl <;> simp_all
        · exact .inl (hds.2 c hc)

/-- A lexeme without quotes is written as one word, all of whose characters the scanner takes for
it. -/
theorem word_of_plain? {l : Json.Lexeme} {word cs : List Char} (hl : plain? l = some word)
    (h : Json.Spells l cs) : cs = word ∧ (∀ c ∈ word, IsWordChar c) ∧ BeginsWord word := by
  have hletter (a : Char) (as : List Char) (ha : a ∉ specials) : BeginsWord (a :: as) :=
    ⟨a, as, rfl, .inl ha⟩
  cases h with
  | null =>
    obtain rfl := Option.some.inj hl
    exact ⟨rfl, fun c => isWordChar_of_mem (by decide), hletter _ _ (by decide)⟩
  | flagTrue =>
    obtain rfl := Option.some.inj hl
    exact ⟨rfl, fun c => isWordChar_of_mem (by decide), hletter _ _ (by decide)⟩
  | flagFalse =>
    obtain rfl := Option.some.inj hl
    exact ⟨rfl, fun c => isWordChar_of_mem (by decide), hletter _ _ (by decide)⟩
  | number hnumber =>
    obtain rfl := Option.some.inj hl
    refine ⟨rfl, fun c hc => ?_, beginsWord_of_isNumber hnumber⟩
    rcases mem_of_isNumber hnumber hc with hc | hc
    · exact isWordChar_of_isDigit hc
    · exact isWordChar_of_mem (by decide) hc
  | _ => cases hl

/-! ## Lexemes -/

variable {s t : Scanner} {ts ts' : List Lexeme} {depth depth' : Nat} {ls ls' : List Json.Lexeme}

/-- A scanner has cut tokens and is before lexemes.  A key may begin where one comes next, and none
may behind the last lexeme. -/
structure Reads (s : Scanner) (ls : List Json.Lexeme) (ts : List Lexeme) (depth : Nat) : Prop where
  has : s.Has ts depth
  written : Json.Written Json.SpellsAlike ls s.cursor.rest
  keyed : ∀ k ls', ls = .key k :: ls' → s.keyAllowed = true
  ended : ls = [] → s.keyAllowed = false

/-- Rounds lead to a state, each of which cuts off one token and leaves no fault. -/
inductive Reaches : Scanner → Scanner → Prop where
  | refl (s : Scanner) : Reaches s s
  | step {s t u : Scanner} (h : s.Cuts t) (h' : Reaches t u) : Reaches s u

/-- Rounds that follow on rounds lead to where the last of them leads. -/
theorem Reaches.trans {s t u : Scanner} (h : Reaches s t) (h' : Reaches t u) : Reaches s u := by
  induction h with
  | refl => exact h'
  | step hcut _ ih => exact .step hcut (ih h')

/-- Rounds lead before lexemes, with given tokens cut off so far and given brackets open. -/
def Arrives (s : Scanner) (ls : List Json.Lexeme) (ts : List Lexeme) (depth : Nat) : Prop :=
  ∃ t, Reaches s t ∧ t.Reads ls ts depth

/-- Where rounds lead before lexemes, further rounds lead on from there. -/
theorem Arrives.next (h : Arrives s ls ts depth)
    (h' : ∀ t : Scanner, t.Reads ls ts depth → Arrives t ls' ts' depth') :
    Arrives s ls' ts' depth' := by
  obtain ⟨t, hst, ht⟩ := h
  obtain ⟨u, htu, hu⟩ := h' t ht
  exact ⟨u, hst.trans htu, hu⟩

/-- A text that writes a lexeme first is taken apart into blanks, the lexeme and the rest. -/
theorem written_cons {l : Json.Lexeme} {text : List Char}
    (h : Json.Written Json.SpellsAlike (l :: ls) text) : ∃ ws cs rest, text = ws ++ (cs ++ rest) ∧
      Json.AreBlank ws ∧ Json.SpellsAlike l cs ∧ Json.Written Json.SpellsAlike ls rest := by
  cases h with
  | cons hws hl h => exact ⟨_, _, _, rfl, hws, hl, h⟩

/-- A lexeme begins a token of YAML, whatever follows it. -/
theorem beginsToken {l : Json.Lexeme} {cs : List Char} (h : Json.Spells l cs) (rest : List Char) :
    cs ≠ [] ∧ BeginsToken (cs ++ rest) := by
  obtain ⟨a, as, rfl, ha, -⟩ := h.exists_head
  refine ⟨List.cons_ne_nil _ _, fun b hb => ?_⟩
  obtain rfl := Option.some.inj hb
  have hspecial (c : Char) (hc : c ∉ specials) : isSpace c = false ∧ c ≠ '#' ∧ c ≠ '\ufeff' :=
    ⟨not_isSpace_of_not_mem hc, fun hcc => hc (hcc ▸ by decide), fun hcc => hc (hcc ▸ by decide)⟩
  rcases l with _ | (_ | _) | _ | _ | _ | _ | _ | _ | _ | _
  all_goals first
    | (obtain rfl : a = _ := ha; decide)
    | skip
  rcases ha with rfl | ha
  · decide
  · exact hspecial _ (not_mem_specials_of_isDigit ha)

/-- A lexeme of a single character is written as this character. -/
theorem spells_char {l : Json.Lexeme} {cs : List Char} {a : Char} (h : Json.SpellsAlike l cs)
    (ha : l.char? = some a) : cs = [a] := by
  cases h.spells <;> first | exact congrArg (· :: []) (Option.some.inj ha) | cases ha

/-- Tabs are allowed between lexemes in brackets, where indentation means nothing. -/
theorem Has.allowsTabs (h : s.Has ts (depth + 1)) (ws : List Char) : s.AllowsTabs ws :=
  fun _ => .inl h.inFlow

/-- A lexeme that is a token of its own takes one round, if cutting it gives the token and allows a
key where one follows. -/
theorem Reads.arrives {l : Json.Lexeme} (h : s.Reads (l :: ls) ts depth)
    (htabs : ∀ ws rest, Json.AreBlank ws → s.cursor.rest = ws ++ rest → s.AllowsTabs ws)
    {allowed : Bool} (hgives : ∀ (t : Scanner) cs rest, Json.SpellsAlike l cs → t.Has ts depth →
      t.cursor.rest = cs ++ rest → Gives t.cutHere ts' depth' rest (· = allowed))
    (hkeyed : ∀ k ls', ls = .key k :: ls' → allowed = true) (hended : ls = [] → allowed = false) :
    Arrives s ls ts' depth' := by
  obtain ⟨ws, cs, rest, hrest, hws, hspells, hwritten⟩ := written_cons h.written
  obtain ⟨hcs, hbegins⟩ := beginsToken hspells.spells rest
  obtain ⟨t, hcut, hhas, htrest, rfl⟩ := h.has.exists_cuts hws hcs hbegins (htabs ws _ hws hrest)
    hrest fun t ht htrest => hgives t cs rest hspells ht htrest
  exact ⟨t, .step hcut (.refl t), hhas, htrest ▸ hwritten, hkeyed, hended⟩

/-- An opening bracket takes one round and leaves one more bracket open, behind which a key may
stand. -/
theorem Reads.opens {l : Json.Lexeme} (hl : l = .listStart ∨ l = .objectStart)
    (h : s.Reads (l :: ls) ts depth) (hls : ls ≠ [])
    (htabs : ∀ ws rest, Json.AreBlank ws → s.cursor.rest = ws ++ rest → s.AllowsTabs ws) :
    Arrives s ls (ts ++ tokensOf l) (depth + 1) := by
  refine h.arrives htabs (fun t cs rest hspells ht hrest => ?_) (fun _ _ _ => rfl)
    fun hnil => absurd hnil hls
  rcases hl with rfl | rfl
  · obtain rfl := spells_char hspells rfl
    rw [(cutHere_char hrest).1 rfl]
    exact ht.openFlow .flowListStart hrest
  · obtain rfl := spells_char hspells rfl
    rw [(cutHere_char hrest).2.1 rfl]
    exact ht.openFlow .flowMapStart hrest

/-- No key follows a value, so it does not matter whether the scanner would allow one there. -/
theorem not_keyed (h : Json.EndsValue ls) {allowed : Bool} (k : String) (ls' : List Json.Lexeme)
    (hls : ls = .key k :: ls') : allowed = true := by
  subst hls
  exact h.elim

/-- A closing bracket takes one round and leaves one bracket less open. -/
theorem Reads.closes {l : Json.Lexeme} (hl : l = .listEnd ∨ l = .objectEnd)
    (hls : Json.EndsValue ls) (h : s.Reads (l :: ls) ts (depth + 1)) :
    Arrives s ls (ts ++ tokensOf l) depth := by
  refine h.arrives (fun ws _ _ _ => h.has.allowsTabs ws) (fun t cs rest hspells ht hrest => ?_)
    (not_keyed hls) fun _ => rfl
  rcases hl with rfl | rfl
  · obtain rfl := spells_char hspells rfl
    rw [(cutHere_char hrest).2.2.1 rfl]
    exact ht.closeFlow .flowListEnd hrest
  · obtain rfl := spells_char hspells rfl
    rw [(cutHere_char hrest).2.2.2.1 rfl]
    exact ht.closeFlow .flowMapEnd hrest

/-- A comma takes one round, behind which a key may stand again. -/
theorem Reads.comma (h : s.Reads (.comma :: ls) ts (depth + 1)) (hls : ls ≠ []) :
    Arrives s ls (ts ++ [.flowEntry]) (depth + 1) := by
  refine h.arrives (fun ws _ _ _ => h.has.allowsTabs ws) (fun t cs rest hspells ht hrest => ?_)
    (fun _ _ _ => rfl) fun hnil => absurd hnil hls
  obtain rfl := spells_char hspells rfl
  rw [(cutHere_char hrest).2.2.2.2.1 rfl]
  exact ht.flowEntry hrest

/-- A text takes one round; it stays a pending key, which no colon turns into one. -/
theorem Reads.text {text : String} (hls : Json.EndsValue ls)
    (h : s.Reads (.text text :: ls) ts (depth + 1)) :
    Arrives s ls (ts ++ [.scalar .doubleQuoted text.toList]) (depth + 1) := by
  refine h.arrives (fun ws _ _ _ => h.has.allowsTabs ws) (fun t cs rest hspells ht hrest => ?_)
    (not_keyed hls) fun _ => rfl
  cases hspells with
  | text hbody =>
    refine ht.text hbody ?_
    rw [hrest]
    simp
  | other hl _ => cases hl

/-- What follows a value in brackets begins with a closing bracket or a comma. -/
theorem exists_flowEnd (hls : Json.EndsValue ls) (hne : ls ≠ []) {text : List Char}
    (h : Json.Written Json.SpellsAlike ls text) : ∃ ws e rest, text = ws ++ e :: rest ∧
      Json.AreBlank ws ∧ isFlowEnd e ∧ Json.Written Json.SpellsAlike ls (e :: rest) := by
  obtain ⟨l, ls, rfl⟩ := List.exists_cons_of_ne_nil hne
  obtain ⟨ws, cs, rest, rfl, hws, hl, hwritten⟩ := written_cons h
  have hput (e : Char) (he : l.char? = some e) : cs ++ rest = e :: rest ∧
      Json.Written Json.SpellsAlike (l :: ls) (e :: rest) := by
    obtain rfl := spells_char hl he
    exact ⟨rfl, .put hl hwritten⟩
  obtain ⟨e, he, hend⟩ : ∃ e, l.char? = some e ∧ isFlowEnd e := by
    cases l <;> first | exact hls.elim | exact ⟨_, rfl, by decide⟩
  obtain ⟨hcs, hwritten'⟩ := hput e he
  exact ⟨ws, e, rest, by rw [hcs], hws, hend, hwritten'⟩

/-- A lexeme without quotes takes one round and is a plain scalar, since the rest of the text ends
its word. -/
theorem Reads.word {l : Json.Lexeme} {word : List Char} (hl : plain? l = some word)
    (hls : Json.EndsValue ls) (hne : ls ≠ []) (h : s.Reads (l :: ls) ts (depth + 1)) :
    Arrives s ls (ts ++ [.scalar .plain word]) (depth + 1) := by
  obtain ⟨ws, cs, rest, hrest, hws, hspells, hwritten⟩ := written_cons h.written
  obtain ⟨rfl, hword, hbegins⟩ := word_of_plain? hl hspells.spells
  obtain ⟨ws', e, rest, rfl, hws', he, hwritten'⟩ := exists_flowEnd hls hne hwritten
  obtain ⟨hcs, hbegins'⟩ := beginsToken hspells.spells (ws' ++ e :: rest)
  rw [← List.append_assoc cs] at hrest hbegins'
  obtain ⟨t, hcut, hhas, htrest, -⟩ := h.has.exists_cuts hws
    (List.append_ne_nil_of_left_ne_nil hcs ws') hbegins' (h.has.allowsTabs ws) hrest
    fun t ht htrest => ht.word hword hbegins hws' he (by rw [htrest, List.append_assoc])
  exact ⟨t, .step hcut (.refl t), hhas, htrest ▸ hwritten', not_keyed hls,
    fun hnil => absurd hnil hne⟩

/-- A key is two tokens and the one between them: the first is put in at the colon. -/
theorem Reads.key {k : String} (h : s.Reads (.key k :: ls) ts (depth + 1))
    (hls : ∀ k' ls', ls ≠ .key k' :: ls') :
    Arrives s ls (ts ++ [.key, .scalar .doubleQuoted k.toList, .value]) (depth + 1) := by
  obtain ⟨ws, cs, rest, hrest, hws, hspells, hwritten⟩ := written_cons h.written
  obtain ⟨hcs, hbegins⟩ := beginsToken hspells.spells rest
  obtain ⟨t, ht, htrest, hallowed, hcut⟩ := h.has.exists_cut hws hbegins (h.has.allowsTabs ws) hrest
  rw [h.keyed k ls rfl] at hallowed
  cases hspells with
  | other hl _ => cases hl
  | @key _ body bs hbody hbs hlength =>
  have htrest' : t.cursor.rest = '"' :: (body ++ '"' :: (bs ++ ':' :: rest)) := by
    rw [htrest]
    simp
  have hhere : t.cutHere = .ok (t.behindText k.toList (body.length + 2)) := by
    rw [(cutHere_char htrest').2.2.2.2.2 rfl]
    exact ht.quoted_eq hbody htrest'
  have hu := ht.behindText k.toList (body.length + 2)
  have hpending : (t.behindText k.toList (body.length + 2)).pending =
      some ⟨ts.length, t.cursor.index, t.cursor.place, false⟩ := by
    show t.savedKey = _
    rw [savedKey, hallowed h.has.inFlow, ht.size]
    rfl
  have hurest : (t.behindText k.toList (body.length + 2)).cursor.rest = bs ++ ':' :: rest := by
    show t.cursor.rest.drop (body.length + 2) = _
    rw [htrest']
    simp
  have hnear : t.cursor.index + (body.length + 2) + bs.length ≤ t.cursor.index + keyLimit := by
    omega
  obtain ⟨u, hcolon, hhas, hrest', hallowed'⟩ := hu.faded.exists_colon
    (faded_pending hpending rfl (Nat.le_trans (Nat.le_add_right _ _) hnear)) hbs hurest rfl hnear
  have hquoted : s.Cuts (t.behindText k.toList (body.length + 2)).faded := by
    refine ⟨?_, hu.faded.running, ws ++ ('"' :: (body ++ ['"'])), by simp, ?_⟩
    · rw [hcut, hhere]
      exact hu.dropStale_eq
    · show _ = _ ++ (t.behindText k.toList (body.length + 2)).cursor.rest
      rw [hrest, hurest]
      simp
  exact ⟨u, .step hquoted (.step hcolon (.refl u)), hhas, hrest' ▸ hwritten,
    fun k' ls' he => absurd he (hls k' ls'), fun _ => hallowed'⟩

/-! ## Values -/

/-- The separator before an item takes one round, or none if the item is the first. -/
theorem Reads.separator (first : Bool) (hls : ls ≠ [])
    (h : s.Reads (Json.separator first ++ ls) ts (depth + 1)) :
    Arrives s ls (ts ++ (Json.separator first).flatMap tokensOf) (depth + 1) := by
  cases first with
  | true => exact ⟨s, .refl s, by simpa [Json.separator] using h⟩
  | false => exact h.comma hls

/-- A value does not begin with a key, and lexemes that begin with one of its own are not empty. -/
theorem lexemes_append (v : Json.Value) (ls : List Json.Lexeme) :
    v.lexemes ++ ls ≠ [] ∧ ∀ k ls', v.lexemes ++ ls ≠ .key k :: ls' := by
  cases v <;> simp [Json.Value.lexemes]

/-- The lexemes of items are not empty, since the closing bracket is among them. -/
theorem itemLexemes_append (first : Bool) (vs : List Json.Value) (ls : List Json.Lexeme) :
    Json.itemLexemes first vs ++ ls ≠ [] := by
  cases vs <;> simp [Json.itemLexemes, (lexemes_append _ _).1]

/-- The lexemes of entries are not empty, since the closing bracket is among them. -/
theorem entryLexemes_append (first : Bool) (bs : List (String × Json.Value))
    (ls : List Json.Lexeme) : Json.entryLexemes first bs ++ ls ≠ [] := by
  cases bs <;> simp [Json.entryLexemes]

mutual

/-- **A value is cut** into the tokens of its lexemes, by recursion along the value, wherever it
stands in brackets. -/
theorem Reads.value : (v : Json.Value) → ∀ {s : Scanner} {ts depth ls}, Json.EndsValue ls →
    ls ≠ [] → s.Reads (v.lexemes ++ ls) ts (depth + 1) →
    Arrives s ls (ts ++ v.lexemes.flatMap tokensOf) (depth + 1)
  | .null, _, _, _, _, hls, hne, h => h.word rfl hls hne
  | .flag true, _, _, _, _, hls, hne, h => h.word rfl hls hne
  | .flag false, _, _, _, _, hls, hne, h => h.word rfl hls hne
  | .number _, _, _, _, _, hls, hne, h => h.word rfl hls hne
  | .text _, _, _, _, _, hls, _, h => h.text hls
  | .list vs, s, ts, depth, ls, hls, _, h => by
    have hopen := h.opens (.inl rfl) (itemLexemes_append true vs ls) fun ws _ _ _ =>
      h.has.allowsTabs ws
    have hitems := hopen.next fun t ht => Reads.items true vs hls ht
    rwa [List.append_assoc] at hitems
  | .object bs, s, ts, depth, ls, hls, _, h => by
    have hopen := h.opens (.inr rfl) (entryLexemes_append true bs ls) fun ws _ _ _ =>
      h.has.allowsTabs ws
    have hentries := hopen.next fun t ht => Reads.entries true bs hls ht
    rwa [List.append_assoc] at hentries

/-- The items of a list are cut into the tokens of their lexemes, up to the closing bracket. -/
theorem Reads.items : (first : Bool) → (vs : List Json.Value) → ∀ {s : Scanner} {ts depth ls},
    Json.EndsValue ls → s.Reads (Json.itemLexemes first vs ++ ls) ts (depth + 1) →
    Arrives s ls (ts ++ (Json.itemLexemes first vs).flatMap tokensOf) depth
  | _, [], _, _, _, _, hls, h => h.closes (.inl rfl) hls
  | first, v :: vs, s, ts, depth, ls, hls, h => by
    simp only [Json.itemLexemes, List.append_assoc] at h
    have hitem := (h.separator first (lexemes_append v _).1).next fun t ht =>
      Reads.value v (Json.endsValue_items vs ls) (itemLexemes_append false vs ls) ht
    have hitems := hitem.next fun t ht => Reads.items false vs hls ht
    simpa [Json.itemLexemes, List.flatMap_append, List.append_assoc] using hitems

/-- The entries of an object are cut into the tokens of their lexemes, up to the closing bracket. -/
theorem Reads.entries : (first : Bool) → (bs : List (String × Json.Value)) →
    ∀ {s : Scanner} {ts depth ls}, Json.EndsValue ls →
    s.Reads (Json.entryLexemes first bs ++ ls) ts (depth + 1) →
    Arrives s ls (ts ++ (Json.entryLexemes first bs).flatMap tokensOf) depth
  | _, [], _, _, _, _, hls, h => h.closes (.inr rfl) hls
  | first, (k, v) :: bs, s, ts, depth, ls, hls, h => by
    simp only [Json.entryLexemes, List.append_assoc, List.cons_append] at h
    have hkey := (h.separator first (List.cons_ne_nil _ _)).next fun t ht =>
      ht.key (lexemes_append v _).2
    have hentry := hkey.next fun t ht =>
      Reads.value v (Json.endsValue_entries bs ls) (entryLexemes_append false bs ls) ht
    have hentries := hentry.next fun t ht => Reads.entries false bs hls ht
    simpa [Json.entryLexemes, List.flatMap_append, List.append_assoc, tokensOf] using hentries

end

/-! ## Texts of values -/

/-- Rounds take no more fuel than the characters that they pass, so what is left suffices for the
rest. -/
theorem Reaches.exists_fuel (h : Reaches s t) {fuel : Nat} (hfuel : s.cursor.rest.length < fuel) :
    ∃ fuel', t.cursor.rest.length < fuel' ∧
      Tokens.ofScanner fuel s = Tokens.ofScanner fuel' t := by
  induction h generalizing fuel with
  | refl s => exact ⟨fuel, hfuel, rfl⟩
  | @step s t u hcut _ ih =>
    obtain ⟨fuel, rfl⟩ : ∃ n, fuel = n + 1 := ⟨fuel - 1, by omega⟩
    obtain ⟨pre, hpre, hrest⟩ := hcut.less
    have hless : t.cursor.rest.length < fuel := by
      have hlength := List.length_pos_iff.2 hpre
      rw [hrest, List.length_append] at hfuel
      omega
    obtain ⟨fuel', hfuel', he⟩ := ih hless
    refine ⟨fuel', hfuel', ?_⟩
    rw [Tokens.ofScanner, hcut.cut]
    simp only [hcut.running, Bool.false_eq_true, if_false]
    exact he

/-- Rounds only go forward, so what is left of the text is the end of what was left before. -/
theorem Reaches.exists_append (h : Reaches s t) :
    ∃ pre, s.cursor.rest = pre ++ t.cursor.rest := by
  induction h with
  | refl s => exact ⟨[], rfl⟩
  | step hcut _ ih =>
    obtain ⟨pre, -, hrest⟩ := hcut.less
    obtain ⟨pre', hrest'⟩ := ih
    exact ⟨pre ++ pre', by rw [hrest, hrest', List.append_assoc]⟩

end Scanner

/-! ## Printable texts -/

/-- No tab stands among the blanks at the beginning, where YAML would take it for wrong
indentation. -/
def StartsWithoutTabs (cs : List Char) : Prop :=
  ∀ ws, Json.AreBlank ws → ws <+: cs → '\t' ∉ ws

/-- No tab stands among the blanks at the end, behind a break, where YAML would take it for wrong
indentation. -/
def EndsWithoutTabs (cs : List Char) : Prop :=
  ∀ b ws, isBreak b → Json.AreBlank ws → b :: ws <:+ cs → '\t' ∉ ws

/-- The blanks of JSON may all stand in a YAML text. -/
theorem isPrintable_of_isBlank {c : Char} (h : Json.Cursor.isBlank c) : isPrintable c := by
  simp only [Json.Cursor.isBlank, Bool.or_eq_true, beq_iff_eq] at h
  rcases h with ((rfl | rfl) | rfl) | rfl <;> decide

/-- The visible characters of ASCII may all stand in a YAML text. -/
theorem isPrintable_of_le {a b c : Char} (ha : a ≤ c) (hb : c ≤ b)
    (h : ' ' ≤ a ∧ b ≤ '~') : isPrintable c := by
  have hlow : ' ' ≤ c := Char.le_trans h.1 ha
  have hhigh : c ≤ '~' := Char.le_trans hb h.2
  simp [isPrintable, hlow, hhigh]

/-- Hexadecimal digits may stand in a YAML text. -/
theorem isPrintable_of_hexDigit? {c : Char} {n : Nat}
    (h : Unicode.CharSet.hexDigit? c = some n) : isPrintable c := by
  rw [Unicode.CharSet.hexDigit?] at h
  split at h
  · next hc => exact isPrintable_of_le hc.1 hc.2 (by decide)
  · split at h
    · next hc => exact isPrintable_of_le hc.1 hc.2 (by decide)
    · split at h
      · next hc => exact isPrintable_of_le hc.1 hc.2 (by decide)
      · cases h

/-- Digits may stand in a YAML text. -/
theorem isPrintable_of_isDigit {c : Char} (h : c.isDigit) : isPrintable c := by
  rw [Char.isDigit, Bool.and_eq_true, decide_eq_true_iff, decide_eq_true_iff] at h
  exact isPrintable_of_le (a := '0') (b := '9') h.1 h.2 (by decide)

/-- The escape of a code unit may stand in a YAML text. -/
theorem isPrintable_of_unit {n : Nat} {unit : List Char} (h : Json.SpellsUnit n unit) :
    ∀ c ∈ unit, isPrintable c := by
  obtain ⟨h⟩ := h
  simp only [Json.fourDigits?, Option.bind_eq_bind, Option.bind_eq_some_iff] at h
  obtain ⟨_, ha, _, hb, _, hc, _, hd, -⟩ := h
  simp only [List.mem_cons, List.not_mem_nil, or_false]
  rintro c (rfl | rfl | rfl | rfl | rfl | rfl)
  · decide
  · decide
  · exact isPrintable_of_hexDigit? ha
  · exact isPrintable_of_hexDigit? hb
  · exact isPrintable_of_hexDigit? hc
  · exact isPrintable_of_hexDigit? hd

/-- The characters of a text that is spelled alike may all stand in a YAML text. -/
theorem isPrintable_of_body {cs body : List Char} (h : Json.SpellsTextAlike cs body) :
    ∀ c ∈ body, isPrintable c := by
  induction h with
  | nil => exact fun c hc => absurd hc List.not_mem_nil
  | plain _ hprintable _ _ _ _ ih =>
    rintro c (_ | ⟨_, hc⟩)
    · exact hprintable
    · exact ih c hc
  | @letter _ a _ _ ha _ ih =>
    have hletter : isPrintable a := by
      rw [Json.escaped?.eq_def] at ha
      split at ha <;> first | decide | cases ha
    rintro c (_ | ⟨_, _ | ⟨_, hc⟩⟩)
    · decide
    · exact hletter
    · exact ih c hc
  | unit hunit _ ih =>
    intro c hc
    rcases List.mem_append.1 hc with hc | hc
    · exact isPrintable_of_unit hunit c hc
    · exact ih c hc

/-- The characters of a lexeme that is written alike may all stand in a YAML text. -/
theorem isPrintable_of_spells {l : Json.Lexeme} {cs : List Char} (h : Json.SpellsAlike l cs) :
    ∀ c ∈ cs, isPrintable c := by
  have hall {cs : List Char} (h : cs.all isPrintable = true) : ∀ c ∈ cs, isPrintable c :=
    List.all_eq_true.1 h
  cases h with
  | text h =>
    intro c hc
    simp only [List.mem_cons, List.mem_append, List.not_mem_nil, or_false] at hc
    rcases hc with rfl | hc | rfl
    · decide
    · exact isPrintable_of_body h c hc
    · decide
  | key h hws _ =>
    intro c hc
    simp only [List.mem_cons, List.mem_append, List.not_mem_nil, or_false] at hc
    rcases hc with rfl | hc | rfl | hc | rfl
    · decide
    · exact isPrintable_of_body h c hc
    · decide
    · rcases hws c hc with rfl | rfl <;> decide
    · decide
  | other hl h =>
    cases h with
    | number hnumber =>
      intro c hc
      rcases Scanner.mem_of_isNumber hnumber hc with hc | hc
      · exact isPrintable_of_isDigit hc
      · exact hall (by decide : ['-', '+', '.', 'e', 'E'].all isPrintable = true) c hc
    | text _ => cases hl
    | key _ _ => cases hl
    | _ => exact hall (by decide)

/-- The characters of a text that is written alike may all stand in a YAML text, so the scanner
refuses none while it decodes. -/
theorem isPrintable_of_written {ls : List Json.Lexeme} {cs : List Char}
    (h : Json.Written Json.SpellsAlike ls cs) : ∀ c ∈ cs, isPrintable c := by
  induction h with
  | nil hws => exact fun c hc => isPrintable_of_isBlank (hws c hc)
  | cons hws hl _ ih =>
    intro c hc
    simp only [List.mem_append] at hc
    rcases hc with hc | hc | hc
    · exact isPrintable_of_isBlank (hws c hc)
    · exact isPrintable_of_spells hl c hc
    · exact ih c hc

/-- Behind the last bracket tabs are passed over up to the first break, and behind that there are
none. -/
theorem EndsWithoutTabs.allowsTabs {pre : List Char} {s : Scanner}
    (h : EndsWithoutTabs (pre ++ s.cursor.rest)) (hblank : Json.AreBlank s.cursor.rest)
    (hallowed : s.keyAllowed = false) : s.AllowsTabs s.cursor.rest := by
  refine fun _ => .inr ⟨hallowed, fun htab => ?_⟩
  have hsplit : s.cursor.rest.takeWhile (fun a => !isBreak a) ++
      s.cursor.rest.dropWhile (fun a => !isBreak a) = s.cursor.rest :=
    List.takeWhile_append_dropWhile
  have hhead := List.head?_dropWhile_not (fun a => !isBreak a) s.cursor.rest
  cases hdrop : s.cursor.rest.dropWhile fun a => !isBreak a with
  | nil => rw [hdrop] at htab; cases htab
  | cons b ws =>
    rw [hdrop] at hsplit hhead htab
    have hbreak : isBreak b := by simpa using hhead
    have hws : Json.AreBlank ws := fun c hc => hblank c (by rw [← hsplit]; simp [hc])
    rcases List.mem_cons.1 htab with rfl | htab
    · exact absurd hbreak (by decide)
    · refine h b ws hbreak hws ⟨pre ++ s.cursor.rest.takeWhile fun a => !isBreak a, ?_⟩ htab
      rw [List.append_assoc, hsplit]

/-- **An object is cut** into the tokens of its lexemes, without a fault, and with the end of the
text behind them. -/
theorem Tokens.ofText_object {bs : List (String × Json.Value)} {text : String}
    (h : Json.Written Json.SpellsAlike (Json.Value.object bs).lexemes text.toList)
    (hstarts : StartsWithoutTabs text.toList) (hends : EndsWithoutTabs text.toList) :
    (Tokens.ofText text).fault = none ∧ (Tokens.ofText text).list.map Token.lexeme =
      (Json.Value.object bs).lexemes.flatMap tokensOf ++ [.streamEnd] := by
  have hprintable : text.toList.all isPrintable = true :=
    List.all_eq_true.2 (isPrintable_of_written h)
  have hstart : (Scanner.start text).Reads (Json.Value.object bs).lexemes [] 0 :=
    ⟨⟨rfl, rfl, rfl, fun k hk => by simp [Scanner.start] at hk, rfl⟩, h,
      fun k ls' he => by simp [Json.Value.lexemes] at he,
      fun he => by simp [Json.Value.lexemes] at he⟩
  have hopen := hstart.opens (.inr rfl) (by simpa using Scanner.entryLexemes_append true bs [])
    fun ws rest hws hrest htab => absurd htab (hstarts ws hws ⟨rest, hrest.symm⟩)
  have hentries (t : Scanner) (ht : t.Reads (Json.entryLexemes true bs)
      ([] ++ tokensOf .objectStart) 1) :=
    Scanner.Reads.entries true bs (show Json.EndsValue [] from trivial)
      (by rwa [List.append_nil])
  obtain ⟨t, hreaches, ht⟩ := hopen.next hentries
  obtain ⟨pre, hpre⟩ : ∃ pre, text.toList = pre ++ t.cursor.rest := hreaches.exists_append
  have hblank : Json.AreBlank t.cursor.rest := by
    have hwritten := ht.written
    generalize t.cursor.rest = ws at hwritten ⊢
    cases hwritten with
    | nil hws => exact hws
  have htabs : t.AllowsTabs t.cursor.rest :=
    EndsWithoutTabs.allowsTabs (hpre ▸ hends) hblank (ht.ended rfl)
  have hnil : Scanner.BeginsToken [] := fun a ha => nomatch ha
  obtain ⟨u, hu, hurest, -, hcut⟩ :=
    ht.has.exists_cut hblank hnil htabs (List.append_nil _).symm
  obtain ⟨v, hv, hended, hlexemes⟩ := hu.endText hurest
  have hlength : (Scanner.start text).cursor.rest.length < text.length + 2 := by
    show text.toList.length < _
    rw [String.length_toList]
    omega
  obtain ⟨fuel, hfuel, he⟩ := hreaches.exists_fuel hlength
  obtain ⟨fuel, rfl⟩ : ∃ n, fuel = n + 1 := ⟨fuel - 1, by omega⟩
  rw [Tokens.ofText, if_pos hprintable, he, Tokens.ofScanner, hcut, hv]
  simp only [hended, if_true]
  exact ⟨trivial, hlexemes⟩

end Yaml
end CommitForm
