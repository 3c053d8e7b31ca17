/-
# YAML scanners in JSON texts

What a scanner of YAML does where a JSON text goes on.  There no block is open and no key is
required, so that what counts is the tokens cut so far and the number of open brackets
(`Scanner.Has`).

| what follows | what a round cuts off |
| --- | --- |
| blanks | nothing; they are passed over |
| a bracket, a comma | its token |
| a text in quotes, a word | a scalar |
| a colon | the end of a key, whose first token is put in before the scalar |

A round is taken apart once (`Has.exists_cut`); what is left is what `cutHere` gives (`Gives`).
-/

import CommitForm.Proofs.YamlScalars
import CommitForm.Yaml.Tokens

namespace CommitForm
namespace Yaml
namespace Scanner

/-! ## States -/

/-- What a scanner has cut so far, and how many brackets are open.  No blocks are. -/
structure Has (s : Scanner) (ts : List Lexeme) (depth : Nat) : Prop where
  lexemes : s.tokens.toList.map Token.lexeme = ts
  columns : s.columns = []
  depth : s.outer.length = depth
  optional : ∀ k, some k ∈ s.pending :: s.outer → k.required = false
  running : s.ended = false

variable {s t : Scanner} {ts : List Lexeme} {depth : Nat}

/-- With an open bracket the scanner is in brackets. -/
theorem Has.inFlow (h : s.Has ts (depth + 1)) : s.inFlow = true := by
  have hdepth := h.depth
  rw [Scanner.inFlow]
  cases houter : s.outer with
  | nil => rw [houter] at hdepth; cases hdepth
  | cons k outer => rfl

/-- As many tokens have been cut as are told. -/
theorem Has.size (h : s.Has ts depth) : s.tokens.size = ts.length := by
  rw [← h.lexemes, List.length_map, Array.length_toList]

/-- Moving the cursor changes nothing else, and neither does allowing or forbidding a key. -/
theorem Has.move (h : s.Has ts depth) (c : Cursor) (allowed : Bool) :
    Has { s with cursor := c, keyAllowed := allowed } ts depth :=
  ⟨h.lexemes, h.columns, h.depth, h.optional, h.running⟩

/-- A token that is cut off at the cursor comes behind the others. -/
theorem Has.pushNext (h : s.Has ts depth) (lexeme : Lexeme) (n : Nat) :
    (s.pushNext lexeme n).Has (ts ++ [lexeme]) depth := by
  refine ⟨?_, h.columns, h.depth, h.optional, h.running⟩
  simp [Scanner.pushNext, push, ← h.lexemes]

/-! ## Pending keys -/

/-- What remains of a pending key that does not have to be one: nothing once it is on another line
or too far away. -/
def fresh (s : Scanner) (k : Option PendingKey) : Option PendingKey :=
  k.filter fun k => !s.isStale k

/-- The scanner without its stale keys, neither the one of the innermost level nor those of the
levels around it. -/
def faded (s : Scanner) : Scanner :=
  { s with outer := s.outer.map s.fresh, pending := s.fresh s.pending }

/-- A key that is not required is dropped without a fault when it is stale. -/
theorem freshen_eq {k : Option PendingKey} (h : ∀ p, k = some p → p.required = false) :
    s.freshen k = .ok (s.fresh k) := by
  cases k with
  | none => rfl
  | some p =>
    rw [freshen, fresh, Option.filter]
    cases s.isStale p with
    | true => simp [h p rfl]
    | false => rfl

/-- Keys that are not required are freshened one by one without a fault. -/
theorem mapM_freshen {ks : List (Option PendingKey)}
    (h : ∀ p, some p ∈ ks → p.required = false) : ks.mapM s.freshen = .ok (ks.map s.fresh) := by
  induction ks with
  | nil => rfl
  | cons k ks ih =>
    have hk (p : PendingKey) (hp : k = some p) := h p (hp ▸ List.mem_cons_self)
    rw [List.mapM_cons, freshen_eq hk, ih fun p hp => h p (List.mem_cons_of_mem _ hp)]
    rfl

/-- Dropping stale keys never fails here, since no key is required. -/
theorem Has.dropStale_eq (h : s.Has ts depth) : s.dropStale = .ok s.faded := by
  have hpending (p : PendingKey) (hp : s.pending = some p) :=
    h.optional p (hp ▸ List.mem_cons_self)
  rw [dropStale, mapM_freshen fun p hp => h.optional p (List.mem_cons_of_mem _ hp)]
  simp only [bind, Except.bind, freshen_eq hpending]
  rfl

/-- A key that remains is the one that there was. -/
theorem eq_of_fresh {k : Option PendingKey} {p : PendingKey} (h : s.fresh k = some p) :
    k = some p := by
  rw [fresh, Option.filter_eq_some_iff] at h
  exact h.1

/-- Without its stale keys the scanner has cut the same tokens and has the same brackets open. -/
theorem Has.faded (h : s.Has ts depth) : s.faded.Has ts depth := by
  refine ⟨h.lexemes, h.columns, (List.length_map _).trans h.depth, fun k hk => ?_, h.running⟩
  refine h.optional k ?_
  rcases List.mem_cons.1 hk with hk | hk
  · exact List.mem_cons.2 (.inl (eq_of_fresh hk.symm).symm)
  · obtain ⟨k', hk', he⟩ := List.mem_map.1 hk
    exact List.mem_cons_of_mem _ (eq_of_fresh he ▸ hk')

/-- Dropping the pending key never fails here, since it is not required. -/
theorem Has.dropKey_eq (h : s.Has ts depth) : s.dropKey = .ok { s with pending := none } := by
  have hnone : s.pending.any (·.required) = false := by
    cases hp : s.pending with
    | none => rfl
    | some p => exact h.optional p (hp ▸ List.mem_cons_self)
  rw [dropKey, hnone]
  rfl

/-- The pending key behind a place where one may begin: the place itself, if a key is allowed, and
else the one there was. -/
def savedKey (s : Scanner) : Option PendingKey :=
  if s.keyAllowed then some ⟨s.tokens.size, s.cursor.index, s.cursor.place, false⟩ else s.pending

/-- Saving a key puts it in the place of the pending one, and it is not required as no block is
open. -/
theorem Has.saveKey_eq (h : s.Has ts depth) :
    s.saveKey = .ok { s with pending := s.savedKey } := by
  have hcolumns := h.columns
  rw [saveKey, h.dropKey_eq, Scanner.savedKey]
  split
  · simp [Except.map, hcolumns]
  · rfl

/-- With a saved key the scanner has cut the same tokens, and no key is required. -/
theorem Has.savedKey (h : s.Has ts depth) : Has { s with pending := s.savedKey } ts depth := by
  refine ⟨h.lexemes, h.columns, h.depth, fun k hk => ?_, h.running⟩
  rcases List.mem_cons.1 hk with hk | hk
  · rw [Scanner.savedKey] at hk
    split at hk
    · obtain rfl := Option.some.inj hk
      rfl
    · exact h.optional k (List.mem_cons.2 (.inl hk))
  · exact h.optional k (List.mem_cons_of_mem _ hk)

/-- Where no block is open, there is none to close. -/
theorem closeBlocks_eq (h : s.columns = []) (stays : Nat → Bool) : s.closeBlocks stays = s := by
  obtain ⟨cursor, tokens, columns, pending, outer, keyAllowed, ended⟩ := s
  obtain rfl : columns = [] := h
  rw [closeBlocks]
  split
  · rfl
  · simp

/-! ## Blanks -/

/-- Whether a blank of a line is passed over: a space always, and a tab where it cannot be taken for
indentation. -/
def passes (s : Scanner) (a : Char) : Bool := a == ' ' || (a == '\t' && (s.inFlow || !s.keyAllowed))

/-- What is neither passed over nor the begin of a comment or a mark of byte order. -/
def StopsAt (s : Scanner) (cs : List Char) : Prop :=
  ∀ a, cs.head? = some a → s.passes a = false ∧ a ≠ '#' ∧ a ≠ '\ufeff'

/-- One round of skipping: the blanks of a line are passed over, and behind a break it goes on with
the next line, where a key is allowed outside of brackets. -/
theorem skipToToken_step {bs cs : List Char} (hbs : ∀ b ∈ bs, s.passes b) (hcs : s.StopsAt cs)
    (h : s.cursor.rest = bs ++ cs) (fuel : Nat) : skipToToken (fuel + 1) s =
      if (s.cursor.skip bs.length).sees isBreak then
        skipToToken fuel { s with
          cursor := (s.cursor.skip bs.length).skipBreak, keyAllowed := s.keyAllowed || !s.inFlow }
      else { s with cursor := s.cursor.skip bs.length } := by
  have hmark : ¬ (s.cursor.place.column = 0 ∧ s.cursor.peek = some '\ufeff') := by
    rintro ⟨-, hpeek⟩
    rw [Cursor.peek_eq_head?, h] at hpeek
    cases bs with
    | nil => exact (hcs _ hpeek).2.2 rfl
    | cons b bs =>
      obtain rfl := Option.some.inj hpeek
      exact absurd (hbs _ List.mem_cons_self) (by simp [passes])
  have htake : s.cursor.rest.takeWhile s.passes = bs := by
    rw [h, List.takeWhile_append_of_pos hbs]
    cases cs with
    | nil => simp
    | cons a cs => rw [List.takeWhile_cons_of_neg (by simp [(hcs a rfl).1]), List.append_nil]
  have hskip : s.cursor.skipWhile s.passes = s.cursor.skip bs.length := by
    rw [Cursor.skipWhile, Cursor.takeWhile, htake]
  have hrest : (s.cursor.skip bs.length).rest = cs := by
    rw [Cursor.rest_skip, h, List.drop_left]
  have hhash : (s.cursor.skip bs.length).peek ≠ some '#' := by
    rw [Cursor.peek_eq_head?, hrest]
    exact fun hpeek => (hcs _ hpeek).2.1 rfl
  rw [skipToToken, if_neg hmark]
  show (let c := s.cursor.skipWhile s.passes
    let c := if c.peek = some '#' then c.skipLine else c
    if c.sees isBreak then
      skipToToken fuel { s with cursor := c.skipBreak, keyAllowed := s.keyAllowed || !s.inFlow }
    else { s with cursor := c }) = _
  simp only [hskip, if_neg hhash]

/-- The begin of a token: no blank or break, no comment, no mark of byte order. -/
def BeginsToken (cs : List Char) : Prop :=
  ∀ a, cs.head? = some a → isSpace a = false ∧ a ≠ '#' ∧ a ≠ '\ufeff'

/-- The begin of a token is solid text, at which gaps end. -/
theorem BeginsToken.solid {cs : List Char} (h : BeginsToken cs) : Solid cs := fun a ha => (h a ha).1

/-- Skipping stops at the begin of a token, whatever the scanner passes over. -/
theorem BeginsToken.stopsAt {cs : List Char} (h : BeginsToken cs) (s : Scanner) : s.StopsAt cs := by
  intro a ha
  obtain ⟨hspace, hother⟩ := h a ha
  refine ⟨?_, hother⟩
  simp only [isSpace, isBlank, Bool.or_eq_false_iff] at hspace
  simp [passes, hspace.1.1, hspace.1.2]

/-- Blanks of one line are skipped in brackets, tabs among them, in a single round. -/
theorem skipToToken_inline (hflow : s.inFlow = true) {ws cs : List Char}
    (hws : ∀ c ∈ ws, c = ' ' ∨ c = '\t') (hcs : BeginsToken cs) (h : s.cursor.rest = ws ++ cs)
    (fuel : Nat) : skipToToken (fuel + 1) s = { s with cursor := s.cursor.skip ws.length } := by
  have hpasses : ∀ b ∈ ws, s.passes b := by
    intro b hb
    rcases hws b hb with rfl | rfl <;> simp [passes, hflow]
  have hsees : (s.cursor.skip ws.length).sees isBreak = false :=
    hcs.solid.not_sees_isBreak (by rw [Cursor.rest_skip, h, List.drop_left])
  rw [skipToToken_step hpasses (hcs.stopsAt s) h, hsees]
  rfl

/-- Outside of brackets no tab stands where a key may begin, that is, at the beginning or behind a
break.  There it would be taken for indentation. -/
def AllowsTabs (s : Scanner) (ws : List Char) : Prop :=
  '\t' ∈ ws → s.inFlow = true ∨ s.keyAllowed = false ∧ '\t' ∉ ws.dropWhile fun a => !isBreak a

/-- What is passed over on a line is no break. -/
theorem passes_not_isBreak {a : Char} (h : s.passes a) : isBreak a = false := by
  simp only [passes, Bool.or_eq_true, Bool.and_eq_true, beq_iff_eq] at h
  rcases h with rfl | ⟨rfl, -⟩ <;> decide

/-- A blank that is not passed over is a break, or a tab where none is allowed. -/
theorem isBreak_of_not_passes {a : Char} (ha : Json.Cursor.isBlank a) (h : s.passes a = false)
    (htab : a = '\t' → s.inFlow = true ∨ s.keyAllowed = false) : isBreak a := by
  simp only [Json.Cursor.isBlank, Bool.or_eq_true, beq_iff_eq] at ha
  rcases ha with ((rfl | rfl) | rfl) | rfl
  · cases h
  · decide
  · rcases htab rfl with hflow | hallowed
    · simp [passes, hflow] at h
    · simp [passes, hallowed] at h
  · decide

/-- Behind a break no tab stands outside of brackets, so that one that is met there is inside. -/
theorem AllowsTabs.inFlow {bs ws : List Char} {a : Char} (h : s.AllowsTabs (bs ++ a :: ws))
    (hbs : ∀ b ∈ bs, s.passes b) (hbreak : isBreak a) (htab : '\t' ∈ ws) : s.inFlow = true := by
  have hdrop : (bs ++ a :: ws).dropWhile (fun b => !isBreak b) = a :: ws := by
    rw [List.dropWhile_append_of_pos fun b hb => by simp [passes_not_isBreak (hbs b hb)]]
    simp [hbreak]
  refine (h (by simp [htab])).resolve_right fun h => ?_
  rw [hdrop] at h
  exact h.2 (List.mem_cons_of_mem _ htab)

/-- The blanks of a line that are passed over, and those behind them, the first of which is not. -/
theorem exists_passed (s : Scanner) (ws : List Char) :
    ∃ bs ws', ws = bs ++ ws' ∧ (∀ b ∈ bs, s.passes b) ∧
      ∀ a, ws'.head? = some a → s.passes a = false := by
  refine ⟨ws.takeWhile s.passes, ws.dropWhile s.passes, List.takeWhile_append_dropWhile.symm,
    fun b hb => List.all_eq_true.1 List.all_takeWhile b hb, fun a ha => ?_⟩
  have hnot := List.head?_dropWhile_not s.passes ws
  rwa [ha] at hnot

/-- **Blanks are skipped** up to the next token, by induction on the lines that they are spread
over.  In brackets it stays as it was whether a key is allowed. -/
theorem skipToToken_blank {ws cs : List Char} (hws : Json.AreBlank ws) (hcs : BeginsToken cs)
    (htabs : s.AllowsTabs ws) {fuel : Nat} (hfuel : ws.length < fuel)
    (h : s.cursor.rest = ws ++ cs) :
    ∃ c allowed, skipToToken fuel s = { s with cursor := c, keyAllowed := allowed } ∧
      c.rest = cs ∧ (s.inFlow = true → allowed = s.keyAllowed) := by
  induction fuel generalizing s ws with
  | zero => exact absurd hfuel (Nat.not_lt_zero _)
  | succ fuel ih =>
    obtain ⟨bs, ws', rfl, hbs, hstop⟩ := s.exists_passed ws
    have hbehind : (s.cursor.skip bs.length).rest = ws' ++ cs := by
      rw [Cursor.rest_skip, h, List.append_assoc, List.drop_left]
    have hrest : s.cursor.rest = bs ++ (ws' ++ cs) := by rw [h, List.append_assoc]
    cases ws' with
    | nil =>
      rw [List.nil_append] at hbehind hrest
      have hsees := hcs.solid.not_sees_isBreak hbehind
      rw [skipToToken_step hbs (hcs.stopsAt s) hrest, hsees]
      exact ⟨_, s.keyAllowed, rfl, hbehind, fun _ => rfl⟩
    | cons a ws' =>
      have hblank : Json.Cursor.isBlank a := hws a (by simp)
      have hbreak : isBreak a := isBreak_of_not_passes hblank (hstop a rfl) fun ha =>
        (htabs (by simp [ha])).imp_right And.left
      have hstops : s.StopsAt (a :: (ws' ++ cs)) := by
        intro b hb
        obtain rfl := Option.some.inj hb
        refine ⟨hstop _ rfl, ?_, ?_⟩ <;> (rintro rfl; revert hblank; decide)
      obtain ⟨ws₂, hsuffix, hnext⟩ := readBreak_blank hbreak hcs.solid hbehind
      have hsees : (s.cursor.skip bs.length).sees isBreak = true := by
        rw [Cursor.sees, Cursor.peek_eq_head?, hbehind]
        exact hbreak
      have hws₂ : Json.AreBlank ws₂ := fun w hw => hws w (by simp [hsuffix.mem hw])
      have hlength := hsuffix.length_le
      simp only [List.length_append, List.length_cons] at hfuel
      rw [skipToToken_step hbs hstops hrest, hsees, if_pos rfl]
      obtain ⟨c, allowed, hskip, hc, hallowed⟩ := @ih
        { s with cursor := (s.cursor.skip bs.length).skipBreak,
                 keyAllowed := s.keyAllowed || !s.inFlow }
        ws₂ hws₂ (fun htab => .inl (htabs.inFlow hbs hbreak (hsuffix.mem htab))) (by omega) hnext
      refine ⟨c, allowed, hskip, hc, fun hs => (hallowed hs).trans ?_⟩
      rw [hs, Bool.not_true, Bool.or_false]

/-! ## Rounds -/

/-- A round that cuts off something and leads to a state in which the scanner goes on, with less of
the text left. -/
structure Cuts (s t : Scanner) : Prop where
  cut : s.cut = .ok t
  running : t.ended = false
  less : ∃ pre, pre ≠ [] ∧ s.cursor.rest = pre ++ t.cursor.rest

/-- A round passes over blanks and cuts off what follows them, and stale keys are dropped before and
behind. -/
theorem Has.exists_cut (h : s.Has ts depth) {ws cs : List Char} (hws : Json.AreBlank ws)
    (hcs : BeginsToken cs) (htabs : s.AllowsTabs ws) (hrest : s.cursor.rest = ws ++ cs) :
    ∃ t : Scanner, t.Has ts depth ∧ t.cursor.rest = cs ∧
      (s.inFlow = true → t.keyAllowed = s.keyAllowed) ∧ s.cut = t.cutHere.bind dropStale := by
  have hfuel : ws.length < s.cursor.rest.length + 1 := by
    rw [hrest, List.length_append]
    omega
  obtain ⟨c, allowed, hskip, hc, hallowed⟩ := skipToToken_blank hws hcs htabs hfuel hrest
  have hmoved := h.move c allowed
  refine ⟨Scanner.faded { s with cursor := c, keyAllowed := allowed }, hmoved.faded, hc, hallowed,
    ?_⟩
  rw [cut, hskip, hmoved.dropStale_eq]
  simp only [bind, Except.bind, closeBlocks_eq hmoved.faded.columns]

/-- What cutting off a token gives: the tokens so far, the brackets that are open, the rest of the
text, and whether a key is allowed. -/
def Gives (r : Except Error Scanner) (ts : List Lexeme) (depth : Nat) (rest : List Char)
    (allowed : Bool → Prop) : Prop :=
  ∃ t, r = .ok t ∧ t.Has ts depth ∧ t.cursor.rest = rest ∧ allowed t.keyAllowed

/-- A round that gives tokens takes characters from the text, as something stands before the rest
that it leaves. -/
theorem Has.exists_cuts (h : s.Has ts depth) {ws pre rest : List Char} (hws : Json.AreBlank ws)
    (hpre : pre ≠ []) (hbegins : BeginsToken (pre ++ rest)) (htabs : s.AllowsTabs ws)
    (hrest : s.cursor.rest = ws ++ (pre ++ rest)) {ts' : List Lexeme} {depth' : Nat}
    {allowed : Bool → Prop} (hgives : ∀ t : Scanner, t.Has ts depth → t.cursor.rest = pre ++ rest →
      Gives t.cutHere ts' depth' rest allowed) :
    ∃ t, s.Cuts t ∧ t.Has ts' depth' ∧ t.cursor.rest = rest ∧ allowed t.keyAllowed := by
  obtain ⟨t, ht, htrest, -, hcut⟩ := h.exists_cut hws hbegins htabs hrest
  obtain ⟨u, hhere, hu, hurest, huallowed⟩ := hgives t ht htrest
  refine ⟨u.faded, ⟨?_, hu.faded.running, ws ++ pre, ?_, ?_⟩, hu.faded, hurest, huallowed⟩
  · rw [hcut, hhere]
    exact hu.dropStale_eq
  · exact List.append_ne_nil_of_right_ne_nil _ hpre
  · rw [hrest, ← List.append_assoc]
    exact congrArg (ws ++ pre ++ ·) hurest.symm

/-! ## Brackets and commas -/

/-- An opening bracket is cut off, one level deeper, and behind it a key may begin. -/
theorem Has.openFlow (h : s.Has ts depth) (lexeme : Lexeme) {a : Char} {rest : List Char}
    (hrest : s.cursor.rest = a :: rest) :
    Gives (s.openFlow lexeme) (ts ++ [lexeme]) (depth + 1) rest (· = true) := by
  have hsaved := h.savedKey.pushNext lexeme 1
  rw [Scanner.openFlow, h.saveKey_eq]
  refine ⟨_, rfl, ⟨hsaved.lexemes, hsaved.columns, ?_, fun k hk => ?_, hsaved.running⟩, ?_, rfl⟩
  · exact congrArg (· + 1) hsaved.depth
  · exact hsaved.optional k ((List.mem_cons.1 hk).resolve_left nofun)
  · exact congrArg (List.drop 1) hrest

/-- A closing bracket is cut off, one level up, and behind it no key may begin. -/
theorem Has.closeFlow (h : s.Has ts (depth + 1)) (lexeme : Lexeme) {a : Char} {rest : List Char}
    (hrest : s.cursor.rest = a :: rest) :
    Gives (s.closeFlow lexeme) (ts ++ [lexeme]) depth rest (· = false) := by
  obtain ⟨k, outer, houter⟩ := List.exists_cons_of_length_eq_add_one h.depth
  have hpushed := h.pushNext lexeme 1
  rw [Scanner.closeFlow, h.dropKey_eq]
  simp only [bind, Except.bind, Scanner.pushNext, push, houter]
  refine ⟨_, rfl, ⟨hpushed.lexemes, hpushed.columns, ?_, fun p hp => ?_, hpushed.running⟩, ?_, rfl⟩
  · have hdepth := h.depth
    rw [houter] at hdepth
    exact Nat.succ.inj hdepth
  · exact h.optional p (List.mem_cons_of_mem _ (houter ▸ hp))
  · exact congrArg (List.drop 1) hrest

/-- A comma is cut off, and behind it a key may begin. -/
theorem Has.flowEntry (h : s.Has ts depth) {a : Char} {rest : List Char}
    (hrest : s.cursor.rest = a :: rest) :
    Gives s.flowEntry (ts ++ [.flowEntry]) depth rest (· = true) := by
  have hpushed := h.pushNext .flowEntry 1
  rw [Scanner.flowEntry, h.dropKey_eq]
  refine ⟨_, rfl, ⟨hpushed.lexemes, hpushed.columns, hpushed.depth, fun k hk => ?_,
    hpushed.running⟩, ?_, rfl⟩
  · exact h.optional k (List.mem_cons_of_mem _ ((List.mem_cons.1 hk).resolve_left nofun))
  · exact congrArg (List.drop 1) hrest

/-- The brackets and commas and what cuts them off, each told by its one character. -/
theorem cutHere_char {a : Char} {rest : List Char} (hrest : s.cursor.rest = a :: rest) :
    (a = '[' → s.cutHere = s.openFlow .flowListStart) ∧
    (a = '\x7b' → s.cutHere = s.openFlow .flowMapStart) ∧
    (a = ']' → s.cutHere = s.closeFlow .flowListEnd) ∧
    (a = '\x7d' → s.cutHere = s.closeFlow .flowMapEnd) ∧
    (a = ',' → s.cutHere = s.flowEntry) ∧
    (a = '"' → s.cutHere = s.quoted .doubleQuoted a) := by
  refine ⟨?_, ?_, ?_, ?_, ?_, ?_⟩ <;>
    (rintro rfl; rw [cutHere, hrest]; simp [Cursor.atMarker, hrest])

/-! ## Texts -/

/-- The scanner behind a text in quotes of `n` characters: the token is cut, a key has been saved at
its begin, and none may follow at once. -/
def behindText (s : Scanner) (cs : List Char) (n : Nat) : Scanner :=
  { Scanner.pushNext { s with pending := s.savedKey } (.scalar .doubleQuoted cs) n with
    keyAllowed := false }

/-- Behind a text in quotes the scalar comes behind the other tokens, and the same brackets are
open. -/
theorem Has.behindText (h : s.Has ts depth) (cs : List Char) (n : Nat) :
    (s.behindText cs n).Has (ts ++ [.scalar .doubleQuoted cs]) depth :=
  let hpushed := h.savedKey.pushNext (.scalar .doubleQuoted cs) n
  ⟨hpushed.lexemes, hpushed.columns, hpushed.depth, hpushed.optional, hpushed.running⟩

/-- Cutting off a text in quotes reads it as in JSON and does not fail. -/
theorem Has.quoted_eq (h : s.Has ts depth) {cs body rest : List Char}
    (hbody : Json.SpellsTextAlike cs body) (hrest : s.cursor.rest = '"' :: (body ++ '"' :: rest)) :
    s.quoted .doubleQuoted '"' = .ok (s.behindText cs (body.length + 2)) := by
  have hbehind : (s.cursor.skip 1).rest = body ++ '"' :: rest := by
    rw [Cursor.rest_skip, hrest]
    rfl
  have hfuel : body.length < s.cursor.rest.length + 1 := by simp [hrest]; omega
  have hcolumn : (s.cursor.skip 1).place.column ≠ 0 := Nat.succ_ne_zero _
  rw [quoted, h.saveKey_eq]
  simp only [bind, Except.bind, readQuoted_alike hbody hfuel hbehind hcolumn, Cursor.skip_skip,
    Nat.add_comm 1, Nat.add_assoc]
  rfl

/-- A text in quotes is cut off as a scalar of the same text. -/
theorem Has.text (h : s.Has ts depth) {cs body rest : List Char}
    (hbody : Json.SpellsTextAlike cs body) (hrest : s.cursor.rest = '"' :: (body ++ '"' :: rest)) :
    Gives s.cutHere (ts ++ [.scalar .doubleQuoted cs]) depth rest (· = false) := by
  refine ⟨_, ?_, h.behindText cs (body.length + 2), ?_, rfl⟩
  · rw [(cutHere_char hrest).2.2.2.2.2 rfl]
    exact h.quoted_eq hbody hrest
  · show s.cursor.rest.drop (body.length + 2) = rest
    rw [hrest]
    simp

/-! ## Words and numbers -/

/-- The characters that words and numbers do not begin with, as they begin something else in YAML or
are reserved. -/
def specials : List Char := " \t\n\r#%-.?:,[]\x7b\x7d*&!|>'\"@".toList ++
  [Char.ofNat 96, '\x85', '\u2028', '\u2029', '\ufeff']

/-- A word or the number that it begins is read as a plain scalar. -/
def BeginsWord (cs : List Char) : Prop :=
  ∃ a as, cs = a :: as ∧ (a ∉ specials ∨ a = '-' ∧ ∃ d ds, as = d :: ds ∧ d ∉ specials)

/-- A number that begins with a digit begins with none of these characters. -/
theorem not_mem_specials_of_isDigit {a : Char} (h : a.isDigit) : a ∉ specials := by
  have hall : specials.all (fun b => !b.isDigit) = true := by decide
  intro ha
  have hnot := List.all_eq_true.1 hall a ha
  rw [h] at hnot
  cases hnot

/-- Any other character is no blank or break. -/
theorem not_isSpace_of_not_mem {a : Char} (h : a ∉ specials) : isSpace a = false := by
  cases hspace : isSpace a with
  | false => rfl
  | true =>
    refine absurd ?_ h
    simp only [isSpace, isBlank, isBreak, Bool.or_eq_true, beq_iff_eq] at hspace
    rcases hspace with (rfl | rfl) | (((rfl | rfl) | rfl) | rfl) | rfl <;> decide

/-- Any other character begins a plain scalar, whatever follows it. -/
theorem beginsPlain_of_not_mem {a : Char} (h : a ∉ specials) (next : Option Char) :
    s.beginsPlain a next = true := by
  have hsubset : "-?:,[]\x7b\x7d#&*!|>'\"%@`".toList ⊆ specials := by decide
  have hmem : "-?:,[]\x7b\x7d#&*!|>'\"%@`".toList.contains a = false :=
    Bool.eq_false_iff.2 fun hmem => h (hsubset (List.contains_iff_mem.1 hmem))
  rw [beginsPlain, not_isSpace_of_not_mem h, hmem]
  rfl

/-- Where a word begins, a plain scalar is cut off, and there is no marker of documents. -/
theorem cutHere_word {cs rest : List Char} (h : BeginsWord cs)
    (hrest : s.cursor.rest = cs ++ rest) :
    s.cutHere = s.plain ∧ s.cursor.atDocumentMarker = false := by
  obtain ⟨a, as, rfl, ha | ⟨rfl, d, ds, rfl, hd⟩⟩ := h
  · have hne (b : Char) (hb : b ∈ specials) : a ≠ b := fun hab => ha (hab ▸ hb)
    have hplain := beginsPlain_of_not_mem (s := s) ha
    have hmarker := Cursor.atMarker_of_head (a := '-') hrest (hne _ (by decide))
    have hmarker' := Cursor.atMarker_of_head (a := '.') hrest (hne _ (by decide))
    refine ⟨?_, by rw [Cursor.atDocumentMarker, hmarker, hmarker']; rfl⟩
    rw [cutHere, hrest]
    simp [hmarker, hmarker', hplain, hne '%' (by decide), hne '[' (by decide),
      hne '\x7b' (by decide), hne ']' (by decide), hne '\x7d' (by decide), hne ',' (by decide),
      hne '-' (by decide), hne '?' (by decide), hne ':' (by decide), hne '*' (by decide),
      hne '&' (by decide), hne '!' (by decide), hne '|' (by decide), hne '>' (by decide),
      hne '\'' (by decide), hne '"' (by decide)]
  · have hdash : d ≠ '-' := fun hd' => hd (hd' ▸ by decide)
    have hspace := not_isSpace_of_not_mem hd
    have hblank : isBlank d = false := (Bool.or_eq_false_iff.1 hspace).1
    have hmarker : s.cursor.atMarker '-' = false := by simp [Cursor.atMarker, hrest, hdash]
    have hmarker' := Cursor.atMarker_of_head (a := '.') hrest (by decide)
    have hplain : s.beginsPlain '-' (some d) = true := by simp [beginsPlain, hblank]
    refine ⟨?_, by rw [Cursor.atDocumentMarker, hmarker, hmarker']; rfl⟩
    rw [cutHere, hrest]
    simp [hmarker, hmarker', hplain, hspace]

/-- A word has a first character, and this does not begin a comment. -/
theorem BeginsWord.head? {word : List Char} (h : BeginsWord word) :
    word ≠ [] ∧ word.head? ≠ some '#' := by
  obtain ⟨a, as, rfl, ha⟩ := h
  refine ⟨List.cons_ne_nil _ _, fun hhash => ?_⟩
  obtain rfl := Option.some.inj hhash
  rcases ha with ha | ⟨ha, -⟩
  · exact ha (by decide)
  · cases ha

/-- A word in brackets is cut off as a plain scalar, together with the blanks behind it. -/
theorem Has.word (h : s.Has ts (depth + 1)) {word ws rest : List Char} {e : Char}
    (hword : ∀ c ∈ word, IsWordChar c) (hbegins : BeginsWord word) (hws : Json.AreBlank ws)
    (he : isFlowEnd e) (hrest : s.cursor.rest = word ++ (ws ++ e :: rest)) :
    Gives s.cutHere (ts ++ [.scalar .plain word]) (depth + 1) (e :: rest) fun _ => True := by
  obtain ⟨hhere, hmarker⟩ := cutHere_word hbegins hrest
  obtain ⟨hne, hhash⟩ := hbegins.head?
  obtain ⟨fuel, hfuel⟩ : ∃ fuel, s.cursor.rest.length + 1 = fuel + 2 := by
    refine ⟨s.cursor.rest.length - 1, ?_⟩
    have hlength := congrArg List.length hrest
    simp only [List.length_append, List.length_cons] at hlength
    omega
  obtain ⟨p, c, hread, rfl, hc⟩ :=
    readPlain_word hword hne hhash hws he hmarker hrest fuel s.cursor.place
  have hsaved := h.savedKey
  have hmargin : margin { s with pending := s.savedKey } = 0 := by rw [margin, hsaved.columns]
  refine ⟨{ s.push (.scalar .plain p.text) s.cursor.place p.stop with
    pending := s.savedKey, cursor := c, keyAllowed := p.broken }, ?_,
    ⟨?_, hsaved.columns, hsaved.depth, hsaved.optional, hsaved.running⟩, hc, trivial⟩
  · rw [hhere, Scanner.plain, h.saveKey_eq]
    simp only [bind, Except.bind, hmargin, hfuel]
    have hflow : Scanner.inFlow { s with pending := s.savedKey } = true := h.inFlow
    rw [hflow, hread]
    rfl
  · simp [push, ← h.lexemes]

/-! ## Keys -/

/-- A pending key that is near enough stays, on its line and within the limit of length. -/
theorem faded_pending {k : PendingKey} (h : s.pending = some k)
    (hline : s.cursor.place.line = k.place.line) (hnear : s.cursor.index ≤ k.index + keyLimit) :
    s.faded.pending = some k := by
  have hstale : s.isStale k = false := by
    rw [isStale, hline]
    simp [hnear]
  show s.fresh s.pending = some k
  rw [h, fresh, Option.filter, hstale]
  rfl

/-- To insert before the last entry is to put an entry between the others and this one. -/
theorem insertIdx_length {α : Type} (as : List α) (a b : α) :
    (as ++ [b]).insertIdx as.length a = as ++ [a, b] := by
  induction as with
  | nil => rfl
  | cons c as ih => rw [List.cons_append, List.length_cons, List.insertIdx_succ_cons, ih]; rfl

/-- Puts a token in before the last one, which the scanner does when the scalar turns out to be a
key. -/
theorem Has.insert {l : Lexeme} (h : s.Has (ts ++ [l]) depth) (lexeme : Lexeme) (place : Place) :
    (s.insert ts.length lexeme place).Has (ts ++ [lexeme, l]) depth := by
  refine ⟨?_, h.columns, h.depth, h.optional, h.running⟩
  obtain ⟨us, vs, htokens, rfl, hvs⟩ := List.map_eq_append_iff.1 h.lexemes
  obtain ⟨t, rfl, rfl⟩ := List.map_eq_singleton_iff.1 hvs
  have harray : s.tokens = (us ++ [t]).toArray := by rw [← htokens, Array.toArray_toList]
  rw [Scanner.insert, harray]
  simp [insertIdx_length]

/-- A colon makes the pending scalar a key: a token is put in before the scalar and one comes behind
it. -/
theorem Has.colon {l : Lexeme} (h : s.Has (ts ++ [l]) (depth + 1)) {index : Nat} {place : Place}
    (hpending : s.pending = some ⟨ts.length, index, place, false⟩) {rest : List Char}
    (hrest : s.cursor.rest = ':' :: rest) :
    Gives s.cutHere (ts ++ [.key, l, .value]) (depth + 1) rest (· = false) := by
  have hvalue : s.cutHere = s.value := by
    rw [cutHere, hrest]
    simp [Cursor.atMarker, hrest, h.inFlow]
  have hpushed := (h.insert .key place).pushNext .value 1
  have hflow : (s.insert ts.length .key place).inFlow = true := h.inFlow
  rw [hvalue, Scanner.value, hpending]
  simp only [openBlock, hflow, Bool.not_true, Bool.false_and, Bool.false_eq_true, if_false]
  refine ⟨_, rfl, ⟨?_, hpushed.columns, hpushed.depth, fun p hp => ?_, hpushed.running⟩, ?_, rfl⟩
  · rw [List.append_assoc] at hpushed
    exact hpushed.lexemes
  · have hne : some p ≠ none := Option.some_ne_none p
    exact h.optional p (List.mem_cons_of_mem _ ((List.mem_cons.1 hp).resolve_left hne))
  · exact congrArg (List.drop 1) hrest

/-- A colon on the line of a pending key and near enough is cut off with the key. -/
theorem Has.exists_colon {l : Lexeme} (h : s.Has (ts ++ [l]) (depth + 1)) {index : Nat}
    {place : Place} (hpending : s.pending = some ⟨ts.length, index, place, false⟩)
    {ws rest : List Char} (hws : ∀ c ∈ ws, c = ' ' ∨ c = '\t')
    (hrest : s.cursor.rest = ws ++ ':' :: rest) (hline : s.cursor.place.line = place.line)
    (hnear : s.cursor.index + ws.length ≤ index + keyLimit) :
    ∃ t, s.Cuts t ∧ t.Has (ts ++ [.key, l, .value]) (depth + 1) ∧ t.cursor.rest = rest ∧
      t.keyAllowed = false := by
  have hcolon : BeginsToken (':' :: rest) := by
    intro a ha
    obtain rfl := Option.some.inj ha
    decide
  have hskip := skipToToken_inline h.inFlow hws hcolon hrest s.cursor.rest.length
  have hmoved := h.move (s.cursor.skip ws.length) s.keyAllowed
  have hbehind : (s.cursor.skip ws.length).rest = ':' :: rest := by
    rw [Cursor.rest_skip, hrest, List.drop_left]
  obtain ⟨t, hhere, ht, htrest, hallowed⟩ :=
    hmoved.faded.colon (faded_pending hpending hline hnear) hbehind
  refine ⟨t.faded, ⟨?_, ht.faded.running, ws ++ [':'], by simp, ?_⟩, ht.faded, htrest, hallowed⟩
  · rw [cut, hskip, hmoved.dropStale_eq]
    simp only [bind, Except.bind, closeBlocks_eq hmoved.faded.columns, hhere, ht.dropStale_eq]
  · rw [hrest]
    show _ = ws ++ [':'] ++ t.cursor.rest
    rw [htrest, List.append_assoc]
    rfl

/-! ## The end -/

/-- Leaving a document drops the pending key and closes no blocks, as there are none. -/
theorem Has.leaveDocument_eq (h : s.Has ts depth) :
    s.leaveDocument = .ok { s with pending := none, keyAllowed := false } := by
  rw [leaveDocument, closeBlocks_eq h.columns, h.dropKey_eq]
  rfl

/-- Without pending keys there are none to drop. -/
theorem dropStale_eq (hpending : s.pending = none) (houter : s.outer = []) :
    s.dropStale = .ok s := by
  obtain ⟨cursor, tokens, columns, pending, outer, keyAllowed, ended⟩ := s
  obtain rfl : pending = none := hpending
  obtain rfl : outer = [] := houter
  rfl

/-- The end of a text outside of brackets is cut off as the last token, and the scanner has
ended. -/
theorem Has.endText (h : s.Has ts 0) (hrest : s.cursor.rest = []) :
    ∃ t, s.cutHere.bind dropStale = .ok t ∧ t.ended = true ∧
      t.tokens.toList.map Token.lexeme = ts ++ [.streamEnd] := by
  have houter : s.outer = [] := List.length_eq_zero_iff.1 h.depth
  have hend : s.cutHere = s.endText := by rw [cutHere, hrest]
  obtain ⟨c, hmoved⟩ : ∃ c : Cursor, s.endText =
      ({ s with cursor := c } : Scanner).leaveDocument.map fun s =>
        { s.pushNext .streamEnd 0 with ended := true } := ⟨_, rfl⟩
  rw [hend, hmoved, (h.move c s.keyAllowed).leaveDocument_eq]
  refine ⟨_, Scanner.dropStale_eq rfl houter, rfl, ?_⟩
  exact ((h.move c s.keyAllowed).pushNext .streamEnd 0).lexemes

end Scanner
end Yaml
end CommitForm
