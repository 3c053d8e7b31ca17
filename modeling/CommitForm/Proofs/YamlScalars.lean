/-
# JSON scalars in YAML

What JSON writes for a scalar is a scalar of the same text in YAML, with reservations for texts: a
character must not be written by two escapes, and raw characters must be printable and no breaks
there (`SpellsTextAlike`).

| JSON | YAML |
| --- | --- |
| a text | a scalar in double quotes; its blanks are read as gaps between its words |
| a word, a number | a plain scalar of one word |
-/

import CommitForm.Proofs.JsonText
import CommitForm.Yaml.Scalar

namespace CommitForm
namespace Json

/-- The characters and escapes of a text that mean the same in both formats. -/
inductive SpellsTextAlike : List Char → List Char → Prop where
  | nil : SpellsTextAlike [] []
  | plain {c : Char} {cs body : List Char} (hcontrol : 0x20 ≤ c.toNat)
      (hprintable : Yaml.isPrintable c) (hbreak : Yaml.isBreak c = false) (hquote : c ≠ '"')
      (hslash : c ≠ '\\') (h : SpellsTextAlike cs body) : SpellsTextAlike (c :: cs) (c :: body)
  | letter {c a : Char} {cs body : List Char} (ha : escaped? a = some c)
      (h : SpellsTextAlike cs body) : SpellsTextAlike (c :: cs) ('\\' :: a :: body)
  | unit {c : Char} {cs unit body : List Char} (hunit : SpellsUnit c.toNat unit)
      (h : SpellsTextAlike cs body) : SpellsTextAlike (c :: cs) (unit ++ body)

/-- What is written alike in both formats is written as JSON asks, so a text in quotes is the same
text to a reader of JSON. -/
theorem SpellsTextAlike.spellsText {cs body : List Char} (h : SpellsTextAlike cs body) :
    SpellsText cs body := by
  induction h with
  | nil => exact .nil
  | plain hcontrol _ _ hquote hslash _ ih => exact .plain hcontrol hquote hslash ih
  | letter ha _ ih => exact .letter ha ih
  | unit hunit _ ih => exact .unit hunit ih

end Json

namespace Yaml

/-! ## Cursors -/

namespace Cursor

/-- Skipping characters leaves what is behind them. -/
@[simp]
theorem rest_skip (c : Cursor) (n : Nat) : (c.skip n).rest = c.rest.drop n := rfl

/-- To skip characters twice is to skip them all at once, places included. -/
@[simp]
theorem skip_skip (c : Cursor) (m n : Nat) : (c.skip m).skip n = c.skip (m + n) := by
  simp [skip, List.drop_drop, Nat.add_assoc]

/-- To skip no characters is to stay. -/
@[simp]
theorem skip_zero (c : Cursor) : c.skip 0 = c := rfl

/-- The character at hand is the first one that is left. -/
theorem peek_eq_head? (c : Cursor) : c.peek = c.rest.head? := rfl

/-- A marker of documents stands at the beginning of a line, so there is none in any other
column. -/
theorem atMarker_of_column {c : Cursor} (h : c.place.column ≠ 0) (a : Char) :
    c.atMarker a = false := by
  simp [atMarker, h]

/-- A marker begins with its own character, so there is none before another one. -/
theorem atMarker_of_head {c : Cursor} {a b : Char} {as : List Char} (h : c.rest = b :: as)
    (hb : b ≠ a) : c.atMarker a = false := by
  simp [atMarker, h, hb]

/-- In any other column than the first there is neither a marker of the beginning nor one of the end
of a document. -/
theorem atDocumentMarker_of_column {c : Cursor} (h : c.place.column ≠ 0) :
    c.atDocumentMarker = false := by
  rw [atDocumentMarker, atMarker_of_column h, atMarker_of_column h, Bool.or_false]

end Cursor

/-- Text that does not begin with a blank or a break.  Gaps and words end where such text begins. -/
def Solid (cs : List Char) : Prop := ∀ a, cs.head? = some a → isSpace a = false

/-- Text is solid if its first character is neither a blank nor a break. -/
theorem solid_cons {a : Char} {cs : List Char} (h : isSpace a = false) : Solid (a :: cs) :=
  fun _ ha => Option.some.inj ha ▸ h

/-- A break is one new line, unless it is the first half of a break of two characters. -/
theorem readBreak_of_break {a : Char} {cs : List Char} (ha : isBreak a)
    (hnext : a = '\r' → cs.head? ≠ some '\n') {c : Cursor} (h : c.rest = a :: cs) :
    c.readBreak.2 = c.newLine 1 := by
  rw [Cursor.readBreak, h]
  split
  · next he =>
    obtain ⟨rfl, rfl⟩ := List.cons.inj he
    exact absurd rfl (hnext rfl)
  · next he =>
    obtain ⟨rfl, -⟩ := List.cons.inj he
    rw [if_pos ha]
  · next he => cases he

/-- A break among blanks leaves blanks, so what is left of them is shorter and can be read on by
induction. -/
theorem readBreak_blank {a : Char} {ws rest : List Char} (ha : isBreak a) (hrest : Solid rest)
    {c : Cursor} (h : c.rest = a :: (ws ++ rest)) :
    ∃ ws', ws' <:+ ws ∧ c.readBreak.2.rest = ws' ++ rest := by
  by_cases hfeed : a = '\r' ∧ (ws ++ rest).head? = some '\n'
  · obtain ⟨rfl, hhead⟩ := hfeed
    cases ws with
    | nil => exact absurd (hrest '\n' hhead) (by decide)
    | cons w ws =>
      obtain rfl : w = '\n' := Option.some.inj hhead
      refine ⟨ws, List.suffix_cons _ _, ?_⟩
      rw [Cursor.readBreak, h]
      exact congrArg (List.drop 2) h
  · refine ⟨ws, List.suffix_refl _, ?_⟩
    rw [readBreak_of_break ha (fun hr hn => hfeed ⟨hr, hn⟩) h]
    exact congrArg (List.drop 1) h

/-- The blanks of JSON are blanks or breaks in YAML. -/
theorem isBlank_or_isBreak {a : Char} (h : Json.Cursor.isBlank a) : isBlank a ∨ isBreak a := by
  simp only [Json.Cursor.isBlank, Bool.or_eq_true, beq_iff_eq] at h
  rcases h with ((rfl | rfl) | rfl) | rfl <;> decide

/-- A break is no blank of a line, so the two branches of reading a gap exclude each other. -/
theorem not_isBlank_of_isBreak {a : Char} (h : isBreak a) : isBlank a = false := by
  rw [isBlank, Bool.or_eq_false_iff, beq_eq_false_iff_ne, beq_eq_false_iff_ne]
  constructor <;> (rintro rfl; revert h; decide)

/-- Before solid text there is no break to see. -/
theorem Solid.not_sees_isBreak {rest : List Char} (hrest : Solid rest) {c : Cursor}
    (h : c.rest = rest) : c.sees isBreak = false := by
  rw [Cursor.sees, Cursor.peek_eq_head?, h]
  cases hhead : rest.head? with
  | none => rfl
  | some a =>
    have hspace := hrest a hhead
    rw [isSpace, Bool.or_eq_false_iff] at hspace
    exact hspace.2

/-- A gap ends where no blank follows, with what has been collected so far, however many steps are
left. -/
theorem readGap_solid {rest : List Char} (hrest : Solid rest) {c : Cursor} (h : c.rest = rest)
    (margin fuel : Nat) (g : Gap) : readGap margin fuel g c = .ok (g, c) := by
  cases fuel with
  | zero => rfl
  | succ fuel =>
    rw [readGap, Cursor.peek_eq_head?, h]
    cases hhead : rest.head? with
    | none => rfl
    | some a =>
      have hspace := hrest a hhead
      rw [isSpace, Bool.or_eq_false_iff] at hspace
      simp only [hspace.1, hspace.2, Bool.false_eq_true, if_false]

/-- Blanks and breaks are a gap and lead up to what follows.  It goes by induction on the steps,
each of which takes a blank or a break. -/
theorem readGap_blank {ws rest : List Char} (hws : Json.AreBlank ws) (hrest : Solid rest)
    {fuel : Nat} (hfuel : ws.length ≤ fuel) (g : Gap) {c : Cursor} (h : c.rest = ws ++ rest) :
    ∃ g' c', readGap 0 fuel g c = .ok (g', c') ∧ c'.rest = rest := by
  induction fuel generalizing ws g c with
  | zero =>
    obtain rfl := List.length_eq_zero_iff.1 (Nat.le_zero.1 hfuel)
    exact ⟨g, c, rfl, h⟩
  | succ fuel ih =>
    cases ws with
    | nil => exact ⟨g, c, readGap_solid hrest h 0 (fuel + 1) g, h⟩
    | cons w ws =>
      rw [readGap, Cursor.peek_eq_head?, h]
      have htail : Json.AreBlank ws := fun a ha => hws a (List.mem_cons_of_mem _ ha)
      have hlength : ws.length ≤ fuel := Nat.le_of_succ_le_succ hfuel
      have hskip : (c.skip 1).rest = ws ++ rest := by rw [Cursor.rest_skip, h]; rfl
      rcases isBlank_or_isBreak (hws w List.mem_cons_self) with hw | hw
      · simp only [List.cons_append, List.head?_cons, hw, if_true, Nat.not_lt_zero, and_false,
          if_false]
        split
        · exact ih htail hlength _ hskip
        · exact ih htail hlength _ hskip
      · simp only [List.cons_append, List.head?_cons, not_isBlank_of_isBreak hw, hw,
          Bool.false_eq_true, if_false, if_true]
        obtain ⟨ws', hsuffix, hbreak⟩ := readBreak_blank hw hrest h
        have hws' : Json.AreBlank ws' := fun a ha => htail a (hsuffix.mem ha)
        exact ih hws' (Nat.le_trans hsuffix.length_le hlength) _ hbreak

/-! ## Texts in quotes -/

/-- Spaces are a gap that stays: on one line they are part of the text and are not folded. -/
theorem readGap_spaces {margin n fuel : Nat} (hfuel : n ≤ fuel) {g : Gap} (hg : g.broken = false)
    {rest : List Char} (hrest : Solid rest) {c : Cursor}
    (h : c.rest = List.replicate n ' ' ++ rest) :
    readGap margin fuel g c =
      .ok ({ g with blanks := g.blanks ++ List.replicate n ' ' }, c.skip n) := by
  induction n generalizing fuel g c with
  | zero =>
    rw [List.replicate_zero, List.nil_append] at h
    rw [readGap_solid hrest h]
    simp
  | succ n ih =>
    obtain ⟨fuel, rfl⟩ : ∃ m, fuel = m + 1 := ⟨fuel - 1, by omega⟩
    rw [List.replicate_succ, List.cons_append] at h
    have hpeek : c.peek = some ' ' := by rw [Cursor.peek_eq_head?, h]; rfl
    have hnext : (c.skip 1).rest = List.replicate n ' ' ++ rest := by rw [Cursor.rest_skip, h]; rfl
    have hblank : isBlank ' ' = true := by decide
    rw [readGap, hpeek]
    simp only [hblank, hg, if_true, Bool.false_eq_true, if_false]
    rw [ih (Nat.le_of_succ_le_succ hfuel) rfl hnext, Cursor.skip_skip, Nat.add_comm 1 n]
    simp [List.replicate_succ]

/-- The hexadecimal digits of escapes are those of code points. -/
theorem hexDigit?_eq (c : Char) : hexDigit? c = Unicode.CharSet.hexDigit? c := rfl

/-- The escapes of JSON mean the same in YAML, each of the eight letters with its character. -/
theorem readEscape_letter {a b : Char} (ha : Json.escaped? a = some b) {rest : List Char}
    {c : Cursor} (h : c.rest = '\\' :: a :: rest) : readEscape c = .ok (b, c.skip 2) := by
  have hsame : escapeWidth? a = none ∧ escaped? a = some b := by
    rw [Json.escaped?.eq_def] at ha
    split at ha <;> first | (obtain rfl := Option.some.inj ha; exact ⟨rfl, rfl⟩) | cases ha
  rw [readEscape, h]
  simp only [hsame.1, hsame.2]

/-- An escape by four hexadecimal digits means the same in YAML, if the number is that of a
character and not half of one. -/
theorem readEscape_unit {a : Char} {unit rest : List Char} (hunit : Json.SpellsUnit a.toNat unit)
    {c : Cursor} (h : c.rest = unit ++ rest) : readEscape c = .ok (a, c.skip unit.length) := by
  obtain @⟨p, q, r, s, hn⟩ := hunit
  simp only [Json.fourDigits?, Option.bind_eq_bind, Option.bind_eq_some_iff] at hn
  obtain ⟨p', hp, q', hq, r', hr, s', hs, hvalue⟩ := hn
  have hdigits : ((c.skip 2).rest.take 4).mapM hexDigit? = some [p', q', r', s'] := by
    rw [Cursor.rest_skip, h]
    simp [hexDigit?_eq, hp, hq, hr, hs]
  have hfold : [p', q', r', s'].foldl (fun n d => 16 * n + d) 0 = a.toNat := by
    rw [← Option.some.inj hvalue]
    simp only [List.foldl_cons, List.foldl_nil]
    omega
  have hwidth : escapeWidth? 'u' = some 4 := rfl
  rw [readEscape, h]
  simp only [List.cons_append, List.nil_append, hwidth]
  rw [readCodePoint, hdigits]
  simp only [hfold, List.length_cons, List.length_nil, Nat.lt_irrefl, if_false, Cursor.skip_skip]
  have hvalid : a.toNat.isValidChar := a.valid
  rw [if_pos hvalid, Char.ofNat_toNat]

/-- A run with a character in front that is written by an escape: the escape is read, and then the
run behind it. -/
theorem readRun_escape {a b : Char} {tail : List Char} {n fuel : Nat} {c : Cursor}
    (hc : c.rest = '\\' :: b :: tail) (hbreak : isBreak b = false)
    (hescape : readEscape c = .ok (a, c.skip n)) : readRun '"' (fuel + 1) c =
      (readRun '"' fuel (c.skip n)).map fun x => ((a :: x.1.1, x.1.2), x.2) := by
  have hslash : isSpace '\\' = false := by decide
  have hquote : '\\' ≠ '"' := by decide
  rw [readRun, hc]
  simp only [hslash, hquote, List.head?_cons, Option.any_some, hbreak, hescape, Bool.false_eq_true,
    if_false, and_self, if_true]

/-- What is left of a text behind a run that ends at a space or with the text. -/
def Runs (cs body : List Char) (c : Cursor) (r : Outcome (List Char × Gap)) : Prop :=
  ∃ cs₁ cs₂ body₁ body₂, cs = cs₁ ++ cs₂ ∧ body = body₁ ++ body₂ ∧
    Json.SpellsTextAlike cs₂ body₂ ∧ (cs₂ = [] ∧ body₂ = [] ∨ body₂.head? = some ' ') ∧
    r = .ok ((cs₁, .none), c.skip body₁.length)

/-- One character more in front of a run, however it is written. -/
theorem Runs.cons (unit : List Char) {a : Char} {cs body : List Char} {c : Cursor}
    {r : Outcome (List Char × Gap)} (h : Runs cs body (c.skip unit.length) r) :
    Runs (a :: cs) (unit ++ body) c (r.map fun x => ((a :: x.1.1, x.1.2), x.2)) := by
  obtain ⟨cs₁, cs₂, body₁, body₂, rfl, rfl, halike, hend, rfl⟩ := h
  refine ⟨a :: cs₁, cs₂, unit ++ body₁, body₂, rfl, (List.append_assoc ..).symm, halike, hend, ?_⟩
  rw [List.length_append, ← Cursor.skip_skip]
  rfl

/-- The letters of escapes are no breaks, so an escape is not taken for a folded line. -/
theorem not_isBreak_of_escaped {a b : Char} (h : Json.escaped? a = some b) : isBreak a = false := by
  rw [Json.escaped?.eq_def] at h
  split at h <;> first | rfl | cases h

/-- A run of a text in quotes ends at a space or with the text. -/
theorem readRun_alike {cs body : List Char} (h : Json.SpellsTextAlike cs body) {rest : List Char}
    {fuel : Nat} (hfuel : body.length < fuel) {c : Cursor} (hc : c.rest = body ++ '"' :: rest) :
    Runs cs body c (readRun '"' fuel c) := by
  induction h generalizing fuel c with
  | nil =>
    obtain ⟨fuel, rfl⟩ : ∃ n, fuel = n + 1 := ⟨fuel - 1, by omega⟩
    refine ⟨[], [], [], [], rfl, rfl, .nil, .inl ⟨rfl, rfl⟩, ?_⟩
    rw [readRun, hc]
    rfl
  | @plain a cs body hcontrol hprintable hbreak hquote hslash h ih =>
    obtain ⟨fuel, rfl⟩ : ∃ n, fuel = n + 1 := ⟨fuel - 1, by omega⟩
    by_cases hspace : a = ' '
    · subst hspace
      refine ⟨[], _, [], _, rfl, rfl, .plain hcontrol hprintable hbreak hquote hslash h, .inr rfl,
        ?_⟩
      rw [readRun, hc]
      rfl
    · have htab : a ≠ '\t' := by rintro rfl; exact absurd hcontrol (by decide)
      have hsolid : isSpace a = false := by simp [isSpace, isBlank, hspace, htab, hbreak]
      have hrest : (c.skip 1).rest = body ++ '"' :: rest := by rw [Cursor.rest_skip, hc]; rfl
      rw [readRun, hc]
      simp only [List.cons_append, hsolid, hquote, hslash, Bool.false_eq_true, if_false, and_false]
      exact Runs.cons [a] (ih (Nat.lt_of_succ_lt_succ hfuel) hrest)
  | @letter a b cs body ha h ih =>
    obtain ⟨fuel, rfl⟩ : ∃ n, fuel = n + 1 := ⟨fuel - 1, by omega⟩
    have hrest : (c.skip 2).rest = body ++ '"' :: rest := by rw [Cursor.rest_skip, hc]; rfl
    rw [readRun_escape hc (not_isBreak_of_escaped ha) (readEscape_letter ha hc)]
    exact Runs.cons ['\\', b] (ih (by simp at hfuel; omega) hrest)
  | @unit a cs unit body hunit h ih =>
    obtain ⟨fuel, rfl⟩ : ∃ n, fuel = n + 1 := ⟨fuel - 1, by omega⟩
    rw [List.append_assoc] at hc
    have hescape := readEscape_unit hunit hc
    have hrest : (c.skip unit.length).rest = body ++ '"' :: rest := by
      rw [Cursor.rest_skip, hc, List.drop_left]
    obtain ⟨-⟩ := hunit
    rw [readRun_escape hc (by decide) hescape]
    exact Runs.cons _ (ih (by simp at hfuel; omega) hrest)

/-- The spaces at the beginning of a text, which are read as a gap, and the text behind them, which
is solid. -/
theorem exists_spaces {cs body : List Char} (h : Json.SpellsTextAlike cs body) :
    ∃ n cs' body', cs = List.replicate n ' ' ++ cs' ∧ body = List.replicate n ' ' ++ body' ∧
      Json.SpellsTextAlike cs' body' ∧ ∀ rest, Solid (body' ++ '"' :: rest) := by
  induction h with
  | nil => exact ⟨0, [], [], rfl, rfl, .nil, fun _ => solid_cons (by decide)⟩
  | @plain a cs body hcontrol hprintable hbreak hquote hslash h ih =>
    by_cases hspace : a = ' '
    · subst hspace
      obtain ⟨n, cs', body', rfl, rfl, halike, hsolid⟩ := ih
      exact ⟨n + 1, cs', body', rfl, rfl, halike, hsolid⟩
    · have htab : a ≠ '\t' := by rintro rfl; exact absurd hcontrol (by decide)
      have hsolid : isSpace a = false := by simp [isSpace, isBlank, hspace, htab, hbreak]
      exact ⟨0, _, _, rfl, rfl, .plain hcontrol hprintable hbreak hquote hslash h,
        fun _ => solid_cons hsolid⟩
  | letter ha h ih => exact ⟨0, _, _, rfl, rfl, .letter ha h, fun _ => solid_cons (by decide)⟩
  | unit hunit h ih =>
    refine ⟨0, _, _, rfl, rfl, .unit hunit h, ?_⟩
    obtain ⟨-⟩ := hunit
    exact fun _ => solid_cons (by decide)

/-- **A text in quotes** is read as in JSON.  It goes by induction on the steps: spaces are a gap,
and a run of other characters is read behind it. -/
theorem readQuoted_alike {cs body rest : List Char} (h : Json.SpellsTextAlike cs body) {fuel : Nat}
    (hfuel : body.length < fuel) {c : Cursor} (hc : c.rest = body ++ '"' :: rest)
    (hcolumn : c.place.column ≠ 0) :
    readQuoted '"' fuel c = .ok (cs, c.skip (body.length + 1)) := by
  induction hlength : body.length using Nat.strongRecOn generalizing cs body fuel c with
  | ind n ih =>
    obtain ⟨fuel, rfl⟩ : ∃ n, fuel = n + 1 := ⟨fuel - 1, by omega⟩
    have hne : c.rest ≠ [] := by rw [hc]; exact List.append_ne_nil_of_right_ne_nil _ (by simp)
    have hrun : body.length < c.rest.length := by rw [hc, List.length_append]; simp
    obtain ⟨cs₁, cs₂, body₁, body₂, rfl, rfl, halike, hend, hread⟩ := readRun_alike h hrun hc
    have hbehind : (c.skip body₁.length).rest = body₂ ++ '"' :: rest := by
      rw [Cursor.rest_skip, hc, List.append_assoc, List.drop_left]
    rw [readQuoted, Cursor.atDocumentMarker_of_column hcolumn, hread]
    simp only [Bool.false_eq_true, if_false, hne]
    rcases hend with ⟨rfl, rfl⟩ | hend
    · have hpeek : (c.skip body₁.length).peek = some '"' := by
        rw [Cursor.peek_eq_head?, hbehind]
        rfl
      rw [if_pos hpeek, Cursor.skip_skip, ← hlength, List.append_nil, List.append_nil]
    · have hpeek : (c.skip body₁.length).peek ≠ some '"' := by
        rw [Cursor.peek_eq_head?, hbehind, List.head?_append, hend]
        simp
      obtain ⟨m, cs₃, body₃, rfl, rfl, halike₃, hsolid⟩ := exists_spaces halike
      have hm : m ≠ 0 := by
        rintro rfl
        have hhead : (body₃ ++ '"' :: rest).head? = some ' ' := by
          rw [List.head?_append, show body₃.head? = some ' ' from hend]
          rfl
        exact absurd (hsolid rest ' ' hhead) (by decide)
      rw [List.append_assoc] at hbehind
      have hfuel' : m ≤ (c.skip body₁.length).rest.length := by rw [hbehind]; simp
      rw [if_neg hpeek, readGap_spaces hfuel' rfl (hsolid rest) hbehind, Cursor.skip_skip]
      have hrest : (c.skip (body₁.length + m)).rest = body₃ ++ '"' :: rest := by
        rw [← Cursor.skip_skip, Cursor.rest_skip, hbehind]
        simp
      have hcolumn' : (c.skip (body₁.length + m)).place.column ≠ 0 := by
        simp [Cursor.skip, hcolumn]
      simp only [List.length_append, List.length_replicate] at hlength hfuel
      dsimp only
      rw [ih body₃.length (by omega) halike₃ (by omega) hrest hcolumn' rfl]
      simp [Except.map, Gap.text, Gap.none, Nat.add_assoc, ← hlength]

/-! ## Words -/

/-- The characters of words and numbers: no blanks or breaks, no colons, and none that end a scalar
in brackets. -/
def IsWordChar (c : Char) : Prop := isSpace c = false ∧ c ≠ ':' ∧ isFlowEnd c = false

/-- What ends a scalar in brackets is none of the characters that could go on with one. -/
theorem isFlowEnd_cases {c : Char} (h : isFlowEnd c) :
    isSpace c = false ∧ c ≠ ':' ∧ c ≠ '#' ∧ c ≠ '-' ∧ c ≠ '.' := by
  simp only [isFlowEnd, Bool.or_eq_true, beq_iff_eq] at h
  rcases h with (((rfl | rfl) | rfl) | rfl) | rfl <;> decide

/-- No word is taken where a blank follows or what ends a scalar. -/
theorem takeWord_nil {rest : List Char} (h : ∀ a, rest.head? = some a → isSpace a ∨ isFlowEnd a) :
    takeWord true rest = ([], false) := by
  cases rest with
  | nil => rfl
  | cons a rest =>
    rw [takeWord]
    rcases h a rfl with ha | ha
    · rw [if_pos ha]
    · obtain ⟨hspace, hcolon, -⟩ := isFlowEnd_cases ha
      simp [hspace, hcolon, ha]

/-- A word is taken up to the blank or the end that follows it, and no colon cuts it short. -/
theorem takeWord_append {word rest : List Char} (hword : ∀ c ∈ word, IsWordChar c)
    (h : ∀ a, rest.head? = some a → isSpace a ∨ isFlowEnd a) :
    takeWord true (word ++ rest) = (word, false) := by
  induction word with
  | nil => exact takeWord_nil h
  | cons c word ih =>
    obtain ⟨hspace, hcolon, hend⟩ := hword c List.mem_cons_self
    have htail := ih fun a ha => hword a (List.mem_cons_of_mem _ ha)
    rw [List.cons_append, takeWord]
    simp [hspace, hcolon, hend, htail]

/-- The blanks of JSON separate words in YAML. -/
theorem isSpace_of_isBlank {a : Char} (h : Json.Cursor.isBlank a) : isSpace a := by
  rw [isSpace, Bool.or_eq_true]
  exact isBlank_or_isBreak h

/-- The end of a plain scalar in front of what ends it in brackets. -/
theorem readPlain_end {fuel : Nat} (g : Gap) (stop : Place) {e : Char} {rest : List Char}
    (he : isFlowEnd e) {c : Cursor} (hc : c.rest = e :: rest) :
    readPlain true 0 (fuel + 1) g stop c = .ok (⟨[], stop, g.broken⟩, c) := by
  obtain ⟨hspace, -, hhash, hdash, hdot⟩ := isFlowEnd_cases he
  have hmarker : c.atDocumentMarker = false := by
    rw [Cursor.atDocumentMarker, Cursor.atMarker_of_head hc hdash, Cursor.atMarker_of_head hc hdot,
      Bool.or_false]
  have hpeek : c.peek = some e := by rw [Cursor.peek_eq_head?, hc]; rfl
  have hword : takeWord true c.rest = ([], false) := by
    rw [hc]
    exact takeWord_nil fun a ha => .inr (Option.some.inj ha ▸ he)
  rw [readPlain, hmarker, hpeek, hword]
  simp [hhash, Cursor.sees, hpeek, hspace]

/-- **A word in brackets** is a plain scalar.  The blanks behind it are read as a gap, and what ends
it stays to be read. -/
theorem readPlain_word {word ws rest : List Char} {e : Char} (hword : ∀ c ∈ word, IsWordChar c)
    (hne : word ≠ []) (hhash : word.head? ≠ some '#') (hws : Json.AreBlank ws) (he : isFlowEnd e)
    {c : Cursor} (hmarker : c.atDocumentMarker = false)
    (hc : c.rest = word ++ (ws ++ e :: rest)) (fuel : Nat) (stop : Place) :
    ∃ p c', readPlain true 0 (fuel + 2) .none stop c = .ok (p, c') ∧ p.text = word ∧
      c'.rest = e :: rest := by
  have hpeek : (c.peek == some '#') = false := by
    obtain ⟨a, as, rfl⟩ := List.exists_cons_of_ne_nil hne
    rw [Cursor.peek_eq_head?, hc]
    exact beq_eq_false_iff_ne.2 hhash
  have hends : ∀ a, (ws ++ e :: rest).head? = some a → isSpace a ∨ isFlowEnd a := by
    intro a ha
    cases ws with
    | nil => exact .inr (Option.some.inj ha ▸ he)
    | cons w ws =>
      exact .inl (Option.some.inj ha ▸ isSpace_of_isBlank (hws w List.mem_cons_self))
  have htake : takeWord true c.rest = (word, false) := by rw [hc]; exact takeWord_append hword hends
  have hbehind : (c.skip word.length).rest = ws ++ e :: rest := by
    rw [Cursor.rest_skip, hc, List.drop_left]
  rw [readPlain, hmarker, hpeek, htake]
  simp only [Bool.or_false, Bool.false_eq_true, if_false, hne]
  have hspace := (isFlowEnd_cases he).1
  cases ws with
  | nil =>
    have hsees : (c.skip word.length).sees isSpace = false := by
      rw [Cursor.sees, Cursor.peek_eq_head?, hbehind]
      exact hspace
    rw [hsees]
    exact ⟨_, _, rfl, rfl, hbehind⟩
  | cons w ws =>
    have hsees : (c.skip word.length).sees isSpace = true := by
      rw [Cursor.sees, Cursor.peek_eq_head?, hbehind]
      exact isSpace_of_isBlank (hws w List.mem_cons_self)
    have hlength : (w :: ws).length ≤ (c.skip word.length).rest.length := by
      rw [hbehind, List.length_append]
      omega
    obtain ⟨g, c', hgap, hc'⟩ := readGap_blank hws (solid_cons hspace) hlength .none hbehind
    rw [hsees, if_pos rfl, hgap]
    dsimp only
    rw [readPlain_end g _ he hc']
    exact ⟨_, _, rfl, List.append_nil _, hc'⟩

end Yaml
end CommitForm
