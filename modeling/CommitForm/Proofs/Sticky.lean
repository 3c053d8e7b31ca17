/-
# Sticky patterns

With the flag `y` a pattern is searched for in a group behind an assertion of the start of the text.
A text is a pattern there exactly if it is one by itself, with three exceptions.  What is a pattern
both ways is found there exactly if a match begins at the first character (`When.Expr.sticky_iff`).

| text | in the group |
| --- | --- |
| with a stray closing parenthesis | closes the group early, and may become a pattern |
| that ends in a comment | the comment goes on over the parenthesis, and the group is not closed |
| that is nested or large to the limit | the group is beyond the limit |
-/

import CommitForm.Proofs.Faults
import CommitForm.Proofs.Matching
import CommitForm.Proofs.PatternGroups

namespace CommitForm
namespace Pattern

open Unicode (CharSet)

/-! ## The tree of the group -/

/-- The group around a sticky pattern while it is open: the assertion stands in front of it, and the
group sets no flags and is not numbered. -/
def anchor : Waiting := ⟨⟨[], [.look .textStart]⟩, false, [], false⟩

/-- The tree of a pattern in a group behind an assertion of the start of the text. -/
def anchored (t : Tree) : Tree := .concat [.look .textStart, .group false [] t]

/-- The group and the row in which it stands behind the assertion nest a pattern two levels
deeper. -/
theorem depth_anchored (t : Tree) : (anchored t).depth = t.depth + 2 := by
  simp [anchored, Tree.depth, Tree.depths]

/-- The text that is searched for with the flag `y`: the body in a group behind the assertion that
the text starts here. -/
def stickyText (body : String) : String := "\\A(?:" ++ body ++ ")"

/-- The group is opened in two parts: the assertion is read as an escape, and the parenthesis behind
it begins a group without a number. -/
theorem run?_sticky (n : Nat) (cs : List Char) :
    State.start.run? (n + 2) ('\\' :: 'A' :: '(' :: '?' :: ':' :: cs) =
      (State.start.within [anchor]).run? n cs := by
  have hassertion : State.start.step? '\\' ('A' :: '(' :: '?' :: ':' :: cs) =
      some (State.start.add (.look .textStart), '(' :: '?' :: ':' :: cs) := rfl
  have hgroup : (State.start.add (.look .textStart)).step? '(' ('?' :: ':' :: cs) =
      some (State.start.within [anchor], cs) := by
    have hflags : readFlags true [] (':' :: cs) = some ([], ':', cs) := by
      rw [readFlags.eq_def]
      exact if_pos (.inl rfl)
    have hskip : skip (State.start.add (.look .textStart)).verbose ('?' :: ':' :: cs) =
        '?' :: ':' :: cs := rfl
    have hstep (s : State) : s.step? '(' ('?' :: ':' :: cs) = s.readGroup? ('?' :: ':' :: cs) := rfl
    rw [hstep, State.readGroup?_eq, hskip, State.groupBehind?]
    simp [State.looksAround, Text.dropStart?, State.flagged?, hflags, assocFlags]
    rfl
  rw [State.run?_of_cons rfl, hassertion, Option.bind_some, State.run?_of_cons rfl, hgroup,
    Option.bind_some]

/-- A pattern with a closing parenthesis that closes none of its groups.  By itself it is no
pattern, and in a group it closes this group too early. -/
def HasStray (body : String) : Prop := State.MeetsStray .start body.toList

/-- A pattern that stays one with a closing parenthesis behind it: it ends in a comment. -/
def EndsInComment (body : String) : Prop :=
  (readTree? body).isSome = true ∧ (readTree? (body ++ ")")).isSome = true

instance (body : String) : Decidable (EndsInComment body) := inferInstanceAs (Decidable (_ ∧ _))

/-- The tree of a text is what reading from the start finds, if it is not nested beyond the
limit. -/
theorem readTree?_eq (text : String) :
    readTree? text =
      (State.start.run? (text.toList.length + 1) text.toList).bind fun t =>
        if t.depth ≤ maxNesting then some t else none := by
  rw [readTree?]
  cases State.start.run? (text.toList.length + 1) text.toList with
  | none => rfl
  | some t => simp [Option.filter]

/-- **The tree of a sticky pattern** is the tree of the pattern in a group behind the assertion,
unless the pattern ends in a comment or is nested too deeply. -/
theorem readTree?_stickyText {body : String} (h : ¬ HasStray body) :
    readTree? (stickyText body) =
      (readTree? body).bind fun t =>
        if EndsInComment body ∨ maxNesting < (anchored t).depth then none
        else some (anchored t) := by
  have htext : (stickyText body).toList =
      '\\' :: 'A' :: '(' :: '?' :: ':' :: (body.toList ++ [')']) := by
    simp [stickyText]
  have hbehind : (body ++ ")").toList = body.toList ++ [')'] := by simp
  have hrun : State.start.run? ((stickyText body).toList.length + 1) (stickyText body).toList =
      (State.start.within [anchor]).run? (body.toList.length + 5) (body.toList ++ [')']) := by
    rw [htext, ← run?_sticky]
    congr 1
    simp
  rw [readTree?_eq, hrun]
  cases hown : State.start.run? (body.toList.length + 1) body.toList with
  | none =>
    have hbody : readTree? body = none := by
      rw [readTree?_eq, hown]
      rfl
    rw [hbody, State.run?_within_eq_none (Nat.lt_succ_self _) (by omega) hown h (by simp)]
    rfl
  | some t =>
    obtain ⟨inComment, hall⟩ := State.run?_within hown
    have hbody : readTree? body = if t.depth ≤ maxNesting then some t else none := by
      rw [readTree?_eq, hown, Option.bind_some]
    have hparen : State.start.run? ((body ++ ")").toList.length + 1) (body ++ ")").toList =
        if inComment then some t else none := by
      rw [hbehind]
      exact hall [] _ (by simp)
    have hcomment : EndsInComment body ↔ inComment = true ∧ t.depth ≤ maxNesting := by
      rw [EndsInComment, hbody, readTree?_eq (body ++ ")"), hparen]
      cases inComment <;> by_cases hdepth : t.depth ≤ maxNesting <;> simp [hdepth]
    have hclosing : State.closing? [anchor] t = some (anchored t) := rfl
    have hdepth := depth_anchored t
    rw [hall [anchor] _ (by omega), hclosing, hbody]
    cases inComment with
    | true =>
      rw [if_pos rfl, if_neg (List.cons_ne_nil _ _), Option.bind_none]
      by_cases ht : t.depth ≤ maxNesting
      · rw [if_pos ht, Option.bind_some, if_pos (.inl (hcomment.2 ⟨rfl, ht⟩))]
      · rw [if_neg ht, Option.bind_none]
    | false =>
      have hcomment : ¬ EndsInComment body := fun hends => by cases (hcomment.1 hends).1
      rw [if_neg (by decide), Option.bind_some]
      by_cases ht : t.depth ≤ maxNesting
      · rw [if_pos ht, Option.bind_some]
        simp only [hcomment, false_or, ← Nat.not_le, ite_not]
      · rw [if_neg ht, if_neg (by omega), Option.bind_none]

/-! ## The expression of the group -/

/-- The group is translated as what stands in it, with the assertion in front.  Flags that the body
sets for the rest of its group end with the group. -/
theorem toRegex?_anchored (t : Tree) (setting : Setting) :
    (anchored t).toRegex? setting =
      (t.toRegex? setting).map fun p => (Regex.catAll [.look .textStart, p.1], setting) := by
  have hassertion : (Tree.look .textStart).toRegex? setting = some (.look .textStart, setting) := by
    simp [Tree.toRegex?, Setting.lookOf]
  have hgroup : (Tree.group false [] t).toRegex? setting =
      (t.toRegex? setting).map fun p => (p.1, setting) := by
    simp [Tree.toRegex?, Setting.changeAll]
  rw [anchored, Tree.toRegex?, Tree.toRegexes?, hassertion]
  simp only [Tree.toRegexes?, hgroup]
  cases t.toRegex? setting <;> rfl

/-- An assertion in front of an expression, unless nothing is behind it: then the assertion alone is
left. -/
theorem catAll_look (kind : Look) (r : Regex) :
    r = .empty ∧ Regex.catAll [.look kind, r] = .look kind ∨
      Regex.catAll [.look kind, r] = .cat (.look kind) r := by
  cases r with
  | empty => exact .inl ⟨rfl, rfl⟩
  | set | look | group | cat | alt | repeated => exact .inr rfl

/-- An expression is not too large if its programs for searching forward and backward both keep
within the limit, with the instructions that every program has. -/
theorem fits_iff (r : Regex) :
    r.fits = true ↔
      r.footprint.forward + 224 ≤ maxFootprint ∧ r.footprint.backward + 160 ≤ maxFootprint := by
  rw [Regex.fits, Footprint.fits, Bool.and_eq_true, decide_eq_true_eq, decide_eq_true_eq]
  rfl

/-- An expression is not too large if it is not too large behind an assertion. -/
theorem fits_of_catAll {kind : Look} {r : Regex} (h : (Regex.catAll [.look kind, r]).fits = true) :
    r.fits = true := by
  rcases catAll_look kind r with ⟨rfl, -⟩ | hcat
  · decide
  · have hforward : (Regex.cat (.look kind) r).footprint.forward = 32 + r.footprint.forward := rfl
    have hbackward : (Regex.cat (.look kind) r).footprint.backward =
        32 + r.footprint.backward := rfl
    rw [hcat, fits_iff, hforward, hbackward] at h
    rw [fits_iff]
    omega

/-- The set of one character is one range, from the character to itself. -/
theorem ranges_single (c : Char) : (CharSet.single c).ranges = #[(c.toNat, c.toNat)] := by
  simp [CharSet.single, CharSet.range, CharSet.ofRanges, CharSet.joinTouching]

/-- The set of one character has this character and no other one, as the search through its only
range finds. -/
theorem contains_single (c d : Char) : (CharSet.single c).contains d = decide (c = d) := by
  have hsearch (n m : Nat) : CharSet.search #[(n, n)] m 2 0 1 = decide (n = m) := by
    rw [CharSet.search]
    simp [CharSet.search]
    grind
  rw [CharSet.contains, CharSet.containsCode, ranges_single]
  exact (hsearch _ _).trans (decide_eq_decide.2 Char.toNat_inj)

/-- One character takes an instruction for each byte of its encoding. -/
theorem footprint_single (c : Char) :
    (Regex.set (.single c)).footprint = .both (32 * encodedLength c.toNat) := by
  have hsingle : single? (.single c) = some c.toNat := by
    rw [single?.eq_def, ranges_single]
    exact if_pos rfl
  rw [Regex.footprint, setFootprint, hsingle]

/-- What the group adds leaves a pattern within the limits of depth and size. -/
def LeavesRoom (setting : Setting) (body : String) : Prop :=
  ∀ t, readTree? body = some t → (anchored t).depth ≤ maxNesting ∧
    ∀ r s, t.toRegex? setting = some (r, s) → (Regex.catAll [.look .textStart, r]).fits = true

/-- A body without stray parentheses compiles in the group if and only if it compiles by itself,
does not end in a comment, and leaves room for the group. -/
theorem compile?_stickyText {body : String} (h : ¬ HasStray body) (setting : Setting) {q : Regex} :
    compile? setting (stickyText body) = some q ↔
      ∃ p, compile? setting body = some p ∧ ¬ EndsInComment body ∧ LeavesRoom setting body ∧
        q = Regex.catAll [.look .textStart, p] := by
  rw [compile?, compile?, readTree?_stickyText h]
  cases hbody : readTree? body with
  | none => simp
  | some t =>
    have hroom : LeavesRoom setting body ↔ ¬ maxNesting < (anchored t).depth ∧
        ∀ r s, t.toRegex? setting = some (r, s) →
          (Regex.catAll [.look .textStart, r]).fits = true := by
      simp [LeavesRoom, hbody]
    rw [hroom, Option.bind_some, Option.bind_some]
    split
    · next hno =>
      refine iff_of_false (by simp) ?_
      rintro ⟨p, -, hcomment, ⟨hdepth, -⟩, -⟩
      exact hno.elim hcomment hdepth
    · next hno =>
      obtain ⟨hcomment, hdepth⟩ := not_or.1 hno
      rw [Option.bind_some, toRegex?_anchored]
      cases hregex : t.toRegex? setting with
      | none => simp
      | some p =>
        obtain ⟨r, behind⟩ := p
        have hfilter (r q : Regex) :
            (some r).filter Regex.fits = some q ↔ r.fits = true ∧ r = q := by
          simp [Option.filter]
        simp only [Option.map_some, hfilter]
        constructor
        · rintro ⟨hfits, rfl⟩
          refine ⟨r, ⟨fits_of_catAll hfits, rfl⟩, hcomment, ⟨hdepth, ?_⟩, rfl⟩
          rintro r' s heq
          obtain ⟨rfl, -⟩ := Prod.mk.inj (Option.some.inj heq)
          exact hfits
        · rintro ⟨p, ⟨-, rfl⟩, -, ⟨-, hfits⟩, rfl⟩
          exact ⟨hfits _ _ rfl, rfl⟩

/-! ## Texts with a known tree -/

section OfTree

variable {body : String} {t : Tree} {setting behind : Setting} {r : Regex}

/-- A text that is read as a pattern has no stray parenthesis, at which reading would have
stopped. -/
theorem not_hasStray (ht : readTree? body = some t) : ¬ HasStray body := by
  intro hstray
  rw [readTree?_eq, hstray.run?_eq_none] at ht
  cases ht

/-- A text compiles if its tree is known, the tree is translated, and the expression is not too
large. -/
theorem compile?_eq_some (ht : readTree? body = some t)
    (hr : t.toRegex? setting = some (r, behind)) (hfits : r.fits = true) :
    compile? setting body = some r := by
  simp [compile?, ht, hr, Option.filter, hfits]

/-- A text with a known tree leaves room if the tree may be nested two levels deeper and its
expression may have an assertion in front. -/
theorem leavesRoom (ht : readTree? body = some t) (hdepth : t.depth + 2 ≤ maxNesting)
    (hr : t.toRegex? setting = some (r, behind))
    (hfits : (Regex.catAll [.look .textStart, r]).fits = true) : LeavesRoom setting body := by
  intro t' ht'
  obtain rfl := Option.some.inj (ht.symm.trans ht')
  refine ⟨depth_anchored t ▸ hdepth, fun r' behind' hr' => ?_⟩
  obtain ⟨rfl, -⟩ := Prod.mk.inj (Option.some.inj (hr.symm.trans hr'))
  exact hfits

end OfTree

/-! ## The search -/

/-- The text starts at its first place only, whatever flags are set for lines. -/
theorem textStart_holds_iff (subject : List Char) {i : Nat} (hi : i ≤ subject.length) :
    Look.textStart.holds (charBefore subject i) subject[i]? = true ↔ i = 0 := by
  rw [Look.holds]
  cases i with
  | zero => simp [charBefore]
  | succ i => simp [charBefore, Nat.lt_of_succ_le hi]

/-- A search behind the assertion finds the matches that begin at the first place. -/
theorem occursIn_anchored (p : Regex) (text : String) :
    (Regex.catAll [.look .textStart, p]).occursIn text = true ↔
      ∃ stop, p.Matches text.toList 0 stop := by
  have hcat (i j : Nat) (hi : i ≤ text.toList.length) :
      (Regex.catAll [.look .textStart, p]).Matches text.toList i j ↔
        i = 0 ∧ p.Matches text.toList 0 j := by
    have hstart := textStart_holds_iff text.toList hi
    rcases catAll_look .textStart p with ⟨rfl, hlook⟩ | hlook
    · rw [hlook, Regex.Matches, Regex.Matches, hstart]
      omega
    · rw [hlook, Regex.Matches]
      constructor
      · rintro ⟨k, ⟨rfl, hk⟩, h⟩
        obtain rfl := hstart.1 hk
        exact ⟨rfl, h⟩
      · rintro ⟨rfl, h⟩
        exact ⟨0, ⟨rfl, hstart.2 rfl⟩, h⟩
  rw [Regex.occursIn_iff]
  constructor
  · rintro ⟨i, hi, j, h⟩
    exact ⟨j, ((hcat i j hi).1 h).2⟩
  · rintro ⟨j, h⟩
    exact ⟨0, Nat.zero_le _, j, (hcat 0 j (Nat.zero_le _)).2 ⟨rfl, h⟩⟩

end Pattern

/-! ## Sticky pattern literals -/

namespace When

open Pattern

variable {body flags sticky : String}

/-- A literal compiles if no flag stands twice, `u` and `v` do not stand together, and the text that
is searched for compiles under the setting of the flags. -/
theorem compilePattern_eq_ok {p : Regex} :
    compilePattern body flags = .ok p ↔
      (flags.toList.Nodup ∧ ¬ ('u' ∈ flags.toList ∧ 'v' ∈ flags.toList)) ∧
        compile? (settingOf flags.toList) (searched body flags.toList) = some p := by
  constructor
  · intro h
    obtain ⟨hnodup, hboth, hsome⟩ := compilePattern_eq_ok_iff.1 ⟨p, h⟩
    refine ⟨⟨hnodup, hboth⟩, ?_⟩
    rw [compilePattern, repeatedFlag?_eq_none_iff.2 ⟨hnodup, by simp⟩] at h
    simp only [List.contains_iff_mem, hboth, if_false] at h
    obtain ⟨q, hq⟩ := Option.isSome_iff_exists.1 hsome
    rw [hq] at h ⊢
    rw [Except.ok.inj h]
  · rintro ⟨⟨hnodup, hboth⟩, hp⟩
    rw [compilePattern, repeatedFlag?_eq_none_iff.2 ⟨hnodup, by simp⟩]
    simp only [List.contains_iff_mem, hboth, if_false, hp]

/-- The flag `y` aside, a literal made sticky has the flags it had, in any order. -/
theorem mem_sticky_iff (hsticky : sticky.toList.Perm ('y' :: flags.toList)) {c : Char}
    (hc : c ≠ 'y') : c ∈ sticky.toList ↔ c ∈ flags.toList := by
  rw [hsticky.mem_iff, List.mem_cons, or_iff_right hc]

/-- Being sticky does not change the setting, which depends on the flags for case, lines and
dots. -/
theorem settingOf_sticky (hsticky : sticky.toList.Perm ('y' :: flags.toList)) :
    settingOf sticky.toList = settingOf flags.toList := by
  have hcontains {c : Char} (hc : c ≠ 'y') :
      sticky.toList.contains c = flags.toList.contains c := by
    rw [Bool.eq_iff_iff, List.contains_iff_mem, List.contains_iff_mem, mem_sticky_iff hsticky hc]
  rw [settingOf, settingOf, hcontains (by decide), hcontains (by decide), hcontains (by decide)]

/-- Without the flag the text is searched for as it is, with no group around it. -/
theorem searched_of_not_mem {flags : List Char} (h : 'y' ∉ flags) :
    searched body flags = body := by
  rw [searched, if_neg]
  rwa [List.contains_iff_mem]

/-- **A sticky pattern literal** is one without the flag, behind an assertion.  A body that ends in
a comment or leaves no room is refused with the flag and accepted without it. -/
theorem compilePattern_sticky (hflags : 'y' ∉ flags.toList)
    (hsticky : sticky.toList.Perm ('y' :: flags.toList)) (hstray : ¬ HasStray body) {q : Regex} :
    compilePattern body sticky = .ok q ↔
      ∃ p, compilePattern body flags = .ok p ∧ ¬ EndsInComment body ∧
        LeavesRoom (settingOf flags.toList) body ∧ q = Regex.catAll [.look .textStart, p] := by
  have htext : searched body sticky.toList = stickyText body := by
    rw [searched, if_pos, stickyText]
    rw [List.contains_iff_mem, hsticky.mem_iff]
    exact List.mem_cons_self
  have hnodup : sticky.toList.Nodup ↔ flags.toList.Nodup := by
    rw [hsticky.nodup_iff, List.nodup_cons, and_iff_right hflags]
  have hu := mem_sticky_iff hsticky (c := 'u') (by decide)
  have hv := mem_sticky_iff hsticky (c := 'v') (by decide)
  simp only [compilePattern_eq_ok, searched_of_not_mem hflags, htext, hnodup, hu, hv,
    settingOf_sticky hsticky, compile?_stickyText hstray]
  constructor
  · rintro ⟨hvalid, p, hp, h⟩
    exact ⟨p, ⟨hvalid, hp⟩, h⟩
  · rintro ⟨p, ⟨hvalid, hp⟩, h⟩
    exact ⟨hvalid, p, hp, h⟩

/-- A body with a stray parenthesis is refused without the flag, whether or not it happens to
compile in the group. -/
theorem compilePattern_of_hasStray (hflags : 'y' ∉ flags.toList) (hstray : HasStray body)
    (p : Regex) : compilePattern body flags ≠ .ok p := by
  intro h
  have hcompile := (compilePattern_eq_ok.1 h).2
  rw [searched_of_not_mem hflags, compile?, readTree?_eq, hstray.run?_eq_none] at hcompile
  cases hcompile

namespace Expr

/-- **Sticky matching is anchored matching.**  A body without stray parentheses makes a literal with
the flag `y` exactly if it makes one without, does not end in a comment and leaves room; a body with
stray parentheses makes none without.  A sticky literal is found exactly if what its body matches
begins at the first character. -/
theorem sticky_iff (hflags : 'y' ∉ flags.toList)
    (hsticky : sticky.toList.Perm ('y' :: flags.toList)) :
    (¬ HasStray body →
      ((pattern body sticky).IsSearchable ↔
        (pattern body flags).IsSearchable ∧ ¬ EndsInComment body ∧
          LeavesRoom (settingOf flags.toList) body)) ∧
      (HasStray body → ¬ (pattern body flags).IsSearchable) ∧
      ∀ p, compilePattern body flags = .ok p → (pattern body sticky).IsSearchable →
        ∀ names l v, l.value names = .ok v →
          ∃ found, (binary .isMatch l (pattern body sticky)).value names = .ok (.bool found) ∧
            (found = true ↔ ∃ stop, p.Matches v.text.toList 0 stop) := by
  refine ⟨fun hstray => ?_, fun hstray hsearchable => ?_, fun p hp hsearchable names l v hv => ?_⟩
  · rw [← compilePattern_eq_ok_iff, ← compilePattern_eq_ok_iff]
    constructor
    · rintro ⟨q, hq⟩
      obtain ⟨p, hp, hcomment, hroom, -⟩ := (compilePattern_sticky hflags hsticky hstray).1 hq
      exact ⟨⟨p, hp⟩, hcomment, hroom⟩
    · rintro ⟨⟨p, hp⟩, hcomment, hroom⟩
      exact ⟨_, (compilePattern_sticky hflags hsticky hstray).2 ⟨p, hp, hcomment, hroom, rfl⟩⟩
  · obtain ⟨p, hp⟩ := compilePattern_eq_ok_iff.2 hsearchable
    exact compilePattern_of_hasStray hflags hstray p hp
  · have hstray : ¬ HasStray body := fun hstray => compilePattern_of_hasStray hflags hstray p hp
    obtain ⟨q, hq⟩ := compilePattern_eq_ok_iff.2 hsearchable
    obtain ⟨p', hp', -, -, rfl⟩ := (compilePattern_sticky hflags hsticky hstray).1 hq
    obtain rfl := Except.ok.inj (hp.symm.trans hp')
    refine ⟨_, ?_, occursIn_anchored p v.text⟩
    rw [value_isMatch_pattern, hv, hq]
    rfl

/-- A branch that matches further on is not found at the start: the group keeps the branches
together behind the assertion. -/
theorem sticky_iff_choice :
    ('y' ∉ "m".toList ∧ "my".toList.Perm ('y' :: "m".toList)) ∧
      (pattern "ab|b" "my").IsSearchable ∧
      (binary .isMatch (string "cab") (pattern "ab|b" "my")).value .empty = .ok (.bool false) := by
  have hflags : 'y' ∉ "m".toList := by decide
  have hsticky : "my".toList.Perm ('y' :: "m".toList) := by decide
  let t : Tree :=
    .alternate [.concat [.literal ⟨'a', false⟩, .literal ⟨'b', false⟩], .literal ⟨'b', false⟩]
  let r : Regex := .alt (.cat (.set (.single 'a')) (.set (.single 'b'))) (.set (.single 'b'))
  have ht : readTree? "ab|b" = some t := by cbv
  have hr : t.toRegex? (settingOf "m".toList) = some (r, settingOf "m".toList) := by
    simp [t, r, Tree.toRegex?, Tree.toRegexes?, Literal.char?, Setting.foldIf, settingOf,
      Regex.catAll, Regex.altAll, Regex.set?]
  have hanchored : (Regex.catAll [.look .textStart, r]).fits = true := by
    have hsize : (Regex.catAll [.look .textStart, r]).footprint =
        .both 32 + ((Regex.set (.single 'a')).footprint + (Regex.set (.single 'b')).footprint +
          (Regex.set (.single 'b')).footprint + .both 72) := rfl
    rw [fits_iff, hsize, footprint_single, footprint_single]
    decide
  have hown : compilePattern "ab|b" "m" = .ok r :=
    compilePattern_eq_ok.2 ⟨by decide, compile?_eq_some ht hr (fits_of_catAll hanchored)⟩
  have hcomment : ¬ EndsInComment "ab|b" := by
    have hopen : readTree? ("ab|b" ++ ")") = none := by cbv
    rintro ⟨-, hclosed⟩
    rw [hopen] at hclosed
    cases hclosed
  obtain ⟨hsearchable, -, hfound⟩ := @sticky_iff "ab|b" "m" "my" hflags hsticky
  have hsearchable := (hsearchable (not_hasStray ht)).2
    ⟨compilePattern_eq_ok_iff.1 ⟨r, hown⟩, hcomment, leavesRoom ht (by decide) hr hanchored⟩
  obtain ⟨found, hvalue, hmatches⟩ :=
    hfound r hown hsearchable .empty (string "cab") (.string "cab") rfl
  refine ⟨⟨hflags, hsticky⟩, hsearchable, hvalue.trans ?_⟩
  have hnone : ¬ ∃ stop, r.Matches "cab".toList 0 stop := by
    simp [r, Regex.Matches, contains_single]
  rw [Bool.eq_false_iff.2 fun hfound => hnone (hmatches.1 hfound)]

/-- The parenthesis that closes the group of a sticky pattern falls into the comment at its end. -/
theorem isSearchable_sticky_comment :
    (pattern "(?x)a # c" "").IsSearchable ∧ ¬ (pattern "(?x)a # c" "y").IsSearchable := by
  let t : Tree := .concat [.flags [⟨.verbose, true⟩], .literal ⟨'a', false⟩]
  have ht : readTree? "(?x)a # c" = some t := by cbv
  have hclosed : readTree? ("(?x)a # c" ++ ")") = some t := by cbv
  have hr : t.toRegex? (settingOf "".toList) = some (.set (.single 'a'), settingOf "".toList) := by
    simp [t, Tree.toRegex?, Tree.toRegexes?, Literal.char?, Setting.foldIf, settingOf,
      Setting.changeAll, Setting.change, Regex.catAll]
  have hfits : (Regex.set (.single 'a')).fits = true := by
    rw [fits_iff, footprint_single]
    decide
  rw [← compilePattern_eq_ok_iff, ← compilePattern_eq_ok_iff]
  refine ⟨⟨_, compilePattern_eq_ok.2 ⟨by decide, compile?_eq_some ht hr hfits⟩⟩, ?_⟩
  rintro ⟨q, hq⟩
  obtain ⟨p, -, hcomment, -⟩ :=
    (@compilePattern_sticky _ "" "y" (by decide) (by decide) (not_hasStray ht) q).1 hq
  exact hcomment ⟨by rw [ht]; rfl, by rw [hclosed]; rfl⟩

end Expr
end When
end CommitForm
