/-
# What a search finds

`Regex.Matches` is the relation between places of a subject that an expression describes.  The
search carries sets of places along this relation (`Plan.carries_reach`), so it finds an expression
exactly if a match begins somewhere (`Regex.occursIn_iff`).

The search takes at most as many rounds of a repetition as there are places.  A longer chain of
steps stays somewhere, since no step goes back, and the step that stays can be left out or taken as
often as one likes (`Chain.stretch`).
-/

import CommitForm.Pattern.Search

namespace CommitForm
namespace Pattern

/-! ## Matches -/

/-- A chain of a number of steps from one place to another, for the repetitions of an expression. -/
inductive Chain (R : Nat → Nat → Prop) : Nat → Nat → Nat → Prop where
  | nil (i : Nat) : Chain R 0 i i
  | cons {n i k j : Nat} (first : R i k) (rest : Chain R n k j) : Chain R (n + 1) i j

/-- The character before a place, of which there is none before the first. -/
def charBefore (subject : List Char) : Nat → Option Char
  | 0 => none
  | i + 1 => subject[i]?

/-- The places where a match ends that begins at a place.  A repetition takes its least number of
steps, and up to its greatest number behind them. -/
def Regex.Matches (subject : List Char) : Regex → Nat → Nat → Prop
  | .empty, i, j => j = i
  | .set s, i, j => j = i + 1 ∧ ∃ c, subject[i]? = some c ∧ s.contains c = true
  | .look kind, i, j => j = i ∧ kind.holds (charBefore subject i) subject[i]? = true
  | .group r, i, j => r.Matches subject i j
  | .cat r s, i, j => ∃ k, r.Matches subject i k ∧ s.Matches subject k j
  | .alt r s, i, j => r.Matches subject i j ∨ s.Matches subject i j
  | .repeated r least most, i, j =>
    ∃ more, (∀ m, most = some m → more ≤ m - least) ∧
      Chain (r.Matches subject) (least + more) i j

/-! ## Chains of steps -/

/-- No step goes back or beyond the last place, so chains of steps stay among the places of the
subject. -/
def Forward (last : Nat) (R : Nat → Nat → Prop) : Prop :=
  ∀ i j, i ≤ last → R i j → i ≤ j ∧ j ≤ last

namespace Chain

variable {last : Nat} {R : Nat → Nat → Prop} {n i j : Nat}

/-- A chain of forward steps is forward, by induction on the chain. -/
theorem forward (hR : Forward last R) (h : Chain R n i j) (hi : i ≤ last) : i ≤ j ∧ j ≤ last := by
  induction h with
  | nil => exact ⟨Nat.le_refl _, hi⟩
  | cons first rest ih =>
    obtain ⟨hle, hlast⟩ := hR _ _ hi first
    obtain ⟨hle', hlast'⟩ := ih hlast
    exact ⟨Nat.le_trans hle hle', hlast'⟩

/-- A chain of more steps than it goes forward stays somewhere, so that there are chains of any
other number of steps too that suffices to go as far. -/
theorem stretch (hR : Forward last R) (h : Chain R n i j) (hi : i ≤ last) (hn : j - i < n) {m : Nat}
    (hm : j - i ≤ m) : Chain R m i j := by
  induction h generalizing m with
  | nil => omega
  | @cons n i k j first rest ih =>
    obtain ⟨hik, hk⟩ := hR i k hi first
    obtain ⟨hkj, -⟩ := rest.forward hR hk
    rcases Nat.eq_or_lt_of_le hik with rfl | hlt
    · by_cases hrest : j - i < n
      · exact ih hi hrest hm
      · -- only the first step stays: it is taken as often as needed
        obtain rfl : n = j - i := by omega
        clear ih
        obtain ⟨extra, rfl⟩ := Nat.exists_eq_add_of_le hm
        induction extra with
        | zero => exact rest
        | succ extra ihextra => exact .cons first (ihextra (by omega))
    · obtain ⟨m, rfl⟩ : ∃ m', m = m' + 1 := Nat.exists_eq_succ_of_ne_zero (by omega)
      exact .cons first (ih hk (by omega) (by omega))

/-- A chain can be parted after any number of its steps. -/
theorem add_iff {m : Nat} : Chain R (n + m) i j ↔ ∃ k, Chain R n i k ∧ Chain R m k j := by
  induction n generalizing i with
  | zero =>
    rw [Nat.zero_add]
    constructor
    · exact fun h => ⟨i, .nil i, h⟩
    · rintro ⟨k, hnil, h⟩
      cases hnil
      exact h
  | succ n ih =>
    rw [Nat.succ_add]
    constructor
    · intro h
      cases h with
      | cons first rest =>
        obtain ⟨k, hn, hm⟩ := ih.1 rest
        exact ⟨k, .cons first hn, hm⟩
    · rintro ⟨k, hn, hm⟩
      cases hn with
      | cons first rest => exact .cons first (ih.2 ⟨k, rest, hm⟩)

/-- No more steps count than there are places, neither those that have to be taken nor those that
may be taken behind them. -/
theorem rounds_iff (hR : Forward last R) (hi : i ≤ last) {least most : Nat} :
    (∃ more ≤ most, Chain R (least + more) i j) ↔
      ∃ more ≤ min most (last + 1), Chain R (min least (last + 1) + more) i j := by
  constructor
  · rintro ⟨more, hmore, h⟩
    obtain ⟨-, hj⟩ := h.forward hR hi
    by_cases hn : least + more ≤ last
    · refine ⟨more, by omega, ?_⟩
      rw [Nat.min_eq_left (by omega)]
      exact h
    · exact ⟨min most (last + 1), Nat.le_refl _, h.stretch hR hi (by omega) (by omega)⟩
  · rintro ⟨more, hmore, h⟩
    obtain ⟨-, hj⟩ := h.forward hR hi
    refine ⟨more, by omega, ?_⟩
    rcases Nat.le_total least (last + 1) with hle | hge
    · rw [Nat.min_eq_left hle] at h
      exact h
    · exact h.stretch hR hi (by omega) (by omega)

end Chain

/-- Matches go forward and stay in the subject, by induction on the expression. -/
theorem Regex.forward (subject : List Char) (r : Regex) :
    Forward subject.length (r.Matches subject) := by
  induction r with
  | empty =>
    rintro i j hi rfl
    exact ⟨Nat.le_refl _, hi⟩
  | set s =>
    rintro i j hi ⟨rfl, c, hc, -⟩
    obtain ⟨hlt, -⟩ := List.getElem?_eq_some_iff.1 hc
    omega
  | look kind =>
    rintro i j hi ⟨rfl, -⟩
    exact ⟨Nat.le_refl _, hi⟩
  | group r ih => exact ih
  | cat r s ihr ihs =>
    rintro i j hi ⟨k, hr, hs⟩
    obtain ⟨hik, hk⟩ := ihr i k hi hr
    obtain ⟨hkj, hj⟩ := ihs k j hk hs
    exact ⟨Nat.le_trans hik hkj, hj⟩
  | alt r s ihr ihs =>
    rintro i j hi (hr | hs)
    · exact ihr i j hi hr
    · exact ihs i j hi hs
  | repeated r least most ih =>
    rintro i j hi ⟨more, -, hchain⟩
    exact hchain.forward ih hi

/-! ## Sets of places -/

/-- A set of places no greater than the last one, as a number whose bits beyond it are all zero. -/
def IsPlaces (last places : Nat) : Prop := ∀ i, places.testBit i = true → i ≤ last

/-- A function on sets of places answers all places that a relation leads to. -/
def Carries (last : Nat) (f : Nat → Nat) (R : Nat → Nat → Prop) : Prop :=
  ∀ places, IsPlaces last places →
    ∀ j, (f places).testBit j = true ↔ ∃ i, places.testBit i = true ∧ R i j

section

variable {last : Nat} {f : Nat → Nat} {R : Nat → Nat → Prop} {places : Nat}

/-- What carries places along forward steps leads to places again. -/
theorem Carries.isPlaces (hf : Carries last f R) (hR : Forward last R)
    (hplaces : IsPlaces last places) : IsPlaces last (f places) := by
  intro j hj
  obtain ⟨i, hi, hij⟩ := (hf places hplaces j).1 hj
  exact (hR i j (hplaces i hi) hij).2

/-- A chain of one step more from some places is a chain from those that they are carried to. -/
theorem Carries.exists_chain_succ (hf : Carries last f R) (hplaces : IsPlaces last places)
    {n j : Nat} :
    (∃ i, places.testBit i = true ∧ Chain R (n + 1) i j) ↔
      ∃ i, (f places).testBit i = true ∧ Chain R n i j := by
  constructor
  · rintro ⟨i, hi, hchain⟩
    cases hchain with
    | @cons _ _ k _ first rest => exact ⟨k, (hf places hplaces k).2 ⟨i, hi, first⟩, rest⟩
  · rintro ⟨k, hk, rest⟩
    obtain ⟨i, hi, first⟩ := (hf places hplaces k).1 hk
    exact ⟨i, hi, .cons first rest⟩

/-- A chain of no steps from some places ends at one of them. -/
theorem exists_chain_zero {j : Nat} :
    (∃ i, places.testBit i = true ∧ Chain R 0 i j) ↔ places.testBit j = true := by
  constructor
  · rintro ⟨i, hi, hchain⟩
    cases hchain
    exact hi
  · exact fun hj => ⟨j, hj, .nil j⟩

/-- The places after a number of rounds are those that chains of as many steps lead to: when a round
changes nothing, neither do the rounds left out. -/
theorem Carries.exactly (hf : Carries last f R) (hR : Forward last R) (n : Nat) :
    Carries last (exactly f n) (Chain R n) := by
  induction n with
  | zero =>
    intro places _ j
    rw [Pattern.exactly, exists_chain_zero]
  | succ n ih =>
    intro places hplaces j
    rw [Pattern.exactly, hf.exists_chain_succ hplaces]
    split
    · next hfix =>
      rw [hfix]
      have hall (n : Nat) :
          places.testBit j = true ↔ ∃ i, places.testBit i = true ∧ Chain R n i j := by
        induction n with
        | zero => rw [exists_chain_zero]
        | succ n ihn => rw [hf.exists_chain_succ hplaces, hfix, ihn]
      exact hall n
    · exact ih _ (hf.isPlaces hR hplaces) j

/-- No chain leaves a set of places to which a round adds none, which is why the rounds may stop
there. -/
theorem Carries.testBit_of_chain (hf : Carries last f R) (hplaces : IsPlaces last places)
    (hfix : places ||| f places = places) {n i j : Nat} (h : Chain R n i j)
    (hi : places.testBit i = true) : places.testBit j = true := by
  induction h with
  | nil => exact hi
  | @cons n i k j first rest ih =>
    refine ih ?_
    rw [← hfix, Nat.testBit_or, (hf places hplaces k).2 ⟨i, hi, first⟩, Bool.or_true]

/-- The places after at most a number of rounds are those that chains of at most as many steps lead
to. -/
theorem Carries.atMost (hf : Carries last f R) (hR : Forward last R) (n : Nat) :
    Carries last (atMost f n) fun i j => ∃ m ≤ n, Chain R m i j := by
  induction n with
  | zero =>
    intro places _ j
    rw [Pattern.atMost]
    constructor
    · exact fun hj => ⟨j, hj, 0, Nat.le_refl _, .nil j⟩
    · rintro ⟨i, hi, m, hm, hchain⟩
      obtain rfl := Nat.le_zero.1 hm
      cases hchain
      exact hi
  | succ n ih =>
    intro places hplaces j
    have hor (i : Nat) : (places ||| f places).testBit i = true ↔
        places.testBit i = true ∨ (f places).testBit i = true := by
      rw [Nat.testBit_or, Bool.or_eq_true]
    rw [Pattern.atMost]
    split
    · next hfix =>
      constructor
      · exact fun hj => ⟨j, hj, 0, Nat.zero_le _, .nil j⟩
      · rintro ⟨i, hi, m, -, hchain⟩
        exact hf.testBit_of_chain hplaces hfix hchain hi
    · have hnext : IsPlaces last (places ||| f places) := by
        intro i hi
        rcases (hor i).1 hi with hi | hi
        · exact hplaces i hi
        · exact hf.isPlaces hR hplaces i hi
      rw [ih _ hnext j]
      constructor
      · rintro ⟨i, hi, m, hm, hchain⟩
        rcases (hor i).1 hi with hi | hi
        · exact ⟨i, hi, m, by omega, hchain⟩
        · obtain ⟨i, hi, hchain⟩ := (hf.exists_chain_succ hplaces).2 ⟨i, hi, hchain⟩
          exact ⟨i, hi, m + 1, by omega, hchain⟩
      · rintro ⟨i, hi, m, hm, hchain⟩
        cases m with
        | zero => exact ⟨i, (hor i).2 (.inl hi), 0, Nat.zero_le _, hchain⟩
        | succ m =>
          obtain ⟨k, hk, hchain⟩ := (hf.exists_chain_succ hplaces).1 ⟨i, hi, hchain⟩
          exact ⟨k, (hor k).2 (.inr hk), m, by omega, hchain⟩

/-- A repetition needs no more rounds than there are places, since a chain that is longer visits a
place twice or stays. -/
theorem Carries.repeated (hf : Carries last f R) (hR : Forward last R) (least : Nat)
    (most : Option Nat) :
    Carries last
      (fun places =>
        let start := Pattern.exactly f (min least (last + 1)) places
        match most with
        | none => Pattern.atMost f (last + 1) start
        | some most => Pattern.atMost f (min (most - least) (last + 1)) start)
      fun i j => ∃ more, (∀ m, most = some m → more ≤ m - least) ∧ Chain R (least + more) i j := by
  intro places hplaces j
  have hexactly := hf.exactly hR (min least (last + 1))
  have hstart : IsPlaces last (Pattern.exactly f (min least (last + 1)) places) :=
    hexactly.isPlaces (fun i j hi h => h.forward hR hi) hplaces
  have hrounds (n : Nat) :
      (Pattern.atMost f n (Pattern.exactly f (min least (last + 1)) places)).testBit j = true ↔
        ∃ i, places.testBit i = true ∧
          ∃ more ≤ n, Chain R (min least (last + 1) + more) i j := by
    rw [hf.atMost hR n _ hstart]
    constructor
    · rintro ⟨k, hk, more, hmore, hrest⟩
      obtain ⟨i, hi, hfirst⟩ := (hexactly places hplaces k).1 hk
      exact ⟨i, hi, more, hmore, Chain.add_iff.2 ⟨k, hfirst, hrest⟩⟩
    · rintro ⟨i, hi, more, hmore, hchain⟩
      obtain ⟨k, hfirst, hrest⟩ := Chain.add_iff.1 hchain
      exact ⟨k, (hexactly places hplaces k).2 ⟨i, hi, hfirst⟩, more, hmore, hrest⟩
  dsimp only
  cases most with
  | none =>
    rw [hrounds]
    refine exists_congr fun i => and_congr_right fun hi => ?_
    have hi := hplaces i hi
    constructor
    · rintro ⟨more, hmore, hchain⟩
      have hmore : more ≤ min (last + 1) (last + 1) := by omega
      obtain ⟨more, -, hchain⟩ := (Chain.rounds_iff hR hi).2 ⟨more, hmore, hchain⟩
      exact ⟨more, by simp, hchain⟩
    · rintro ⟨more, -, hchain⟩
      obtain ⟨more, hmore, hchain⟩ := (Chain.rounds_iff hR hi).1 ⟨more, Nat.le_refl _, hchain⟩
      exact ⟨more, by omega, hchain⟩
  | some m =>
    rw [hrounds]
    refine exists_congr fun i => and_congr_right fun hi => ?_
    rw [← Chain.rounds_iff hR (hplaces i hi)]
    simp only [Option.some_inj, forall_eq']

end

/-! ## The places of a subject -/

/-- The bits of a set of places are the entries of the list that it was made of. -/
theorem testBit_placesOf (bs : List Bool) (i : Nat) :
    (placesOf bs).testBit i = true ↔ bs[i]? = some true := by
  induction bs generalizing i with
  | nil => simp [placesOf]
  | cons b bs ih =>
    rw [placesOf]
    cases i with
    | zero => cases b <;> simp [Nat.testBit_zero]
    | succ i =>
      rw [Nat.testBit_succ, List.getElem?_cons_succ, ← ih]
      cases b <;> simp [Nat.add_mul_div_left]

/-- What a test says of a place is what it says of the characters on both sides of it. -/
theorem getElem?_around (test : Option Char → Option Char → Bool) (before : Option Char)
    (cs : List Char) {i : Nat} (hi : i ≤ cs.length) :
    (around test before cs)[i]? =
      some (test (if i = 0 then before else charBefore cs i) cs[i]?) := by
  induction cs generalizing before i with
  | nil =>
    obtain rfl := Nat.le_zero.1 hi
    rfl
  | cons c cs ih =>
    rw [around]
    cases i with
    | zero => rfl
    | succ i =>
      rw [List.getElem?_cons_succ, ih _ (Nat.le_of_succ_le_succ hi)]
      cases i <;> rfl

/-- The places where a condition holds are those whose neighbouring characters fulfil it. -/
theorem testBit_placesOf_around (kind : Look) (subject : List Char) {i : Nat}
    (hi : i ≤ subject.length) :
    (placesOf (around kind.holds none subject)).testBit i = true ↔
      kind.holds (charBefore subject i) subject[i]? = true := by
  have hbefore : (if i = 0 then none else charBefore subject i) = charBefore subject i := by
    cases i <;> rfl
  rw [testBit_placesOf, getElem?_around _ _ _ hi, hbefore, Option.some_inj]

/-- **The search follows the matches:** from the places where a match may begin it reaches just
those where one ends, by induction on the expression. -/
theorem Plan.carries_reach (subject : List Char) (r : Regex) :
    Carries subject.length ((r.plan subject).reach (subject.length + 1)) (r.Matches subject) := by
  induction r with
  | empty =>
    intro places _ j
    simp [Regex.plan, Plan.reach, Regex.Matches]
  | set s =>
    intro places _ j
    rw [Regex.plan, Plan.reach, Nat.testBit_shiftLeft, Bool.and_eq_true, Nat.testBit_and,
      Bool.and_eq_true, testBit_placesOf, List.getElem?_map, decide_eq_true_eq]
    simp only [Option.map_eq_some_iff]
    constructor
    · rintro ⟨hj, hplace, c, hc, hs⟩
      exact ⟨j - 1, hplace, (Nat.sub_add_cancel hj).symm, c, hc, hs⟩
    · rintro ⟨i, hi, rfl, c, hc, hs⟩
      exact ⟨Nat.le_add_left 1 i, hi, c, hc, hs⟩
  | look kind =>
    intro places hplaces j
    rw [Regex.plan, Plan.reach, Nat.testBit_and, Bool.and_eq_true]
    constructor
    · rintro ⟨hj, hheld⟩
      exact ⟨j, hj, rfl, (testBit_placesOf_around kind subject (hplaces j hj)).1 hheld⟩
    · rintro ⟨i, hi, rfl, hheld⟩
      exact ⟨hi, (testBit_placesOf_around kind subject (hplaces _ hi)).2 hheld⟩
  | group r ih => exact ih
  | cat r s ihr ihs =>
    intro places hplaces j
    rw [Regex.plan, Plan.reach, ihs _ (ihr.isPlaces (r.forward subject) hplaces)]
    constructor
    · rintro ⟨k, hk, hs⟩
      obtain ⟨i, hi, hr⟩ := (ihr places hplaces k).1 hk
      exact ⟨i, hi, k, hr, hs⟩
    · rintro ⟨i, hi, k, hr, hs⟩
      exact ⟨k, (ihr places hplaces k).2 ⟨i, hi, hr⟩, hs⟩
  | alt r s ihr ihs =>
    intro places hplaces j
    rw [Regex.plan, Plan.reach, Nat.testBit_or, Bool.or_eq_true, ihr places hplaces,
      ihs places hplaces, ← exists_or]
    exact exists_congr fun i => and_or_left.symm
  | repeated r least most ih => exact ih.repeated (r.forward subject) least most

/-- **A search finds an expression exactly if a match begins somewhere,** at one of the places of
the text. -/
theorem Regex.occursIn_iff (r : Regex) (text : String) :
    r.occursIn text = true ↔
      ∃ i ≤ text.toList.length, ∃ j, r.Matches text.toList i j := by
  have hall (i : Nat) : (Nat.pow 2 (text.toList.length + 1) - 1).testBit i = true ↔
      i ≤ text.toList.length := by
    rw [Nat.pow_eq, Nat.testBit_two_pow_sub_one, decide_eq_true_eq, Nat.lt_succ_iff]
  have hplaces : IsPlaces text.toList.length (Nat.pow 2 (text.toList.length + 1) - 1) :=
    fun i => (hall i).1
  rw [occursIn, bne_iff_ne]
  constructor
  · intro hne
    obtain ⟨j, hj⟩ := Nat.exists_testBit_of_ne_zero hne
    obtain ⟨i, hi, h⟩ := (Plan.carries_reach _ r _ hplaces j).1 hj
    exact ⟨i, (hall i).1 hi, j, h⟩
  · rintro ⟨i, hi, j, h⟩ hzero
    have hj := (Plan.carries_reach _ r _ hplaces j).2 ⟨i, (hall i).2 hi, h⟩
    rw [hzero, Nat.zero_testBit] at hj
    cases hj

end Pattern
end CommitForm
