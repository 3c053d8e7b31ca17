/-
# Assignments grouped by their names

A text is read as an assignment if it can be cut at its first equals sign (`IsCut`) and something is
left of the part in front when the blanks around it are taken away.

| texts | are read as |
| --- | --- |
| all are assignments | a value for each name, in the order in which the names first occur |
| some is none | the fault of the first one that is none |

A name that is given once has this value for its value, and a name that is given more often the list
of all its values.  No value is lost: those of all names are the values that were given
(`Groups.values`).  The values that a command works with are those of a file, with these on top
(`readAssignments_groups`).
-/

import Mathlib.Data.List.Forall2
import Mathlib.Data.List.Induction
import Mathlib.Data.List.Nodup
import Mathlib.Data.List.Perm.Basic
import Mathlib.Data.List.TakeDrop
import Mathlib.Data.List.TakeWhile
import CommitForm.Command.Run

namespace CommitForm
namespace Command

/-! ## One assignment -/

/-- The parts of a text in front of its first equals sign and behind it. -/
def IsCut (text front value : String) : Prop := '=' ∉ front.toList ∧ text = front ++ "=" ++ value

/-- A text that gives a value to a name, with blanks around the name or without. -/
def Assignment.Gives (text : String) (a : Assignment) : Prop :=
  ∃ front, IsCut text front a.value ∧ Text.trim front = a.name ∧ a.name ≠ ""

/-- What keeps a text from being an assignment, and which error that is: there is no equals sign, or
nothing but blanks before the first one. -/
inductive AssignmentError.Spoils (text : String) : AssignmentError → Prop where
  | noEqualsSign (h : '=' ∉ text.toList) : Spoils text (.noEqualsSign text)
  | noName {front value : String} (h : IsCut text front value) (hname : Text.trim front = "") :
      Spoils text (.noName text)

namespace Assignment

/-- A text with an equals sign can be cut at the first one, into a name and a value that may hold
further signs. -/
theorem exists_isCut {text : String} (h : '=' ∈ text.toList) :
    ∃ front value, IsCut text front value := by
  obtain ⟨front, value, hsplit, hfront⟩ := List.eq_append_cons_of_mem h
  refine ⟨String.ofList front, String.ofList value, by simpa using hfront, ?_⟩
  rw [← String.toList_inj, hsplit]
  simp

/-- A text without an equals sign is refused with the whole text in the error, as the message
repeats it. -/
theorem ofText_of_not_mem {text : String} (h : '=' ∉ text.toList) :
    ofText text = .error (.noEqualsSign text) := by
  have hplain : ∀ c ∈ text.toList, decide (c ≠ '=') = true := by
    intro c hc
    exact decide_eq_true fun he => h (he ▸ hc)
  rw [ofText, List.span_eq_takeWhile_dropWhile, List.dropWhile_eq_nil_iff.2 hplain]

/-- A text that is cut at its first equals sign is read by the two parts: the name is trimmed and
must not be empty, the value is kept as it is. -/
theorem ofText_of_isCut {text front value : String} (h : IsCut text front value) :
    ofText text =
      if Text.trim front = "" then .error (.noName text) else .ok ⟨Text.trim front, value⟩ := by
  obtain ⟨hfront, htext⟩ := h
  have hlist : text.toList = front.toList ++ '=' :: value.toList := by rw [htext]; simp
  have hplain : ∀ c ∈ front.toList, decide (c ≠ '=') = true := by
    intro c hc
    exact decide_eq_true fun he => hfront (he ▸ hc)
  have htake : text.toList.takeWhile (· ≠ '=') = front.toList := by
    rw [hlist, List.takeWhile_append_of_pos hplain]
    simp
  have hdrop : text.toList.dropWhile (· ≠ '=') = '=' :: value.toList := by
    rw [hlist, List.dropWhile_append_of_pos hplain]
    simp
  rw [ofText, List.span_eq_takeWhile_dropWhile, htake, hdrop]
  simp only [String.ofList_toList]

/-- **A text is read as the assignment that it is,** and as no other, since a text can be cut at its
first equals sign in one way only. -/
theorem ofText_eq_ok_iff {text : String} {a : Assignment} : ofText text = .ok a ↔ Gives text a := by
  constructor
  · intro h
    by_cases hmem : '=' ∈ text.toList
    · obtain ⟨front, value, hcut⟩ := exists_isCut hmem
      rw [ofText_of_isCut hcut] at h
      split at h
      · cases h
      · next hname =>
        obtain rfl := Except.ok.inj h
        exact ⟨front, hcut, rfl, hname⟩
    · rw [ofText_of_not_mem hmem] at h
      cases h
  · rintro ⟨front, hcut, hname, hne⟩
    rw [ofText_of_isCut hcut, hname, if_neg hne]

/-- **A text is refused** for what keeps it from being an assignment, so the two kinds of errors
exclude each other. -/
theorem ofText_eq_error_iff {text : String} {e : AssignmentError} :
    ofText text = .error e ↔ e.Spoils text := by
  constructor
  · intro h
    by_cases hmem : '=' ∈ text.toList
    · obtain ⟨front, value, hcut⟩ := exists_isCut hmem
      rw [ofText_of_isCut hcut] at h
      split at h
      · next hname =>
        obtain rfl := Except.error.inj h
        exact .noName hcut hname
      · cases h
    · rw [ofText_of_not_mem hmem] at h
      obtain rfl := Except.error.inj h
      exact .noEqualsSign hmem
  · intro h
    cases h with
    | noEqualsSign hmem => exact ofText_of_not_mem hmem
    | noName hcut hname => rw [ofText_of_isCut hcut, if_pos hname]

/-! ## All assignments -/

/-- The first of several texts is read before the others, and its error hides what is wrong with
them. -/
theorem ofTexts_cons (text : String) (texts : List String) :
    ofTexts (text :: texts) =
      match ofText text with
      | .error e => .error e
      | .ok a => (ofTexts texts).map (a :: ·) := by
  rw [ofTexts, List.mapM_cons]
  cases ofText text with
  | error e => rfl
  | ok a =>
    rw [ofTexts]
    cases texts.mapM ofText <;> rfl

/-- Several texts are read as assignments if each of them is one, in the same order and with none
left out. -/
theorem ofTexts_eq_ok_iff {texts : List String} {as : List Assignment} :
    ofTexts texts = .ok as ↔ List.Forall₂ Gives texts as := by
  induction texts generalizing as with
  | nil => cases as <;> simp [ofTexts, pure, Except.pure]
  | cons text texts ih =>
    rw [ofTexts_cons]
    cases htext : ofText text with
    | error e =>
      refine iff_of_false (by simp) fun h => ?_
      cases h with
      | cons ha _ =>
        rw [ofText_eq_ok_iff.2 ha] at htext
        cases htext
    | ok a =>
      have ha : Gives text a := ofText_eq_ok_iff.1 htext
      cases hrest : ofTexts texts with
      | error e =>
        refine iff_of_false (by simp [Except.map]) fun h => ?_
        cases h with
        | cons _ has =>
          rw [ih.2 has] at hrest
          cases hrest
      | ok bs =>
        have hbs : List.Forall₂ Gives texts bs := ih.1 hrest
        constructor
        · intro h
          obtain rfl := Except.ok.inj h
          exact .cons ha hbs
        · intro h
          cases h with
          | cons ha' has =>
            rw [ofText_eq_ok_iff.2 ha'] at htext
            rw [ih.2 has] at hrest
            obtain rfl := Except.ok.inj htext
            obtain rfl := Except.ok.inj hrest
            rfl

/-- The first text that is no assignment, behind others that are; what comes after it is never
looked at. -/
def FirstSpoiled (texts : List String) (e : AssignmentError) : Prop :=
  ∃ before text after, texts = before ++ text :: after ∧ (∀ t ∈ before, ∃ a, Gives t a) ∧
    e.Spoils text

/-- An assignment in front does not change which text is the first that is none. -/
theorem firstSpoiled_cons_of_gives {text : String} {a : Assignment} (ha : Gives text a)
    {texts : List String} {e : AssignmentError} :
    FirstSpoiled (text :: texts) e ↔ FirstSpoiled texts e := by
  constructor
  · rintro ⟨before, spoiled, after, heq, hbefore, he⟩
    cases before with
    | nil =>
      obtain ⟨rfl, -⟩ := List.cons.inj heq
      have h := ofText_eq_error_iff.2 he
      rw [ofText_eq_ok_iff.2 ha] at h
      cases h
    | cons t before =>
      obtain ⟨-, rfl⟩ := List.cons.inj heq
      exact ⟨before, spoiled, after, rfl, fun t ht => hbefore t (List.mem_cons_of_mem _ ht), he⟩
  · rintro ⟨before, spoiled, after, rfl, hbefore, he⟩
    refine ⟨text :: before, spoiled, after, rfl, fun t ht => ?_, he⟩
    rcases List.mem_cons.1 ht with rfl | ht
    · exact ⟨a, ha⟩
    · exact hbefore t ht

/-- A text in front that is no assignment is the first such text, whatever follows it. -/
theorem firstSpoiled_cons_of_spoils {text : String} {e : AssignmentError} (he : e.Spoils text)
    {texts : List String} {e' : AssignmentError} : FirstSpoiled (text :: texts) e' ↔ e' = e := by
  have htext := ofText_eq_error_iff.2 he
  constructor
  · rintro ⟨before, spoiled, after, heq, hbefore, he'⟩
    cases before with
    | nil =>
      obtain ⟨rfl, -⟩ := List.cons.inj heq
      rw [ofText_eq_error_iff.2 he'] at htext
      exact Except.error.inj htext
    | cons t before =>
      obtain ⟨rfl, -⟩ := List.cons.inj heq
      obtain ⟨a, ha⟩ := hbefore text List.mem_cons_self
      rw [ofText_eq_ok_iff.2 ha] at htext
      cases htext
  · rintro rfl
    exact ⟨[], text, texts, rfl, fun t ht => absurd ht List.not_mem_nil, he⟩

/-- There is a first text that is no assignment if there is any, so reading fails just when some
text is at fault. -/
theorem exists_firstSpoiled_iff {texts : List String} :
    (∃ e, FirstSpoiled texts e) ↔ ∃ text ∈ texts, ∃ e : AssignmentError, e.Spoils text := by
  constructor
  · rintro ⟨e, before, text, after, rfl, -, he⟩
    exact ⟨text, List.mem_append_right _ List.mem_cons_self, e, he⟩
  · rintro ⟨spoiled, hmem, e, he⟩
    induction texts with
    | nil => exact absurd hmem List.not_mem_nil
    | cons text texts ih =>
      cases htext : ofText text with
      | error e' => exact ⟨e', (firstSpoiled_cons_of_spoils (ofText_eq_error_iff.1 htext)).2 rfl⟩
      | ok a =>
        have hne : spoiled ≠ text := by
          rintro rfl
          rw [ofText_eq_error_iff.2 he] at htext
          cases htext
        obtain ⟨e', he'⟩ := ih ((List.mem_cons.1 hmem).resolve_left hne)
        exact ⟨e', (firstSpoiled_cons_of_gives (ofText_eq_ok_iff.1 htext)).2 he'⟩

/-- **The first text that is no assignment decides the error,** by induction on the texts, with
those before it read and given up. -/
theorem ofTexts_eq_error_iff {texts : List String} {e : AssignmentError} :
    ofTexts texts = .error e ↔ FirstSpoiled texts e := by
  induction texts with
  | nil =>
    refine iff_of_false (by simp [ofTexts, pure, Except.pure]) ?_
    rintro ⟨before, text, after, heq, -⟩
    simp at heq
  | cons text texts ih =>
    rw [ofTexts_cons]
    cases htext : ofText text with
    | error e' =>
      rw [firstSpoiled_cons_of_spoils (ofText_eq_error_iff.1 htext)]
      simp [eq_comm]
    | ok a =>
      rw [firstSpoiled_cons_of_gives (ofText_eq_ok_iff.1 htext), ← ih]
      cases ofTexts texts <;> simp [Except.map]

/-! ## Groups -/

/-- The names that occur, in the order of their first occurrence, each of them once. -/
def names (as : List Assignment) : List String := (as.map Assignment.name).eraseDups

/-- The values that are given to a name, in the order in which their assignments are written. -/
def valuesOf (as : List Assignment) (name : String) : List String :=
  (as.filter (·.name = name)).map Assignment.value

/-- The value of a name that is given some values: the only one, or the list of them. -/
def gathered : List String → FieldValue
  | [value] => .single value
  | values => .multiple values

/-- The texts in a value, one for a single text and all items for a list, so that both kinds can be
compared. -/
def texts : FieldValue → List String
  | .single text => [text]
  | .multiple items => items

/-- Gathering values loses none of them and keeps their order, whether there is one or several. -/
theorem texts_gathered (values : List String) : texts (gathered values) = values := by
  match values with
  | [] => rfl
  | [_] => rfl
  | _ :: _ :: _ => rfl

/-- Gathered values with one more value behind them are the gathering of all, the step that an
assignment to a known name makes. -/
theorem extend_gathered {values : List String} (h : values ≠ []) (more : String) :
    extend (gathered values) more = gathered (values ++ [more]) := by
  match values with
  | [] => exact absurd rfl h
  | [_] => rfl
  | _ :: _ :: _ => rfl

/-- An assignment behind others adds its name behind theirs, unless that name has occurred. -/
theorem names_append_singleton (as : List Assignment) (a : Assignment) :
    names (as ++ [a]) = if a.name ∈ names as then names as else names as ++ [a.name] := by
  rw [names, List.map_append, List.map_singleton, List.eraseDups_append, names]
  simp only [List.mem_eraseDups, List.removeAll, List.filter_singleton, List.elem_eq_mem]
  split
  · next h => simp [h]
  · next h => simp [h, List.eraseDups_cons]

/-- A name occurs if some assignment has it; that it is listed only once does not matter here. -/
theorem mem_names {as : List Assignment} {name : String} :
    name ∈ names as ↔ ∃ a ∈ as, a.name = name := by
  rw [names, List.mem_eraseDups, List.mem_map]

/-- The names are distinct, which makes the groups of their values a map and not merely a list. -/
theorem nodup_names (as : List Assignment) : (names as).Nodup := by
  induction as using List.reverseRecOn with
  | nil => exact List.nodup_nil
  | append_singleton as a ih =>
    rw [names_append_singleton]
    split
    · exact ih
    · next h =>
      refine List.nodup_append.2 ⟨ih, List.nodup_singleton _, fun n hn m hm => ?_⟩
      rw [List.mem_singleton.1 hm]
      exact ne_of_mem_of_not_mem hn h

/-- A name that occurs has a value at least, so no group is empty. -/
theorem valuesOf_ne_nil {as : List Assignment} {name : String} (h : name ∈ names as) :
    valuesOf as name ≠ [] := by
  obtain ⟨a, ha, hname⟩ := mem_names.1 h
  intro hnil
  have hmem : a.value ∈ valuesOf as name :=
    List.mem_map_of_mem (List.mem_filter.2 ⟨ha, decide_eq_true hname⟩)
  rw [hnil] at hmem
  exact List.not_mem_nil hmem

/-- A name that does not occur has no values, which is where a group begins when its name turns
up. -/
theorem valuesOf_eq_nil {as : List Assignment} {name : String} (h : name ∉ names as) :
    valuesOf as name = [] := by
  rw [valuesOf, List.map_eq_nil_iff, List.filter_eq_nil_iff]
  intro a ha hname
  exact h (mem_names.2 ⟨a, ha, of_decide_eq_true hname⟩)

/-- An assignment behind others adds its value to those of its name and leaves the values of all
other names. -/
theorem valuesOf_append_singleton (as : List Assignment) (a : Assignment) (name : String) :
    valuesOf (as ++ [a]) name =
      if a.name = name then valuesOf as name ++ [a.value] else valuesOf as name := by
  rw [valuesOf, List.filter_append, List.map_append, valuesOf]
  split
  · next h => simp [h]
  · next h => simp [h]

/-- **One more value for a name that has occurred** goes to the values of this name. -/
theorem add_of_mem (a : Assignment) {ns : List String} (hns : ns.Nodup) (h : a.name ∈ ns)
    (value : String → FieldValue) :
    add a (ns.map fun n => (n, value n)) =
      ns.map fun n => (n, if n = a.name then extend (value n) a.value else value n) := by
  induction ns with
  | nil => exact absurd h List.not_mem_nil
  | cons n ns ih =>
    obtain ⟨hn, hns⟩ := List.nodup_cons.1 hns
    rw [List.map_cons, List.map_cons, add]
    split
    · next hname =>
      have hrest : ns.map (fun m => (m, if m = a.name then extend (value m) a.value else value m)) =
          ns.map fun m => (m, value m) := by
        refine List.map_congr_left fun m hm => ?_
        have hne : m ≠ a.name := fun he => hn (hname ▸ he ▸ hm)
        rw [if_neg hne]
      rw [hrest]
    · next hname =>
      have hmem : a.name ∈ ns := (List.mem_cons.1 h).resolve_left fun he => hname he.symm
      rw [ih hns hmem]

/-- **A value for a new name** stands behind the others, as a single text until the name is given a
second one. -/
theorem add_of_not_mem (a : Assignment) {ns : List String} (h : a.name ∉ ns)
    (value : String → FieldValue) :
    add a (ns.map fun n => (n, value n)) =
      (ns.map fun n => (n, value n)) ++ [(a.name, .single a.value)] := by
  induction ns with
  | nil => rfl
  | cons n ns ih =>
    rw [List.mem_cons, not_or] at h
    rw [List.map_cons, add, if_neg (Ne.symm h.1), ih h.2, List.cons_append]

/-- **Names and their values are gathered** from any number of assignments, by induction from
behind, since each assignment is added to what was gathered before it. -/
theorem grouped_eq (as : List Assignment) :
    grouped as = (names as).map fun n => (n, gathered (valuesOf as n)) := by
  induction as using List.reverseRecOn with
  | nil => rfl
  | append_singleton as a ih =>
    have hstep : grouped (as ++ [a]) = add a (grouped as) := by simp [grouped]
    rw [hstep, ih, names_append_singleton]
    split
    · next h =>
      rw [add_of_mem a (nodup_names as) h]
      refine List.map_congr_left fun n hn => ?_
      rw [valuesOf_append_singleton]
      by_cases hname : n = a.name
      · rw [if_pos hname, if_pos hname.symm, extend_gathered (valuesOf_ne_nil hn)]
      · rw [if_neg hname, if_neg (Ne.symm hname)]
    · next h =>
      rw [add_of_not_mem a h, List.map_append, List.map_singleton, valuesOf_append_singleton,
        if_pos rfl, valuesOf_eq_nil h]
      have hrest : (names as).map (fun n => (n, gathered (valuesOf (as ++ [a]) n))) =
          (names as).map fun n => (n, gathered (valuesOf as n)) := by
        refine List.map_congr_left fun n hn => ?_
        have hne : a.name ≠ n := fun he => h (he ▸ hn)
        rw [valuesOf_append_singleton, if_neg hne]
      rw [hrest]
      rfl

/-- Assignments sorted by their names are the assignments in another order, if every name is listed,
and listed once. -/
theorem flatMap_filter_perm {as : List Assignment} {ns : List String} (hns : ns.Nodup)
    (h : ∀ a ∈ as, a.name ∈ ns) : (ns.flatMap fun n => as.filter (·.name = n)).Perm as := by
  induction ns generalizing as with
  | nil =>
    cases as with
    | nil => exact List.Perm.refl _
    | cons a as => exact absurd (h a List.mem_cons_self) List.not_mem_nil
  | cons n ns ih =>
    obtain ⟨hn, hns⟩ := List.nodup_cons.1 hns
    -- The assignments to the names that are left are those to a name that is not `n`.
    have hrest : ns.flatMap (fun m => as.filter (·.name = m)) =
        ns.flatMap fun m => (as.filter (·.name ≠ n)).filter (·.name = m) := by
      refine List.flatMap_congr fun m hm => ?_
      rw [List.filter_filter]
      refine List.filter_congr fun a _ => ?_
      by_cases ha : a.name = m
      · have hne : a.name ≠ n := fun he => hn (he ▸ ha ▸ hm)
        simp [ha, ha ▸ hne]
      · simp [ha]
    have hothers : ∀ a ∈ as.filter (·.name ≠ n), a.name ∈ ns := by
      intro a ha
      obtain ⟨hmem, hne⟩ := List.mem_filter.1 ha
      exact (List.mem_cons.1 (h a hmem)).resolve_left (of_decide_eq_true hne)
    rw [List.flatMap_cons, hrest]
    refine ((ih hns hothers).append_left _).trans ?_
    simpa using List.filter_append_perm (fun a : Assignment => decide (a.name = n)) as

/-- The values of names are grouped from assignments: which names there are, what each of them has,
and that no value is lost or added. -/
structure Groups (as : List Assignment) (groups : List (String × FieldValue)) : Prop where
  /-- Each name stands once, in the order of the first assignments. -/
  names : groups.map Prod.fst = names as
  /-- A name has its only value, or the list of its values. -/
  value : ∀ g ∈ groups, g.2 = gathered (valuesOf as g.1)
  /-- The values of all names are the values that are given. -/
  values : (groups.flatMap fun g => texts g.2).Perm (as.map Assignment.value)

/-- What `grouped` gathers is a grouping of the assignments, so there is one for any assignments. -/
theorem groups_grouped (as : List Assignment) : Groups as (grouped as) where
  names := by rw [grouped_eq, List.map_map]; exact List.map_id _
  value := by
    intro g hg
    rw [grouped_eq] at hg
    obtain ⟨n, -, rfl⟩ := List.mem_map.1 hg
    rfl
  values := by
    have hall : ∀ a ∈ as, a.name ∈ Assignment.names as := fun a ha => mem_names.2 ⟨a, ha, rfl⟩
    have hperm := (flatMap_filter_perm (nodup_names as) hall).map Assignment.value
    rw [List.map_flatMap] at hperm
    rw [grouped_eq, List.flatMap_map]
    simpa only [texts_gathered, valuesOf] using hperm

/-- Assignments have one grouping, which makes the three properties of a grouping a description of
what is gathered. -/
theorem groups_iff {as : List Assignment} {groups : List (String × FieldValue)} :
    Groups as groups ↔ groups = grouped as := by
  constructor
  · intro h
    have hpairs : groups = groups.map fun g => (g.1, gathered (valuesOf as g.1)) := by
      conv_lhs => rw [← List.map_id groups]
      refine List.map_congr_left fun g hg => ?_
      rw [← h.value g hg]
      rfl
    rw [hpairs, grouped_eq, ← h.names, List.map_map]
    rfl
  · rintro rfl
    exact groups_grouped as

end Assignment

/-! ## The values of a command -/

/-- Values with groups laid over others: a name with a group has that, and any other name what it
had before. -/
structure LaidOver (groups : List (String × FieldValue)) (base values : Values) : Prop where
  given : ∀ g ∈ groups, values.get? g.1 = some g.2
  kept : ∀ name, name ∉ groups.map Prod.fst → values.get? name = base.get? name

/-- Only one result can be groups laid over values, since values are equal when they answer alike
for every name. -/
theorem LaidOver.unique {groups : List (String × FieldValue)} {base values values' : Values}
    (h : LaidOver groups base values) (h' : LaidOver groups base values') : values = values' := by
  ext name : 1
  by_cases hname : name ∈ groups.map Prod.fst
  · obtain ⟨g, hg, rfl⟩ := List.mem_map.1 hname
    rw [h.given g hg, h'.given g hg]
  · rw [h.kept name hname, h'.kept name hname]

/-- Groups of distinct names are laid over values one by one; were a name repeated, its last group
would count. -/
theorem laidOver_foldl {groups : List (String × FieldValue)}
    (hnames : (groups.map Prod.fst).Nodup) (base : Values) :
    LaidOver groups base
      (groups.foldl (fun values g => NameMap.insert values g.1 g.2) base) := by
  induction groups generalizing base with
  | nil => exact ⟨fun g hg => absurd hg List.not_mem_nil, fun name _ => rfl⟩
  | cons g groups ih =>
    obtain ⟨hg, hnames⟩ := List.nodup_cons.1 hnames
    obtain ⟨hgiven, hkept⟩ := ih hnames (base.insert g.1 g.2)
    rw [List.foldl_cons]
    refine ⟨fun g' hg' => ?_, fun name hname => ?_⟩
    · rcases List.mem_cons.1 hg' with rfl | hg'
      · rw [hkept _ hg, NameMap.get?_insert, if_pos rfl]
      · exact hgiven g' hg'
    · rw [List.map_cons, List.mem_cons, not_or] at hname
      rw [hkept name hname.2, NameMap.get?_insert, if_neg (Ne.symm hname.1)]

/-- The values of a file, or none without a file; a file that cannot be read is an error, also if
every name is assigned. -/
def GivenValues.ofFile (given : GivenValues) (here : Spot) : Except (List String) Values :=
  match given.file with
  | some path => readValuesFile here path
  | none => .ok .empty

/-- Loading given values comes to the file first and the assignments then, and an error of the file
hides one of the assignments. -/
theorem load_eq (given : GivenValues) (here : Spot) :
    given.load here =
      match given.ofFile here, readAssignments given.assignments with
      | .error chain, _ => .error chain
      | .ok _, .error e => .error [e.message]
      | .ok base, .ok groups =>
        .ok (groups.foldl (fun values g => NameMap.insert values g.1 g.2) base) := by
  rw [GivenValues.load, GivenValues.ofFile]
  cases given.file with
  | none => cases readAssignments given.assignments <;> rfl
  | some path =>
    dsimp only
    cases readValuesFile here path with
    | error chain => rfl
    | ok base => cases readAssignments given.assignments <;> rfl

/-- The assignments of a command line are refused for the first of them that is none, and for
nothing else. -/
theorem readAssignments_eq_error_iff {texts : List String} {e : AssignmentError} :
    readAssignments texts = .error e ↔ Assignment.FirstSpoiled texts e := by
  rw [readAssignments, ← Assignment.ofTexts_eq_error_iff]
  cases Assignment.ofTexts texts <;> simp [Except.map]

/-- The assignments of a command line are read as groups if every one of them is an assignment and
the groups are theirs. -/
theorem readAssignments_eq_ok_iff {texts : List String} {groups : List (String × FieldValue)} :
    readAssignments texts = .ok groups ↔
      ∃ as, List.Forall₂ Assignment.Gives texts as ∧ Assignment.Groups as groups := by
  rw [readAssignments]
  cases htexts : Assignment.ofTexts texts with
  | error e =>
    refine iff_of_false (by simp [Except.map]) fun ⟨as, has, _⟩ => ?_
    rw [Assignment.ofTexts_eq_ok_iff.2 has] at htexts
    cases htexts
  | ok as =>
    constructor
    · intro h
      obtain rfl := Except.ok.inj h
      exact ⟨as, Assignment.ofTexts_eq_ok_iff.1 htexts, Assignment.groups_grouped as⟩
    · rintro ⟨as', has', hgroups⟩
      rw [Assignment.ofTexts_eq_ok_iff.2 has'] at htexts
      obtain rfl := Except.ok.inj htexts
      rw [Assignment.groups_iff.1 hgroups]
      rfl

/-- **Assignments are grouped without loss,** or the first text that is none decides the error.  The
values to work with are those of the file with the groups laid over them. -/
theorem readAssignments_groups (given : GivenValues) (here : Spot) :
    ((∃ e, readAssignments given.assignments = .error e) ↔
        ∃ text ∈ given.assignments, ∃ e : AssignmentError, e.Spoils text) ∧
      (∀ e, readAssignments given.assignments = .error e ↔
        Assignment.FirstSpoiled given.assignments e) ∧
      (∀ groups, readAssignments given.assignments = .ok groups ↔
        ∃ as, List.Forall₂ Assignment.Gives given.assignments as ∧ Assignment.Groups as groups) ∧
      ∀ values, given.load here = .ok values ↔
        ∃ base groups, given.ofFile here = .ok base ∧
          readAssignments given.assignments = .ok groups ∧ LaidOver groups base values := by
  refine ⟨?_, fun e => readAssignments_eq_error_iff, fun groups => readAssignments_eq_ok_iff,
    fun values => ?_⟩
  · rw [← Assignment.exists_firstSpoiled_iff]
    exact exists_congr fun e => readAssignments_eq_error_iff
  · rw [load_eq]
    constructor
    · intro h
      split at h
      · cases h
      · cases h
      · next base groups hbase hgroups =>
        obtain rfl := Except.ok.inj h
        obtain ⟨as, -, hnames⟩ := readAssignments_eq_ok_iff.1 hgroups
        refine ⟨base, groups, hbase, hgroups, laidOver_foldl ?_ base⟩
        rw [hnames.names]
        exact Assignment.nodup_names as
    · rintro ⟨base, groups, hbase, hgroups, hover⟩
      obtain ⟨as, -, hnames⟩ := readAssignments_eq_ok_iff.1 hgroups
      have hnodup : (groups.map Prod.fst).Nodup := hnames.names ▸ Assignment.nodup_names as
      rw [hbase, hgroups, hover.unique (laidOver_foldl hnodup base)]

end Command
end CommitForm
