/-
# Where faults come from

| node | its own fault |
| --- | --- |
| a pattern literal that is evaluated | it has no value |
| `a =~ b`, where `b` is no pattern literal | there is nothing to search for |
| `a =~ /p/f`, where `/p/f` cannot be searched for | that of the flags or of the pattern |
| `a in b`, where `b` has a value that is no array | that value |

Every fault of an expression is the own fault of one of its nodes (`Expr.exists_faulty`), so an
expression without such nodes has a value whatever its names are bound to (`eval_of_wellShaped`).
-/

import CommitForm.Proofs.Rules

namespace CommitForm
namespace When

/-! ## Pattern literals that can be searched for -/

/-- No flag is repeated if the flags are distinct and none of them was seen before. -/
theorem repeatedFlag?_eq_none_iff {seen cs : List Char} :
    repeatedFlag? seen cs = none ↔ cs.Nodup ∧ ∀ c ∈ cs, c ∉ seen := by
  induction cs generalizing seen with
  | nil => simp [repeatedFlag?]
  | cons c cs ih =>
    rw [repeatedFlag?]
    split
    · next hseen =>
      have hmem : c ∈ seen := List.contains_iff_mem.1 hseen
      exact iff_of_false (by simp) fun h => h.2 c List.mem_cons_self hmem
    · next hseen =>
      have hmem : c ∉ seen := fun hmem => hseen (List.contains_iff_mem.2 hmem)
      rw [ih, List.nodup_cons]
      constructor
      · rintro ⟨hnodup, hall⟩
        refine ⟨⟨fun hc => hall c hc List.mem_cons_self, hnodup⟩, fun d hd => ?_⟩
        rcases List.mem_cons.1 hd with rfl | hd
        · exact hmem
        · exact fun h => hall d hd (List.mem_cons_of_mem _ h)
      · rintro ⟨⟨hc, hnodup⟩, hall⟩
        refine ⟨hnodup, fun d hd h => ?_⟩
        rcases List.mem_cons.1 h with rfl | h
        · exact hc hd
        · exact hall d (List.mem_cons_of_mem _ hd) h

/-- Whether an expression is a pattern literal that can be searched for: no flag is repeated, `u`
and `v` do not stand together, and the pattern can be read under the flags. -/
def Expr.IsSearchable : Expr → Prop
  | .pattern body flags =>
    flags.toList.Nodup ∧ ¬ ('u' ∈ flags.toList ∧ 'v' ∈ flags.toList) ∧
      (Pattern.compile? (settingOf flags.toList) (searched body flags.toList)).isSome = true
  | _ => False

/-- A pattern literal compiles just if it is searchable, by its flags and by its body. -/
theorem compilePattern_eq_ok_iff {body flags : String} :
    (∃ p, compilePattern body flags = .ok p) ↔ (Expr.pattern body flags).IsSearchable := by
  rw [compilePattern, Expr.IsSearchable]
  split
  · next c hc =>
    have hrepeated : ¬ flags.toList.Nodup := by
      intro hnodup
      rw [repeatedFlag?_eq_none_iff.2 ⟨hnodup, by simp⟩] at hc
      cases hc
    exact iff_of_false (by simp) fun h => hrepeated h.1
  · next hnone =>
    have hnodup := (repeatedFlag?_eq_none_iff.1 hnone).1
    split
    · next hboth =>
      simp only [List.contains_iff_mem] at hboth
      exact iff_of_false (by simp) fun h => h.2.1 hboth
    · next hboth =>
      simp only [List.contains_iff_mem] at hboth
      cases Pattern.compile? (settingOf flags.toList) (searched body flags.toList) with
      | none => simp
      | some p => simp [hnodup, hboth]

/-! ## Faults of nodes -/

/-- A node has a fault of its own, with its operands as they are evaluated: four kinds of nodes can
have one. -/
inductive Expr.Faulty (names : Values) : Expr → EvalFault → Prop where
  | stray (body flags : String) : Faulty names (.pattern body flags) (.strayPattern body flags)
  | noPattern {l r : Expr} (hr : ∀ body flags, r ≠ .pattern body flags) :
      Faulty names (.binary .isMatch l r) .notAPattern
  | badPattern {l : Expr} {body flags : String} {f : EvalFault}
      (h : compilePattern body flags = .error f) :
      Faulty names (.binary .isMatch l (.pattern body flags)) f
  | noArray {l r : Expr} {v : Value} (hr : r.value names = .ok v) (hv : ∀ items, v ≠ .array items) :
      Faulty names (.binary .isIn l r) (.notAnArray v)

/-- A node of an expression that is evaluated has a fault of its own. -/
def Expr.HasFault (names : Values) (e : Expr) (f : EvalFault) : Prop :=
  ∃ (c : Context) (x : Expr), c.seeksPattern = false ∧ c.plug x = e ∧ x.Faulty names f

namespace Expr

variable {names : Values} {f : EvalFault}

/-- A node with a fault of its own has a fault, at the place that the node itself takes. -/
theorem Faulty.hasFault {e : Expr} (h : e.Faulty names f) : e.HasFault names f :=
  ⟨.hole, e, rfl, rfl, h⟩

/-- A fault of the left operand is a fault of the operator, at a place further down on the left. -/
theorem HasFault.left {l : Expr} (h : l.HasFault names f) (op : Operator) (r : Expr) :
    (binary op l r).HasFault names f := by
  obtain ⟨c, x, hc, rfl, hx⟩ := h
  exact ⟨.left op c r, x, hc, rfl, hx⟩

/-- A fault of the right operand is a fault of the operator, except of `=~`, which does not evaluate
it. -/
theorem HasFault.right {r : Expr} (h : r.HasFault names f) {op : Operator} (hop : op ≠ .isMatch)
    (l : Expr) : (binary op l r).HasFault names f := by
  obtain ⟨c, x, hc, rfl, hx⟩ := h
  refine ⟨.right op l c, x, ?_, rfl, hx⟩
  cases op with
  | isMatch => exact absurd rfl hop
  | _ => exact hc

/-- A fault below a negation is a fault of the negation, at a place further down. -/
theorem HasFault.not {e : Expr} (h : e.HasFault names f) : (not e).HasFault names f := by
  obtain ⟨c, x, hc, rfl, hx⟩ := h
  exact ⟨.not c, x, hc, rfl, hx⟩

/-- A fault of an element is a fault of the array, wherever the element stands in it. -/
theorem HasFault.array {e : Expr} (h : e.HasFault names f) (before after : List Expr) :
    (array (before ++ e :: after)).HasFault names f := by
  obtain ⟨c, x, hc, rfl, hx⟩ := h
  exact ⟨.array before c after, x, hc, rfl, hx⟩

/-- Of the operators that evaluate both operands only `in` can fail, on what is no array. -/
theorem combine_eq_error {op : Operator} {v w : Value} (h : combine op v w = .error f) :
    op = .isIn ∧ f = .notAnArray w ∧ ∀ items, w ≠ .array items := by
  cases op with
  | isIn =>
    cases w with
    | array items => cases h
    | _ =>
      obtain rfl := Except.error.inj h
      exact ⟨rfl, rfl, by simp⟩
  | _ => cases h

section

variable {op : Operator} {l r : Expr}

/-- A fault of `=~` is one of its left operand or its own: no pattern on the right, or one that does
not compile. -/
theorem hasFault_isMatch (hl : ∀ {f}, l.value names = .error f → l.HasFault names f)
    (h : (binary .isMatch l r).value names = .error f) :
    (binary .isMatch l r).HasFault names f := by
  rcases r.eq_pattern_or_ne with ⟨body, flags, rfl⟩ | hr
  · rw [value_isMatch_pattern] at h
    rcases bind_eq_error h with he | ⟨v, -, he⟩
    · exact (hl he).left _ _
    · cases hc : compilePattern body flags with
      | ok p =>
        rw [hc] at he
        cases he
      | error g =>
        rw [hc] at he
        obtain rfl := Except.error.inj he
        exact (Faulty.badPattern hc).hasFault
  · rw [value_isMatch_of_ne_pattern hr] at h
    obtain rfl := Except.error.inj h
    exact (Faulty.noPattern hr).hasFault

/-- Operators that evaluate both operands have no fault of their own, but for `in`. -/
theorem hasFault_combine (hboth : op ≠ .both) (heither : op ≠ .either) (hmatch : op ≠ .isMatch)
    (hl : ∀ {f}, l.value names = .error f → l.HasFault names f)
    (hr : ∀ {f}, r.value names = .error f → r.HasFault names f)
    (h : (binary op l r).value names = .error f) : (binary op l r).HasFault names f := by
  rw [value_binary hboth heither hmatch] at h
  rcases bind_eq_error h with he | ⟨v, -, h⟩
  · exact (hl he).left _ r
  · rcases bind_eq_error h with he | ⟨w, hw, h⟩
    · exact (hr he).right hmatch l
    · obtain ⟨rfl, rfl, harray⟩ := combine_eq_error h
      exact (Faulty.noArray hw harray).hasFault

/-- A fault of an operator is one of its operands or its own, by the operators that evaluate in
different orders. -/
theorem hasFault_binary (hl : ∀ {f}, l.value names = .error f → l.HasFault names f)
    (hr : ∀ {f}, r.value names = .error f → r.HasFault names f)
    (h : (binary op l r).value names = .error f) : (binary op l r).HasFault names f := by
  cases op with
  | both =>
    rw [value_both] at h
    rcases bind_eq_error h with he | ⟨v, -, he⟩
    · exact (hl he).left _ r
    · split at he
      · rcases bind_eq_error he with he | ⟨w, -, he⟩
        · exact (hr he).right (by decide) l
        · cases he
      · cases he
  | either =>
    rw [value_either] at h
    rcases bind_eq_error h with he | ⟨v, -, he⟩
    · exact (hl he).left _ r
    · split at he
      · cases he
      · rcases bind_eq_error he with he | ⟨w, -, he⟩
        · exact (hr he).right (by decide) l
        · cases he
  | isMatch => exact hasFault_isMatch hl h
  | _ => exact hasFault_combine (by decide) (by decide) (by decide) hl hr h

end

mutual

/-- **Every fault is the own fault of a node,** by induction on the expression, so a fault can be
traced to a place. -/
theorem exists_faulty {e : Expr} {f : EvalFault} (h : e.value names = .error f) :
    e.HasFault names f := by
  cases e with
  | binary op l r => exact hasFault_binary exists_faulty exists_faulty h
  | not e =>
    rw [value_not] at h
    rcases bind_eq_error h with he | ⟨v, -, hv⟩
    · exact (exists_faulty he).not
    · cases hv
  | array es =>
    cases hes : valuesOf names es with
    | ok vs =>
      rw [value, hes] at h
      cases h
    | error g =>
      rw [value, hes] at h
      obtain rfl := Except.error.inj h
      obtain ⟨before, e, after, rfl, he⟩ := exists_faulty_of_items hes
      exact he.array before after
  | pattern body flags =>
    obtain rfl := Except.error.inj h
    exact (Faulty.stray body flags).hasFault
  | _ => cases h

/-- A fault of elements is the fault of one of them, which stands somewhere among the others. -/
theorem exists_faulty_of_items {es : List Expr} {f : EvalFault} (h : valuesOf names es = .error f) :
    ∃ before e after, before ++ e :: after = es ∧ e.HasFault names f := by
  cases es with
  | nil => cases h
  | cons e es =>
    cases he : e.value names with
    | error g =>
      rw [valuesOf, he] at h
      obtain rfl := Except.error.inj h
      exact ⟨[], e, es, rfl, exists_faulty he⟩
    | ok v =>
      cases hes : valuesOf names es with
      | ok vs =>
        rw [valuesOf, he, hes] at h
        cases h
      | error g =>
        rw [valuesOf, he, hes] at h
        obtain rfl := Except.error.inj h
        obtain ⟨before, x, after, rfl, hx⟩ := exists_faulty_of_items hes
        exact ⟨e :: before, x, after, rfl, hx⟩

end

end Expr

/-! ## Shapes without faults -/

namespace Expr

/-- Every pattern literal is the right operand of `=~`, every right operand of `=~` is one that can
be searched for, and every right operand of `in` is an array literal. -/
structure WellShaped (e : Expr) : Prop where
  patterns : ∀ c body flags, Context.plug (.pattern body flags) c = e → c.seeksPattern = true
  searches : ∀ c l r, Context.plug (.binary .isMatch l r) c = e → r.IsSearchable
  memberships : ∀ c l r, Context.plug (.binary .isIn l r) c = e → ∃ es, r = .array es

end Expr

/-- A node in a place where it cannot be in a well-shaped expression: a stray pattern literal, or an
operator with the wrong right operand. -/
inductive Context.Misshapen (c : Context) : Expr → Prop where
  | stray (body flags : String) (hc : c.seeksPattern = false) : Misshapen c (.pattern body flags)
  | isMatch {l r : Expr} (hr : ¬ r.IsSearchable) : Misshapen c (.binary .isMatch l r)
  | isIn {l r : Expr} (hr : ∀ es, r ≠ .array es) : Misshapen c (.binary .isIn l r)

namespace Expr

variable {names : Values} {f : EvalFault}

/-- A pattern literal that does not compile is not searchable, so it makes the operator before it
misshapen. -/
theorem not_isSearchable_of_error {body flags : String} (h : compilePattern body flags = .error f) :
    ¬ (pattern body flags).IsSearchable := by
  intro hs
  obtain ⟨p, hp⟩ := compilePattern_eq_ok_iff.2 hs
  rw [h] at hp
  cases hp

/-- The value of an array is an array, so membership in it is never a fault. -/
theorem exists_items_of_value {es : List Expr} {v : Value} (h : (array es).value names = .ok v) :
    ∃ items, v = .array items := by
  rw [value] at h
  cases hes : valuesOf names es with
  | error g =>
    rw [hes] at h
    cases h
  | ok vs =>
    rw [hes] at h
    exact ⟨vs, (Except.ok.inj h).symm⟩

/-- Only a node in a wrong place or of a wrong shape has a fault of its own. -/
theorem Faulty.misshapen {x : Expr} (h : x.Faulty names f) {c : Context}
    (hc : c.seeksPattern = false) : c.Misshapen x := by
  cases h with
  | stray body flags => exact .stray body flags hc
  | @noPattern l r hr =>
    refine .isMatch fun hs => ?_
    cases r with
    | pattern body flags => exact hr body flags rfl
    | _ => exact hs
  | badPattern h => exact .isMatch (not_isSearchable_of_error h)
  | noArray hr hv =>
    refine .isIn fun es he => ?_
    obtain ⟨items, hitems⟩ := exists_items_of_value (he ▸ hr)
    exact hv items hitems

/-- A well-shaped expression is one without misshapen nodes, wherever in it they might stand. -/
theorem wellShaped_iff {e : Expr} :
    e.WellShaped ↔ ∀ (c : Context) (x : Expr), c.plug x = e → ¬ c.Misshapen x := by
  constructor
  · intro h c x hx hm
    cases hm with
    | stray body flags hc =>
      rw [h.patterns c body flags hx] at hc
      cases hc
    | isMatch hr => exact hr (h.searches c _ _ hx)
    | isIn hr =>
      obtain ⟨es, he⟩ := h.memberships c _ _ hx
      exact hr es he
  · intro h
    refine ⟨fun c body flags hx => ?_, fun c l r hx => ?_, fun c l r hx => ?_⟩
    · rw [← Bool.not_eq_false]
      exact fun hc => h c _ hx (.stray body flags hc)
    · exact Classical.byContradiction fun hr => h c _ hx (.isMatch hr)
    · exact Classical.byContradiction fun hr => h c _ hx (.isIn fun es he => hr ⟨es, he⟩)

/-- An expression with a value holds if that value counts as true, and not otherwise. -/
theorem holds_of_value {e : Expr} {v : Value} (h : e.value names = .ok v) :
    e.holds names = .ok v.truthy := by
  rw [holds, h]
  rfl

/-- A fault of the verdict is a fault of the value, since the verdict adds none of its own. -/
theorem value_of_holds_error {e : Expr} (h : e.holds names = .error f) :
    e.value names = .error f := by
  rw [holds] at h
  cases hv : e.value names with
  | ok v =>
    rw [hv] at h
    cases h
  | error g =>
    rw [hv] at h
    exact congrArg Except.error (Except.error.inj h)

/-- A fault shows that a node of the expression is misshapen, so a well-shaped expression has
none. -/
theorem exists_misshapen {e : Expr} (h : e.value names = .error f) :
    ∃ (c : Context) (x : Expr), c.plug x = e ∧ c.Misshapen x := by
  obtain ⟨c, x, hc, hx, hf⟩ := exists_faulty h
  exact ⟨c, x, hx, hf.misshapen hc⟩

end Expr

/-! ## Deciding the shape of an expression -/

namespace Expr

instance (e : Expr) : Decidable e.IsSearchable :=
  match e with
  | .pattern body flags =>
    inferInstanceAs (Decidable (flags.toList.Nodup ∧ ¬ ('u' ∈ flags.toList ∧ 'v' ∈ flags.toList) ∧
      (Pattern.compile? (settingOf flags.toList) (searched body flags.toList)).isSome = true))
  | .binary .. | .not _ | .string _ | .number _ | .identifier _ | .array _ => .isFalse id

mutual

/-- The nodes of an expression with the places they stand in, the whole expression with the hole
alone as the first. -/
def places : Expr → List (Context × Expr)
  | binary op l r =>
    (.hole, binary op l r) :: l.places.map (fun (c, x) => (.left op c r, x)) ++
      r.places.map fun (c, x) => (.right op l c, x)
  | not e => (.hole, not e) :: e.places.map fun (c, x) => (.not c, x)
  | array es => (.hole, array es) :: itemPlaces [] es
  | e => [(.hole, e)]

/-- The nodes of elements with the places they stand in, each element with those before it and those
behind it. -/
def itemPlaces (before : List Expr) : List Expr → List (Context × Expr)
  | [] => []
  | e :: es =>
    e.places.map (fun (c, x) => (.array before c es, x)) ++ itemPlaces (before ++ [e]) es

end

/-- The whole expression is listed, in the place that the hole alone is. -/
theorem hole_mem_places (e : Expr) : (.hole, e) ∈ e.places := by
  cases e <;> simp [places]

/-- A node of an element is listed among those of all elements, in the place that the element's
place is in the array. -/
theorem array_mem_itemPlaces {e : Expr} {c : Context} {x : Expr} (h : (c, x) ∈ e.places)
    (pre before after : List Expr) :
    (.array (pre ++ before) c after, x) ∈ itemPlaces pre (before ++ e :: after) := by
  induction before generalizing pre with
  | nil =>
    rw [List.append_nil, List.nil_append, itemPlaces]
    exact List.mem_append_left _ (List.mem_map_of_mem h)
  | cons b before ih =>
    have hpre : pre ++ b :: before = pre ++ [b] ++ before := List.append_cons pre b before
    rw [List.cons_append, itemPlaces, hpre]
    exact List.mem_append_right _ (ih (pre ++ [b]))

/-- Every node is listed with its place, by induction on the place. -/
theorem mem_places (c : Context) (x : Expr) : (c, x) ∈ (c.plug x).places := by
  induction c with
  | hole => exact hole_mem_places x
  | left op c r ih =>
    rw [Context.plug, places]
    exact List.mem_append_left _ (List.mem_cons_of_mem _ (List.mem_map_of_mem ih))
  | right op l c ih =>
    rw [Context.plug, places]
    exact List.mem_append_right _ (List.mem_map_of_mem ih)
  | not c ih =>
    rw [Context.plug, places]
    exact List.mem_cons_of_mem _ (List.mem_map_of_mem ih)
  | array before c after ih =>
    rw [Context.plug, places]
    exact List.mem_cons_of_mem _ (array_mem_itemPlaces ih [] before after)

mutual

/-- Every listed node stands in its place, by induction on the expression. -/
theorem plug_of_mem_places {e x : Expr} {c : Context} (h : (c, x) ∈ e.places) : c.plug x = e := by
  cases e with
  | binary op l r =>
    rw [places, List.mem_append, List.mem_cons] at h
    rcases h with (h | h) | h
    · cases h
      rfl
    · obtain ⟨⟨d, y⟩, hd, he⟩ := List.mem_map.1 h
      cases he
      rw [Context.plug, plug_of_mem_places hd]
    · obtain ⟨⟨d, y⟩, hd, he⟩ := List.mem_map.1 h
      cases he
      rw [Context.plug, plug_of_mem_places hd]
  | not e =>
    rw [places, List.mem_cons] at h
    rcases h with h | h
    · cases h
      rfl
    · obtain ⟨⟨d, y⟩, hd, he⟩ := List.mem_map.1 h
      cases he
      rw [Context.plug, plug_of_mem_places hd]
  | array es =>
    rw [places, List.mem_cons] at h
    rcases h with h | h
    · cases h
      rfl
    · exact plug_of_mem_itemPlaces h
  | _ =>
    simp only [places, List.mem_singleton, Prod.mk.injEq] at h
    rw [h.1, h.2]
    rfl

/-- Every node that is listed for elements stands in its place in the array of all elements. -/
theorem plug_of_mem_itemPlaces {before es : List Expr} {x : Expr} {c : Context}
    (h : (c, x) ∈ itemPlaces before es) : c.plug x = array (before ++ es) := by
  cases es with
  | nil => exact absurd h List.not_mem_nil
  | cons e es =>
    rw [itemPlaces, List.mem_append] at h
    rcases h with h | h
    · obtain ⟨⟨d, y⟩, hd, he⟩ := List.mem_map.1 h
      cases he
      rw [Context.plug, plug_of_mem_places hd]
    · rw [plug_of_mem_itemPlaces h, List.append_assoc, List.singleton_append]

end

/-- The list of places is complete and holds nothing else, so what asks for all nodes can be
decided. -/
theorem mem_places_iff {e x : Expr} {c : Context} : (c, x) ∈ e.places ↔ c.plug x = e :=
  ⟨plug_of_mem_places, fun h => h ▸ mem_places c x⟩

end Expr

namespace Context

/-- A pattern literal is misshapen just where no pattern is asked for. -/
theorem misshapen_pattern_iff {c : Context} {body flags : String} :
    c.Misshapen (.pattern body flags) ↔ c.seeksPattern = false :=
  ⟨fun h => by cases h; assumption, .stray body flags⟩

/-- The operator `=~` is misshapen just if its right operand cannot be searched for. -/
theorem misshapen_isMatch_iff {c : Context} {l r : Expr} :
    c.Misshapen (.binary .isMatch l r) ↔ ¬ r.IsSearchable :=
  ⟨fun h => by cases h; assumption, .isMatch⟩

/-- The operator `in` is misshapen just if its right operand is no array literal, whatever that
operand's value would be. -/
theorem misshapen_isIn_iff {c : Context} {l r : Expr} :
    c.Misshapen (.binary .isIn l r) ↔ ∀ es, r ≠ .array es :=
  ⟨fun h => by cases h; assumption, .isIn⟩

end Context

instance (e : Expr) : Decidable (∀ es, e ≠ .array es) :=
  match e with
  | .array es => .isFalse fun h => h es rfl
  | .binary .. | .not _ | .string _ | .number _ | .identifier _ | .pattern .. =>
    .isTrue fun _ h => by cases h

instance (c : Context) (x : Expr) : Decidable (c.Misshapen x) :=
  match x with
  | .pattern .. => decidable_of_iff _ Context.misshapen_pattern_iff.symm
  | .binary .isMatch .. => decidable_of_iff _ Context.misshapen_isMatch_iff.symm
  | .binary .isIn .. => decidable_of_iff _ Context.misshapen_isIn_iff.symm
  | .binary .eq .. | .binary .ne .. | .binary .lt .. | .binary .le .. | .binary .gt ..
  | .binary .ge .. | .binary .both .. | .binary .either .. | .not _ | .string _ | .number _
  | .identifier _ | .array _ => .isFalse fun h => by cases h

/-- Whether an expression is well-shaped can be read off its nodes. -/
instance (e : Expr) : Decidable e.WellShaped :=
  decidable_of_iff (∀ p ∈ e.places, ¬ p.1.Misshapen p.2) <| by
    rw [Expr.wellShaped_iff]
    exact ⟨fun h c x hx => h (c, x) (Expr.mem_places_iff.2 hx),
      fun h p hp => h p.1 p.2 (Expr.mem_places_iff.1 hp)⟩

/-! ## Values of well-shaped expressions -/

/-- **Well-shaped expressions have a value and a verdict,** whatever is bound; they have them by the
rules, so nothing is compared by an operator that does not compare.  An expression that fails
anywhere contains a misshapen node. -/
theorem eval_of_wellShaped (e : Expr) :
    (e.WellShaped → ∀ names, ∃ v,
      e.value names = .ok v ∧ e.holds names = .ok v.truthy ∧ e.Evaluates names v) ∧
    ∀ names f, e.value names = .error f ∨ e.holds names = .error f →
      ∃ (c : Context) (x : Expr), c.plug x = e ∧ c.Misshapen x := by
  constructor
  · intro hshape names
    cases hv : e.value names with
    | ok v => exact ⟨v, rfl, Expr.holds_of_value hv, Expr.evaluates_iff.2 hv⟩
    | error f =>
      obtain ⟨c, x, hx, hm⟩ := Expr.exists_misshapen hv
      exact absurd hm (Expr.wellShaped_iff.1 hshape c x hx)
  · rintro names f (h | h)
    · exact Expr.exists_misshapen h
    · exact Expr.exists_misshapen (Expr.value_of_holds_error h)

/-- The clause `a =~ /^b/gm && a in ['b']`, which has both operators that ask for a kind of right
operand. -/
def searchAndMember : Expr :=
  .binary .both (.binary .isMatch (.identifier "a") (.pattern "^b" "gm"))
    (.binary .isIn (.identifier "a") (.array [.string "b"]))

/-- A well-shaped clause has a value for a given name, and the value is what the rules of evaluation
derive. -/
theorem eval_searchAndMember :
    searchAndMember.WellShaped ∧
      ∃ v, searchAndMember.value (NameMap.ofList [("a", .single "b")]) = .ok v ∧
        searchAndMember.holds (NameMap.ofList [("a", .single "b")]) = .ok v.truthy ∧
        searchAndMember.Evaluates (NameMap.ofList [("a", .single "b")]) v :=
  have hshape : searchAndMember.WellShaped := by decide +kernel
  ⟨hshape, (eval_of_wellShaped searchAndMember).1 hshape _⟩

end When
end CommitForm
