/-
# Maps from names

A map from names to values of any kind.  Its entries stand in the order of the names, each name
once, so that two maps with the same bindings are equal.

| operation | afterwards `get? n` is |
| --- | --- |
| `empty` | `none` |
| `insert m v` | `some v` if `n = m`, else as before |
| `erase m` | `none` if `n = m`, else as before |
-/

namespace CommitForm

/-- The names of entries increase strictly, so that no name is bound twice. -/
def NamesIncrease {α : Type} (entries : List (String × α)) : Prop :=
  entries.Pairwise fun a b => a.1 < b.1

/-- A map from names to values, kept as its entries in the order of their names.  Two maps with the
same bindings are the same map. -/
structure NameMap (α : Type) where
  entries : List (String × α)
  increase : NamesIncrease entries
deriving DecidableEq

namespace NameMap

variable {α : Type}

/-- The map that binds no name. -/
def empty : NameMap α := ⟨[], List.Pairwise.nil⟩

instance : Inhabited (NameMap α) := ⟨empty⟩

/-- The value of a name in a list of entries: that of the first entry of this name. -/
def lookUp (name : String) : List (String × α) → Option α
  | [] => none
  | (n, v) :: rest => if n = name then some v else lookUp name rest

/-- The value of a name, if it is bound.  All statements about maps are put in terms of this. -/
def get? (m : NameMap α) (name : String) : Option α := lookUp name m.entries

/-- Whether a name is bound, to whatever value. -/
def contains (m : NameMap α) (name : String) : Bool := (m.get? name).isSome

/-- Puts an entry in its place, in the stead of one of the same name. -/
def place (name : String) (value : α) : List (String × α) → List (String × α)
  | [] => [(name, value)]
  | (n, v) :: rest =>
    if name < n then (name, value) :: (n, v) :: rest
    else if n = name then (name, value) :: rest
    else (n, v) :: place name value rest

/-- What is in a list after a binding has been put in its place is this binding or was there
before. -/
theorem name_of_mem_place {name : String} {value : α} {es : List (String × α)}
    {e : String × α} (h : e ∈ place name value es) : e.1 = name ∨ e ∈ es := by
  induction es with
  | nil => simp_all [place]
  | cons f es ih =>
    simp only [place] at h
    split at h
    · rcases List.mem_cons.1 h with rfl | h
      · exact .inl rfl
      · exact .inr h
    · split at h
      · rcases List.mem_cons.1 h with rfl | h
        · exact .inl rfl
        · exact .inr (List.mem_cons_of_mem _ h)
      · rcases List.mem_cons.1 h with rfl | h
        · exact .inr List.mem_cons_self
        · exact (ih h).imp_right (List.mem_cons_of_mem _)

/-- Putting a binding in its place keeps the names increasing; it takes the stead of an entry of the
same name. -/
theorem increase_place (name : String) (value : α) {es : List (String × α)}
    (h : NamesIncrease es) : NamesIncrease (place name value es) := by
  induction es with
  | nil => exact List.pairwise_singleton _ _
  | cons e es ih =>
    obtain ⟨n, v⟩ := e
    have hn := (List.pairwise_cons.1 h).1
    have hes := (List.pairwise_cons.1 h).2
    simp only [place]
    split
    · next hlt =>
      refine List.pairwise_cons.2 ⟨fun f hf => ?_, h⟩
      rcases List.mem_cons.1 hf with rfl | hf
      · exact hlt
      · exact String.lt_trans hlt (hn f hf)
    · next hlt =>
      split
      · next he => subst he; exact List.pairwise_cons.2 ⟨hn, hes⟩
      · next he =>
        refine List.pairwise_cons.2 ⟨fun f hf => ?_, ih hes⟩
        rcases name_of_mem_place hf with hf | hf
        · rw [hf]
          refine Classical.byContradiction fun hge => he ?_
          exact String.le_antisymm (String.not_lt.1 hlt) (String.not_lt.1 hge)
        · exact hn f hf

/-- Binds a name to a value, which replaces the value that it may have had. -/
def insert (m : NameMap α) (name : String) (value : α) : NameMap α :=
  ⟨place name value m.entries, increase_place name value m.increase⟩

/-- Unbinds a name; a name that is not bound leaves the map as it is. -/
def erase (m : NameMap α) (name : String) : NameMap α :=
  ⟨m.entries.filter (·.1 ≠ name), m.increase.filter _⟩

/-- The number of names bound. -/
def size (m : NameMap α) : Nat := m.entries.length

/-- Whether no name is bound. -/
def isEmpty (m : NameMap α) : Bool := m.entries.isEmpty

/-- The bindings in the order of the names, which is the order in which maps are shown. -/
def toList (m : NameMap α) : List (String × α) := m.entries

/-- The names that are bound, in increasing order and each once. -/
def names (m : NameMap α) : List String := m.entries.map Prod.fst

/-- Binds each name to its last value in a list, whatever the order of the names there. -/
def ofList (bindings : List (String × α)) : NameMap α :=
  bindings.foldl (fun m b => m.insert b.1 b.2) empty

/-- The empty map binds no name to anything. -/
@[simp] theorem get?_empty (name : String) : (empty : NameMap α).get? name = none := rfl

/-- Looking a name up where a binding has been put in its place: only the bound name sees a
difference. -/
theorem lookUp_place (name m : String) (value : α) (es : List (String × α)) :
    lookUp name (place m value es) = if m = name then some value else lookUp name es := by
  induction es with
  | nil => rfl
  | cons e es ih =>
    obtain ⟨n, v⟩ := e
    simp only [place]
    split
    · rfl
    · split
      · next he => subst he; simp only [lookUp]; split <;> rfl
      · next he =>
        simp only [lookUp, ih]
        split
        · next hn => subst hn; rw [if_neg fun h => he h.symm]
        · rfl

/-- **Binding a name** changes its value and no other.  With `ext_get?` this is all that need be
known about `insert`. -/
theorem get?_insert (map : NameMap α) (name m : String) (value : α) :
    (map.insert m value).get? name = if m = name then some value else map.get? name :=
  lookUp_place name m value map.entries

/-- Looking a name up where the entries of one name have been taken out: only that name has lost its
value. -/
theorem lookUp_filter (name m : String) (es : List (String × α)) :
    lookUp name (es.filter (·.1 ≠ m)) = if m = name then none else lookUp name es := by
  induction es with
  | nil => simp [lookUp]
  | cons e es ih =>
    obtain ⟨n, v⟩ := e
    by_cases hn : n = m
    · subst hn
      simp only [ne_eq, not_true_eq_false, decide_false, Bool.false_eq_true, not_false_eq_true,
        List.filter_cons_of_neg, lookUp]
      rw [ih]
      split <;> rfl
    · rw [List.filter_cons_of_pos (by simpa using hn)]
      simp only [lookUp, ih]
      split
      · next h => subst h; rw [if_neg fun h => hn h.symm]
      · rfl

/-- **Unbinding a name** takes away its value and no other. -/
theorem get?_erase (map : NameMap α) (name m : String) :
    (map.erase m).get? name = if m = name then none else map.get? name :=
  lookUp_filter name m map.entries

/-- Binding names one after the other: a name has its last value in the list, or else the one that
it had before. -/
theorem get?_foldl_insert (bindings : List (String × α)) (map : NameMap α) (name : String) :
    (bindings.foldl (fun m b => m.insert b.1 b.2) map).get? name =
      ((bindings.reverse.find? (·.1 = name)).map Prod.snd).or (map.get? name) := by
  induction bindings generalizing map with
  | nil => rfl
  | cons b bindings ih =>
    rw [List.foldl_cons, ih, get?_insert, List.reverse_cons, List.find?_append]
    cases bindings.reverse.find? (·.1 = name) with
    | some c => rfl
    | none => by_cases hb : b.1 = name <;> simp [hb]

/-- **Binding the names of a list** gives each its last value there, and nothing to names that do
not occur. -/
theorem get?_ofList (bindings : List (String × α)) (name : String) :
    (ofList bindings).get? name = (bindings.reverse.find? (·.1 = name)).map Prod.snd := by
  rw [ofList, get?_foldl_insert, get?_empty, Option.or_none]

/-- Names that are bound by a function have the values that it gives, however often a name occurs in
the list. -/
theorem get?_ofList_map (names : List String) (valueOf : String → α) (name : String) :
    (ofList (names.map fun n => (n, valueOf n))).get? name =
      if name ∈ names then some (valueOf name) else none := by
  have hcomp : ((fun b : String × α => decide (b.1 = name)) ∘ fun n => (n, valueOf n)) =
      fun n => decide (n = name) := rfl
  rw [get?_ofList, ← List.map_reverse, List.find?_map, hcomp]
  split
  · next hmem =>
    have hsome : (names.reverse.find? (· = name)).isSome = true :=
      List.find?_isSome.2 ⟨name, List.mem_reverse.2 hmem, by simp⟩
    obtain ⟨n, hn⟩ := Option.isSome_iff_exists.1 hsome
    obtain rfl : n = name := by simpa using List.find?_some hn
    rw [hn]
    rfl
  · next hmem =>
    have hnone : names.reverse.find? (· = name) = none := by
      refine List.find?_eq_none.2 fun n hn => ?_
      simpa using fun he : n = name => hmem (he ▸ List.mem_reverse.1 hn)
    rw [hnone]
    rfl

/-- Since the names increase, finding a value for a name is the same as having the entry. -/
theorem lookUp_eq_some_iff {es : List (String × α)} (h : NamesIncrease es) {name : String}
    {value : α} : lookUp name es = some value ↔ (name, value) ∈ es := by
  induction es with
  | nil => simp [lookUp]
  | cons e es ih =>
    obtain ⟨n, v⟩ := e
    obtain ⟨hn, hes⟩ := List.pairwise_cons.1 h
    simp only [lookUp, List.mem_cons, Prod.mk.injEq]
    split
    · next he =>
      subst he
      have hnot : (n, value) ∉ es := fun hmem => String.lt_irrefl n (hn _ hmem)
      simp [hnot, eq_comm]
    · next he => simp [ih hes, Ne.symm he]

/-- **Maps differ in the value of a name** or not at all: the order of the names leaves only one way
to write the same bindings. -/
@[ext]
theorem ext_get? {m m' : NameMap α} (h : ∀ name, m.get? name = m'.get? name) : m = m' := by
  obtain ⟨es, hes⟩ := m
  obtain ⟨es', hes'⟩ := m'
  have hnodup {es : List (String × α)} (hes : NamesIncrease es) : es.Nodup := by
    refine List.Pairwise.imp (fun {a b} hlt he => ?_) hes
    subst he
    exact String.lt_irrefl _ hlt
  have hperm : es.Perm es' := by
    refine (List.perm_ext_iff_of_nodup (hnodup hes) (hnodup hes')).2 fun e => ?_
    have hlookUp : lookUp e.1 es = lookUp e.1 es' := h e.1
    rw [← lookUp_eq_some_iff hes, ← lookUp_eq_some_iff hes', hlookUp]
  have heq : es = es' :=
    hperm.eq_of_pairwise (fun _ _ _ _ hab hba => absurd hba (String.lt_asymm hab)) hes hes'
  subst heq
  rfl

end NameMap

end CommitForm
