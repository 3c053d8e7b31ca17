/-
# Values taken from input

The value of a name is what the last field of this name takes from what is reported under it.
Nothing else counts, neither other names nor other fields (`Values.ofInput_eq_iff`).

| last field of the name | is given | value | conditions read | fields of the name have |
| --- | --- | --- | --- | --- |
| takes a list | a list | this list | the array of the items | the items with separators |
| takes a list | a text or nothing | a text | this text | this text |
| takes no list | anything | a text | this text | this text |

Values are input again, a text as a text and a list as a list.  Each field takes its own value as it
is, with one exception: a text field that is given the list of the one item `undefined` has this
text for its value, and drops it the next time (`Field.accept_accept_iff`).
-/

import Mathlib.Logic.Basic
import CommitForm.Form.Input
import CommitForm.Proofs.Relevance

namespace CommitForm

/-! ## One field -/

namespace Field

/-- Several options may be chosen of a field: it offers options, and more than one may be taken. -/
def TakesList (f : Field) : Prop := (f.kind = .enum ∨ f.kind = .dynamicEnum) ∧ f.multiple = true

/-- A field that takes lists is no text field, so it does not treat `undefined` in its own way. -/
theorem TakesList.kind_ne_text {f : Field} (h : f.TakesList) : f.kind ≠ .text := by
  intro hkind
  rcases h.1 with h | h <;> cases hkind.symm.trans h

/-- A field that takes lists keeps a list as it is, also one of a single item or none. -/
theorem accept_list {f : Field} (h : f.TakesList) (items : List String) :
    f.accept (some (.multiple items)) = .multiple items := by
  obtain ⟨hkind | hkind, hmultiple⟩ := h <;> simp [accept, hkind, hmultiple]

/-- Nothing but a list for a field that takes it makes a list; all other input becomes a text. -/
theorem exists_accept_eq_single {f : Field} {input : Option FieldValue}
    (h : ∀ items, f.TakesList → input ≠ some (.multiple items)) :
    ∃ text, f.accept input = .single text := by
  match input with
  | none => exact ⟨"", by simp [accept, FieldValue.blank]⟩
  | some (.single text) =>
    rw [accept_single]
    split
    · exact ⟨"", rfl⟩
    · exact ⟨text, rfl⟩
  | some (.multiple items) =>
    have hnot : ¬f.TakesList := fun hlist => h items hlist rfl
    rw [TakesList] at hnot
    cases hkind : f.kind with
    | text => exact ⟨String.intercalate "\n" items, by simp [accept, hkind]⟩
    | boolean => exact ⟨items.head?.getD "", by simp [accept, hkind]⟩
    | enum => exact ⟨items.head?.getD "", by simp_all [accept]⟩
    | dynamicEnum => exact ⟨items.head?.getD "", by simp_all [accept]⟩

/-- **A value is a list** only if the field takes one and is given this one. -/
theorem accept_eq_multiple_iff {f : Field} {input : Option FieldValue} {items : List String} :
    f.accept input = .multiple items ↔ f.TakesList ∧ input = some (.multiple items) := by
  constructor
  · intro h
    by_cases hlist : ∃ items', f.TakesList ∧ input = some (.multiple items')
    · obtain ⟨items', htakes, rfl⟩ := hlist
      rw [accept_list htakes] at h
      exact ⟨htakes, congrArg some h⟩
    · obtain ⟨text, htext⟩ := exists_accept_eq_single fun items' htakes hinput =>
        hlist ⟨items', htakes, hinput⟩
      rw [htext] at h
      cases h
  · rintro ⟨htakes, rfl⟩
    exact accept_list htakes items

/-- Items joined by line feeds make up a line only if they are this line. -/
theorem intercalate_eq_iff {line : String} (hne : line ≠ "") (hfeed : '\n' ∉ line.toList)
    (items : List String) : String.intercalate "\n" items = line ↔ items = [line] := by
  match items with
  | [] => simp [String.intercalate_nil, Ne.symm hne]
  | [item] => simp [String.intercalate_singleton]
  | item :: next :: items =>
    refine iff_of_false ?_ (by simp)
    rintro rfl
    refine hfeed ?_
    rw [String.intercalate_cons_cons, String.toList_append, String.toList_append]
    exact List.mem_append_left _ (List.mem_append_right _ (List.mem_singleton_self _))

/-- **A text field keeps `undefined`** of the list of this one item only; as a text of its own it is
dropped. -/
theorem accept_eq_undefined_iff {f : Field} (hkind : f.kind = .text)
    {input : Option FieldValue} :
    f.accept input = .single "undefined" ↔ input = some (.multiple ["undefined"]) := by
  match input with
  | none => simp [accept, FieldValue.blank]
  | some (.single text) =>
    rw [accept_single]
    split
    · simp [FieldValue.blank]
    · next h =>
      have htext : text ≠ "undefined" := fun htext => h ⟨hkind, htext⟩
      simp [htext]
  | some (.multiple items) =>
    have hjoin : String.intercalate "\n" items = "undefined" ↔ items = ["undefined"] :=
      intercalate_eq_iff (by decide) (by decide) items
    simpa [accept, hkind] using hjoin

/-- **A field takes its own value as it is,** unless it keeps `undefined`, which the second time is
a text and is dropped. -/
theorem accept_accept_iff {f : Field} {input : Option FieldValue} :
    f.accept (some (f.accept input)) = f.accept input ↔
      ¬(f.kind = .text ∧ input = some (.multiple ["undefined"])) := by
  -- The value is a list, which the field takes as well as the one it was given, or it is a text.
  cases hvalue : f.accept input with
  | multiple items =>
    have htakes := (accept_eq_multiple_iff.1 hvalue).1
    exact iff_of_true (accept_list htakes items) fun h => htakes.kind_ne_text h.1
  | single text =>
    have hkeeps : f.kind = .text ∧ text = "undefined" ↔
        f.kind = .text ∧ input = some (.multiple ["undefined"]) := by
      refine and_congr_right fun hkind => ?_
      rw [← accept_eq_undefined_iff hkind, hvalue, FieldValue.single.injEq]
    rw [accept_single, ← hkeeps]
    split
    · next h => simp [h, FieldValue.blank]
    · next h => simp [h]

end Field

/-! ## All fields -/

namespace Values

/-- The value of a name is what the last field of that name takes, whatever earlier fields of the
name would have taken. -/
theorem get?_ofInput (fields : List Field) (raw : Values) (name : String) :
    (ofInput fields raw).get? name =
      (fields.reverse.find? (·.name = name)).map fun f => f.accept (raw.get? f.name) := by
  rw [ofInput, NameMap.get?_ofList, ← List.map_reverse, List.find?_map, Option.map_map]
  rfl

/-- A value is what the last field of its name takes from the input. -/
theorem get?_ofInput_of_isLast {fields : List Field} {f : Field} (h : f.IsLast fields)
    (raw : Values) : (ofInput fields raw).get? f.name = some (f.accept (raw.get? f.name)) := by
  rw [get?_ofInput, Field.find?_reverse_eq_some_iff.2 ⟨rfl, h⟩]
  rfl

/-- **Values are told by what the last fields take,** so two inputs give the same values just if
these fields take the same. -/
theorem ofInput_eq_iff {fields : List Field} {raw raw' : Values} :
    ofInput fields raw = ofInput fields raw' ↔
      ∀ f : Field, f.IsLast fields → f.accept (raw.get? f.name) = f.accept (raw'.get? f.name) := by
  constructor
  · intro h f hlast
    have hvalue := get?_ofInput_of_isLast hlast raw
    rw [h, get?_ofInput_of_isLast hlast raw'] at hvalue
    exact (Option.some.inj hvalue).symm
  · intro h
    ext name : 1
    rw [get?_ofInput, get?_ofInput]
    refine Option.map_congr fun f hf => ?_
    exact h f (Field.find?_reverse_eq_some_iff.1 hf).2

/-- Exactly the names of fields have values; a name that is only in the input has none. -/
theorem contains_ofInput_iff {fields : List Field} {raw : Values} {name : String} :
    (ofInput fields raw).contains name = true ↔ ∃ f ∈ fields, f.name = name := by
  rw [NameMap.contains, get?_ofInput, Option.isSome_map, List.find?_isSome]
  simp

/-- **Taking values again changes nothing,** unless a text field keeps `undefined`, which it does of
one input only; and taking them a third time never does. -/
theorem ofInput_ofInput_eq_iff (fields : List Field) (raw : Values) :
    (ofInput fields (ofInput fields raw) = ofInput fields raw ↔
        ¬∃ f : Field, f.IsLast fields ∧ f.kind = .text ∧
          raw.get? f.name = some (.multiple ["undefined"])) ∧
      (∀ f : Field, f.IsLast fields → f.kind = .text →
        ((ofInput fields raw).get? f.name = some (.single "undefined") ↔
          raw.get? f.name = some (.multiple ["undefined"]))) ∧
      ofInput fields (ofInput fields (ofInput fields raw)) =
        ofInput fields (ofInput fields raw) := by
  have hagain (raw : Values) : ofInput fields (ofInput fields raw) = ofInput fields raw ↔
      ¬∃ f : Field, f.IsLast fields ∧ f.kind = .text ∧
        raw.get? f.name = some (.multiple ["undefined"]) := by
    rw [ofInput_eq_iff, not_exists]
    refine forall_congr' fun f => ?_
    rw [not_and]
    refine forall_congr' fun hlast => ?_
    rw [get?_ofInput_of_isLast hlast, Field.accept_accept_iff]
  refine ⟨hagain raw, fun f hlast hkind => ?_, (hagain _).2 ?_⟩
  · rw [get?_ofInput_of_isLast hlast, Option.some.injEq, Field.accept_eq_undefined_iff hkind]
  · rintro ⟨f, hlast, hkind, hlist⟩
    rw [get?_ofInput_of_isLast hlast, Option.some.injEq, Field.accept_eq_multiple_iff] at hlist
    exact hlist.1.kind_ne_text hkind

/-- The input of a text field that is a list of the text it should drop. -/
def undefinedItem : Values := .ofList [("a", .multiple ["undefined"])]

/-- A list of the one item `undefined` is kept as a text at first and dropped when the values are
taken as input again. -/
theorem ofInput_ofInput_undefinedItem :
    (ofInput [.ofKind "a" .text] undefinedItem).get? "a" = some (.single "undefined") ∧
      (ofInput [.ofKind "a" .text] (ofInput [.ofKind "a" .text] undefinedItem)).get? "a" =
        some (.single "") ∧
      ofInput [.ofKind "a" .text] (ofInput [.ofKind "a" .text] undefinedItem) ≠
        ofInput [.ofKind "a" .text] undefinedItem := by
  decide +kernel

/-! ## Where values are read -/

/-- A name has a list for its value: the conditions that depend on it read an array of the items,
and the fields of the name join them. -/
structure HasList (values : Values) (name : String) (items : List String) : Prop where
  value : values.get? name = some (.multiple items)
  bound : ∀ f : Field, name ∈ f.dependencies →
    (f.dependencyValues values).get? name = some (.multiple items)
  read : ∀ f : Field, name ∈ f.dependencies →
    (When.Expr.identifier name).value (f.dependencyValues values) =
      .ok (.array (items.map .string))
  joined : ∀ f : Field, f.name = name →
    f.rawText values = String.intercalate (f.separator.getD "") items

/-- A name has a text for its value, and the fields of the name have it whatever their
separators. -/
structure HasText (values : Values) (name text : String) : Prop where
  value : values.get? name = some (.single text)
  unseparated : ∀ f : Field, f.name = name → ∀ separator : Option String,
    ({ f with separator := separator } : Field).rawText values = text

/-- A name whose value is a list has the list for both readers: conditions read an array, and the
fields of the name join its items. -/
theorem hasList_of_get? {values : Values} {name : String} {items : List String}
    (h : values.get? name = some (.multiple items)) : values.HasList name items := by
  have hbound (f : Field) (hname : name ∈ f.dependencies) :
      (f.dependencyValues values).get? name = some (.multiple items) := by
    rw [Field.get?_dependencyValues, if_pos hname, h]
    rfl
  refine ⟨h, hbound, fun f hname => ?_, fun f hname => ?_⟩
  · rw [When.Expr.value, hbound f hname]
    rfl
  · rw [Field.rawText, hname, h]
    rfl

/-- A name whose value is a text has that text for its fields, whatever separators they have. -/
theorem hasText_of_get? {values : Values} {name text : String}
    (h : values.get? name = some (.single text)) : values.HasText name text := by
  refine ⟨h, fun f hname separator => ?_⟩
  rw [Field.rawText, hname, h]
  rfl

/-- The value of the name of a field as its readers find it: a list if and only if the field takes
one and is given one, and otherwise a text. -/
structure IsShapedBy (values : Values) (f : Field) (input : Option FieldValue) : Prop where
  value : values.get? f.name = some (f.accept input)
  list : ∀ items, values.HasList f.name items ↔ f.TakesList ∧ input = some (.multiple items)
  text : (∃ text, values.HasText f.name text) ↔
    ¬∃ items, f.TakesList ∧ input = some (.multiple items)

/-- A value that a field has taken has the shape that the field asks for, for every reader. -/
theorem isShapedBy_of_get? {values : Values} {f : Field} {input : Option FieldValue}
    (h : values.get? f.name = some (f.accept input)) : values.IsShapedBy f input := by
  refine ⟨h, fun items => ⟨fun hlist => ?_, ?_⟩, ?_, fun hnone => ?_⟩
  · have hvalue := hlist.value
    rw [h, Option.some.injEq] at hvalue
    exact Field.accept_eq_multiple_iff.1 hvalue
  · rintro ⟨htakes, rfl⟩
    rw [Field.accept_list htakes] at h
    exact hasList_of_get? h
  · rintro ⟨text, htext⟩ ⟨items, htakes, rfl⟩
    have hvalue := htext.value
    rw [h, Field.accept_list htakes] at hvalue
    cases hvalue
  · obtain ⟨text, htext⟩ := Field.exists_accept_eq_single fun items htakes hinput =>
      hnone ⟨items, htakes, hinput⟩
    rw [htext] at h
    exact ⟨text, hasText_of_get? h⟩

/-- **Values have the shape that their readers rely on.**  They depend on what is reported under the
names of fields only.  Exactly these names have values, and each value has the shape of the last
field of its name. -/
theorem ofInput_shape {fields : List Field} {raw raw' : Values}
    (h : ∀ f ∈ fields, raw.get? f.name = raw'.get? f.name) :
    ofInput fields raw = ofInput fields raw' ∧
      (∀ name, (ofInput fields raw).contains name = true ↔ ∃ f ∈ fields, f.name = name) ∧
      ∀ g ∈ fields, ∃ f : Field, f.IsLast fields ∧ f.name = g.name ∧
        (ofInput fields raw).IsShapedBy f (raw.get? f.name) := by
  refine ⟨ofInput_eq_iff.2 fun f hlast => ?_, fun name => contains_ofInput_iff, fun g hg => ?_⟩
  · rw [h f hlast.mem]
  · obtain ⟨f, hlast, hname⟩ := Field.exists_isLast hg
    exact ⟨f, hlast, hname, isShapedBy_of_get? (get?_ofInput_of_isLast hlast raw)⟩

/-- Labels, of which several may be chosen, behind a text field of the same name. -/
def labelFields : List Field :=
  [.ofKind "labels" .text,
    { Field.ofKind "labels" .enum with multiple := true, separator := some ", " },
    .ofKind "note" .text]

/-- Input for the labels and none for the note, to see what a field takes with input and without. -/
def labelInput : Values := .ofList [("labels", .multiple ["ui", "api"])]

/-- The labels are kept as the list that was chosen, and the note, without any input, is an empty
text. -/
theorem ofInput_shape_labels :
    let raw := labelInput.insert "other" (.single "x")
    (∀ f ∈ labelFields, raw.get? f.name = labelInput.get? f.name) ∧
      ofInput labelFields raw = ofInput labelFields labelInput ∧
      (∀ name, (ofInput labelFields raw).contains name = true ↔
        ∃ f ∈ labelFields, f.name = name) ∧
      (∀ g ∈ labelFields, ∃ f : Field, f.IsLast labelFields ∧ f.name = g.name ∧
        (ofInput labelFields raw).IsShapedBy f (raw.get? f.name)) ∧
      (ofInput labelFields raw).HasList "labels" ["ui", "api"] ∧
      (ofInput labelFields raw).HasText "note" "" := by
  intro raw
  have hagree : ∀ f ∈ labelFields, raw.get? f.name = labelInput.get? f.name := by decide +kernel
  obtain ⟨hequal, hnames, hshape⟩ := ofInput_shape hagree
  exact ⟨hagree, hequal, hnames, hshape, hasList_of_get? (by decide +kernel),
    hasText_of_get? (by decide +kernel)⟩

end Values

end CommitForm
