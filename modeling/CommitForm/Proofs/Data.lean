/-
# Data of shapes

A datum is of a shape when it is built as the shape says.  What is read from JSON along a shape is
of it (`Json.readShape_yields`), and every datum of the shape of forms is the datum of a form
(`Form.exists_ofDatum?`).
-/

import Mathlib.Data.List.Forall2
import CommitForm.Form.Json

namespace CommitForm
namespace Document

/-! ## Data of a shape -/

mutual

/-- A datum is of a shape, by recursion on the datum, with one case for each way a shape can be
filled. -/
inductive Datum.HasShape : Shape → Datum → Prop where
  | text (s : String) : HasShape .text (.text s)
  | flag (b : Bool) : HasShape .flag (.flag b)
  | count (n : UInt32) : HasShape .count (.count n)
  | absent (shape : Shape) : HasShape (.optional shape) .absent
  | present {shape : Shape} {d : Datum} (h : HasShape shape d) :
      HasShape (.optional shape) (.present d)
  | list {shape : Shape} {ds : List Datum} (h : ∀ d ∈ ds, HasShape shape d) :
      HasShape (.list shape) (.list ds)
  | map {shape : Shape} {bs : List (String × Datum)} (h : ∀ b ∈ bs, HasShape shape b.2) :
      HasShape (.map shape) (.map bs)
  | choice {title : String} {names : List String} {name : String} (h : name ∈ names) :
      HasShape (.choice title names) (.variant name)
  | eitherText (title : String) (branches : List Shape) (s : String) :
      HasShape (.either title branches) (.text s)
  | eitherList (title : String) (branches : List Shape) (ss : List String) :
      HasShape (.either title branches) (.ofTexts ss)
  | record {title : String} {es : List Entry} {ds : List Datum} (h : HasEntries es ds) :
      HasShape (.record title es) (.record ds)

/-- Data are of the shapes of the entries of a record, one for each entry and in the order of the
entries. -/
inductive Datum.HasEntries : List Entry → List Datum → Prop where
  | nil : HasEntries [] []
  | cons {key : String} {aliases : List String} {shape : Shape} {missing : Option Datum}
      {omitted : Bool} {es : List Entry} {d : Datum} {ds : List Datum}
      (h : HasShape shape d) (hs : HasEntries es ds) :
      HasEntries (.mk key aliases shape missing omitted :: es) (d :: ds)

end

/-- The shape of the value of an entry, without what is said about its keys and its absence. -/
def Entry.shape : Entry → Shape
  | .mk _ _ shape _ _ => shape

/-- The datum of the first branch that fits is a text or a list of texts. -/
theorem Datum.hasShape_of_firstFit {c : Content} {branches : List Shape} {d : Datum}
    (h : c.firstFit? branches = some d) (title : String) : d.HasShape (.either title branches) := by
  obtain ⟨branch, -, hfit⟩ := List.exists_of_findSome?_eq_some h
  cases c with
  | other => cases hfit
  | text s =>
    cases branch with
    | text =>
      obtain rfl := Option.some.inj hfit
      exact .eitherText title branches s
    | _ => cases hfit
  | list items =>
    cases branch with
    | list item =>
      cases item with
      | text =>
        obtain ⟨ss, -, rfl⟩ := Option.map_eq_some_iff.1 hfit
        exact .eitherList title branches ss
      | _ => cases hfit
    | _ => cases hfit

/-! ## Defaults -/

mutual

/-- The defaults of a shape are of the shapes of their entries, wherever in the shape a record
stands. -/
def Shape.IsSound : Shape → Prop
  | .text | .flag | .count | .choice _ _ | .either _ _ => True
  | .optional shape => shape.IsSound
  | .list shape => shape.IsSound
  | .map shape => shape.IsSound
  | .record _ es => Entry.AreSound es

/-- The defaults of entries are of their shapes, and so are those further inside. -/
def Entry.AreSound : List Entry → Prop
  | [] => True
  | .mk _ _ shape missing _ :: es =>
    (∀ d, missing = some d → d.HasShape shape) ∧ shape.IsSound ∧ Entry.AreSound es

end

/-! ## Filling in records -/

/-- What has been filled in so far is of the shapes of the entries. -/
abbrev FitsEntries (es : List Entry) (filled : Filled) : Prop :=
  List.Forall₂ (fun e o => ∀ d, o = some d → d.HasShape e.shape) es filled

/-- Filling a slot with a datum of the shape of its entry leaves a record that fits its entries as
far as it is filled. -/
theorem FitsEntries.set {es : List Entry} {filled : Filled} (h : FitsEntries es filled) {i : Nat}
    {e : Entry} (he : es[i]? = some e) {d : Datum} (hd : d.HasShape e.shape) :
    FitsEntries es (fill filled i d) := by
  induction h generalizing i with
  | nil => cases he
  | cons hhead htail ih =>
    cases i with
    | zero =>
      obtain rfl := Option.some.inj he
      exact .cons (fun _ h => Option.some.inj h ▸ hd) htail
    | succ i => exact .cons hhead (ih he)

variable {Reader : Type} {fits : Entry → Slot Reader → Prop} {es : List Entry}
  {slots : List (Slot Reader)}

/-- A record with nothing filled fits any entries; it has a slot for each of them. -/
theorem fitsEntries_none (h : List.Forall₂ fits es slots) :
    FitsEntries es (slots.map fun _ => none) := by
  induction h with
  | nil => exact .nil
  | cons _ _ ih => exact .cons (fun _ h => by cases h) ih

/-- Every slot belongs to an entry, at the same index, so what holds between them can be used where
a key is found. -/
theorem exists_entry (h : List.Forall₂ fits es slots) {i : Nat} {slot : Slot Reader}
    (hi : slots[i]? = some slot) : ∃ e, es[i]? = some e ∧ fits e slot := by
  induction h generalizing i with
  | nil => cases hi
  | cons hhead _ ih =>
    cases i with
    | zero =>
      obtain rfl := Option.some.inj hi
      exact ⟨_, rfl, hhead⟩
    | succ i => exact ih hi

/-- The default of a slot is of the shape of its entry, where there is a default at all. -/
def MissingFits (e : Entry) (slot : Slot Reader) : Prop :=
  ∀ d, slot.missing = some d → d.HasShape e.shape

/-- A record that is completed with defaults has the shapes of its entries: what was filled fits,
and so do the defaults. -/
theorem hasEntries_of_complete (h : List.Forall₂ MissingFits es slots) {filled : Filled}
    (hfilled : FitsEntries es filled) {ds : List Datum} (hds : complete slots filled = .ok ds) :
    Datum.HasEntries es ds := by
  induction h generalizing filled ds with
  | nil =>
    obtain rfl := Except.ok.inj hds
    exact .nil
  | @cons e slot es slots hmissing _ ih =>
    cases hfilled with
    | @cons _ o _ filled ho hrest =>
    obtain ⟨key, aliases, shape, missing, omitted⟩ := e
    have hcons {d : Datum} (hd : d.HasShape shape)
        (hds : (complete slots filled).map (d :: ·) = .ok ds) :
        Datum.HasEntries (.mk key aliases shape missing omitted :: es) ds := by
      cases hcomplete : complete slots filled with
      | error m => rw [hcomplete] at hds; cases hds
      | ok ds' =>
        rw [hcomplete] at hds
        obtain rfl := Except.ok.inj hds
        exact .cons hd (ih hrest hcomplete)
    rw [complete] at hds
    cases o with
    | some d => exact hcons (ho d rfl) hds
    | none =>
      cases hm : slot.missing with
      | some d => exact hcons (hmissing d hm) (by simpa [hm] using hds)
      | none => simp [hm] at hds

/-- Only a missing key keeps a record from being completed, which tells what the error of a whole
record can be. -/
theorem eq_missing_of_complete {filled : Filled} {m : Mismatch}
    (h : complete slots filled = .error m) : ∃ key, m = .missing key := by
  induction slots generalizing filled with
  | nil => cases h
  | cons slot slots ih =>
    have hcons {d : Datum} (h : (complete slots filled.tail).map (d :: ·) = .error m) :
        ∃ key, m = .missing key := by
      cases hcomplete : complete slots filled.tail with
      | ok ds => rw [hcomplete] at h; cases h
      | error m' =>
        rw [hcomplete] at h
        obtain rfl := Except.error.inj h
        exact ih hcomplete
    rw [complete] at h
    split at h
    · exact hcons h
    · exact hcons h
    · exact ⟨slot.key, (Except.error.inj h).symm⟩

end Document

open Document

/-! ## Data of the shape of forms -/

/-- If every item has an image, so has the list; this is used for the parts of data that are
lists. -/
theorem exists_mapM {α β : Type} {f : α → Option β} {as : List α}
    (h : ∀ a ∈ as, ∃ b, f a = some b) : ∃ bs, as.mapM f = some bs := by
  induction as with
  | nil => exact ⟨[], rfl⟩
  | cons a as ih =>
    obtain ⟨b, hb⟩ := h a List.mem_cons_self
    obtain ⟨bs, hbs⟩ := ih fun a ha => h a (List.mem_cons_of_mem _ ha)
    exact ⟨b :: bs, by rw [List.mapM_cons, hb, hbs]; rfl⟩

namespace Document.Datum.HasShape

variable {d : Datum}

/-- A datum of the shape of texts is a text, so the field that is made of it is there. -/
theorem exists_text (h : d.HasShape .text) : ∃ s, d.text? = some s := by
  cases h with
  | text s => exact ⟨s, rfl⟩

/-- A datum of the shape of flags is a flag, so the field that is made of it is there. -/
theorem exists_flag (h : d.HasShape .flag) : ∃ b, d.flag? = some b := by
  cases h with
  | flag b => exact ⟨b, rfl⟩

/-- A datum of the shape of counts is a count, so the field that is made of it is there. -/
theorem exists_count (h : d.HasShape .count) : ∃ n, d.count? = some n := by
  cases h with
  | count n => exact ⟨n, rfl⟩

/-- A datum of an optional shape is absent or present with a datum inside, which the hypothesis
reads. -/
theorem exists_optional {α : Type} {read : Datum → Option α} {shape : Shape}
    (h : d.HasShape (.optional shape)) (hread : ∀ d, d.HasShape shape → ∃ a, read d = some a) :
    ∃ o, d.optional? read = some o := by
  cases h with
  | absent => exact ⟨none, rfl⟩
  | present h =>
    obtain ⟨a, ha⟩ := hread _ h
    exact ⟨some a, by rw [Datum.optional?, ha]; rfl⟩

/-- A datum of the shape of lists is a list, and its items are of the shape of items. -/
theorem exists_list {shape : Shape} (h : d.HasShape (.list shape)) :
    ∃ ds, d = .list ds ∧ ∀ d ∈ ds, d.HasShape shape := by
  cases h with
  | list h => exact ⟨_, rfl, h⟩

/-- A datum of a choice between branches is a text or a list of texts, the only branches that are
tried. -/
theorem exists_either {title : String} {branches : List Shape}
    (h : d.HasShape (.either title branches)) : (∃ s, d = .text s) ∨ ∃ ss, d = .ofTexts ss := by
  cases h with
  | eitherText _ _ s => exact .inl ⟨s, rfl⟩
  | eitherList _ _ ss => exact .inr ⟨ss, rfl⟩

/-- A datum of the shape of records is a record, and its parts are of the shapes of the entries. -/
theorem exists_record {title : String} {es : List Entry} (h : d.HasShape (.record title es)) :
    ∃ ds, d = .record ds ∧ Datum.HasEntries es ds := by
  cases h with
  | record h => exact ⟨_, rfl, h⟩

end Document.Datum.HasShape

/-- Data of the shapes of no entries are none, which ends the taking apart of a record. -/
theorem Document.Datum.HasEntries.eq_nil {ds : List Datum} (h : Datum.HasEntries [] ds) :
    ds = [] := by
  cases h
  rfl

/-- Data of the shapes of entries begin with a datum of the first of these shapes, by which a record
is taken apart entry by entry. -/
theorem Document.Datum.HasEntries.exists_cons {key : String} {aliases : List String} {shape : Shape}
    {missing : Option Datum} {omitted : Bool} {es : List Entry} {ds : List Datum}
    (h : Datum.HasEntries (.mk key aliases shape missing omitted :: es) ds) :
    ∃ d ds', ds = d :: ds' ∧ d.HasShape shape ∧ Datum.HasEntries es ds' := by
  cases h with
  | cons h hs => exact ⟨_, _, rfl, h, hs⟩

open Document.Datum (HasShape)

/-- The texts of a list of texts are those that it was made of. -/
theorem texts?_ofTexts (ss : List String) : (Datum.ofTexts ss).texts? = some ss := by
  have h : (ss.map Datum.text).mapM Datum.text? = some ss := by
    induction ss with
    | nil => rfl
    | cons s ss ih => rw [List.map_cons, List.mapM_cons, ih]; rfl
  exact h

/-- Every datum of the shape of options is one of an option, a record of a label and of a value and
a description that may be absent. -/
theorem EnumOption.exists_ofDatum? {d : Datum} (h : d.HasShape EnumOption.shape) :
    ∃ o, EnumOption.ofDatum? d = some o := by
  obtain ⟨_, rfl, hes⟩ := h.exists_record
  obtain ⟨_, _, rfl, hlabel, hes⟩ := hes.exists_cons
  obtain ⟨_, _, rfl, hvalue, hes⟩ := hes.exists_cons
  obtain ⟨_, _, rfl, hdescription, hes⟩ := hes.exists_cons
  obtain rfl := hes.eq_nil
  obtain ⟨label, hlabel⟩ := hlabel.exists_text
  obtain ⟨value, hvalue⟩ := hvalue.exists_optional fun _ => HasShape.exists_text
  obtain ⟨description, hdescription⟩ := hdescription.exists_optional fun _ => HasShape.exists_text
  exact ⟨⟨label, value, description⟩, by simp [EnumOption.ofDatum?, hlabel, hvalue, hdescription]⟩

/-- Every datum of the shape of kinds is one of a kind, since the names of the choice are those of
the kinds. -/
theorem FieldKind.exists_ofDatum? {d : Datum}
    (h : d.HasShape (.choice "FieldKind" (FieldKind.all.map FieldKind.name))) :
    ∃ k, FieldKind.ofDatum? d = some k := by
  cases h with
  | choice hname =>
    obtain ⟨k, -, rfl⟩ := List.mem_map.1 hname
    exact ⟨k, ofName?_name k⟩

/-- Every datum of the shape of dependencies is one of dependencies, a single name or a list of
them. -/
theorem DependsOn.exists_ofDatum? {d : Datum} (h : d.HasShape (textOrList "DependsOn")) :
    ∃ names, DependsOn.ofDatum? d = some names := by
  rcases h.exists_either with ⟨s, rfl⟩ | ⟨ss, rfl⟩
  · exact ⟨.one s, rfl⟩
  · exact ⟨.many ss, congrArg (Option.map _) (texts?_ofTexts ss)⟩

/-- Every datum of the shape of templates is one of a template, a text or its lines. -/
theorem TemplateSource.exists_ofDatum? {d : Datum} {branches : List Shape}
    (h : d.HasShape (.either "TemplateSource" branches)) :
    ∃ template, TemplateSource.ofDatum? d = some template := by
  rcases h.exists_either with ⟨s, rfl⟩ | ⟨ss, rfl⟩
  · exact ⟨.text s, rfl⟩
  · exact ⟨.lines ss, congrArg (Option.map _) (texts?_ofTexts ss)⟩

/-- Every datum of the shape of fields is one of a field, with all its entries taken apart one after
the other. -/
theorem Field.exists_ofDatum? {d : Datum} (h : d.HasShape Field.shape) :
    ∃ f, Field.ofDatum? d = some f := by
  obtain ⟨_, rfl, hes⟩ := h.exists_record
  obtain ⟨_, _, rfl, hname, hes⟩ := hes.exists_cons
  obtain ⟨_, _, rfl, hlabel, hes⟩ := hes.exists_cons
  obtain ⟨_, _, rfl, hkind, hes⟩ := hes.exists_cons
  obtain ⟨_, _, rfl, hdescription, hes⟩ := hes.exists_cons
  obtain ⟨_, _, rfl, hoptions, hes⟩ := hes.exists_cons
  obtain ⟨_, _, rfl, hmultiple, hes⟩ := hes.exists_cons
  obtain ⟨_, _, rfl, hcombobox, hes⟩ := hes.exists_cons
  obtain ⟨_, _, rfl, hseparator, hes⟩ := hes.exists_cons
  obtain ⟨_, _, rfl, hbefore, hes⟩ := hes.exists_cons
  obtain ⟨_, _, rfl, hafter, hes⟩ := hes.exists_cons
  obtain ⟨_, _, rfl, hvalue, hes⟩ := hes.exists_cons
  obtain ⟨_, _, rfl, hmultiline, hes⟩ := hes.exists_cons
  obtain ⟨_, _, rfl, hmonospace, hes⟩ := hes.exists_cons
  obtain ⟨_, _, rfl, hlines, hes⟩ := hes.exists_cons
  obtain ⟨_, _, rfl, hmaxLines, hes⟩ := hes.exists_cons
  obtain ⟨_, _, rfl, hmaxLength, hes⟩ := hes.exists_cons
  obtain ⟨_, _, rfl, hmaxLineLength, hes⟩ := hes.exists_cons
  obtain ⟨_, _, rfl, hprovider, hes⟩ := hes.exists_cons
  obtain ⟨_, _, rfl, hdependsOn, hes⟩ := hes.exists_cons
  obtain ⟨_, _, rfl, hmatchExpression, hes⟩ := hes.exists_cons
  obtain rfl := hes.eq_nil
  have htext {d : Datum} (h : d.HasShape (.optional .text)) :=
    h.exists_optional fun _ => HasShape.exists_text
  have hcount {d : Datum} (h : d.HasShape (.optional .count)) :=
    h.exists_optional fun _ => HasShape.exists_count
  obtain ⟨name, hname⟩ := hname.exists_text
  obtain ⟨label, hlabel⟩ := hlabel.exists_text
  obtain ⟨kind, hkind⟩ := FieldKind.exists_ofDatum? hkind
  obtain ⟨description, hdescription⟩ := htext hdescription
  obtain ⟨_, rfl, hitems⟩ := hoptions.exists_list
  obtain ⟨options, hoptions⟩ := exists_mapM fun d hd => EnumOption.exists_ofDatum? (hitems d hd)
  obtain ⟨multiple, hmultiple⟩ := hmultiple.exists_flag
  obtain ⟨combobox, hcombobox⟩ := hcombobox.exists_flag
  obtain ⟨separator, hseparator⟩ := htext hseparator
  obtain ⟨before, hbefore⟩ := htext hbefore
  obtain ⟨after, hafter⟩ := htext hafter
  obtain ⟨value, hvalue⟩ := htext hvalue
  obtain ⟨multiline, hmultiline⟩ := hmultiline.exists_flag
  obtain ⟨monospace, hmonospace⟩ := hmonospace.exists_flag
  obtain ⟨lines, hlines⟩ := hcount hlines
  obtain ⟨maxLines, hmaxLines⟩ := hcount hmaxLines
  obtain ⟨maxLength, hmaxLength⟩ := hcount hmaxLength
  obtain ⟨maxLineLength, hmaxLineLength⟩ := hcount hmaxLineLength
  obtain ⟨provider, hprovider⟩ := htext hprovider
  obtain ⟨dependsOn, hdependsOn⟩ := hdependsOn.exists_optional fun _ => DependsOn.exists_ofDatum?
  obtain ⟨matchExpression, hmatchExpression⟩ := htext hmatchExpression
  simp [Field.ofDatum?, hname, hlabel, hkind, hdescription, hoptions, hmultiple, hcombobox,
    hseparator, hbefore, hafter, hvalue, hmultiline, hmonospace, hlines, hmaxLines, hmaxLength,
    hmaxLineLength, hprovider, hdependsOn, hmatchExpression]

/-- **Every datum of the shape of forms is one of a form,** so nothing can fail between a document
that was read and its form. -/
theorem Form.exists_ofDatum? {d : Datum} (h : d.HasShape Form.shape) :
    ∃ form, Form.ofDatum? d = some form := by
  obtain ⟨_, rfl, hes⟩ := h.exists_record
  obtain ⟨_, _, rfl, htemplate, hes⟩ := hes.exists_cons
  obtain ⟨_, _, rfl, hfields, hes⟩ := hes.exists_cons
  obtain ⟨_, _, rfl, hreduce, hes⟩ := hes.exists_cons
  obtain rfl := hes.eq_nil
  obtain ⟨template, htemplate⟩ := TemplateSource.exists_ofDatum? htemplate
  obtain ⟨_, rfl, hitems⟩ := hfields.exists_list
  obtain ⟨fields, hfields⟩ := exists_mapM fun d hd => Field.exists_ofDatum? (hitems d hd)
  obtain ⟨reduce, hreduce⟩ := hreduce.exists_flag
  exact ⟨⟨template, fields, reduce⟩, by simp [Form.ofDatum?, htemplate, hfields, hreduce]⟩

/-- The defaults of forms are of their shapes, those of fields and options included. -/
theorem Form.shape_isSound : Form.shape.IsSound := by
  have hlist (shape : Shape) : (Datum.list []).HasShape (.list shape) :=
    .list fun _ h => absurd h List.not_mem_nil
  have htexts (title : String) (branches : List Shape) :
      (Datum.list []).HasShape (.either title branches) := .eitherList title branches []
  have hkind : (Datum.variant FieldKind.text.name).HasShape
      (.choice "FieldKind" (FieldKind.all.map FieldKind.name)) := .choice (by decide)
  simp [Form.shape, Field.shape, EnumOption.shape, optionalEntry, flagEntry, textOrList,
    Shape.IsSound, Entry.AreSound, hlist, htexts, hkind, HasShape.absent, HasShape.flag,
    HasShape.text]

namespace Json

/-! ## What is read from JSON -/

/-- What holds of a result of reading, if there is one; a failure yields everything. -/
def Yields {α : Type} (result : α → Prop) (r : Outcome α) : Prop :=
  ∀ a c, r = .ok (a, c) → result a

namespace Yields

variable {α β : Type} {result : α → Prop} {r : Outcome α}

/-- A failure yields everything, since it has no result. -/
theorem error (e : Failure) : Yields result (.error e) := nofun

/-- A result yields what holds of it, wherever the reader stands behind it. -/
theorem ok {a : α} (h : result a) (c : Cursor) : Yields result (.ok (a, c)) := by
  intro a' c' he
  obtain ⟨rfl, -⟩ := Prod.mk.inj (Except.ok.inj he)
  exact h

/-- A result that is turned into another yields what holds of all images. -/
theorem map {result' : β → Prop} {f : α → β} (h : Yields result r)
    (hf : ∀ a, result a → result' (f a)) : Yields result' (r.map fun x => (f x.1, x.2)) := by
  intro b c he
  match r, h with
  | .ok (a, c'), h =>
    obtain ⟨rfl, -⟩ := Prod.mk.inj (Except.ok.inj he)
    exact hf a (h a c' rfl)

/-- A word stands for a datum, so reading it yields what holds of that datum. -/
theorem word {d : Datum} {result : Datum → Prop} (h : result d) (r : Outcome Unit) :
    Yields result (r.map fun x => (d, x.2)) := by
  have hr : Yields (fun _ => True) r := fun _ _ _ => trivial
  exact hr.map (f := fun _ => d) fun _ _ => h

/-- Looking for the end of an array or an object does not change what was read, and so keeps what it
yields. -/
theorem closing {close : Cursor → Option Fault × Cursor} (h : Yields result r) :
    Yields result (closing close r) := by
  intro a c he
  match r, h with
  | .ok (a', c'), h =>
    rw [Json.closing] at he
    split at he
    · obtain ⟨rfl, -⟩ := Prod.mk.inj (Except.ok.inj he)
      exact h _ _ rfl
    · cases he

/-- An array or an object that is opened yields what its reader yields, at whatever depth that is
called. -/
theorem opening {depth : Nat} {c : Cursor} {read : Nat → Cursor → Outcome α}
    (h : ∀ depth c, Yields result (read depth c)) : Yields result (opening depth c read) := by
  match depth with
  | 0 | 1 => exact .error _
  | depth + 2 => exact h _ _

/-- Any value yields what its reader yields for every first character; an end of the text is a
failure. -/
theorem readValue {read : Char → Cursor → Outcome α} (h : ∀ a c, Yields result (read a c))
    (c : Cursor) : Yields result (readValue read c) := by
  rw [Json.readValue]
  split
  · exact .error _
  · exact h _ _

/-- A value of the wrong type yields everything, since it is always a failure. -/
theorem wrongType (expected : String) (c : Cursor) :
    Yields result (wrongType expected c : Outcome α) := by
  rw [Json.wrongType]
  dsimp only
  repeat' split
  all_goals exact .error _

/-- The items of an array all have what the reader of one item yields, by induction on the fuel. -/
theorem readItems {item : Cursor → Outcome α} (h : ∀ c, Yields result (item c)) (fuel : Nat)
    (first : Bool) (c : Cursor) :
    Yields (fun as => ∀ a ∈ as, result a) (readItems item fuel first c) := by
  induction fuel generalizing first c with
  | zero => exact .error _
  | succ fuel ih =>
    rw [Json.readItems]
    split
    · exact .error _
    · exact .ok (fun _ ha => absurd ha List.not_mem_nil) _
    · next c' _ =>
      have hitem := h c'
      split
      · exact .error _
      · next a c'' he =>
        rw [he] at hitem
        exact (ih false c'').map fun as has => List.forall_mem_cons.2 ⟨hitem a c'' rfl, has⟩

/-- The values of an object all have what the reader of one value yields; of the keys nothing is
said. -/
theorem readBindings {value : Cursor → Outcome α} (h : ∀ c, Yields result (value c)) (fuel : Nat)
    (first : Bool) (c : Cursor) :
    Yields (fun bs => ∀ b ∈ bs, result b.2) (readBindings value fuel first c) := by
  induction fuel generalizing first c with
  | zero => exact .error _
  | succ fuel ih =>
    rw [Json.readBindings]
    split
    · exact .error _
    · exact .ok (fun _ hb => absurd hb List.not_mem_nil) _
    · split
      · exact .error _
      · split
        · exact .error _
        · next c' _ =>
          have hvalue := h c'
          split
          · exact .error _
          · next a c'' he =>
            rw [he] at hvalue
            exact (ih false c'').map fun bs hbs => List.forall_mem_cons.2 ⟨hvalue a c'' rfl, hbs⟩

end Yields

/-- A reader reads data of a shape, at every depth and from every place where it finds any. -/
def ReadsShape (shape : Shape) (read : Reader) : Prop :=
  ∀ depth c, Yields (Datum.HasShape shape) (read depth c)

/-- Reading a flag gives a flag, and nothing else that a reader of flags could be mistaken for. -/
theorem readFlag_yields (c : Cursor) : Yields (Datum.HasShape .flag) (readFlag c) := by
  refine .readValue (fun a c => ?_) c
  split
  · exact .word (.flag true) _
  · split
    · exact .word (.flag false) _
    · exact .wrongType _ _

/-- The count of a number that is read, or the mismatch of a number that is none. -/
def countRead (r : Outcome Numeral) : Outcome Datum :=
  match r with
  | .error e => .error e
  | .ok (n, c) =>
    match countOfNumeral n with
    | .ok d => .ok (d, c)
    | .error m => c.mismatch m

/-- The count of a numeral is a count; a fraction or a number that is too large has none. -/
theorem hasShape_of_countOfNumeral {n : Numeral} {d : Datum} (h : countOfNumeral n = .ok d) :
    d.HasShape .count := by
  cases n with
  | fraction x => cases h
  | whole n =>
    rw [countOfNumeral, countOf] at h
    split at h
    · obtain rfl := Except.ok.inj h
      exact .count _
    · cases h

/-- Reading a number as a count gives a count, whatever number was read. -/
theorem countRead_yields (r : Outcome Numeral) : Yields (Datum.HasShape .count) (countRead r) := by
  unfold countRead
  split
  · exact .error _
  · split
    · next hd => exact .ok (hasShape_of_countOfNumeral hd) _
    · exact .error _

/-- Reading a count gives a count, with the sign looked at before the digits. -/
theorem readCount_yields (c : Cursor) : Yields (Datum.HasShape .count) (readCount c) := by
  refine .readValue (fun a c => ?_) c
  dsimp only
  split
  · exact countRead_yields _
  · split
    · exact countRead_yields _
    · exact .wrongType _ _

/-- The name of a variant that is read is one of those that were given. -/
theorem readName_yields (names : List String) (c : Cursor) :
    Yields (· ∈ names) (readName names c) := by
  rw [readName]
  split
  · exact .error _
  · split
    · next hname => exact .ok (List.contains_iff_mem.1 hname) _
    · exact .error _

/-- Reading a choice gives a variant of that choice, written as a text or as an object. -/
theorem readChoice_yields (title : String) (names : List String) :
    ReadsShape (.choice title names) (readChoice names) := by
  intro depth c
  rw [readChoice]
  dsimp only
  split
  · exact .error _
  · exact (readName_yields names _).map fun _ => .choice
  · refine .opening (fun _ c => ?_)
    have hname := readName_yields names c
    split
    · exact .error _
    · next name c' he =>
      split
      · exact .error _
      · split
        · exact .error _
        · split
          · exact .error _
          · exact .ok (.choice (hname name c' he)) _
          · exact .error _
  · exact .error _

/-- Reading one of several branches gives a datum of one of the branches, since the first that fits
is taken. -/
theorem readEither_yields (title : String) (branches : List Shape) :
    ReadsShape (.either title branches) (readEither title branches) := by
  intro depth c
  rw [readEither]
  split
  · exact .error _
  · split
    · next hd => exact .ok (Datum.hasShape_of_firstFit hd title) _
    · exact .error _

/-- Reading an optional value gives nothing, or something of the shape that its reader reads. -/
theorem readOptional_yields {shape : Shape} {read : Reader} (h : ReadsShape shape read) :
    ReadsShape (.optional shape) (readOptional read) := by
  intro depth c
  rw [readOptional]
  dsimp only
  split
  · exact .word (.absent shape) _
  · exact (h depth _).map fun _ => .present

/-- Reading an array gives a list whose items are of the shape that the reader of items reads. -/
theorem readList_yields {shape : Shape} {read : Reader} (h : ReadsShape shape read) :
    ReadsShape (.list shape) (readList read) := by
  intro depth c
  refine .readValue (fun a c => ?_) c
  split
  · refine .opening fun depth c => .closing ?_
    exact (Yields.readItems (h depth) _ _ _).map fun _ => .list
  · exact .wrongType _ _

/-- Reading an object gives a map whose values are of the shape that the reader of values reads. -/
theorem readMap_yields {shape : Shape} {read : Reader} (h : ReadsShape shape read) :
    ReadsShape (.map shape) (readMap read) := by
  intro depth c
  refine .readValue (fun a c => ?_) c
  split
  · refine .opening fun depth c => .closing ?_
    exact (Yields.readBindings (h depth) _ _ _).map fun _ => .map
  · exact .wrongType _ _

/-! ### Records -/

/-- A slot for an entry: its default is of the shape of the entry, and its reader reads data of that
shape. -/
structure SlotFor (e : Entry) (slot : Slot Reader) : Prop where
  missing : ∀ d, slot.missing = some d → d.HasShape e.shape
  reads : ReadsShape e.shape slot.read

variable {es : List Entry} {slots : List (Slot Reader)}

/-- Reading the entries of an object keeps a record fitting its entries as far as it is filled, by
induction on the fuel. -/
theorem readEntries_yields (hslots : List.Forall₂ SlotFor es slots) (depth fuel : Nat)
    (first : Bool) {filled : Filled} (hfilled : FitsEntries es filled) (c : Cursor) :
    Yields (FitsEntries es) (readEntries slots depth fuel first filled c) := by
  induction fuel generalizing first filled c with
  | zero => exact .error _
  | succ fuel ih =>
    rw [readEntries]
    split
    · exact .error _
    · exact .ok hfilled _
    · split
      · exact .error _
      · split
        · split
          · exact .error _
          · split
            · exact .error _
            · exact ih false hfilled _
        · next slot i hfind =>
          have hmem := List.mem_of_find?_eq_some hfind
          rw [List.mk_mem_zipIdx_iff_getElem?] at hmem
          obtain ⟨e, hentry, hslot⟩ := exists_entry hslots hmem
          split
          · exact .error _
          · split
            · exact .error _
            · next c' _ =>
              split
              · exact .error _
              · next d c'' he =>
                exact ih false (hfilled.set hentry (hslot.reads depth c' d c'' he)) _

/-- Reading a record from an array gives data of the shapes of the entries, by induction on the
slots. -/
theorem readPositional_yields (hslots : List.Forall₂ SlotFor es slots) (title : String)
    (size depth index : Nat) (c : Cursor) :
    Yields (Datum.HasEntries es) (readPositional title size depth slots index c) := by
  induction hslots generalizing index c with
  | nil => exact .ok .nil _
  | @cons e slot es slots hslot _ ih =>
    obtain ⟨key, aliases, shape, missing, omitted⟩ := e
    have hcons {d : Datum} (hd : d.HasShape shape) (c : Cursor) :
        Yields (Datum.HasEntries (.mk key aliases shape missing omitted :: es))
          ((readPositional title size depth slots (index + 1) c).map fun x => (d :: x.1, x.2)) :=
      (ih (index + 1) c).map fun _ hds => .cons hd hds
    rw [readPositional]
    split
    · exact .error _
    · next c' _ =>
      split
      · exact .error _
      · next d c'' he => exact hcons (hslot.reads depth c' d c'' he) c''
    · split
      · next d hd => exact hcons (hslot.missing d hd) _
      · exact .error _

/-- Reading a record gives a record of the shape, from an object with defaults or from an array. -/
theorem readRecord_yields (hslots : List.Forall₂ SlotFor es slots) (title : String) :
    ReadsShape (.record title es) (readRecord title slots) := by
  intro depth c
  refine .readValue (fun a c => ?_) c
  split
  · refine .opening fun depth c => .closing ?_
    exact (readPositional_yields hslots title slots.length depth 0 c).map fun _ => .record
  · split
    · refine .opening fun depth c => .closing ?_
      have hentries := readEntries_yields hslots depth (c.rest.length + 1) true
        (fitsEntries_none hslots) c
      split
      · exact .error _
      · next filled c' he =>
        split
        · next ds hds =>
          exact .ok (.record (hasEntries_of_complete (hslots.imp fun _ _ h => h.missing)
            (hentries filled c' he) hds)) _
        · exact .error _
    · exact .wrongType _ _

mutual

/-- **What is read from JSON along a shape** is a datum of the shape. -/
theorem readShape_yields : (shape : Shape) → shape.IsSound → ReadsShape shape (readShape shape)
  | .text, _ => fun _ _ => Yields.map (fun _ _ _ => trivial) fun s (_ : True) => .text s
  | .flag, _ => fun _ => readFlag_yields
  | .count, _ => fun _ => readCount_yields
  | .optional shape, h => readOptional_yields (readShape_yields shape h)
  | .list shape, h => readList_yields (readShape_yields shape h)
  | .map shape, h => readMap_yields (readShape_yields shape h)
  | .choice title names, _ => readChoice_yields title names
  | .either title branches, _ => readEither_yields title branches
  | .record title es, h => readRecord_yields (slotsOf_slotFor es h) title

/-- The slots that are made of entries are slots for them, where the defaults of the entries are
sound. -/
theorem slotsOf_slotFor : (es : List Entry) → Entry.AreSound es →
    List.Forall₂ SlotFor es (slotsOf es)
  | [], _ => .nil
  | .mk _ _ shape _ _ :: es, ⟨hmissing, hshape, hes⟩ =>
    .cons ⟨hmissing, readShape_yields shape hshape⟩ (slotsOf_slotFor es hes)

end

/-- What is read from a text is of the shape that was asked for, if the defaults of that shape are
sound. -/
theorem hasShape_of_read {shape : Shape} (h : shape.IsSound) {text : String} {d : Datum}
    (hd : read shape text = .ok d) : d.HasShape shape := by
  rw [read] at hd
  split at hd
  · cases hd
  · cases hd
  · next d' c he =>
    dsimp only at hd
    split at hd
    · obtain rfl := Except.ok.inj hd
      exact readShape_yields shape h _ _ _ _ he
    · cases hd

end Json
end CommitForm
