/-
# Filling a template

A `Cutting` is a text cut at placeholders: a stretch before the first of them, and the name of each
with the stretch behind it.  It cuts the text at all its placeholders if no placeholder stands in a
stretch.  Every text has one such cutting (`Cutting.existsUnique_cuts`), and filling a template is
to replace the placeholders of its cutting and to copy the stretches (`compose_eq_filled`).

| `{name}` | is replaced by |
| --- | --- |
| is the name of a field | what the last field of the name contributes |
| is the name of no field | itself |

What has been put in is not part of the cutting, so it is not looked at again, whatever braces stand
in it.
-/

import Mathlib.Data.List.Basic
import CommitForm.Proofs.Placeholders

namespace CommitForm
namespace Template

/-! ## Stretches without placeholders -/

/-- No placeholder stands in a text: nowhere is there an opening brace, then characters that are no
braces, and then a closing one. -/
def Bare (cs : List Char) : Prop :=
  ∀ before name after, (∀ c ∈ name, isPlain c = true) →
    cs ≠ before ++ '\x7b' :: (name ++ '\x7d' :: after)

/-- An empty text has no placeholder. -/
theorem bare_nil : Bare [] := by
  intro before name after _ h
  simp at h

/-- A text without its first character has no placeholder if the text has none. -/
theorem Bare.tail {c : Char} {cs : List Char} (h : Bare (c :: cs)) : Bare cs := by
  rintro before name after hname rfl
  exact h (c :: before) name after hname rfl

/-- A brace that opens a bare text is not closed: behind the characters that may stand in a name
there is another brace that opens, or the end. -/
theorem Bare.dropWhile_ne {cs : List Char} (h : Bare ('\x7b' :: cs)) (rest : List Char) :
    cs.dropWhile isPlain ≠ '\x7d' :: rest := by
  intro hrest
  refine h [] (cs.takeWhile isPlain) rest (fun _ => List.mem_takeWhile_imp) ?_
  rw [takeWhile_append_of_dropWhile hrest]
  rfl

/-- A character in front of a bare text leaves it bare, unless it is a brace that opens a
placeholder there. -/
theorem Bare.cons {c : Char} {cs : List Char} (h : Bare cs)
    (hc : c = '\x7b' → ∀ rest, cs.dropWhile isPlain ≠ '\x7d' :: rest) : Bare (c :: cs) := by
  intro before name after hname heq
  cases before with
  | nil =>
    obtain ⟨hopen, rfl⟩ := List.cons.inj heq
    refine hc hopen after ?_
    rw [List.dropWhile_append_of_pos hname]
    rfl
  | cons b before => exact h before name after hname (List.cons.inj heq).2

/-- A bare text has no parts but its characters, also before an opening brace. -/
theorem Bare.pieces_append {cs rest : List Char} (h : Bare cs)
    (hrest : ∀ c, rest.head? = some c → c = '\x7b') :
    pieces (cs ++ rest) = cs.map .char ++ pieces rest := by
  induction cs with
  | nil => rfl
  | cons c cs ih =>
    have hcons : pieces (c :: (cs ++ rest)) = .char c :: pieces (cs ++ rest) := by
      by_cases hc : c = '\x7b'
      · subst hc
        refine pieces_open fun r hr => ?_
        rw [List.dropWhile_append] at hr
        split at hr
        · -- The text behind the stretch begins with a brace, which is not plain.
          cases rest with
          | nil => simp at hr
          | cons d rest =>
            obtain rfl := hrest d rfl
            rw [List.dropWhile_cons_of_neg (by decide)] at hr
            exact absurd (List.cons.inj hr).1 (by decide)
        · cases hd : cs.dropWhile isPlain with
          | nil => simp_all
          | cons d ds =>
            rw [hd] at hr
            obtain ⟨rfl, -⟩ := List.cons.inj hr
            exact h.dropWhile_ne ds hd
      · exact pieces_cons_of_ne hc _
    rw [List.cons_append, hcons, ih h.tail]
    rfl

/-! ## Cuttings -/

/-- A text cut at placeholders: the stretch before the first one, and each placeholder with the
stretch behind it.  Which texts it is a cutting of is said by `Cutting.Cuts`. -/
structure Cutting where
  /-- The stretch before the first placeholder. -/
  lead : List Char
  /-- The names of the placeholders, each with the stretch behind it. -/
  slots : List (List Char × List Char)

/-- How a placeholder is written, with its name between braces. -/
def braced (name : String) : String := "\x7b" ++ name ++ "\x7d"

namespace Cutting

/-- The text with its placeholders replaced, each by the text for its name, and with the stretches
between them as they are. -/
def filled (fill : String → String) (k : Cutting) : List Char :=
  k.lead ++ k.slots.flatMap fun s => (fill (String.ofList s.1)).toList ++ s.2

/-- A text is cut at all its placeholders: written back it is the text, and no stretch between
placeholders has another one. -/
structure Cuts (k : Cutting) (text : List Char) : Prop where
  written : k.filled braced = text
  lead : Bare k.lead
  plain : ∀ s ∈ k.slots, ∀ c ∈ s.1, isPlain c = true
  stretches : ∀ s ∈ k.slots, Bare s.2

/-- The parts of the text in order, each stretch character by character. -/
def parts (k : Cutting) : List Piece :=
  k.lead.map .char ++ k.slots.flatMap fun s => .slot s.1 :: s.2.map .char

/-- The cutting at the placeholders among parts, which collects the characters between them into
stretches. -/
def ofParts : List Piece → Cutting
  | [] => ⟨[], []⟩
  | .char c :: ps => ⟨c :: (ofParts ps).lead, (ofParts ps).slots⟩
  | .slot name :: ps => ⟨[], (name, (ofParts ps).lead) :: (ofParts ps).slots⟩

/-- Characters in front of parts belong to the stretch before the first placeholder. -/
theorem ofParts_chars (cs : List Char) (ps : List Piece) :
    ofParts (cs.map .char ++ ps) = ⟨cs ++ (ofParts ps).lead, (ofParts ps).slots⟩ := by
  induction cs with
  | nil => rfl
  | cons c cs ih => rw [List.map_cons, List.cons_append, ofParts, ih]; rfl

/-- The parts of a cutting give it back, so a cutting is known by its parts. -/
theorem ofParts_parts (k : Cutting) : ofParts k.parts = k := by
  have hslots (slots : List (List Char × List Char)) :
      ofParts (slots.flatMap fun s => .slot s.1 :: s.2.map .char) = ⟨[], slots⟩ := by
    induction slots with
    | nil => rfl
    | cons s slots ih =>
      rw [List.flatMap_cons, List.cons_append, ofParts, ofParts_chars, ih, List.append_nil]
  rw [parts, ofParts_chars, hslots, List.append_nil]

end Cutting

/-- What a part of a template becomes: a character stays, and a placeholder becomes the text for its
name. -/
def Piece.filled (fill : String → String) : Piece → List Char
  | char c => [c]
  | slot name => (fill (String.ofList name)).toList

/-- Filling leaves a stretch as it is. -/
theorem flatMap_filled_chars (fill : String → String) (cs : List Char) :
    (cs.map .char).flatMap (Piece.filled fill) = cs := by
  rw [List.flatMap_map]
  exact List.flatMap_singleton' cs

/-- A name between braces is what a part that is a placeholder is written as. -/
theorem braced_toList (name : List Char) :
    (braced (String.ofList name)).toList = (Piece.slot name).written := by
  simp [braced, Piece.written]

/-- A placeholder in front of a text, character by character, in the form in which parts are read
off. -/
theorem braced_append (name rest : List Char) :
    (braced (String.ofList name)).toList ++ rest = '\x7b' :: (name ++ '\x7d' :: rest) := by
  simp [braced_toList, Piece.written]

namespace Cutting

/-- A text is filled part by part, from left to right.  What is filled in is not looked at again. -/
theorem filled_eq_flatMap (fill : String → String) (k : Cutting) :
    k.filled fill = k.parts.flatMap (Piece.filled fill) := by
  rw [filled, parts, List.flatMap_append, flatMap_filled_chars, List.flatMap_assoc]
  congr 2
  funext s
  rw [List.flatMap_cons, flatMap_filled_chars]
  rfl

/-- Behind a stretch the next placeholder begins with a brace, so the stretch cannot run into its
name. -/
theorem head?_slots (slots : List (List Char × List Char)) (c : Char)
    (h : (slots.flatMap fun s => (braced (String.ofList s.1)).toList ++ s.2).head? = some c) :
    c = '\x7b' := by
  cases slots with
  | nil => simp at h
  | cons s slots =>
    rw [List.flatMap_cons, List.append_assoc, braced_append] at h
    exact (Option.some.inj h).symm

/-- Reading off the parts of placeholders and stretches, as they are written one behind another,
finds these parts.  It goes by induction on the placeholders. -/
theorem pieces_slots {slots : List (List Char × List Char)}
    (hplain : ∀ s ∈ slots, ∀ c ∈ s.1, isPlain c = true) (hbare : ∀ s ∈ slots, Bare s.2) :
    pieces (slots.flatMap fun s => (braced (String.ofList s.1)).toList ++ s.2) =
      slots.flatMap fun s => .slot s.1 :: s.2.map .char := by
  induction slots with
  | nil => exact pieces_nil
  | cons s slots ih =>
    obtain ⟨hs, hslots⟩ := List.forall_mem_cons.1 hplain
    obtain ⟨hs', hslots'⟩ := List.forall_mem_cons.1 hbare
    have hslot := pieces_slot hs (s.2 ++
      slots.flatMap fun s => (braced (String.ofList s.1)).toList ++ s.2)
    rw [hs'.pieces_append (head?_slots slots), ih hslots hslots'] at hslot
    rw [List.flatMap_cons, List.append_assoc, braced_append, hslot]
    rfl

/-- **A cutting at all placeholders** has the parts of its text.  The stretches are bare, so no
placeholder is read off anywhere else. -/
theorem Cuts.parts_eq {k : Cutting} {cs : List Char} (h : k.Cuts cs) : k.parts = pieces cs := by
  rw [← h.written, filled, h.lead.pieces_append (head?_slots k.slots),
    pieces_slots h.plain h.stretches, parts]

/-- Every text can be cut at all its placeholders: the cutting at the placeholders among its parts
does it. -/
theorem exists_cuts (cs : List Char) : ∃ k : Cutting, k.Cuts cs := by
  fun_induction pieces cs with
  | case1 => exact ⟨⟨[], []⟩, rfl, bare_nil, by simp, by simp⟩
  | case2 cs rest hrest ih =>
    obtain ⟨k, hk⟩ := ih
    have hname : ∀ c ∈ cs.takeWhile isPlain, isPlain c = true := fun _ => List.mem_takeWhile_imp
    refine ⟨⟨[], (cs.takeWhile isPlain, k.lead) :: k.slots⟩, ?_, bare_nil,
      List.forall_mem_cons.2 ⟨hname, hk.plain⟩, List.forall_mem_cons.2 ⟨hk.lead, hk.stretches⟩⟩
    have hwritten := hk.written
    rw [filled] at hwritten
    rw [filled, List.flatMap_cons, List.append_assoc, hwritten, List.nil_append, braced_append,
      takeWhile_append_of_dropWhile hrest]
  | case3 cs hopen ih =>
    obtain ⟨k, hk⟩ := ih
    refine ⟨⟨'\x7b' :: k.lead, k.slots⟩, congrArg ('\x7b' :: ·) hk.written, ?_, hk.plain,
      hk.stretches⟩
    refine hk.lead.cons fun _ rest hrest => ?_
    -- What closes the brace within the stretch closes it within the text.
    have hclosed : cs.dropWhile isPlain = '\x7d' :: (rest ++
        k.slots.flatMap fun s => (braced (String.ofList s.1)).toList ++ s.2) := by
      rw [← hk.written, filled, List.dropWhile_append, hrest]
      rfl
    exact hopen _ hclosed
  | case4 c cs hc ih =>
    obtain ⟨k, hk⟩ := ih
    exact ⟨⟨c :: k.lead, k.slots⟩, congrArg (c :: ·) hk.written,
      hk.lead.cons fun h => absurd h hc, hk.plain, hk.stretches⟩

/-- **There is one way to cut a text** at all its placeholders, since the parts of such a cutting
are those of the text. -/
theorem existsUnique_cuts (cs : List Char) :
    ∃ k : Cutting, ∀ k' : Cutting, k'.Cuts cs ↔ k' = k := by
  obtain ⟨k, hk⟩ := exists_cuts cs
  refine ⟨k, fun k' => ⟨fun hk' => ?_, ?_⟩⟩
  · rw [← ofParts_parts k', ← ofParts_parts k, hk'.parts_eq, hk.parts_eq]
  · rintro rfl
    exact hk

end Cutting

/-- Substitution replaces the placeholders among the parts of a text, and a placeholder without a
text stays as it is written. -/
theorem substitute_eq_flatMap (textOf? : String → Option String) (text : String) :
    substitute textOf? text = String.ofList ((pieces text.toList).flatMap
      (Piece.filled fun name => (textOf? name).getD (braced name))) := by
  rw [substitute]
  congr 2
  funext p
  cases p with
  | char c => rfl
  | slot name =>
    dsimp only [Piece.filled]
    cases textOf? (String.ofList name) with
    | none => exact (braced_toList name).symm
    | some t => rfl

/-- Substitution replaces the placeholders of the cutting of a text, all at once, and leaves the
stretches between them. -/
theorem Cutting.Cuts.substitute_eq {k : Cutting} {text : String} (h : k.Cuts text.toList)
    (textOf? : String → Option String) :
    substitute textOf? text =
      String.ofList (k.filled fun name => (textOf? name).getD (braced name)) := by
  rw [substitute_eq_flatMap, Cutting.filled_eq_flatMap, h.parts_eq]

/-- The name of a part that is a placeholder.  A character has none. -/
def Piece.name? : Piece → Option String
  | char _ => none
  | slot name => some (String.ofList name)

/-- The names of the placeholders found do not depend on the offset from which places are
counted. -/
theorem map_name_eq_filterMap (offset : Nat) (ps : List Piece) :
    (placeholdersFrom offset ps).map (·.name) = ps.filterMap Piece.name? := by
  induction ps generalizing offset with
  | nil => rfl
  | cons p ps ih =>
    cases p with
    | char c => exact ih _
    | slot name => exact congrArg (String.ofList name :: ·) (ih _)

/-- The names that stand in the placeholders of a text, in the order of its parts. -/
theorem placeholderNames_eq (text : String) :
    placeholderNames text = (pieces text.toList).filterMap Piece.name? :=
  map_name_eq_filterMap 0 _

/-- Substitution asks for the names of placeholders only, so two ways to fill that agree on these
give the same text. -/
theorem substitute_congr {textOf? textOf?' : String → Option String} {text : String}
    (h : ∀ name ∈ placeholderNames text, textOf? name = textOf?' name) :
    substitute textOf? text = substitute textOf?' text := by
  rw [substitute_eq_flatMap, substitute_eq_flatMap]
  refine congrArg String.ofList (List.flatMap_congr fun p hp => ?_)
  cases p with
  | char c => rfl
  | slot name =>
    have hmem : String.ofList name ∈ placeholderNames text :=
      placeholderNames_eq text ▸ List.mem_filterMap.2 ⟨_, hp, rfl⟩
    rw [Piece.filled, Piece.filled, h _ hmem]

end Template

/-! ## What fills a placeholder -/

/-- No field behind a field has its name.  Where several fields share a name, it is the last one
that fills placeholders. -/
def Field.IsLast (fields : List Field) (f : Field) : Prop :=
  ∃ before after, fields = before ++ f :: after ∧ ∀ g ∈ after, g.name ≠ f.name

/-- Looking through the fields from behind finds the last one of a name, and only that. -/
theorem Field.find?_reverse_eq_some_iff {fields : List Field} {name : String} {f : Field} :
    fields.reverse.find? (·.name = name) = some f ↔ f.name = name ∧ f.IsLast fields := by
  rw [List.find?_eq_some_iff_append, decide_eq_true_iff, Field.IsLast]
  refine and_congr_right fun hname => ⟨?_, ?_⟩
  · rintro ⟨after, before, hfields, hafter⟩
    refine ⟨before.reverse, after.reverse, ?_, fun g hg => ?_⟩
    · rw [← List.reverse_reverse fields, hfields]
      simp
    · simpa [hname] using hafter g (List.mem_reverse.1 hg)
  · rintro ⟨before, after, rfl, hafter⟩
    refine ⟨after.reverse, before.reverse, by simp, fun g hg => ?_⟩
    simpa [hname] using hafter g (List.mem_reverse.1 hg)

/-- The last field of its name is one of the fields. -/
theorem Field.IsLast.mem {fields : List Field} {f : Field} (h : f.IsLast fields) : f ∈ fields := by
  obtain ⟨before, after, rfl, -⟩ := h
  exact List.mem_append_right _ List.mem_cons_self

/-- Every field has a last one of its name, perhaps itself. -/
theorem Field.exists_isLast {fields : List Field} {g : Field} (hg : g ∈ fields) :
    ∃ f : Field, f.IsLast fields ∧ f.name = g.name := by
  have hsome : (fields.reverse.find? (·.name = g.name)).isSome = true :=
    List.find?_isSome.2 ⟨g, List.mem_reverse.2 hg, decide_eq_true rfl⟩
  obtain ⟨f, hf⟩ := Option.isSome_iff_exists.1 hsome
  obtain ⟨hname, hlast⟩ := find?_reverse_eq_some_iff.1 hf
  exact ⟨f, hlast, hname⟩

namespace Template

/-- What a placeholder of a name becomes: the value of the last field of this name between its
affixes, or nothing where it is hidden or empty, and itself where no field has the name. -/
inductive Fills (fields : List Field) (values : Values) : String → String → Prop where
  | shown {f : Field} (hlast : f.IsLast fields) (hgate : f.gate values = true)
      (hraw : f.rawText values ≠ "") :
      Fills fields values f.name (f.before.getD "" ++ f.rawText values ++ f.after.getD "")
  | nothing {f : Field} (hlast : f.IsLast fields)
      (h : f.gate values = false ∨ f.rawText values = "") : Fills fields values f.name ""
  | unknown {name : String} (h : ∀ f ∈ fields, f.name ≠ name) :
      Fills fields values name (braced name)

/-- The last field of a name is the one whose contribution is taken for the name. -/
theorem contribution?_of_isLast {fields : List Field} {f : Field} (h : f.IsLast fields)
    (values : Values) : contribution? fields values f.name = some (f.contribution values) := by
  rw [contribution?, Field.find?_reverse_eq_some_iff.2 ⟨rfl, h⟩]
  rfl

/-- **A placeholder becomes one text:** what the last field of its name contributes, or the
placeholder as it is written if there is no such field. -/
theorem fills_iff {fields : List Field} {values : Values} {name text : String} :
    Fills fields values name text ↔
      text = (contribution? fields values name).getD (braced name) := by
  constructor
  · intro h
    cases h with
    | shown hlast hgate hraw =>
      rw [contribution?_of_isLast hlast, Field.contribution]
      simp [hgate, hraw]
    | nothing hlast h =>
      rw [contribution?_of_isLast hlast, Field.contribution]
      rcases h with h | h <;> simp [h]
    | unknown h =>
      have hnone : fields.reverse.find? (·.name = name) = none :=
        List.find?_eq_none.2 fun f hf => by simpa using h f (List.mem_reverse.1 hf)
      rw [contribution?, hnone]
      rfl
  · rintro rfl
    cases hfind : fields.reverse.find? (·.name = name) with
    | none =>
      rw [contribution?, hfind]
      refine .unknown fun f hf => ?_
      simpa using List.find?_eq_none.1 hfind f (List.mem_reverse.2 hf)
    | some f =>
      obtain ⟨rfl, hlast⟩ := Field.find?_reverse_eq_some_iff.1 hfind
      rw [contribution?_of_isLast hlast, Option.getD_some, Field.contribution]
      by_cases hshown : f.gate values = true ∧ f.rawText values ≠ ""
      · simpa [hshown] using Fills.shown hlast hshown.1 hshown.2
      · have hnothing : f.gate values = false ∨ f.rawText values = "" := by
          rwa [not_and_or, Bool.not_eq_true, not_not] at hshown
        simpa [hshown] using Fills.nothing hlast hnothing

/-- The order of fields counts among fields of one name only, as what fills a placeholder depends on
the last of them. -/
theorem contribution?_congr {fields fields' : List Field} (values : Values) {name : String}
    (h : fields'.filter (·.name = name) = fields.filter (·.name = name)) :
    contribution? fields' values name = contribution? fields values name := by
  have hfind : fields'.reverse.find? (·.name = name) = fields.reverse.find? (·.name = name) := by
    rw [← List.head?_filter, ← List.head?_filter, List.filter_reverse, List.filter_reverse, h]
  rw [contribution?, contribution?, hfind]

end Template

/-- What a text becomes depends on what its placeholders become, and on the template and the
reduction, which are left the same here. -/
theorem Composer.compose_congr (c : Composer) {fields : List Field} {v w : Values}
    (h : ∀ name ∈ Template.placeholderNames c.template,
      Template.contribution? fields v name = Template.contribution? c.fields w name) :
    ({ c with fields := fields } : Composer).compose v = c.compose w := by
  rw [compose, compose]
  dsimp only
  rw [Template.substitute_congr h]

/-- **Filling a template is one substitution.**  The joined lines are cut at all their placeholders
in the one way there is.  Each placeholder becomes what the last field of its name contributes, or
stays as it is if no field has its name, and the text between is copied. -/
theorem Composer.compose_eq_filled (lines : List String) (fields : List Field) (values : Values) :
    ∃ (k : Template.Cutting) (fill : String → String),
      (∀ k' : Template.Cutting, k'.Cuts (Text.joinLines lines).toList ↔ k' = k) ∧
      (∀ name text, Template.Fills fields values name text ↔ text = fill name) ∧
      ((ofLines lines fields).withReduce (some false)).compose values =
        String.ofList (k.filled fill) ∧
      ((ofLines lines fields).withReduce (some true)).compose values =
        Template.reduceEmptyLines (String.ofList (k.filled fill)) ∧
      ∀ fields' : List Field,
        (∀ name, fields'.filter (·.name = name) = fields.filter (·.name = name)) →
          ∀ reduce, ((ofLines lines fields').withReduce reduce).compose values =
            ((ofLines lines fields).withReduce reduce).compose values := by
  obtain ⟨k, hk⟩ := Template.Cutting.existsUnique_cuts (Text.joinLines lines).toList
  have hfilled := ((hk k).2 rfl).substitute_eq (Template.contribution? fields values)
  refine ⟨k, _, hk, fun name text => Template.fills_iff, hfilled,
    congrArg Template.reduceEmptyLines hfilled, fun fields' hfields reduce => ?_⟩
  exact compose_congr ((ofLines lines fields).withReduce reduce) fun name _ =>
    Template.contribution?_congr values (hfields name)

/-- Two fields that have each other's placeholder as their values.  If filled text were looked at
again, this would never come to an end. -/
def Composer.crossedValues : Values :=
  .ofList [("a", .single "\x7bb\x7d"), ("b", .single "\x7ba\x7d")]

/-- A placeholder in a value is not filled, and the order of the two fields does not count. -/
theorem Composer.compose_crossedValues :
    let fields := [Field.ofKind "a" .text, Field.ofKind "b" .text]
    let lines := ["\x7b\x7ba\x7d \x7bc\x7d", "\x7bb\x7d"]
    (∀ name, fields.reverse.filter (·.name = name) = fields.filter (·.name = name)) ∧
      ((ofLines lines fields).withReduce (some false)).compose crossedValues =
        "\x7b\x7bb\x7d \x7bc\x7d\n\x7ba\x7d" ∧
      ∀ reduce, ((ofLines lines fields.reverse).withReduce reduce).compose crossedValues =
        ((ofLines lines fields).withReduce reduce).compose crossedValues := by
  intro fields lines
  have horder (name : String) :
      fields.reverse.filter (·.name = name) = fields.filter (·.name = name) := by
    by_cases ha : "a" = name
    · subst ha
      decide +kernel
    · by_cases hb : "b" = name
      · subst hb
        decide +kernel
      · simp [fields, Field.ofKind, ha, hb]
  obtain ⟨k, fill, -, -, -, -, hfields⟩ := compose_eq_filled lines fields crossedValues
  exact ⟨horder, by decide +kernel, hfields fields.reverse horder⟩

end CommitForm
