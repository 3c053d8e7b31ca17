/-
# The kinds of errors in YAML

Which failures to read a form from YAML are errors of the form and which are errors of the text.

| failure | kind |
| --- | --- |
| a fault of the text, a cut, too deep, too many aliases | malformed |
| a missing key, an unknown variant | schema |
| a wrong type | schema, and malformed at the very beginning of the text |
| a repeated key, no branch that fits, a number out of range | malformed |
| a tag or a value in the way of nothing | malformed, unless it quotes a message |

The kind is taken from the message, which holds texts of the document.  So a document that quotes
a message that is put in terms of forms may change it (`ReadError.Quotes`).
-/

import CommitForm.Proofs.Places

namespace CommitForm

/-! ## Occurrences of texts -/

namespace Text

variable {part text : List Char}

/-- A part can be dropped from the front of a text just if the text begins with it. -/
theorem isSome_dropStart?_iff : (dropStart? part text).isSome ↔ part <+: text := by
  refine ⟨fun h => ?_, fun ⟨rest, hrest⟩ => ?_⟩
  · obtain ⟨rest, hrest⟩ := Option.isSome_iff_exists.1 h
    exact ⟨rest, (eq_append_of_dropStart? hrest).symm⟩
  · rw [← hrest, dropStart?_append]
    rfl

/-- The first occurrence of a text is found, and any other one ends behind it. -/
theorem exists_behind? (part front rest : List Char) :
    ∃ more, behind? part (front ++ part ++ rest) = some (more ++ rest) := by
  induction front with
  | nil =>
    cases hpart : part ++ rest with
    | nil =>
      obtain ⟨rfl, rfl⟩ := List.append_eq_nil_iff.1 hpart
      exact ⟨[], rfl⟩
    | cons c cs =>
      refine ⟨[], ?_⟩
      rw [List.nil_append, hpart, behind?, ← hpart, dropStart?_append]
      rfl
  | cons c front ih =>
    obtain ⟨more, hmore⟩ := ih
    rw [List.cons_append, List.cons_append, behind?]
    split
    · next rest' hrest' =>
      have htext := eq_append_of_dropStart? hrest'
      have hlength := congrArg List.length htext
      have hrest : rest <:+ c :: (front ++ part ++ rest) := ⟨c :: (front ++ part), by simp⟩
      have hsuffix : rest <:+ rest' := by
        refine List.suffix_of_suffix_length_le hrest ⟨part, htext.symm⟩ ?_
        simp only [List.length_cons, List.length_append] at hlength
        omega
      obtain ⟨more', hmore'⟩ := hsuffix
      exact ⟨more', by rw [hmore']⟩
    · exact ⟨more, hmore⟩

/-- What is found behind a part is the end of a text that holds the part before it. -/
theorem eq_append_of_behind? {rest : List Char} (h : behind? part text = some rest) :
    ∃ front, text = front ++ part ++ rest := by
  induction text with
  | nil =>
    rw [behind?] at h
    split at h
    · next hpart =>
      obtain rfl := Option.some.inj h
      exact ⟨[], by rw [hpart]; rfl⟩
    · cases h
  | cons c cs ih =>
    rw [behind?] at h
    split at h
    · next hrest =>
      obtain rfl := Option.some.inj h
      exact ⟨[], eq_append_of_dropStart? hrest⟩
    · obtain ⟨front, hfront⟩ := ih h
      exact ⟨c :: front, by rw [hfront]; rfl⟩

/-- What stands before a part is found wherever the part occurs. -/
theorem isSome_before? (part front rest : List Char) :
    (before? part (front ++ part ++ rest)).isSome := by
  induction front with
  | nil =>
    cases hpart : part ++ rest with
    | nil =>
      obtain ⟨rfl, rfl⟩ := List.append_eq_nil_iff.1 hpart
      rfl
    | cons c cs =>
      rw [List.nil_append, hpart, before?, ← hpart, dropStart?_append]
      rfl
  | cons c front ih =>
    rw [List.cons_append, List.cons_append, before?]
    split
    · rfl
    · rw [Option.isSome_map]
      exact ih

/-- Whether a text holds a part and behind it another one, with anything between them. -/
def Encloses (text start stop : List Char) : Prop :=
  ∃ front inner rest, text = front ++ start ++ (inner ++ stop ++ rest)

/-- **What lies between two texts** is found where they occur one behind the other. -/
theorem isSome_between?_iff {text start stop : String} :
    (between? text start stop).isSome ↔ Encloses text.toList start.toList stop.toList := by
  rw [between?, Option.isSome_map]
  refine ⟨fun h => ?_, fun ⟨front, inner, rest, htext⟩ => ?_⟩
  · obtain ⟨inner, hinner⟩ := Option.isSome_iff_exists.1 h
    obtain ⟨rest, hrest, hbefore⟩ := Option.bind_eq_some_iff.1 hinner
    obtain ⟨front, hfront⟩ := eq_append_of_behind? hrest
    obtain ⟨rest', rfl⟩ := eq_append_of_before? hbefore
    exact ⟨front, inner, rest', hfront⟩
  · obtain ⟨more, hmore⟩ := exists_behind? start.toList front (inner ++ stop.toList ++ rest)
    rw [htext, hmore, Option.bind_some, ← List.append_assoc, ← List.append_assoc]
    exact isSome_before? stop.toList (more ++ inner) rest

/-- A text that encloses something holds the part that it begins with. -/
theorem Encloses.isInfix {text start stop : List Char} (h : Encloses text start stop) :
    start <:+: text := by
  obtain ⟨front, inner, rest, rfl⟩ := h
  exact ⟨front, inner ++ stop ++ rest, rfl⟩

/-- A text that lacks a character of either part encloses nothing between them. -/
theorem not_encloses_of_not_mem {text start stop : List Char} {c : Char}
    (hc : c ∈ start ++ stop) (htext : c ∉ text) : ¬ Encloses text start stop := by
  rintro ⟨front, inner, rest, rfl⟩
  simp only [List.mem_append] at hc htext
  tauto

/-- An occurrence up to a separator ends at the first separator or lies behind it. -/
theorem suffix_of_infix {c : Char} {p a b : List Char} (hp : c ∉ p) (ha : c ∉ a)
    (h : p ++ [c] <:+: a ++ c :: b) : p <:+ a ∨ p ++ [c] <:+: b := by
  obtain ⟨front, rest, htext⟩ := h
  rw [List.append_assoc, List.append_assoc, ← List.append_assoc front,
    List.singleton_append] at htext
  rcases List.append_eq_append_iff.1 htext with ⟨more, hmore, hrest⟩ | ⟨more, hmore, hrest⟩
  · cases more with
    | nil => exact .inl ⟨front, by simpa using hmore.symm⟩
    | cons d more =>
      obtain ⟨rfl, -⟩ := List.cons.inj hrest
      exact absurd (hmore ▸ by simp) ha
  · cases more with
    | nil => exact .inl ⟨front, by simpa using hmore⟩
    | cons d more =>
      obtain ⟨rfl, rfl⟩ := List.cons.inj hrest
      have hsuffix : p <:+ c :: more := by
        rcases List.suffix_or_suffix_of_suffix (List.suffix_append front p)
          (hmore ▸ List.suffix_append a (c :: more)) with h | h
        · exact h
        · exact absurd (h.subset List.mem_cons_self) hp
      rcases List.suffix_cons_iff.1 hsuffix with rfl | ⟨front', hfront'⟩
      · exact absurd List.mem_cons_self hp
      · exact .inr ⟨front', rest, by simp [← hfront']⟩

/-- A text without a character holds no part that ends with it. -/
theorem not_infix_of_not_mem {c : Char} {p a : List Char} (ha : c ∉ a) : ¬ p ++ [c] <:+: a :=
  fun h => ha (h.subset (List.mem_append_right p (List.mem_singleton_self c)))

/-- What does not end the text in front of the separator has no occurrence up to it there. -/
theorem not_suffix_append {p a last : List Char} (hlength : p.length ≤ last.length)
    (hlast : ¬ p <:+ last) : ¬ p <:+ a ++ last :=
  fun h => hlast (List.suffix_of_suffix_length_le h (List.suffix_append a last) hlength)

/-- A word between two separators that has no blank ends no occurrence of what has one. -/
theorem not_infix_of_between {c : Char} {p a last b rest : List Char} (hp : c ∉ p)
    (hblank : ' ' ∈ p) (ha : c ∉ a ++ last) (hlength : p.length ≤ last.length)
    (hlast : ¬ p <:+ last) (hb : c ∉ b) (hbblank : ' ' ∉ b) (hrest : c ∉ rest) :
    ¬ p ++ [c] <:+: a ++ last ++ c :: (b ++ c :: rest) := by
  intro h
  rcases suffix_of_infix hp ha h with h | h
  · exact not_suffix_append hlength hlast h
  · rcases suffix_of_infix hp hb h with h | h
    · exact hbblank (h.subset hblank)
    · exact not_infix_of_not_mem hrest h

end Text

/-! ## Messages about forms -/

namespace ReadError

/-- Whether a message holds one that is put in terms of forms: a missing field, an unknown variant
or a wrong type. -/
def Quotes (message : String) : Prop :=
  Text.Encloses message.toList "missing field `".toList "`".toList ∨
    Text.Encloses message.toList "unknown variant `".toList "`".toList ∨
      Text.Encloses message.toList "invalid type: ".toList ",".toList ∧
        Text.Encloses message.toList "expected ".toList " at".toList

/-- A message is put in terms of forms just if it holds one of the messages that can be. -/
theorem isSome_reworded?_iff {message : String} :
    (reworded? message).isSome ↔ Quotes message := by
  simp only [reworded?, Quotes, ← Text.isSome_between?_iff]
  cases Text.between? message "missing field `" "`" <;>
    cases Text.between? message "unknown variant `" "`" <;>
    cases Text.between? message "invalid type: " "," <;>
    cases Text.between? message "expected " " at" <;> simp

/-- How messages about forms begin, by which the kind of an error is told. -/
def formStarts : List String := ["missing required field", "unknown variant", "expected "]

/-- A message is about a form if it begins in one of these ways. -/
theorem isAboutForm_iff {message : String} :
    isAboutForm message ↔ ∃ start ∈ formStarts, start.toList <+: message.toList := by
  simp only [isAboutForm, List.any_eq_true, Text.isSome_dropStart?_iff, formStarts]

/-- What is put in terms of forms is about one, so both ways to the schema kind agree. -/
theorem isAboutForm_of_reworded? {message words : String} (h : reworded? message = some words) :
    isAboutForm words := by
  simp only [reworded?, Option.orElse_eq_orElse, Option.orElse_eq_or, Option.or_eq_some_iff] at h
  rcases h with h | ⟨-, h | ⟨-, h⟩⟩
  · obtain ⟨field, -, rfl⟩ := Option.map_eq_some_iff.1 h
    exact isAboutForm_iff.2 ⟨"missing required field", by decide,
      " '".toList ++ field.toList ++ "'".toList, by simp⟩
  · obtain ⟨variant, -, rfl⟩ := Option.map_eq_some_iff.1 h
    exact isAboutForm_iff.2 ⟨"unknown variant", by decide,
      " '".toList ++ variant.toList ++ "'".toList, by simp⟩
  · obtain ⟨found, -, h⟩ := Option.bind_eq_some_iff.1 h
    obtain ⟨wanted, -, h⟩ := Option.bind_eq_some_iff.1 h
    obtain rfl := Option.some.inj h
    exact isAboutForm_iff.2 ⟨"expected ", by decide,
      wanted.toList ++ ", but found ".toList ++ found.toList, by simp⟩

/-- A message that begins otherwise is not about a form; it is enough to compare as much of it as is
known. -/
theorem not_isAboutForm {message : String} {head : List Char} (h : head <+: message.toList)
    (hhead : ∀ start ∈ formStarts, ¬ start.toList <+: head ∧ ¬ head <+: start.toList) :
    ¬ isAboutForm message := by
  rw [isAboutForm_iff]
  rintro ⟨start, hmem, hstart⟩
  rcases List.prefix_or_prefix_of_prefix hstart h with h | h
  · exact (hhead start hmem).1 h
  · exact (hhead start hmem).2 h

/-- Without a quotation mark and one of the letters of a wrong type, nothing is quoted. -/
theorem not_quotes_of_not_mem {message : String} (hmark : '`' ∉ message.toList) {c : Char}
    (hc : c ∈ "invalid type: ,".toList) (hmessage : c ∉ message.toList) : ¬ Quotes message := by
  rintro (h | h | ⟨h, -⟩)
  · exact Text.not_encloses_of_not_mem (c := '`') (by decide) hmark h
  · exact Text.not_encloses_of_not_mem (c := '`') (by decide) hmark h
  · exact Text.not_encloses_of_not_mem hc hmessage h

end ReadError

namespace Yaml

open Document ReadError

/-- **The kind of a report** depends on what the message says, and on nothing else of the
failure. -/
theorem Failure.kind_report (f : Failure) (source : String) :
    ((f.report source).kind = .schema ↔ Quotes f.message ∨ isAboutForm f.message) ∧
      ((f.report source).kind = .malformed ↔ ¬ (Quotes f.message ∨ isAboutForm f.message)) := by
  have hkind : (f.report source).kind =
      if isAboutForm ((reworded? f.message).getD f.message) then .schema else .malformed := rfl
  rw [← isSome_reworded?_iff, hkind]
  cases h : reworded? f.message with
  | none => cases hm : isAboutForm f.message <;> simp [hm]
  | some words => simp [isAboutForm_of_reworded? h]

/-! ## Characters of messages -/

/-- The text of a number consists of digits, so it holds no other character that matters here. -/
theorem isDigit_of_mem_toString {n : Nat} {c : Char} (h : c ∈ (toString n).toList) :
    c.isDigit := by
  refine Nat.isDigit_of_mem_toDigits (b := 10) (n := n) (by decide) (by decide) ?_
  simpa [toString, Nat.repr] using h

/-- The phrase for a place consists of digits and a few fixed letters, so most characters are not in
it. -/
theorem mem_phrase {p : Place} {c : Char} (h : c ∈ p.phrase.toList) :
    c.isDigit ∨ c ∈ " at line column".toList := by
  rw [Place.phrase] at h
  split at h
  · cases h
  · simp only [String.toList_append, List.mem_append] at h
    rcases h with ((h | h) | h) | h
    · exact .inr ((by decide : " at line ".toList ⊆ " at line column".toList) h)
    · exact .inl (isDigit_of_mem_toString h)
    · exact .inr ((by decide : " column ".toList ⊆ " at line column".toList) h)
    · exact .inl (isDigit_of_mem_toString h)

/-- The characters of paths of words: letters, digits, dots, brackets and question marks. -/
def isPathChar (c : Char) : Bool := c.isAlphanum || ".[]?".toList.contains c

/-- The path to the value of a key is the key, or the path to the map with the key behind a dot. -/
theorem Path.text_entry (p : Path) (key : String) :
    (p.entry key).text = key ∨ (p.entry key).text = p.text ++ "." ++ key := by
  cases p with
  | root => exact .inl rfl
  | _ => exact .inr rfl

/-- The path to a value without a key is a question mark, or the path to the map with one behind a
dot. -/
theorem Path.text_unnamed (p : Path) :
    p.unnamed.text = "?" ∨ p.unnamed.text = p.text ++ ".?" := by
  cases p with
  | root => exact .inl rfl
  | _ => exact .inr rfl

/-- A path that leads by words consists of the characters of such paths, by induction on the
path. -/
theorem isPathChar_of_leads {words : List String}
    (hwords : ∀ w ∈ words, ∀ c ∈ w.toList, c.isAlphanum) {p : Path}
    (h : Path.root.Leads (Path.byWords words) p) : ∀ c ∈ p.text.toList, isPathChar c := by
  have hmark {mark : String} (h : mark.toList.all isPathChar = true) {c : Char}
      (hc : c ∈ mark.toList) : isPathChar c = true := List.all_eq_true.1 h c hc
  induction h with
  | here => exact fun c hc => hmark (by decide) hc
  | item _ index ih =>
    intro c hc
    simp only [Path.text, String.toList_append, List.mem_append] at hc
    rcases hc with ((hc | hc) | hc) | hc
    · exact ih c hc
    · exact hmark (by decide) hc
    · have hdigit := isDigit_of_mem_toString hc
      simp [isPathChar, Char.isAlphanum, hdigit]
    · exact hmark (by decide) hc
  | @entry p _ key hkey ih =>
    have hword (c : Char) (hc : c ∈ key.toList) : isPathChar c := by
      simp [isPathChar, hwords key (hkey key rfl) c hc]
    intro c hc
    rcases p.text_entry key with htext | htext
    · exact hword c (htext ▸ hc)
    · simp only [htext, String.toList_append, List.mem_append] at hc
      rcases hc with (hc | hc) | hc
      · exact ih c hc
      · exact hmark (by decide) hc
      · exact hword c hc
  | @unnamed p _ _ ih =>
    intro c hc
    rcases p.text_unnamed with htext | htext
    · exact hmark (by decide) (htext ▸ hc)
    · simp only [htext, String.toList_append, List.mem_append] at hc
      rcases hc with hc | hc
      · exact ih c hc
      · exact hmark (by decide) hc

/-- A path begins as the paths do that lead to it, so its first word can be told from any longer
one. -/
theorem prefix_of_leads {allowed : Option String → Prop} {p q : Path} (hp : p ≠ .root)
    (h : p.Leads allowed q) : q ≠ .root ∧ p.text.toList <+: q.text.toList := by
  induction h with
  | here => exact ⟨hp, List.prefix_rfl⟩
  | item _ index ih =>
    refine ⟨nofun, ih.2.trans ?_⟩
    simp [Path.text]
  | @entry q _ key _ ih =>
    refine ⟨nofun, ih.2.trans ?_⟩
    cases q with
    | root => exact absurd rfl ih.1
    | _ => simp [Path.text]
  | @unnamed q _ _ ih =>
    refine ⟨nofun, ih.2.trans ?_⟩
    cases q with
    | root => exact absurd rfl ih.1
    | _ => simp [Path.text]

/-- The label of a path is empty at the root, and otherwise the path with a colon behind it. -/
theorem Path.label_eq (p : Path) : p.label = "" ∨ p.label = p.text ++ ": " := by
  rw [Path.label]
  split
  · exact .inl rfl
  · exact .inr rfl

end Yaml

/-! ## The words of forms -/

namespace Form

open Document

/-- The keys and titles of the shape of forms, which are all that messages outside of choices are
made of. -/
def words : List String := [
  "template", "TemplateSource", "tokens", "fields", "reduceEmptyLines", "name", "label", "type",
  "description", "options", "multiple", "combobox", "separator", "prefix", "suffix", "value",
  "multiline", "monospace", "lines", "maxLines", "maxLength", "maxLineLength", "provider",
  "dependsOn", "linkedToken", "DependsOn", "matchExpression", "shown", "matchValue"]

/-- The shape of forms has no keys and titles but those that are listed. -/
theorem shape_knows : shape.Knows words := by
  simp [Form.shape, Field.shape, EnumOption.shape, optionalEntry, flagEntry, textOrList,
    Shape.Knows, Entry.Know, words]

/-- Keys and titles consist of letters and digits, so none of them can be mistaken for a part of a
message. -/
theorem isAlphanum_of_mem_words : ∀ w ∈ words, ∀ c ∈ w.toList, c.isAlphanum := by
  have h : words.all (fun w => w.toList.all Char.isAlphanum) = true := by decide
  simpa only [List.all_eq_true] using h

end Form

namespace Yaml

open Document ReadError

variable {m : Mismatch} {path : Path} {place : Place}

/-! ## Paths of mismatches of forms -/

/-- A path that is told begins with a word or with a question mark, never like a message about a
form. -/
theorem head_of_placedIn (h : PlacedIn Form.words .root m path) :
    path.label = "" ∨ ∃ head ∈ "?" :: Form.words, head.toList <+: path.label.toList := by
  obtain ⟨-, rfl | ⟨step, hstep, -, p, hp, hpath⟩⟩ := h
  · exact .inl rfl
  · have hroot : Path.root.next step ≠ .root := by cases step <;> nofun
    obtain ⟨hp0, hprefix⟩ := prefix_of_leads hroot hp
    have hprefix : (Path.root.next step).text.toList <+: path.text.toList := by
      rcases hpath with rfl | ⟨-, hpath⟩
      · exact hprefix
      · exact hprefix.trans (prefix_of_leads hp0 hpath).2
    rcases path.label_eq with hlabel | hlabel
    · exact .inl hlabel
    · right
      rw [hlabel, String.toList_append]
      have hlabel := hprefix.trans (List.prefix_append path.text.toList ": ".toList)
      cases step with
      | none => exact ⟨"?", List.mem_cons_self, hlabel⟩
      | some key => exact ⟨key, List.mem_cons_of_mem _ (hstep key rfl), hlabel⟩

/-- The path of a mismatch outside of choices is made of words, so it holds no other character. -/
theorem not_mem_text (h : PlacedIn Form.words .root m path) (hm : ¬ IsInner m) {c : Char}
    (hc : isPathChar c = false) : c ∉ path.text.toList := by
  have hleads : Path.root.Leads (Path.byWords Form.words) path := by
    obtain ⟨-, rfl | ⟨step, hstep, -, p, hp, rfl | ⟨hinner, -⟩⟩⟩ := h
    · exact .here
    · exact hp.trans (Path.leads_next hstep .root)
    · exact absurd hinner hm
  intro hmem
  rw [isPathChar_of_leads Form.isAlphanum_of_mem_words hleads c hmem] at hc
  cases hc

/-- The label of such a mismatch adds a colon and a blank to its path, and nothing else. -/
theorem not_mem_label (h : PlacedIn Form.words .root m path) (hm : ¬ IsInner m) {c : Char}
    (hc : isPathChar c = false) (hc' : c ∉ ": ".toList) : c ∉ path.label.toList := by
  rcases path.label_eq with hlabel | hlabel
  · rw [hlabel]
    exact List.not_mem_nil
  · rw [hlabel, String.toList_append, List.mem_append, not_or]
    exact ⟨not_mem_text h hm hc, hc'⟩

/-! ## Messages of mismatches -/

/-- The message of a placed mismatch is put together of the label, the message of the mismatch and
the phrase for the place. -/
theorem message_mismatch {message : String} (hm : m.message wording = message) (path : Path)
    (place : Place) :
    (Failure.mismatch m path place).message.toList =
      path.label.toList ++ message.toList ++ place.phrase.toList := by
  have hmessage : (Failure.mismatch m path place).message =
      path.label ++ m.message wording ++ place.phrase := rfl
  rw [hmessage, hm, String.toList_append, String.toList_append]

/-- The message of a missing field is always put in terms of forms. -/
theorem quotes_missing (key : String) (path : Path) (place : Place) :
    Quotes (Failure.mismatch (.missing key) path place).message := by
  refine .inl ⟨path.label.toList, key.toList, place.phrase.toList, ?_⟩
  have hm : (Mismatch.missing key).message wording = "missing field `" ++ key ++ "`" := rfl
  simp only [message_mismatch hm, String.toList_append, List.append_assoc]

/-- The message of an unknown variant is always put in terms of forms. -/
theorem quotes_unknownVariant (name : String) (known : List String) (path : Path) (place : Place) :
    Quotes (Failure.mismatch (.unknownVariant name known) path place).message := by
  refine .inr (.inl ⟨path.label.toList, name.toList,
    ", ".toList ++ (oneOf known).toList ++ place.phrase.toList, ?_⟩)
  have hm : (Mismatch.unknownVariant name known).message wording =
      "unknown variant `" ++ name ++ "`, " ++ oneOf known := rfl
  have hmark : "`, ".toList = "`".toList ++ ", ".toList := by decide
  simp only [message_mismatch hm, hmark, String.toList_append, List.append_assoc]

/-- The message of a wrong type is put in terms of forms if it tells a place, since the type that is
expected ends there. -/
theorem quotes_wrongType (found : Found) (expected : String) (path : Path)
    (hplace : place ≠ ⟨0, 0⟩) :
    Quotes (Failure.mismatch (.wrongType found expected) path place).message := by
  have hm : (Mismatch.wrongType found expected).message wording =
      "invalid type: " ++ found.describe wording ++ ", expected " ++ expected := rfl
  have hphrase : place.phrase = " at line " ++ toString (place.line + 1) ++ " column " ++
      toString (place.column + 1) := if_neg hplace
  have hat : " at line ".toList = " at".toList ++ " line ".toList := by decide
  have hmark : ", expected ".toList = ",".toList ++ " expected ".toList := by decide
  have hblank : " expected ".toList = " ".toList ++ "expected ".toList := by decide
  refine .inr (.inr ⟨⟨path.label.toList, (found.describe wording).toList,
    " expected ".toList ++ expected.toList ++ place.phrase.toList, ?_⟩,
    ⟨path.label.toList ++ "invalid type: ".toList ++ (found.describe wording).toList ++
        ",".toList ++ " ".toList, expected.toList, " line ".toList ++
        (toString (place.line + 1)).toList ++ " column ".toList ++
        (toString (place.column + 1)).toList, ?_⟩⟩)
  · simp only [message_mismatch hm, hmark, String.toList_append, List.append_assoc]
  · simp only [message_mismatch hm, hphrase, hmark, hblank, hat, String.toList_append,
      List.append_assoc]

/-- A character that is neither a digit nor one of the fixed letters is not in the phrase for a
place. -/
theorem not_mem_phrase {c : Char} (hdigit : c.isDigit = false) (hc : c ∉ " at line column".toList) :
    c ∉ place.phrase.toList := by
  intro h
  rcases mem_phrase h with h | h
  · rw [hdigit] at h
    cases h
  · exact hc h

/-- A character that is neither letter nor digit is in no key and in no title. -/
theorem not_mem_word {word : String} (hword : word ∈ Form.words) {c : Char}
    (hc : c.isAlphanum = false) : c ∉ word.toList := by
  intro hmem
  rw [Form.isAlphanum_of_mem_words word hword c hmem] at hc
  cases hc

/-- A message of which all but a name in quotation marks is known quotes nothing before it. -/
theorem not_infix_of_quoted (start last : String)
    (hstart : start ∈ ["missing field ", "unknown variant "])
    (hlast : last ∈ ["duplicate field ", "invalid value: integer "]) {front b rest : List Char}
    (hfront : '`' ∉ front) (hb : '`' ∉ b) (hblank : ' ' ∉ b)
    (hrest : '`' ∉ rest) :
    ¬ start.toList ++ ['`'] <:+: front ++ last.toList ++ '`' :: (b ++ '`' :: rest) := by
  have hknown : ∀ start ∈ ["missing field ", "unknown variant "],
      ∀ last ∈ ["duplicate field ", "invalid value: integer "],
        '`' ∉ start.toList ∧ ' ' ∈ start.toList ∧ '`' ∉ last.toList ∧
          start.toList.length ≤ last.toList.length ∧ ¬ start.toList <:+ last.toList := by decide
  obtain ⟨hmark, hsblank, hlmark, hlength, hsuffix⟩ := hknown start hstart last hlast
  refine Text.not_infix_of_between hmark hsblank ?_ hlength hsuffix hb hblank hrest
  simp [hfront, hlmark]

/-- The message of a repeated field is not put in terms of forms, although the key is told. -/
theorem not_quotes_repeated {key : String} (h : PlacedIn Form.words .root (.repeated key) path)
    (place : Place) : ¬ Quotes (Failure.mismatch (.repeated key) path place).message := by
  have hm : (Mismatch.repeated key).message wording = "duplicate field `" ++ key ++ "`" := rfl
  have hcomma : ',' ∉ path.label.toList ++ ("duplicate field `" ++ key ++ "`").toList ++
      place.phrase.toList := by
    simp only [String.toList_append, List.mem_append, not_or]
    exact ⟨⟨not_mem_label h id (by decide) (by decide), ⟨by decide, not_mem_word h.1 (by decide)⟩,
      by decide⟩, not_mem_phrase (by decide) (by decide)⟩
  have htext : path.label.toList ++ ("duplicate field `" ++ key ++ "`").toList ++
      place.phrase.toList = path.label.toList ++ "duplicate field ".toList ++
        '`' :: (key.toList ++ '`' :: place.phrase.toList) := by
    simp
  have hphrase : '`' ∉ place.phrase.toList := not_mem_phrase (by decide) (by decide)
  have hinfix (start : String) (hstart : start ∈ ["missing field ", "unknown variant "]) :=
    not_infix_of_quoted start "duplicate field " hstart (by decide)
      (not_mem_label h id (by decide) (by decide)) (not_mem_word h.1 (by decide))
      (not_mem_word h.1 (by decide)) hphrase
  rw [Quotes, message_mismatch hm]
  rintro (hq | hq | ⟨hq, -⟩)
  · exact hinfix "missing field " (by decide) (htext ▸ hq.isInfix)
  · exact hinfix "unknown variant " (by decide) (htext ▸ hq.isInfix)
  · exact Text.not_encloses_of_not_mem (c := ',') (by decide) hcomma hq

/-- The message that no branch fits is not put in terms of forms, although the title is told. -/
theorem not_quotes_noBranch {title : String} (h : PlacedIn Form.words .root (.noBranch title) path)
    (place : Place) : ¬ Quotes (Failure.mismatch (.noBranch title) path place).message := by
  have hm : (Mismatch.noBranch title).message wording =
      "data did not match any variant of untagged enum " ++ title := rfl
  have hmem {c : Char} (hc : isPathChar c = false) (hc' : c ∉ ": ".toList)
      (halnum : c.isAlphanum = false) (hdigit : c.isDigit = false)
      (hm' : c ∉ "data did not match any variant of untagged enum ".toList)
      (hphrase : c ∉ " at line column".toList) :
      c ∉ (Failure.mismatch (.noBranch title) path place).message.toList := by
    simp only [message_mismatch hm, String.toList_append, List.mem_append, not_or]
    exact ⟨⟨not_mem_label h id hc hc', hm', not_mem_word h.1 halnum⟩,
      not_mem_phrase hdigit hphrase⟩
  exact not_quotes_of_not_mem (c := ',')
    (hmem (by decide) (by decide) (by decide) (by decide) (by decide) (by decide)) (by decide)
    (hmem (by decide) (by decide) (by decide) (by decide) (by decide) (by decide))

/-- The text of a whole number consists of digits and perhaps a minus sign. -/
theorem isDigit_of_mem_toString_int {n : Int} {c : Char} (h : c ∈ (toString n).toList) :
    c.isDigit ∨ c = '-' := by
  cases n with
  | ofNat n => exact .inl (isDigit_of_mem_toString h)
  | negSucc n =>
    have htext : toString (Int.negSucc n) = "-" ++ toString (n + 1) := rfl
    rw [htext, String.toList_append, List.mem_append] at h
    rcases h with h | h
    · exact .inr (List.mem_singleton.1 h)
    · exact .inl (isDigit_of_mem_toString h)

/-- A character that is neither a digit nor a minus sign is not in the text of a number. -/
theorem not_mem_number {n : Int} {c : Char} (hdigit : c.isDigit = false) (hc : c ≠ '-') :
    c ∉ (toString n).toList := by
  intro h
  rcases isDigit_of_mem_toString_int h with h | h
  · rw [hdigit] at h
    cases h
  · exact hc h

/-- A wrong value is no wrong type: the words before the colon differ, and there is no other colon
behind a blank. -/
theorem not_infix_of_wrongValue {text rest : List Char} (hblank : ' ' ∉ text) (hcolon : ':' ∉ text)
    {label : List Char} (hlabel : label = [] ∨ label = text ++ ": ".toList) (hrest : ':' ∉ rest) :
    ¬ "invalid type".toList ++ [':'] <:+: label ++ "invalid value".toList ++ ':' :: rest := by
  have hvalue {value : List Char}
      (hvalue : value ∈ ["invalid value".toList, " invalid value".toList]) :
      ¬ "invalid type".toList ++ [':'] <:+: value ++ ':' :: rest := by
    have hknown : ∀ value ∈ ["invalid value".toList, " invalid value".toList],
        ':' ∉ value ∧ ¬ "invalid type".toList <:+ value := by decide
    intro h
    rcases Text.suffix_of_infix (by decide) (hknown value hvalue).1 h with h | h
    · exact (hknown value hvalue).2 h
    · exact Text.not_infix_of_not_mem hrest h
  intro h
  rcases hlabel with rfl | rfl
  · exact hvalue (by decide) h
  · have htext : text ++ ": ".toList ++ "invalid value".toList ++ ':' :: rest =
        text ++ ':' :: (" invalid value".toList ++ ':' :: rest) := by simp
    rcases Text.suffix_of_infix (by decide) hcolon (htext ▸ h) with h | h
    · exact hblank (h.subset (by decide))
    · exact hvalue (by decide) h

/-- The message of a number out of range is not put in terms of forms, although it tells what was
expected. -/
theorem not_quotes_wrongCount {n : Int} {expected : String}
    (h : PlacedIn Form.words .root (.wrongValue (.whole n) expected) path) (place : Place) :
    ¬ Quotes (Failure.mismatch (.wrongValue (.whole n) expected) path place).message := by
  obtain rfl : expected = "u32" := h.1
  have hm : (Mismatch.wrongValue (.whole n) "u32").message wording =
      "invalid value: " ++ ("integer `" ++ toString n ++ "`") ++ ", expected " ++ "u32" := rfl
  have hphrase {c : Char} (hdigit : c.isDigit = false) (hc : c ∉ " at line column".toList) :
      c ∉ place.phrase.toList := not_mem_phrase hdigit hc
  have htext : path.label.toList ++ ("invalid value: " ++ ("integer `" ++ toString n ++ "`") ++
      ", expected " ++ "u32").toList ++ place.phrase.toList =
      path.label.toList ++ "invalid value: integer ".toList ++ '`' :: ((toString n).toList ++
        '`' :: (", expected u32".toList ++ place.phrase.toList)) := by
    simp
  have htext' : path.label.toList ++ ("invalid value: " ++ ("integer `" ++ toString n ++ "`") ++
      ", expected " ++ "u32").toList ++ place.phrase.toList =
      path.label.toList ++ "invalid value".toList ++ ':' :: (" integer `".toList ++
        (toString n).toList ++ "`, expected u32".toList ++ place.phrase.toList) := by
    simp
  have hnumber {c : Char} (hdigit : c.isDigit = false) (hc : c ≠ '-') : c ∉ (toString n).toList :=
    not_mem_number hdigit hc
  have hrest : '`' ∉ ", expected u32".toList ++ place.phrase.toList := by
    simp only [List.mem_append, not_or]
    exact ⟨by decide, hphrase (by decide) (by decide)⟩
  have hinfix (start : String) (hstart : start ∈ ["missing field ", "unknown variant "]) :=
    not_infix_of_quoted start "invalid value: integer " hstart (by decide)
      (not_mem_label h id (by decide) (by decide)) (hnumber (by decide) (by decide))
      (hnumber (by decide) (by decide)) hrest
  rw [Quotes, message_mismatch hm]
  rintro (hq | hq | ⟨hq, -⟩)
  · exact hinfix "missing field " (by decide) (htext ▸ hq.isInfix)
  · exact hinfix "unknown variant " (by decide) (htext ▸ hq.isInfix)
  · have hlabel : path.label.toList = [] ∨
        path.label.toList = path.text.toList ++ ": ".toList := by
      rcases path.label_eq with hlabel | hlabel
      · exact .inl (by rw [hlabel]; rfl)
      · exact .inr (by rw [hlabel, String.toList_append])
    refine not_infix_of_wrongValue (not_mem_text h id (by decide)) (not_mem_text h id (by decide))
      hlabel ?_ (htext' ▸ (List.IsPrefix.isInfix ⟨" ".toList, by decide⟩).trans hq.isInfix)
    simp only [List.mem_append, not_or]
    exact ⟨⟨⟨by decide, hnumber (by decide) (by decide)⟩, by decide⟩,
      hphrase (by decide) (by decide)⟩

/-! ## Which mismatches are told as errors of the form -/

/-- Whether a mismatch is told as an error of the form, by its case and, where texts are quoted, by
what they hold. -/
def IsTold (m : Mismatch) (path : Path) (place : Place) : Prop :=
  match m with
  | .missing _ | .unknownVariant _ _ => True
  | .repeated _ | .noBranch _ | .wrongValue (.whole _) _ => False
  | .wrongType _ _ => place ≠ ⟨0, 0⟩ ∨ Quotes (Failure.mismatch m path place).message
  | .wrongValue _ _ | .wrongLength _ _ | .taggedBranch =>
    Quotes (Failure.mismatch m path place).message

/-- How the messages of mismatches begin that are told by what they quote, in place of their own
words. -/
def quotingHeads : List String := [
  "duplicate field `", "data did not match any variant of untagged enum ", "invalid type: ",
  "invalid value: ", "invalid length ",
  "untagged and internally tagged enums do not support enum input"]

/-- The message of such a mismatch does not begin like one about a form, whatever its path is. -/
theorem not_isAboutForm_mismatch (h : PlacedIn Form.words .root m path) (place : Place)
    (head rest : String) (hhead : head ∈ quotingHeads) (hm : m.message wording = head ++ rest) :
    ¬ isAboutForm (Failure.mismatch m path place).message := by
  have hwords : ∀ head ∈ quotingHeads ++ "?" :: Form.words, ∀ start ∈ formStarts,
      ¬ start.toList <+: head.toList ∧ ¬ head.toList <+: start.toList := by decide
  have htext := message_mismatch hm path place
  rcases head_of_placedIn h with hlabel | ⟨word, hword, hlabel⟩
  · refine not_isAboutForm ?_ (hwords head (List.mem_append_left _ hhead))
    exact ⟨rest.toList ++ place.phrase.toList, by simp [htext, hlabel]⟩
  · refine not_isAboutForm ?_ (hwords word (List.mem_append_right _ hword))
    rw [htext, List.append_assoc]
    exact hlabel.trans (List.prefix_append _ _)

/-- **Whether a mismatch is told as an error of the form** is decided case by case, for mismatches
that the shape of forms can have. -/
theorem isTold_iff (h : PlacedIn Form.words .root m path) (place : Place) :
    Quotes (Failure.mismatch m path place).message ∨
      isAboutForm (Failure.mismatch m path place).message ↔ IsTold m path place := by
  have hform := not_isAboutForm_mismatch h place
  cases m with
  | missing key => exact ⟨fun _ => trivial, fun _ => .inl (quotes_missing key path place)⟩
  | unknownVariant name known =>
    exact ⟨fun _ => trivial, fun _ => .inl (quotes_unknownVariant name known path place)⟩
  | repeated key =>
    rw [or_iff_left (hform "duplicate field `" _ (by decide) String.append_assoc)]
    exact iff_of_false (not_quotes_repeated h place) id
  | noBranch title =>
    rw [or_iff_left (hform "data did not match any variant of untagged enum " title (by decide)
      rfl)]
    exact iff_of_false (not_quotes_noBranch h place) id
  | wrongType found expected =>
    have hm : (Mismatch.wrongType found expected).message wording =
        "invalid type: " ++ (found.describe wording ++ (", expected " ++ expected)) := by
      rw [← String.append_assoc, ← String.append_assoc]
      rfl
    rw [or_iff_left (hform _ _ (by decide) hm)]
    refine ⟨.inr, fun hq => hq.elim (fun hplace => ?_) id⟩
    exact quotes_wrongType found expected path hplace
  | wrongValue found expected =>
    have hm : (Mismatch.wrongValue found expected).message wording =
        "invalid value: " ++ (found.describe wording ++ (", expected " ++ expected)) := by
      rw [← String.append_assoc, ← String.append_assoc]
      rfl
    rw [or_iff_left (hform _ _ (by decide) hm)]
    cases found with
    | whole n => exact iff_of_false (not_quotes_wrongCount h place) id
    | _ => rfl
  | wrongLength found expected =>
    have hm : (Mismatch.wrongLength found expected).message wording =
        "invalid length " ++ (toString found ++ (", expected " ++ expected)) := by
      rw [← String.append_assoc, ← String.append_assoc]
      rfl
    rw [or_iff_left (hform _ _ (by decide) hm)]
    rfl
  | taggedBranch =>
    rw [or_iff_left (hform "untagged and internally tagged enums do not support enum input" ""
      (by decide) rfl)]
    rfl

/-! ## Other failures -/

/-- A message without the quoting mark and without one of the letters of the wrong type holds
nothing that is put in terms of forms. -/
theorem not_quotes_of_phrase {message : String} (hmark : '`' ∉ message.toList) {c : Char}
    (hc : c ∈ "vdyp:".toList) (hmessage : c ∉ message.toList) (place : Place) :
    ¬ Quotes (message ++ place.phrase) := by
  have hletters : "vdyp:".toList.all (fun c => decide (c ∈ "invalid type: ,".toList ∧
      c.isDigit = false ∧ c ∉ " at line column".toList)) = true := by decide
  obtain ⟨hletter, hdigit, hphrase⟩ := of_decide_eq_true (List.all_eq_true.1 hletters c hc)
  refine not_quotes_of_not_mem ?_ hletter ?_
  · rw [String.toList_append, List.mem_append, not_or]
    exact ⟨hmark, not_mem_phrase (by decide) (by decide)⟩
  · rw [String.toList_append, List.mem_append, not_or]
    exact ⟨hmessage, not_mem_phrase hdigit hphrase⟩

/-- A message of the text's form and a place are not about a form. -/
def IsFormal (message : String) : Prop :=
  '`' ∉ message.toList ∧ (∃ c ∈ "vdyp:".toList, c ∉ message.toList) ∧
    ∀ start ∈ formStarts, ¬ start.toList <+: message.toList ∧ ¬ message.toList <+: start.toList

instance (message : String) : Decidable (IsFormal message) :=
  have : Decidable (∃ c ∈ "vdyp:".toList, c ∉ message.toList) := List.decidableBEx _ _
  inferInstanceAs (Decidable (_ ∧ _ ∧ _))

/-- A fault of the text's form is never told as an error of the form, wherever it is. -/
theorem not_told_of_isFormal {message : String} (h : IsFormal message) (place : Place) :
    ¬ (Quotes (message ++ place.phrase) ∨ isAboutForm (message ++ place.phrase)) := by
  obtain ⟨hmark, ⟨c, hc, hmessage⟩, hstarts⟩ := h
  rintro (hq | hform)
  · exact not_quotes_of_phrase hmark hc hmessage place hq
  · refine not_isAboutForm ?_ hstarts hform
    rw [String.toList_append]
    exact List.prefix_append _ _

/-- The form of a text is seen from its characters, which lets every message of a fault be checked
by computing. -/
theorem isFormal_ofList {cs : List Char} (hmark : '`' ∉ cs)
    (hletter : ['v', 'd', 'y', 'p', ':'].any (!cs.contains ·) = true)
    (hstarts : ∀ start ∈ formStarts.map String.toList, ¬ start <+: cs ∧ ¬ cs <+: start) :
    IsFormal (String.ofList cs) := by
  rw [IsFormal, String.toList_ofList]
  exact ⟨hmark, by simpa using hletter, fun start h => hstarts _ (List.mem_map_of_mem h)⟩

/-- The message of every fault of a text's form is formal, fault by fault. -/
theorem isFormal_of_fault (fault : Fault) : IsFormal fault.message := by
  cases fault <;> exact isFormal_ofList (by decide) (by decide) (by decide)

/-- A failure without a mismatch is not told as an error of the form. -/
theorem not_told_of_failure {f : Failure} (hm : ∀ m path place, f ≠ .mismatch m path place)
    (hu : ∀ m, f ≠ .unplaced m) : ¬ (Quotes f.message ∨ isAboutForm f.message) := by
  have hplain {message : String} (h : IsFormal message) :
      ¬ (Quotes message ∨ isAboutForm message) := by
    have hplace := not_told_of_isFormal h ⟨0, 0⟩
    rwa [show message ++ (⟨0, 0⟩ : Place).phrase = message from String.append_empty] at hplace
  match f with
  | .fault e => exact not_told_of_isFormal (isFormal_of_fault e.fault) e.place
  | .cut => exact hplain (by decide : IsFormal "EOF while parsing a value")
  | .tooDeep place =>
    exact not_told_of_isFormal (by decide : IsFormal "recursion limit exceeded") place
  | .tooManyAliases => exact hplain (by decide : IsFormal "repetition limit exceeded")
  | .mismatch m path place => exact absurd rfl (hm m path place)
  | .unplaced m => exact absurd rfl (hu m)

end Yaml

/-! ## The kinds of both readers -/

namespace Form

open Document

/-- The kind of the error that reading a form ends in, or none if a form is read. -/
def errorKind? : Except ReadError Form → Option ReadErrorKind
  | .ok _ => none
  | .error e => some e.kind

/-- What reading a form from YAML answers: a datum of its shape, a mismatch at a path of its words,
or a failure of another kind. -/
theorem answers_readYaml (text : String) :
    (∀ d, Yaml.read shape text = .ok d → d.HasShape shape) ∧
      (∀ m path place, Yaml.read shape text = .error (.mismatch m path place) →
        Yaml.PlacedIn words .root m path) ∧
      ∀ m, Yaml.read shape text ≠ .error (.unplaced m) := by
  have hanswers {es : List Entry} (hes : Entry.Know words es) (hsound : Entry.AreSound es)
      (title : String) (source : Yaml.Source) :
      Yaml.Answers (Datum.HasShape (.record title es)) (fun _ => False)
        (Yaml.PlacedIn words .root)
        (Yaml.readShape (.record title es) source ⟨source.root, .root, Yaml.maxDepth⟩ 0) :=
    Yaml.readRecord_answers (Yaml.slotsOf_slotFor es hes hsound) title source _ 0
  have hform := hanswers shape_knows shape_isSound "FormDefinition" (.ofText text)
  change Yaml.Answers (Datum.HasShape shape) _ _
    (Yaml.readShape shape _ ⟨(Yaml.Source.ofText text).root, .root, Yaml.maxDepth⟩ 0) at hform
  rw [Yaml.read, Yaml.Source.read]
  split
  · next d _ he _ =>
    rw [he] at hform
    exact ⟨fun d' h => Except.ok.inj h ▸ hform, nofun, nofun⟩
  · exact ⟨nofun, nofun, nofun⟩
  · exact ⟨nofun, nofun, nofun⟩
  · next f he _ =>
    rw [he] at hform
    refine ⟨nofun, fun m path place h => ?_, fun m h => ?_⟩
    · obtain rfl := Except.error.inj h
      exact hform
    · obtain rfl := Except.error.inj h
      exact hform

/-- **The kind of an error in YAML,** by the failure that the reader reports. -/
theorem errorKind?_ofYaml (text : String) :
    errorKind? (ofYaml text) =
      match Yaml.read shape text with
      | .error f => some (f.report text).kind
      | .ok _ => none := by
  rw [ofYaml]
  cases hread : Yaml.read shape text with
  | error f => rfl
  | ok d =>
    obtain ⟨form, hform⟩ := exists_ofDatum? ((answers_readYaml text).1 d hread)
    simp only [hform, errorKind?]

/-- The kind of an error in JSON: a mismatch is one of the schema and all else one of the text. -/
theorem errorKind?_ofJson (text : String) :
    errorKind? (ofJson text) =
      match Json.read shape text with
      | .error e => some (if e.fault.isFormal then .malformed else .schema)
      | .ok _ => none := by
  rw [ofJson]
  cases hread : Json.read shape text with
  | error e => rfl
  | ok d =>
    obtain ⟨form, hform⟩ := exists_ofDatum? (Json.hasShape_of_read shape_isSound hread)
    simp only [hform, errorKind?]

/-- **The kinds of errors in both formats**, for all texts.  In JSON the kind tells mismatches from
faults of the text.  In YAML only some of the mismatches are told as errors of the form. -/
theorem errorKind_iff (text : String) :
    (errorKind? (ofYaml text) = some .schema ↔
      ∃ m path place, Yaml.read shape text = .error (.mismatch m path place) ∧
        Yaml.IsTold m path place) ∧
    (errorKind? (ofYaml text) = some .malformed ↔
      ∃ f, Yaml.read shape text = .error f ∧
        ∀ m path place, f = .mismatch m path place → ¬ Yaml.IsTold m path place) ∧
    (errorKind? (ofJson text) = some .schema ↔
      ∃ m position, Json.read shape text = .error ⟨.mismatch m, position⟩) ∧
    (errorKind? (ofJson text) = some .malformed ↔
      ∃ fault position, Json.read shape text = .error ⟨fault, position⟩ ∧ fault.isFormal) := by
  obtain ⟨-, hplaced, hunplaced⟩ := answers_readYaml text
  have htold {f : Yaml.Failure} (hf : Yaml.read shape text = .error f) :
      ReadError.Quotes f.message ∨ ReadError.isAboutForm f.message ↔
        ∃ m path place, f = .mismatch m path place ∧ Yaml.IsTold m path place := by
    by_cases hm : ∃ m path place, f = .mismatch m path place
    · obtain ⟨m, path, place, rfl⟩ := hm
      rw [Yaml.isTold_iff (hplaced m path place hf)]
      refine ⟨fun h => ⟨m, path, place, rfl, h⟩, ?_⟩
      rintro ⟨m', path', place', he, h⟩
      obtain ⟨rfl, rfl, rfl⟩ := Yaml.Failure.mismatch.inj he
      exact h
    · refine iff_of_false (Yaml.not_told_of_failure (fun m path place he => ?_) fun m he => ?_) ?_
      · exact hm ⟨m, path, place, he⟩
      · exact hunplaced m (he ▸ hf)
      · rintro ⟨m, path, place, he, -⟩
        exact hm ⟨m, path, place, he⟩
  rw [errorKind?_ofYaml, errorKind?_ofJson]
  refine ⟨?_, ?_, ?_, ?_⟩
  · cases hread : Yaml.read shape text with
    | ok d => simp
    | error f =>
      simp only [Option.some.injEq, Except.error.injEq, (f.kind_report text).1, htold hread]
  · cases hread : Yaml.read shape text with
    | ok d => simp
    | error f =>
      simp only [Option.some.injEq, Except.error.injEq, (f.kind_report text).2, htold hread,
        exists_eq_left', not_exists, not_and]
  · rcases hread : Json.read shape text with e | d
    · obtain ⟨fault, position⟩ := e
      cases fault <;> simp [Json.Fault.isFormal]
    · simp
  · rcases hread : Json.read shape text with e | d
    · obtain ⟨fault, position⟩ := e
      cases fault <;> simp [Json.Fault.isFormal]
    · simp

/-- A document with a repeated key, which both formats refuse, but not as the same kind. -/
def repeatedKey : String := "\x7b\"tokens\":[],\"tokens\":[]\x7d"

/-- A repeated key is a mismatch in both formats, but in YAML it is told as a fault of the text. -/
theorem errorKind_repeatedKey :
    (Yaml.Source.ofText repeatedKey).faultOf = none ∧
      errorKind? (ofJson repeatedKey) = some .schema ∧
      errorKind? (ofYaml repeatedKey) = some .malformed := by
  decide +kernel

end Form
end CommitForm
