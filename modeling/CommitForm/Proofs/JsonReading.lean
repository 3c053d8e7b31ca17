/-
# Reading JSON texts

Reading a text of a value along a shape gives the datum of the value, and fails if the value has
none (`read_isTextOf`).  So it does not matter how the text writes the value.

Each kind of shape reads as its decoder where enough brackets may be opened (`ReadsAs`).
-/

import CommitForm.Proofs.Data
import CommitForm.Proofs.JsonContent

namespace CommitForm
namespace Json

open Document

variable {ls : List Lexeme} {c : Cursor}

/-! ## Scalars -/

/-- The first lexeme of a value, which is all that a reader looks at before it decides. -/
def Value.head : Value → Lexeme
  | .null => .null
  | .flag b => .flag b
  | .number cs => .number cs
  | .text s => .text s
  | .list _ => .listStart
  | .object _ => .objectStart

/-- A character that a value begins with, and what it tells of the value. -/
structure Value.Starts (v : Value) (a : Char) : Prop where
  quote : a = '"' ↔ ∃ s, v = .text s
  bracket : a = '[' ↔ ∃ vs, v = .list vs
  brace : a = '\x7b' ↔ ∃ bs, v = .object bs
  null : a = 'n' ↔ v = .null
  on : a = 't' ↔ v = .flag true
  off : a = 'f' ↔ v = .flag false
  number : a = '-' ∨ a.isDigit ↔ ∃ cs, v = .number cs

/-- What the first lexeme of a value begins with is what the value begins with. -/
theorem Value.starts {v : Value} {a : Char} (h : v.head.StartsWith a) : v.Starts a := by
  have hnumber {a : Char} (h : a = '-' ∨ a.isDigit) :
      a ≠ '"' ∧ a ≠ '[' ∧ a ≠ '\x7b' ∧ a ≠ 'n' ∧ a ≠ 't' ∧ a ≠ 'f' := by
    refine ⟨?_, ?_, ?_, ?_, ?_, ?_⟩ <;> (rintro rfl; revert h; decide)
  cases v with
  | number cs =>
    obtain ⟨h₁, h₂, h₃, h₄, h₅, h₆⟩ := hnumber h
    constructor <;> simp [h₁, h₂, h₃, h₄, h₅, h₆, show a = '-' ∨ a.isDigit from h]
  | flag b => cases b <;> (obtain rfl : a = _ := h; constructor <;> simp)
  | _ => obtain rfl : a = _ := h; constructor <;> simp

/-- Where a value follows, the next character behind the blanks is one that it begins with. -/
theorem Follow.starts {v : Value} (h : Follow (v.lexemes ++ ls) c) :
    ∃ a, c.skipBlanks.peek = some a ∧ v.Starts a := by
  obtain ⟨a, hpeek, ha⟩ : ∃ a, c.skipBlanks.peek = some a ∧ v.head.StartsWith a := by
    cases v <;> exact Follow.peek h
  exact ⟨a, hpeek, Value.starts ha⟩

/-- Reading any value is reading by its first character, behind the blanks. -/
theorem readValue_eq {α : Type} {read : Char → Cursor → Outcome α} {a : Char}
    (h : c.skipBlanks.peek = some a) : readValue read c = read a c.skipBlanks := by
  rw [readValue, h]

/-- A value of the wrong type is always a failure; at which place depends on the text. -/
theorem wrongType_fails {α : Type} (expected : String) (c : Cursor) :
    ∃ e, (wrongType expected c : Outcome α) = .error e := by
  rw [wrongType]
  dsimp only
  repeat' split
  all_goals exact ⟨_, rfl⟩

/-- Reading a text agrees with the text of a value, and fails for every value that is none. -/
theorem readText_agrees (expected : String) (v : Value) :
    AgreesOn v (decodeText v) (readText expected) := by
  intro ls c _ h
  obtain ⟨a, hpeek, ha⟩ := h.starts
  rw [readText, readValue_eq hpeek]
  split
  · next hquote =>
    obtain ⟨s, rfl⟩ := ha.quote.1 hquote
    obtain ⟨-, body, rest, hbody, hspells, hrest⟩ := Follow.text h
    exact .of_leaves (readString_leaves hspells hbody) hrest
  · next hquote =>
    have hnone : decodeText v = none := by
      cases v with
      | text s => exact absurd (ha.quote.2 ⟨s, rfl⟩) hquote
      | _ => rfl
    rw [hnone]
    exact wrongType_fails expected _

/-- Reading a flag agrees with the flag of a value, and fails for every value that is none. -/
theorem readFlag_agrees (v : Value) : AgreesOn v (decodeFlag v) readFlag := by
  intro ls c _ h
  obtain ⟨a, hpeek, ha⟩ := h.starts
  rw [readFlag, readValue_eq hpeek]
  split
  · next hon =>
    obtain rfl := ha.on.1 hon
    obtain ⟨-, rest, hword, hrest⟩ := Follow.word h rfl
    exact .of_leaves ((readWord_leaves hword).map fun _ => Datum.flag true) hrest
  · next hon =>
    split
    · next hoff =>
      obtain rfl := ha.off.1 hoff
      obtain ⟨-, rest, hword, hrest⟩ := Follow.word h rfl
      exact .of_leaves ((readWord_leaves hword).map fun _ => Datum.flag false) hrest
    · next hoff =>
      have hnone : decodeFlag v = none := by
        rcases v with _ | (_ | _) | _ | _ | _ | _
        · rfl
        · exact absurd (ha.off.2 rfl) hoff
        · exact absurd (ha.on.2 rfl) hon
        all_goals rfl
      rw [hnone]
      exact wrongType_fails _ _

/-- A number beyond 64 bits is no count, which is what decides where the reader has no room for
it. -/
theorem countOf_large {n : Nat} (h : maxWord < n) : (countOf n).toOption = none := by
  have hmax : Nat.pow 2 32 ≤ maxWord := by decide
  have hlarge : ¬ (0 ≤ (n : Int) ∧ (n : Int) < (Nat.pow 2 32 : Nat)) := by omega
  rw [countOf, if_neg hlarge]
  rfl

/-- A number that was read as it is written is counted as it is decoded. -/
theorem countRead_of_leaves {n : Numeral} {counted : Except Mismatch Datum}
    (hn : countOfNumeral n = counted) {rest : List Char} {r : Outcome Numeral}
    (h : Leaves r n rest) (hrest : Written Spells ls rest) :
    Agrees ls counted.toOption (countRead r) := by
  obtain ⟨c, rfl, rfl⟩ := h
  simp only [countRead, hn]
  cases counted with
  | ok d => exact ⟨c, rfl, hrest⟩
  | error m => exact ⟨_, rfl⟩

/-- A number that is no count is refused, whether it was read or not. -/
theorem countRead_of_stops {rest : List Char} {r : Outcome Numeral}
    (h : Stops IsNoCount rest r) : ∃ e, countRead r = .error e := by
  cases hr : r with
  | error e => exact ⟨e, rfl⟩
  | ok x =>
    obtain ⟨n, c⟩ := x
    have hn := (h n c hr).1
    rw [countRead]
    cases hd : countOfNumeral n with
    | ok d => exact absurd hd (hn d)
    | error m => exact ⟨_, rfl⟩

/-- A whole number is counted if it is below `2 ^ 32`; no other number is. -/
theorem countRead_agrees {positive : Bool} {whole fraction exponent rest : List Char}
    (hwhole : IsWhole whole) (hfraction : IsFraction fraction) (hexponent : IsExponent exponent)
    (hls : EndsValue ls) (hrest : Written Spells ls rest)
    (h : c.rest = whole ++ (fraction ++ (exponent ++ rest))) {o : Option Datum}
    {counted : Except Mismatch Datum}
    (hcounted : countOfNumeral (.whole (Nat.ofDigitChars 10 whole 0)) = counted)
    (hplain : positive → fraction = [] → exponent = [] → o = counted.toOption)
    (hother : ¬ (positive ∧ fraction = [] ∧ exponent = []) → o = none) :
    Agrees ls o (countRead (readNumeral positive c)) := by
  have hends := hls.endsNumber hrest
  by_cases hcount : positive ∧ fraction = [] ∧ exponent = [] ∧
      Nat.ofDigitChars 10 whole 0 ≤ maxWord
  · obtain ⟨rfl, rfl, rfl, hmax⟩ := hcount
    rw [hplain rfl rfl rfl]
    exact countRead_of_leaves hcounted (readNumeral_whole hwhole hmax hends h) hrest
  · have hnone : o = none := by
      by_cases hdigits : positive ∧ fraction = [] ∧ exponent = []
      · obtain ⟨hpositive, hf, he⟩ := hdigits
        rw [hplain hpositive hf he, ← hcounted, countOfNumeral]
        exact countOf_large (Nat.not_le.1 fun hmax => hcount ⟨hpositive, hf, he, hmax⟩)
      · exact hother hdigits
    rw [hnone]
    exact countRead_of_stops (readNumeral_stops hwhole hfraction hexponent hends hcount h)

/-- The digits of a number are all of it if it has no sign, fraction or exponent. -/
theorem all_isDigit_iff {whole fraction exponent : List Char} (hwhole : IsWhole whole)
    (hfraction : IsFraction fraction) (hexponent : IsExponent exponent) :
    (whole ++ (fraction ++ exponent)).all Char.isDigit = true ↔ fraction = [] ∧ exponent = [] := by
  have hnot {a : Char} {as : List Char} (ha : a.isDigit = false) :
      (whole ++ (a :: as)).all Char.isDigit = false := by simp [ha]
  rcases hfraction with rfl | ⟨ds, -, rfl⟩
  · rcases hexponent with rfl | ⟨letter, hletter, sign, -, ds, -, rfl⟩
    · simpa using hwhole.1.2
    · have hdigit : letter.isDigit = false := by
        simp only [List.mem_cons, List.not_mem_nil, or_false] at hletter
        rcases hletter with rfl | rfl <;> decide
      rw [List.nil_append, hnot hdigit]
      simp
  · rw [List.cons_append, hnot (by decide)]
    simp

/-- Reading a count agrees with the count of a number as it is written, in sign, fraction, exponent
and size. -/
theorem readCount_agrees (v : Value) : AgreesOn v (decodeCount v) readCount := by
  intro ls c hls h
  obtain ⟨a, hpeek, ha⟩ := h.starts
  rw [readCount, readValue_eq hpeek]
  by_cases hnumber : a = '-' ∨ a.isDigit
  · obtain ⟨cs, rfl⟩ := ha.number.1 hnumber
    obtain ⟨whole, fraction, exponent, rest, hwhole, hfraction, hexponent, hrest, hparts⟩ :=
      Follow.number h
    rcases hparts with ⟨rfl, hminus, hbehind⟩ | ⟨rfl, ⟨d, hdigit, hd⟩, hbehind⟩
    · obtain rfl := Option.some.inj (hpeek.symm.trans hminus)
      exact countRead_agrees hwhole hfraction hexponent hls hrest hbehind rfl (by simp) fun _ => rfl
    · obtain rfl := Option.some.inj (hpeek.symm.trans hdigit)
      have hne : a ≠ '-' := by rintro rfl; revert hd; decide
      simp only [if_neg hne, if_pos hd]
      refine countRead_agrees hwhole hfraction hexponent hls hrest hbehind rfl ?_ ?_
      · rintro - rfl rfl
        have hall := (all_isDigit_iff hwhole (.inl rfl) (.inl rfl)).2 ⟨rfl, rfl⟩
        rw [decodeCount, countOfDigits?, if_pos hall, List.append_nil, List.append_nil,
          countOfNumeral]
      · intro hother
        have hall := mt (all_isDigit_iff hwhole hfraction hexponent).1 fun h => hother ⟨rfl, h⟩
        rw [decodeCount, countOfDigits?, if_neg hall]
  · obtain ⟨hne, hd⟩ := not_or.1 hnumber
    have hnone : decodeCount v = none := by
      cases v with
      | number cs => exact absurd (ha.number.2 ⟨cs, rfl⟩) hnumber
      | _ => rfl
    simp only [if_neg hne, if_neg hd, hnone]
    exact wrongType_fails _ _

/-! ## Shapes -/

/-- A reader agrees with a decoder where as many brackets may be opened as it takes. -/
def ReadsAs (nesting : Nat) (read : Reader) (decode : Decoder) : Prop :=
  ∀ depth, nesting < depth → ∀ v, AgreesOn v (decode v) (read depth)

/-- With room for one more level a bracket is opened and its content is read with the room that is
left. -/
theorem opening_eq {α : Type} {nesting depth : Nat} (h : nesting + 1 < depth) :
    ∃ inner, nesting < inner ∧ ∀ (c : Cursor) (read : Nat → Cursor → Outcome α),
      opening depth c read = read inner c.advance := by
  obtain ⟨depth, rfl⟩ : ∃ n, depth = n + 2 := ⟨depth - 2, by omega⟩
  exact ⟨depth + 1, by omega, fun _ _ => rfl⟩

/-- An optional value is read as it is decoded, if the value inside is. -/
theorem readOptional_readsAs {nesting : Nat} {read : Reader} {decode : Decoder}
    (h : ReadsAs nesting read decode) :
    ReadsAs nesting (readOptional read) (decodeOptional decode) := by
  intro depth hdepth v ls c hls hv
  obtain ⟨a, hpeek, ha⟩ := hv.starts
  rw [readOptional]
  simp only [hpeek, Option.some.injEq]
  split
  · next hnull =>
    obtain rfl := ha.null.1 hnull
    obtain ⟨-, rest, hword, hrest⟩ := Follow.word hv rfl
    exact .of_leaves ((readWord_leaves hword).map fun _ => Datum.absent) hrest
  · next hnull =>
    have hsome : decodeOptional decode v = (decode v).map .present := by
      cases v with
      | null => exact absurd (ha.null.2 rfl) hnull
      | _ => rfl
    rw [hsome]
    exact (h depth hdepth v ls _ hls hv.value.1).map Datum.present

/-- An array is read as it is decoded, if its items are, with room for one more level. -/
theorem readList_readsAs {nesting : Nat} {read : Reader} {decode : Decoder}
    (h : ReadsAs nesting read decode) :
    ReadsAs (nesting + 1) (readList read) (decodeList decode) := by
  intro depth hdepth v ls c _ hv
  obtain ⟨a, hpeek, ha⟩ := hv.starts
  obtain ⟨inner, hinner, hopening⟩ := opening_eq (α := Datum) hdepth
  rw [readList, readValue_eq hpeek]
  split
  · next hbracket =>
    obtain ⟨vs, rfl⟩ := ha.bracket.1 hbracket
    obtain ⟨-, hitems⟩ := Follow.char hv rfl
    have hread := readItems_agrees (fun v _ => h inner hinner v)
      (length_lt_of_items hitems (Nat.le_refl _)) hitems
    rw [hopening]
    exact (hread.map Datum.list).closing fun c => endList_eq
  · next hbracket =>
    have hnone : decodeList decode v = none := by
      cases v with
      | list vs => exact absurd (ha.bracket.2 ⟨vs, rfl⟩) hbracket
      | _ => rfl
    rw [hnone]
    exact wrongType_fails _ _

/-- The entries of an object are read as they are decoded, if their values are, by induction on the
entries. -/
theorem readBindings_agrees {α : Type} {value : Cursor → Outcome α} {decode : Value → Option α}
    {bs : List (String × Value)} (hvalue : ∀ v, AgreesOn v (decode v) value) {fuel : Nat}
    (hfuel : bs.length < fuel) {first : Bool} (h : Follow (entryLexemes first bs ++ ls) c) :
    Agrees (.objectEnd :: ls) (bs.mapM fun b => (decode b.2).map fun a => (b.1, a))
      (readBindings value fuel first c) := by
  induction bs generalizing fuel first c with
  | nil =>
    obtain ⟨fuel, rfl⟩ : ∃ n, fuel = n + 1 := ⟨fuel - 1, by omega⟩
    obtain ⟨c', hread, hc'⟩ := hasEntry_nil h
    exact ⟨c', by rw [readBindings, hread]; rfl, hc'⟩
  | cons b bs ih =>
    obtain ⟨k, v⟩ := b
    obtain ⟨fuel, rfl⟩ : ∃ n, fuel = n + 1 := ⟨fuel - 1, by omega⟩
    simp only [List.length_cons, Nat.add_lt_add_iff_right] at hfuel
    obtain ⟨c₁, hread, body, ws, rest, hrest, hbody, hws, hrest'⟩ := hasEntry_cons h
    obtain ⟨c₂, hkey, c₃, hcolon, rfl⟩ := readString_key hbody hws hrest
    have hv := hvalue v _ c₃ (endsValue_entries bs ls) hrest'
    rw [readBindings, hread, List.mapM_cons]
    simp only [hkey, hcolon]
    cases hd : decode v with
    | none =>
      rw [hd] at hv
      obtain ⟨e, he⟩ := hv
      exact ⟨e, by simp [he]⟩
    | some a =>
      rw [hd] at hv
      obtain ⟨c₄, he, hc₄⟩ := hv
      have hcons : ((some a).map (fun a => (k, a)) >>= fun b =>
          (bs.mapM fun b => (decode b.2).map fun a => (b.1, a)) >>= fun bs => pure (b :: bs)) =
          (bs.mapM fun b => (decode b.2).map fun a => (b.1, a)).map ((k, a) :: ·) := by
        cases bs.mapM fun b => (decode b.2).map fun a => (b.1, a) <;> rfl
      simp only [he, hcons]
      exact (ih hfuel hc₄).map ((k, a) :: ·)

/-- An object of any keys is read as it is decoded, if its values are, with room for one more
level. -/
theorem readMap_readsAs {nesting : Nat} {read : Reader} {decode : Decoder}
    (h : ReadsAs nesting read decode) :
    ReadsAs (nesting + 1) (readMap read) (decodeMap decode) := by
  intro depth hdepth v ls c _ hv
  obtain ⟨a, hpeek, ha⟩ := hv.starts
  obtain ⟨inner, hinner, hopening⟩ := opening_eq (α := Datum) hdepth
  rw [readMap, readValue_eq hpeek]
  split
  · next hbrace =>
    obtain ⟨bs, rfl⟩ := ha.brace.1 hbrace
    obtain ⟨-, hentries⟩ := Follow.char hv rfl
    have hlength := length_lt_of_entries hentries (Nat.le_refl _)
    have hread := readBindings_agrees (h inner hinner) hlength hentries
    rw [hopening]
    exact (hread.map Datum.map).closing fun c => endObject_eq
  · next hbrace =>
    have hnone : decodeMap decode v = none := by
      cases v with
      | object bs => exact absurd (ha.brace.2 ⟨bs, rfl⟩) hbrace
      | _ => rfl
    rw [hnone]
    exact wrongType_fails _ _

/-! ## Choices -/

/-- Reading the name of a variant agrees with a text that is one of the names. -/
theorem readName_agrees (names : List String) (v : Value) :
    AgreesOn v ((decodeText v).filter names.contains) (readName names) := by
  intro ls c hls h
  have hread := readText_agrees "variant identifier" v ls c hls h
  rw [readName]
  cases hd : decodeText v with
  | none =>
    rw [hd] at hread
    obtain ⟨e, he⟩ := hread
    exact ⟨e, by rw [he]⟩
  | some name =>
    rw [hd] at hread
    obtain ⟨c', he, hc'⟩ := hread
    rw [he]
    dsimp only
    split
    · next hname =>
      rw [Option.filter, if_pos hname]
      exact ⟨c', rfl, hc'⟩
    · next hname =>
      rw [Option.filter, if_neg hname]
      exact ⟨_, rfl⟩

/-- `null` as a decoder, for the content of a variant that is written as an object. -/
def decodeNull : Value → Option Unit
  | .null => some ()
  | _ => none

/-- Reading `null` agrees with the value that it is, and fails for every other value. -/
theorem readNull_agrees (v : Value) : AgreesOn v (decodeNull v) readNull := by
  intro ls c _ h
  obtain ⟨a, hpeek, ha⟩ := h.starts
  rw [readNull, readValue_eq hpeek]
  split
  · next hnull =>
    obtain rfl := ha.null.1 hnull
    obtain ⟨-, rest, hword, hrest⟩ := Follow.word h rfl
    exact .of_leaves (readWord_leaves hword) hrest
  · next hnull =>
    have hnone : decodeNull v = none := by
      cases v with
      | null => exact absurd (ha.null.2 rfl) hnull
      | _ => rfl
    rw [hnone]
    exact wrongType_fails _ _

/-- The name of a variant in the stead of a key, as the reader of names does not tell keys from
texts. -/
theorem readName_key (names : List String) {k : String} (h : Follow (.key k :: ls) c) :
    ∃ c' rest, readName names c = (if names.contains k then .ok (k, c')
      else c'.mismatch (.unknownVariant k names)) ∧
      Leaves (readColon c') () rest ∧ Written Spells ls rest := by
  obtain ⟨hpeek, body, ws, rest, hrest, hbody, hws, hls⟩ := h.key
  obtain ⟨c', hread, hcolon⟩ := readString_key hbody hws hrest
  refine ⟨c', rest, ?_, hcolon, hls⟩
  have htext : readText "variant identifier" c = .ok (k, c') := by
    rw [readText, readValue_eq hpeek, if_pos rfl, hread]
  rw [readName, htext]

/-- What stands behind the colon of a variant: `null` and the closing brace. -/
def readVariantEnd (name : String) (c : Cursor) : Outcome Datum :=
  match readNull c with
  | .error e => .error e
  | .ok ((), c) =>
    let c := c.skipBlanks
    match c.peek with
    | none => c.failHere .endInObject
    | some '\x7d' => .ok (.variant name, c.advance)
    | some _ => c.failHere .valueExpected

/-- What stands behind the colon of a variant makes the variant if it is `null` and the object ends
with it. -/
theorem readVariantEnd_agrees (name : String) {v : Value} {bs : List (String × Value)}
    (h : Follow (v.lexemes ++ (entryLexemes false bs ++ ls)) c) :
    Agrees ls (match v, bs with | .null, [] => some (.variant name) | _, _ => none)
      (readVariantEnd name c) := by
  have hread := readNull_agrees v _ c (endsValue_entries bs ls) h
  rw [readVariantEnd]
  cases hd : decodeNull v with
  | none =>
    rw [hd] at hread
    obtain ⟨e, he⟩ := hread
    rw [he]
    split
    · cases hd
    · exact ⟨e, rfl⟩
  | some u =>
    rw [hd] at hread
    obtain ⟨c', he, hc'⟩ := hread
    obtain rfl : v = .null := by cases v <;> first | rfl | cases hd
    rw [he]
    rcases bs with _ | ⟨⟨k, w⟩, bs⟩
    · obtain ⟨hpeek, hls⟩ := Follow.char (l := .objectEnd) hc' rfl
      simp only [hpeek]
      exact ⟨_, rfl, hls⟩
    · have hcomma : c'.skipBlanks.peek = some ',' := by
        simp only [entryLexemes, separator_append, Bool.false_eq_true, if_false,
          List.cons_append] at hc'
        exact (Follow.char hc' rfl).1
      simp only [hcomma]
      exact ⟨_, rfl⟩

/-- An object is decoded as a variant by its first key, if its value is `null` and no other entry
follows. -/
theorem decodeChoice_object (names : List String) (name : String) (v : Value)
    (bs : List (String × Value)) : decodeChoice names (.object ((name, v) :: bs)) =
      if names.contains name then
        (match v, bs with | .null, [] => some (.variant name) | _, _ => none)
      else none := by
  cases v <;> cases bs <;> simp [decodeChoice, variant?]

/-- A name of a choice is refused where its object ends, since an empty object names nothing. -/
theorem readName_fails (names : List String) {c : Cursor} (h : c.skipBlanks.peek = some '\x7d') :
    ∃ e, readName names c = .error e := by
  rw [readName, readText, readValue_eq h, if_neg (by decide)]
  obtain ⟨e, he⟩ := wrongType_fails (α := String) "variant identifier" c.skipBlanks
  exact ⟨e, by rw [he]⟩

/-- **Choices are read as they are decoded:** from a text, or from an object with one entry. -/
theorem readChoice_readsAs (names : List String) :
    ReadsAs 1 (readChoice names) (decodeChoice names) := by
  intro depth hdepth v ls c hls hv
  obtain ⟨a, hpeek, ha⟩ := hv.starts
  obtain ⟨inner, hinner, hopening⟩ := opening_eq (α := Datum) (show 0 + 1 < depth from hdepth)
  rw [readChoice]
  simp only [hpeek]
  split
  · next he => cases he
  · next he =>
    obtain ⟨name, rfl⟩ := ha.quote.1 (Option.some.inj he)
    have hread := (readName_agrees names _ ls _ hls hv.value.1).map Datum.variant
    have hvariant : decodeChoice names (.text name) =
        ((decodeText (.text name)).filter names.contains).map .variant := by
      rw [decodeChoice, variant?, decodeText, Option.filter]
      split <;> rfl
    rw [hvariant]
    exact hread
  · next he =>
    obtain ⟨bs, rfl⟩ := ha.brace.1 (Option.some.inj he)
    obtain ⟨-, hentries⟩ := Follow.char hv rfl
    rw [hopening]
    rcases bs with _ | ⟨⟨k, v⟩, bs⟩
    · obtain ⟨hclose, -⟩ := Follow.char (l := .objectEnd) hentries rfl
      obtain ⟨e, he⟩ := readName_fails names hclose
      rw [he]
      exact ⟨e, rfl⟩
    · have hkey : Follow (.key k :: (v.lexemes ++ (entryLexemes false bs ++ ls)))
          c.skipBlanks.advance := by simpa [entryLexemes, separator] using hentries
      obtain ⟨c', rest, hread, ⟨c'', hcolon, rfl⟩, hrest⟩ := readName_key names hkey
      have hend := readVariantEnd_agrees k hrest
      rw [hread]
      rw [decodeChoice_object]
      split
      · simp only [hcolon]
        exact hend
      · exact ⟨_, rfl⟩
  · next hquote hbrace he =>
    obtain rfl := Option.some.inj he
    have hnone : decodeChoice names v = none := by
      cases v with
      | text s => exact (hquote (ha.quote.2 ⟨s, rfl⟩)).elim
      | object bs => exact (hbrace (ha.brace.2 ⟨bs, rfl⟩)).elim
      | _ => rfl
    rw [hnone]
    exact ⟨_, rfl⟩

/-! ## Any of several branches -/

/-- Any value is read as it is decoded for branches, with room for the one level that a list of
texts takes. -/
theorem readEither_readsAs (title : String) (branches : List Shape) :
    ReadsAs 1 (readEither title branches) (decodeEither branches) := by
  intro depth hdepth v ls c hls hv
  rw [readEither, decodeEither]
  rcases readContent_gives v depth ls c hls hv with ⟨c', he, hc'⟩ | ⟨⟨e, he⟩, hodd⟩
  · rw [he]
    cases hfit : v.content.firstFit? branches with
    | none => exact ⟨_, by simp only [hfit]; rfl⟩
    | some d => exact ⟨c', by simp only [hfit], hc'⟩
  · rw [he, firstFit?_of_not_isPlain (hodd.2 hdepth)]
    exact ⟨e, rfl⟩

/-! ## Records -/

/-- A failure inside brackets stays a failure, whatever follows them. -/
theorem closing_error {α : Type} {close : Cursor → Option Fault × Cursor} (e : Failure) :
    ∃ e', (closing close (.error e) : Outcome α) = .error e' := by
  cases e <;> exact ⟨_, rfl⟩

/-- What was read inside brackets may be turned into something else before or after they are
closed. -/
theorem closing_map {α β : Type} (close : Cursor → Option Fault × Cursor) (f : α → β)
    (r : Outcome α) :
    closing close (r.map fun x => (f x.1, x.2)) = (closing close r).map fun x => (f x.1, x.2) := by
  cases r with
  | error e => cases e <;> rfl
  | ok x =>
    obtain ⟨a, c⟩ := x
    simp only [Except.map, closing]
    split <;> rfl

/-- No list ends in front of another item, which is how a record with too many items is refused. -/
theorem endList_fails {first : Bool} {v : Value} {vs : List Value}
    (h : Follow (itemLexemes first (v :: vs) ++ ls) c) : ∃ f c', endList c = (some f, c') := by
  obtain ⟨l, ls', hl, hstart⟩ := v.exists_lexeme
  obtain ⟨a, hpeek, ha⟩ : ∃ a, c.skipBlanks.peek = some a ∧ a ≠ ']' := by
    rw [itemLexemes, List.append_assoc, separator_append, hl] at h
    cases first with
    | true =>
      obtain ⟨a, hpeek, ha⟩ := Follow.peek h
      exact ⟨a, hpeek, (hstart a ha).1⟩
    | false => exact ⟨',', (Follow.char h rfl).1, by decide⟩
  rw [endList, hpeek]
  dsimp only
  split
  · next he => cases he
  · next he => exact absurd (Option.some.inj he) ha
  · exact ⟨_, _, rfl⟩
  · exact ⟨_, _, rfl⟩

/-- A reader and a decoder of the same entry of a record: they have the same keys and default, and
one reads as the other decodes. -/
structure SlotsAgree (nesting : Nat) (s : Slot Reader) (t : Slot Decoder) : Prop
    extends s.IsLike t where
  read : ReadsAs nesting s.read t.read

section Records

variable {nesting : Nat} {slots : List (Slot Reader)} {decoders : List (Slot Decoder)}
  (hslots : List.Forall₂ (SlotsAgree nesting) slots decoders)
include hslots

/-- The entries of a record's object are read into slots as they are decoded, by induction on the
entries. -/
theorem readEntries_agrees {depth : Nat} (hdepth : nesting < depth) {bs : List (String × Value)}
    {fuel : Nat} (hfuel : bs.length < fuel) {first : Bool} {filled : Filled} {c : Cursor}
    (h : Follow (entryLexemes first bs ++ ls) c) :
    Agrees (.objectEnd :: ls) (fillEntries decoders filled bs)
      (readEntries slots depth fuel first filled c) := by
  induction bs generalizing fuel first filled c with
  | nil =>
    obtain ⟨fuel, rfl⟩ : ∃ n, fuel = n + 1 := ⟨fuel - 1, by omega⟩
    obtain ⟨c', hread, hc'⟩ := hasEntry_nil h
    exact ⟨c', by rw [readEntries, hread], hc'⟩
  | cons b bs ih =>
    obtain ⟨k, v⟩ := b
    obtain ⟨fuel, rfl⟩ : ∃ n, fuel = n + 1 := ⟨fuel - 1, by omega⟩
    simp only [List.length_cons, Nat.add_lt_add_iff_right] at hfuel
    obtain ⟨c₁, hread, body, ws, rest, hrest, hbody, hws, hvalue⟩ := hasEntry_cons h
    obtain ⟨c₂, hkey, c₃, hcolon, rfl⟩ := readString_key hbody hws hrest
    rw [readEntries, fillEntries, hread]
    simp only [hkey]
    rcases Slot.find?_like SlotsAgree.toIsLike hslots k 0 with
      ⟨hfind, hfind'⟩ | ⟨s, t, i, hst, -, hfind, hfind'⟩
    · obtain ⟨c₄, hskip, hc₄⟩ := skipValue_follow (endsValue_entries bs ls) hvalue
      simp only [hfind, hfind', hcolon, hskip]
      exact ih hfuel hc₄
    · simp only [hfind, hfind']
      split
      · exact ⟨_, rfl⟩
      · have hv := hst.read depth hdepth v _ c₃ (endsValue_entries bs ls) hvalue
        simp only [hcolon]
        cases hd : t.read v with
        | none =>
          rw [hd] at hv
          obtain ⟨e, he⟩ := hv
          exact ⟨e, by rw [he]⟩
        | some d =>
          rw [hd] at hv
          obtain ⟨c₄, he, hc₄⟩ := hv
          rw [he]
          exact ih hfuel hc₄

/-- The items of a record's array are read into slots as they are decoded, by induction on the
slots. -/
theorem readPositional_agrees (title : String) (size : Nat) {depth : Nat} (hdepth : nesting < depth)
    {vs : List Value} {index : Nat} {c : Cursor}
    (h : Follow (itemLexemes (decide (index = 0)) vs ++ ls) c) :
    Agrees ls (fillInOrder decoders vs)
      (closing endList (readPositional title size depth slots index c)) := by
  induction hslots generalizing vs index c with
  | nil =>
    cases vs with
    | nil => exact Agrees.closing (fun c => endList_eq) ⟨c, rfl, h⟩
    | cons v vs =>
      obtain ⟨f, c', he⟩ := endList_fails h
      rw [readPositional, closing, he]
      exact ⟨_, rfl⟩
  | @cons s t ss ts hst _ ih =>
    cases vs with
    | nil =>
      obtain ⟨c', hread, hc'⟩ := hasItem_nil h
      rw [readPositional, fillInOrder, hread, ← hst.missing]
      cases hd : s.missing with
      | none => exact ⟨_, rfl⟩
      | some d =>
        have hrest := @ih [] (index + 1) c' hc'
        simp only [closing_map]
        exact hrest.map (d :: ·)
    | cons v vs =>
      obtain ⟨c', hread, hc'⟩ := hasItem_cons h
      have hv := hst.read depth hdepth v _ c' (endsValue_items vs ls) hc'
      rw [readPositional, fillInOrder, hread]
      cases hd : t.read v with
      | none =>
        rw [hd] at hv
        obtain ⟨e, he⟩ := hv
        simp only [he]
        exact closing_error e
      | some d =>
        rw [hd] at hv
        obtain ⟨c'', he, hc''⟩ := hv
        simp only [he, closing_map]
        exact (@ih vs (index + 1) c'' hc'').map (d :: ·)

/-- A record is read as it is decoded, from an object or from an array, with room for one more
level. -/
theorem readRecord_readsAs (title : String) :
    ReadsAs (nesting + 1) (readRecord title slots) (decodeRecord decoders) := by
  intro depth hdepth v ls c _ hv
  obtain ⟨a, hpeek, ha⟩ := hv.starts
  obtain ⟨inner, hinner, hopening⟩ := opening_eq (α := Datum) hdepth
  rw [readRecord, readValue_eq hpeek]
  split
  · next hbracket =>
    obtain ⟨vs, rfl⟩ := ha.bracket.1 hbracket
    obtain ⟨-, hitems⟩ := Follow.char hv rfl
    have hread := @readPositional_agrees ls nesting slots decoders hslots title slots.length inner
      hinner vs 0 _ hitems
    rw [hopening, closing_map]
    exact hread.map Datum.record
  · next hbracket =>
    split
    · next hbrace =>
      obtain ⟨bs, rfl⟩ := ha.brace.1 hbrace
      obtain ⟨-, hentries⟩ := Follow.char hv rfl
      have hlength := length_lt_of_entries hentries (Nat.le_refl _)
      have hread : Agrees _ (fillEntries decoders (slots.map fun _ => none) bs) _ :=
        readEntries_agrees hslots hinner hlength hentries
      have hnone : slots.map (fun _ => (none : Option Datum)) = decoders.map fun _ => none := by
        rw [List.map_const', List.map_const', hslots.length_eq]
      rw [hopening, decodeRecord, ← hnone]
      refine Agrees.closing (fun c => endObject_eq) ?_
      cases hd : fillEntries decoders (slots.map fun _ => none) bs with
      | none =>
        rw [hd] at hread
        obtain ⟨e, he⟩ := hread
        exact ⟨e, by rw [he]⟩
      | some filled =>
        rw [hd] at hread
        obtain ⟨c', he, hc'⟩ := hread
        rw [he, Option.bind_some, ← complete_like (hslots.imp fun _ _ h => h.toIsLike)]
        dsimp only
        cases complete slots filled with
        | error m => exact ⟨_, rfl⟩
        | ok ds => exact ⟨c', rfl, hc'⟩
    · next hbrace =>
      have hnone : decodeRecord decoders v = none := by
        cases v with
        | list vs => exact absurd (ha.bracket.2 ⟨vs, rfl⟩) hbracket
        | object bs => exact absurd (ha.brace.2 ⟨bs, rfl⟩) hbrace
        | _ => rfl
      rw [hnone]
      exact wrongType_fails _ _

end Records

/-! ## Texts -/

mutual

/-- How many brackets are open at most in a value of a shape, those of skipped values apart. -/
def nesting : Shape → Nat
  | .text | .flag | .count => 0
  | .optional s => nesting s
  | .list s | .map s => nesting s + 1
  | .choice _ _ | .either _ _ => 1
  | .record _ es => entriesNesting es + 1

/-- How deep the entries of a record are nested, the deepest of them counted. -/
def entriesNesting : List Entry → Nat
  | [] => 0
  | .mk _ _ shape _ _ :: es => max (nesting shape) (entriesNesting es)

end

/-- What suffices as depth for a reader suffices if more may be opened. -/
theorem ReadsAs.mono {nesting nesting' : Nat} {read : Reader} {decode : Decoder}
    (h : ReadsAs nesting read decode) (hle : nesting ≤ nesting') : ReadsAs nesting' read decode :=
  fun depth hdepth => h depth (Nat.lt_of_le_of_lt hle hdepth)

mutual

/-- **Reading along a shape** agrees with the datum of the value, by induction on the shape, as deep
as the shape is nested. -/
theorem readShape_readsAs : (shape : Shape) →
    ReadsAs (nesting shape) (readShape shape) (decode shape)
  | .text => fun _ _ v ls c hls h => (readText_agrees "a string" v ls c hls h).map Datum.text
  | .flag => fun _ _ => readFlag_agrees
  | .count => fun _ _ => readCount_agrees
  | .optional s => readOptional_readsAs (readShape_readsAs s)
  | .list s => readList_readsAs (readShape_readsAs s)
  | .map s => readMap_readsAs (readShape_readsAs s)
  | .choice _ names => readChoice_readsAs names
  | .either title branches => readEither_readsAs title branches
  | .record title es =>
    readRecord_readsAs (slotsOf_agree es (Nat.le_refl _)) title

/-- The slots of entries read as the decoders of the same entries decode. -/
theorem slotsOf_agree : (es : List Entry) → {n : Nat} → entriesNesting es ≤ n →
    List.Forall₂ (SlotsAgree n) (slotsOf es) (decoders es)
  | [], _, _ => .nil
  | .mk _ _ shape _ _ :: es, _, h => by
    rw [entriesNesting, Nat.max_le] at h
    exact .cons ⟨⟨rfl, rfl, rfl⟩, (readShape_readsAs shape).mono h.1⟩ (slotsOf_agree es h.2)

end

/-- **A text is read as the datum of its value**, whatever way it writes the value. -/
theorem read_isTextOf {shape : Shape} (hshape : nesting shape < maxDepth) {v : Value}
    {text : String} (h : IsTextOf v text) : (read shape text).toOption = decode shape v := by
  have hv : Follow (v.lexemes ++ []) (.start text) := by
    rw [List.append_nil]
    exact h
  have hread := readShape_readsAs shape maxDepth hshape v [] _ trivial hv
  rw [read]
  cases hd : decode shape v with
  | none =>
    rw [hd] at hread
    obtain ⟨e, he⟩ := hread
    rw [he]
    cases e <;> rfl
  | some d =>
    rw [hd] at hread
    obtain ⟨c, he, hc⟩ := hread
    rw [he]
    simp only [hc.nil]
    rfl

end Json
end CommitForm
