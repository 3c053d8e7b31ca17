/-
# Data of JSON values

What a JSON value is along a shape, whatever text it is written in.

| shape | value |
| --- | --- |
| `text`, `flag` | a text, a flag |
| `count` | a number of digits only, below `2 ^ 32` |
| `optional s` | `null`, or what `s` takes |
| `list s`, `map s` | a list, an object |
| `choice` | the name as a text, or as the only key of an object with the value `null` |
| `either` | any value, compared with the branches in order |
| `record` | an object, or a list of the entries in order |
-/

import Mathlib.Data.List.Forall2
import CommitForm.Proofs.JsonText

namespace CommitForm
namespace Document

/-! ## Slots -/

/-- Two slots differ at most in how they are read: one reads from a text, the other decodes a value
that has been read. -/
structure Slot.IsLike {R S : Type} (s : Slot R) (t : Slot S) : Prop where
  key : s.key = t.key
  aliases : s.aliases = t.aliases
  missing : s.missing = t.missing

variable {R S : Type} {slots : List (Slot R)} {others : List (Slot S)}

/-- Slots that are alike are found by the same keys, the aliases among them. -/
theorem Slot.IsLike.hasKey_eq {s : Slot R} {t : Slot S} (h : s.IsLike t) (key : String) :
    s.hasKey key = t.hasKey key := by
  rw [Slot.hasKey, Slot.hasKey, h.key, h.aliases]

/-- The data of a record do not depend on how its entries are read. -/
theorem complete_like (h : List.Forall₂ Slot.IsLike slots others) (filled : Filled) :
    complete slots filled = complete others filled := by
  induction h generalizing filled with
  | nil => rfl
  | cons h _ ih => rw [complete, complete, h.missing, h.key, ih]

/-- A key has a slot if it has one among slots that are alike. -/
theorem Slot.find?_like {like : Slot R → Slot S → Prop}
    (hlike : ∀ {s t}, like s t → s.IsLike t) (h : List.Forall₂ like slots others) (key : String)
    (n : Nat) : ((slots.zipIdx n).find? fun x => x.1.hasKey key) = none ∧
        ((others.zipIdx n).find? fun x => x.1.hasKey key) = none ∨
      ∃ s t i, like s t ∧ t.hasKey key ∧
        ((slots.zipIdx n).find? fun x => x.1.hasKey key) = some (s, i) ∧
        ((others.zipIdx n).find? fun x => x.1.hasKey key) = some (t, i) := by
  induction h generalizing n with
  | nil => exact .inl ⟨rfl, rfl⟩
  | @cons s t _ _ h _ ih =>
    simp only [List.zipIdx_cons, List.find?_cons, (hlike h).hasKey_eq key]
    cases hkey : t.hasKey key with
    | true => exact .inr ⟨s, t, n, h, hkey, rfl, rfl⟩
    | false => exact ih (n + 1)

end Document

namespace Json

open Document

/-! ## Data -/

mutual

/-- As much of a value as the branches of a choice look at: texts, lists of such, and anything else
as one. -/
def Value.content : Value → Content
  | .text s => .text s
  | .list vs => .list (contents vs)
  | _ => .other

/-- The contents of the items of a list, item by item, so that the recursion follows the value. -/
def contents : List Value → List Content
  | [] => []
  | v :: vs => v.content :: contents vs

end

/-- The datum of a value, or none if the value does not fit; what a decoder answers does not depend
on any place in a text. -/
abbrev Decoder := Value → Option Datum

/-- The text of a value, which only a text has; keys and names of variants are decoded by it too. -/
def decodeText : Value → Option String
  | .text s => some s
  | _ => none

/-- The flag of a value, which only `true` and `false` have; a text that spells one has none. -/
def decodeFlag : Decoder
  | .flag b => some (.flag b)
  | _ => none

/-- The count of digits, if all characters are digits and the number fits; a sign, a point or an
exponent is no digit. -/
def countOfDigits? (cs : List Char) : Option Datum :=
  if cs.all Char.isDigit then (countOf (Nat.ofDigitChars 10 cs 0)).toOption else none

/-- The count of a number as it is written, since whether a number is whole depends on how it is
written. -/
def decodeCount : Decoder
  | .number cs => countOfDigits? cs
  | _ => none

/-- The datum of an optional value: `null` is absent, everything else is decoded and present. -/
def decodeOptional (decode : Decoder) : Decoder
  | .null => some .absent
  | v => (decode v).map .present

/-- What is not `null` is decoded and present, whatever the decoder inside makes of it. -/
theorem decodeOptional_of_ne {decode : Decoder} {v : Value} (h : v ≠ .null) :
    decodeOptional decode v = (decode v).map .present := by
  cases v with
  | null => exact absurd rfl h
  | _ => rfl

/-- The list of the data of an array's items, if all of them have one. -/
def decodeList (decode : Decoder) : Decoder
  | .list vs => (vs.mapM decode).map .list
  | _ => none

/-- The map of the data of an object's values, if all of them have one, its keys as they are
written. -/
def decodeMap (decode : Decoder) : Decoder
  | .object bs => (bs.mapM fun b => (decode b.2).map fun d => (b.1, d)).map .map
  | _ => none

/-- The variant of a name, if it is one of the names that are given. -/
def variant? (names : List String) (name : String) : Option Datum :=
  if names.contains name then some (.variant name) else none

/-- The variant of a text, or of an object with a single key whose value is `null`. -/
def decodeChoice (names : List String) : Decoder
  | .text name => variant? names name
  | .object [(name, .null)] => variant? names name
  | _ => none

/-- The first of several branches that fits the content of a value, which is all that the branches
look at. -/
def decodeEither (branches : List Shape) : Decoder := fun v => v.content.firstFit? branches

/-- Fills the slots of a record.  Keys without a slot are passed over, and a slot that is filled
twice makes the record fail. -/
def fillEntries (slots : List (Slot Decoder)) : Filled → List (String × Value) → Option Filled
  | filled, [] => some filled
  | filled, (key, v) :: bs =>
    match slots.zipIdx.find? fun (s, _) => s.hasKey key with
    | none => fillEntries slots filled bs
    | some (s, i) =>
      if (filled[i]?).join.isSome then none
      else (s.read v).bind fun d => fillEntries slots (fill filled i d) bs

/-- Fills the slots of a record in order, with defaults for those at the end that no value is left
for. -/
def fillInOrder : List (Slot Decoder) → List Value → Option (List Datum)
  | [], [] => some []
  | [], _ :: _ => none
  | s :: ss, v :: vs => (s.read v).bind fun d => (fillInOrder ss vs).map (d :: ·)
  | s :: ss, [] => s.missing.bind fun d => (fillInOrder ss []).map (d :: ·)

/-- The record of an object, by its keys, or of an array, by the order of its items; what is missing
is completed with defaults. -/
def decodeRecord (slots : List (Slot Decoder)) : Decoder
  | .object bs =>
    (fillEntries slots (slots.map fun _ => none) bs).bind fun filled =>
      (complete slots filled).toOption.map .record
  | .list vs => (fillInOrder slots vs).map .record
  | _ => none

mutual

/-- **The datum of a value along a shape**; `none` if the value does not fit. -/
def decode : Shape → Decoder
  | .text => fun v => (decodeText v).map .text
  | .flag => decodeFlag
  | .count => decodeCount
  | .optional s => decodeOptional (decode s)
  | .list s => decodeList (decode s)
  | .map s => decodeMap (decode s)
  | .choice _ names => decodeChoice names
  | .either _ branches => decodeEither branches
  | .record _ es => decodeRecord (decoders es)

/-- The slots of the entries of a record, with decoders where a reader's slots have readers. -/
def decoders : List Entry → List (Slot Decoder)
  | [] => []
  | .mk key aliases shape missing _ :: es => ⟨key, aliases, missing, decode shape⟩ :: decoders es

end

end Json
end CommitForm
