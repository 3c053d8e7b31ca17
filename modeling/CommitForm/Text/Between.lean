/-
# Parts of texts

The part of a text behind or in front of the first occurrence of another text.
-/

namespace CommitForm
namespace Text

/-- The rest of a text that begins with another text, and nothing of a text that does not. -/
def dropStart? : (start text : List Char) → Option (List Char)
  | [], cs => some cs
  | _ :: _, [] => none
  | a :: start, c :: cs => if a = c then dropStart? start cs else none

/-- What is left when a beginning is dropped has that beginning in front of it in the text. -/
theorem eq_append_of_dropStart? {start text rest : List Char}
    (h : dropStart? start text = some rest) : text = start ++ rest := by
  induction start generalizing text with
  | nil => cases h; rfl
  | cons a start ih =>
    cases text with
    | nil => cases h
    | cons c cs =>
      simp only [dropStart?] at h
      split at h
      · next hac => simp [hac, ih h]
      · cases h

/-- A beginning that is put in front of a text can be dropped again, which leaves the text. -/
theorem dropStart?_append (start rest : List Char) :
    dropStart? start (start ++ rest) = some rest := by
  induction start with
  | nil => rfl
  | cons a start ih => rw [List.cons_append, dropStart?, if_pos rfl, ih]

/-- What comes behind the first occurrence of a text, if there is one. -/
def behind? (part : List Char) : List Char → Option (List Char)
  | [] => if part = [] then some [] else none
  | c :: cs =>
    match dropStart? part (c :: cs) with
    | some rest => some rest
    | none => behind? part cs

/-- **The first occurrence of a character** is the one with none in front of it: this determines
both sides of the cut. -/
theorem behind?_char_eq_some_iff {c : Char} {text rest : List Char} :
    behind? [c] text = some rest ↔ ∃ front, c ∉ front ∧ text = front ++ c :: rest := by
  induction text with
  | nil => simp [behind?]
  | cons d text ih =>
    by_cases hcd : c = d
    · subst hcd
      have hhere : behind? [c] (c :: text) = some text := by simp [behind?, dropStart?]
      rw [hhere, Option.some.injEq]
      constructor
      · rintro rfl
        exact ⟨[], List.not_mem_nil, rfl⟩
      · rintro ⟨front, hfront, heq⟩
        cases front with
        | nil => exact (List.cons.inj heq).2
        | cons e front => exact absurd ((List.cons.inj heq).1 ▸ List.mem_cons_self) hfront
    · have hon : behind? [c] (d :: text) = behind? [c] text := by simp [behind?, dropStart?, hcd]
      rw [hon, ih]
      constructor
      · rintro ⟨front, hfront, rfl⟩
        exact ⟨d :: front, by simp [hcd, hfront], rfl⟩
      · rintro ⟨front, hfront, heq⟩
        cases front with
        | nil => exact absurd (List.cons.inj heq).1.symm hcd
        | cons e front =>
          obtain ⟨-, rfl⟩ := List.cons.inj heq
          exact ⟨front, fun hmem => hfront (List.mem_cons_of_mem _ hmem), rfl⟩

/-- What comes in front of the first occurrence of a text, if there is one. -/
def before? (part : List Char) : List Char → Option (List Char)
  | [] => if part = [] then some [] else none
  | c :: cs =>
    if (dropStart? part (c :: cs)).isSome then some []
    else (before? part cs).map (c :: ·)

/-- Whether a text has an occurrence of another text; the empty text occurs everywhere. -/
def hasPart (text part : String) : Bool := (behind? part.toList text.toList).isSome

/-- What comes behind the first occurrence of `start` and in front of the next of `stop`. -/
def between? (text start stop : String) : Option String :=
  ((behind? start.toList text.toList).bind (before? stop.toList)).map String.ofList

/-- **The parts make up the text:** what comes in front of the first occurrence, the occurrence, and
what comes behind it. -/
theorem eq_append_of_before? {part text front : List Char} (h : before? part text = some front) :
    ∃ rest, text = front ++ part ++ rest := by
  induction text generalizing front with
  | nil =>
    simp only [before?] at h
    split at h
    · next hp => cases h; exact ⟨[], by simp [hp]⟩
    · cases h
  | cons c cs ih =>
    simp only [before?] at h
    split at h
    · next hp =>
      cases h
      obtain ⟨rest, hr⟩ := Option.isSome_iff_exists.1 hp
      exact ⟨rest, eq_append_of_dropStart? hr⟩
    · obtain ⟨f, hf, rfl⟩ := Option.map_eq_some_iff.1 h
      obtain ⟨rest, hr⟩ := ih hf
      exact ⟨rest, by simp [hr]⟩

example : between? "a `b` `c`" "`" "`" = some "b" := by decide

end Text
end CommitForm
