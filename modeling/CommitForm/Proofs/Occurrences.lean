/-
# Occurrences of placeholders

A placeholder occurs in a text where its name is written in braces and has no brace itself
(`Placeholder.StandsIn`).  Braces around an occurrence do not matter:

| text | occurrences |
| --- | --- |
| `{a{b}` | `b`, as the first brace is not closed |
| `{{a}}` | `a`, between the inner braces |
| `}{a}{` | `a` |
| `{a}{b}` | `a` and `b`, which share nothing |

The scan lists the occurrences and nothing else, from left to right (`placeholders_eq_iff`).  What
it rests on is that a text is scanned afresh from each opening brace on: whatever is open before the
brace is not closed any more (`pieces_append_open`).
-/

import Mathlib.Data.List.Sort
import CommitForm.Proofs.Naming

namespace CommitForm
namespace Template

/-- A placeholder occurs in a text: its name, which has no braces, is written in braces there, from
the byte at which it begins to the byte at which it ends. -/
def Placeholder.StandsIn (p : Placeholder) (text : String) : Prop :=
  (∀ c ∈ p.name.toList, isPlain c = true) ∧
    ∃ before after : String, text = before ++ braced p.name ++ after ∧
      p.start = before.utf8ByteSize ∧ p.stop = (before ++ braced p.name).utf8ByteSize

/-! ## Scanning from an opening brace on -/

/-- A run of plain characters that an opening brace ends is not closed, so that brace may begin a
placeholder of its own. -/
theorem dropWhile_append_open_ne {cs : List Char}
    (h : ∀ rest, cs.dropWhile isPlain ≠ '\x7d' :: rest) (after rest : List Char) :
    (cs ++ '\x7b' :: after).dropWhile isPlain ≠ '\x7d' :: rest := by
  intro hclosed
  rw [List.dropWhile_append] at hclosed
  split at hclosed
  · rw [List.dropWhile_cons_of_neg (by decide)] at hclosed
    exact absurd (List.cons.inj hclosed).1 (by decide)
  · next hrest =>
    cases hd : cs.dropWhile isPlain with
    | nil => exact hrest (by rw [hd]; rfl)
    | cons d ds =>
      rw [hd, List.cons_append] at hclosed
      exact h ds (by rw [hd, (List.cons.inj hclosed).1])

/-- **An opening brace begins anew:** what stands before it has the parts it has by itself. -/
theorem pieces_append_open (cs after : List Char) :
    pieces (cs ++ '\x7b' :: after) = pieces cs ++ pieces ('\x7b' :: after) := by
  fun_induction pieces cs with
  | case1 => rfl
  | case2 cs rest hrest ih =>
    have hname : ∀ c ∈ cs.takeWhile isPlain, isPlain c = true := fun _ => List.mem_takeWhile_imp
    have hsplit := takeWhile_append_of_dropWhile hrest
    generalize cs.takeWhile isPlain = name at hname hsplit ⊢
    subst hsplit
    rw [List.cons_append, List.append_assoc, List.cons_append, pieces_slot hname, ih]
    rfl
  | case3 cs hopen ih =>
    rw [List.cons_append, pieces_open (dropWhile_append_open_ne hopen after), ih]
    rfl
  | case4 c cs hc ih =>
    rw [List.cons_append, pieces_cons_of_ne hc, ih]
    rfl

/-- A placeholder is a part of every text that it is written in, whatever stands before and behind
it. -/
theorem pieces_append_slot {name : List Char} (h : ∀ c ∈ name, isPlain c = true)
    (before after : List Char) :
    pieces (before ++ '\x7b' :: (name ++ '\x7d' :: after)) =
      pieces before ++ .slot name :: pieces after := by
  rw [pieces_append_open, pieces_slot h]

/-! ## What the scan lists -/

/-- The placeholders of further parts begin where the parts before them have ended, counted in
bytes. -/
theorem placeholdersFrom_append (o : Nat) (ps qs : List Piece) :
    placeholdersFrom o (ps ++ qs) =
      placeholdersFrom o ps ++
        placeholdersFrom (o + Text.byteLength (ps.flatMap Piece.written)) qs := by
  induction ps generalizing o with
  | nil => rfl
  | cons p ps ih =>
    have hlength : o + Text.byteLength ((p :: ps).flatMap Piece.written) =
        o + Text.byteLength p.written + Text.byteLength (ps.flatMap Piece.written) := by
      rw [List.flatMap_cons, Text.byteLength_append]
      omega
    rw [hlength]
    cases p with
    | char c => exact ih _
    | slot name => exact congrArg (_ :: ·) (ih _)

/-- What is listed is the name of a part, from where the parts before it end to where it ends. -/
theorem exists_slot_of_mem {o : Nat} {ps : List Piece} {p : Placeholder}
    (h : p ∈ placeholdersFrom o ps) :
    ∃ qs name rs, ps = qs ++ .slot name :: rs ∧
      p = ⟨String.ofList name, o + Text.byteLength (qs.flatMap Piece.written),
        o + Text.byteLength ((qs ++ [.slot name]).flatMap Piece.written)⟩ := by
  induction ps generalizing o with
  | nil => cases h
  | cons q ps ih =>
    -- A placeholder behind the first part is moved by the length of this part.
    have hmoved : p ∈ placeholdersFrom (o + Text.byteLength q.written) ps →
        ∃ qs name rs, q :: ps = qs ++ .slot name :: rs ∧
          p = ⟨String.ofList name, o + Text.byteLength (qs.flatMap Piece.written),
            o + Text.byteLength ((qs ++ [.slot name]).flatMap Piece.written)⟩ := by
      intro hmem
      obtain ⟨qs, name, rs, rfl, rfl⟩ := ih hmem
      refine ⟨q :: qs, name, rs, rfl, ?_⟩
      rw [List.cons_append, List.flatMap_cons, List.flatMap_cons, Text.byteLength_append,
        Text.byteLength_append, Nat.add_assoc, Nat.add_assoc]
    cases q with
    | char c => exact hmoved h
    | slot name =>
      rcases List.mem_cons.1 h with rfl | h
      · exact ⟨[], name, ps, rfl, by simp [Text.byteLength]⟩
      · exact hmoved h

/-- The characters of a text around a name in braces, as the lemmas about parts have them. -/
theorem toList_append_braced (before name after : String) :
    (before ++ braced name ++ after).toList =
      before.toList ++ '\x7b' :: (name.toList ++ '\x7d' :: after.toList) := by
  simp [braced]

/-- What is listed occurs in the text: with its braces, at its place, and with nothing but plain
characters in it. -/
theorem standsIn_of_mem {text : String} {p : Placeholder} (h : p ∈ placeholders text) :
    p.StandsIn text := by
  obtain ⟨qs, name, rs, hpieces, rfl⟩ := exists_slot_of_mem h
  have hslot : .slot name ∈ pieces text.toList := by
    rw [hpieces]
    exact List.mem_append_right _ List.mem_cons_self
  have htext := flatMap_written_pieces text.toList
  rw [hpieces, List.flatMap_append, List.flatMap_cons] at htext
  refine ⟨by simpa using isPlain_of_slot_mem hslot, String.ofList (qs.flatMap Piece.written),
    String.ofList (rs.flatMap Piece.written), ?_, ?_, ?_⟩
  · refine String.toList_injective ?_
    simp only [String.toList_append, String.toList_ofList, braced_toList, List.append_assoc]
    exact htext.symm
  · simp only [Nat.zero_add, ← Text.byteLength_toList, String.toList_ofList]
  · simp only [Nat.zero_add, ← Text.byteLength_toList, String.toList_append,
      String.toList_ofList, braced_toList, List.flatMap_append, List.flatMap_cons,
      List.flatMap_nil, List.append_nil]

/-- What occurs in the text is listed, since the text is cut the same way on both sides of it. -/
theorem Placeholder.StandsIn.mem_placeholders {text : String} {p : Placeholder}
    (h : p.StandsIn text) : p ∈ placeholders text := by
  obtain ⟨hplain, before, after, rfl, hstart, hstop⟩ := h
  have hp : p = ⟨String.ofList p.name.toList, Text.byteLength before.toList,
      Text.byteLength before.toList + Text.byteLength (Piece.slot p.name.toList).written⟩ := by
    rw [← braced_toList, ← Text.byteLength_append, String.ofList_toList, ← String.toList_append,
      Text.byteLength_toList, Text.byteLength_toList, ← hstart, ← hstop]
  rw [placeholders, toList_append_braced, pieces_append_slot hplain, placeholdersFrom_append,
    flatMap_written_pieces, Nat.zero_add]
  refine List.mem_append_right _ (List.mem_cons.2 (.inl ?_))
  exact hp

/-- Just what occurs in the text is listed, each occurrence as one placeholder. -/
theorem mem_placeholders_iff {text : String} {p : Placeholder} :
    p ∈ placeholders text ↔ p.StandsIn text :=
  ⟨standsIn_of_mem, fun h => h.mem_placeholders⟩

/-- What is listed later begins where what is listed before it has ended, or behind that. -/
theorem pairwise_placeholdersFrom (o : Nat) (ps : List Piece) :
    (placeholdersFrom o ps).Pairwise fun p q => p.stop ≤ q.start := by
  induction ps generalizing o with
  | nil => exact .nil
  | cons p ps ih =>
    cases p with
    | char c => exact ih _
    | slot name =>
      refine List.pairwise_cons.2 ⟨fun q hq => ?_, ih _⟩
      exact (mem_placeholdersFrom hq).1

/-- A placeholder takes up a part of the text, its two braces at least. -/
theorem Placeholder.StandsIn.start_lt_stop {p : Placeholder} {text : String}
    (h : p.StandsIn text) : p.start < p.stop := by
  obtain ⟨-, before, after, -, hstart, hstop⟩ := h
  have hbraced : (braced p.name).utf8ByteSize = p.name.utf8ByteSize + 2 := by
    rw [braced, String.utf8ByteSize_append, String.utf8ByteSize_append]
    have hsizes : "\x7b".utf8ByteSize = 1 ∧ "\x7d".utf8ByteSize = 1 := ⟨rfl, rfl⟩
    omega
  rw [String.utf8ByteSize_append] at hstop
  omega

/-- A placeholder begins and ends at characters, not within them, although its places are counted in
bytes. -/
theorem Placeholder.StandsIn.isValid {p : Placeholder} {text : String} (h : p.StandsIn text) :
    (⟨p.start⟩ : String.Pos.Raw).IsValid text ∧ (⟨p.stop⟩ : String.Pos.Raw).IsValid text := by
  obtain ⟨-, before, after, rfl, hstart, hstop⟩ := h
  rw [hstart, hstop]
  constructor
  · exact String.Pos.Raw.isValid_iff_exists_append.2
      ⟨before, braced p.name ++ after, String.append_assoc, rfl⟩
  · exact String.Pos.Raw.isValid_iff_exists_append.2 ⟨before ++ braced p.name, after, rfl, rfl⟩

/-- **The occurrences in their order** are one list only: it is told by its members and by their
order. -/
theorem placeholders_eq_iff {text : String} {ps : List Placeholder} :
    placeholders text = ps ↔
      (∀ p, p ∈ ps ↔ p.StandsIn text) ∧ ps.Pairwise fun p q => p.stop ≤ q.start := by
  constructor
  · rintro rfl
    exact ⟨fun p => mem_placeholders_iff, pairwise_placeholdersFrom 0 _⟩
  · rintro ⟨hmem, hpairwise⟩
    -- Occurrences are not empty, so they are in the strict order of where they begin.
    have hstrict {qs : List Placeholder} (hqs : ∀ q, q ∈ qs ↔ q.StandsIn text)
        (h : qs.Pairwise fun p q => p.stop ≤ q.start) :
        qs.Pairwise fun p q => p.start < q.start := by
      refine h.imp_of_mem fun hp _ hle => ?_
      have := ((hqs _).1 hp).start_lt_stop
      omega
    have hasymm : Std.Asymm fun p q : Placeholder => p.start < q.start :=
      ⟨fun _ _ => Nat.lt_asymm⟩
    refine List.Pairwise.eq_of_mem_iff
      (hstrict (fun p => mem_placeholders_iff) (pairwise_placeholdersFrom 0 _))
      (hstrict hmem hpairwise) fun p => ?_
    rw [hmem, mem_placeholders_iff]

/-- The names around an occurrence are those of the text before it and of the text behind it. -/
theorem placeholderNames_append_braced {name : String}
    (h : ∀ c ∈ name.toList, isPlain c = true) (before after : String) :
    placeholderNames (before ++ braced name ++ after) =
      placeholderNames before ++ name :: placeholderNames after := by
  rw [placeholderNames_eq, placeholderNames_eq, placeholderNames_eq, toList_append_braced,
    pieces_append_slot h, List.filterMap_append]
  show _ ++ String.ofList name.toList :: _ = _
  rw [String.ofList_toList]

/-- **Scanning finds exactly the placeholders of a text.**  It lists them from left to right without
overlaps, each with the bytes where it begins and ends, which are between characters.  No other
brace hides one or adds one: the names before an occurrence and behind it are those of the text
there. -/
theorem placeholders_are_occurrences (text : String) :
    (∀ ps, placeholders text = ps ↔
        (∀ p, p ∈ ps ↔ p.StandsIn text) ∧ ps.Pairwise fun p q => p.stop ≤ q.start) ∧
      (∀ p : Placeholder, p.StandsIn text → p.start < p.stop ∧
        (⟨p.start⟩ : String.Pos.Raw).IsValid text ∧ (⟨p.stop⟩ : String.Pos.Raw).IsValid text) ∧
      placeholderNames text = (placeholders text).map (·.name) ∧
      ∀ before name after, text = before ++ braced name ++ after →
        (∀ c ∈ name.toList, isPlain c = true) →
          placeholderNames text = placeholderNames before ++ name :: placeholderNames after := by
  refine ⟨fun ps => placeholders_eq_iff, fun p hp => ⟨hp.start_lt_stop, hp.isValid⟩, rfl, ?_⟩
  rintro before name after rfl hplain
  exact placeholderNames_append_braced hplain before after

example : placeholders "é\x7ba\x7bb\x7d\x7d\x7bc\x7d" = [⟨"b", 4, 7⟩, ⟨"c", 8, 11⟩] := by
  decide +kernel

end Template
end CommitForm
