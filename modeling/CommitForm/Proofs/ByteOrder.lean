/-
# The order of texts is the order of their bytes

Texts are compared character by character, and UTF-8 is made so that comparing their bytes gives the
same answer (`lt_iff_bytes_lt`).  The first byte of a character tells how many bytes it has, and it
is the greater the more there are.  Characters of the same length have the digits of their code
points, six bits each, from the most significant one on.
-/

import Mathlib.Data.List.Lex
import Mathlib.Order.Defs.LinearOrder

namespace CommitForm
namespace Text

/-- The bytes of the UTF-8 form of a text, by which names are ordered where they are listed. -/
def bytes (s : String) : List UInt8 := s.toByteArray.data.toList

/-- The bytes of a text are those of its characters one after the other, which lets a comparison go
character by character. -/
theorem bytes_eq (s : String) : bytes s = s.toList.flatMap String.utf8EncodeChar := by
  rw [bytes, ← String.utf8Encode_toList, List.utf8Encode, List.toList_data_toByteArray]

/-- A byte that is computed from a number below 256 is less than another one if the number is. -/
theorem ofNat_lt_ofNat_iff {m n : Nat} (hm : m < 256) (hn : n < 256) :
    UInt8.ofNat m < UInt8.ofNat n ↔ m < n := by
  rw [UInt8.lt_iff_toNat_lt, UInt8.toNat_ofNat', UInt8.toNat_ofNat', Nat.mod_eq_of_lt hm,
    Nat.mod_eq_of_lt hn]

/-- Numbers below 256 are told apart as bytes, so nothing is lost where a digit of a code point
becomes a byte. -/
theorem ofNat_eq_ofNat_iff {m n : Nat} (hm : m < 256) (hn : n < 256) :
    UInt8.ofNat m = UInt8.ofNat n ↔ m = n := by
  rw [← UInt8.toNat_inj, UInt8.toNat_ofNat', UInt8.toNat_ofNat', Nat.mod_eq_of_lt hm,
    Nat.mod_eq_of_lt hn]

/-- A smaller number has a smaller digit first, written to the base 64 with four digits, as the
encoding has them. -/
theorem digits_lt {m n : Nat} (h : m < n) :
    m / 262144 < n / 262144 ∨ m / 262144 = n / 262144 ∧
      (m / 4096 % 64 < n / 4096 % 64 ∨ m / 4096 % 64 = n / 4096 % 64 ∧
        (m / 64 % 64 < n / 64 % 64 ∨ m / 64 % 64 = n / 64 % 64 ∧ m % 64 < n % 64)) := by
  have hlast : m / 64 < n / 64 ∨ m / 64 = n / 64 ∧ m % 64 < n % 64 := by omega
  have hthird : m / 64 = n / 64 ∨ m / 4096 < n / 4096 ∨
      m / 4096 = n / 4096 ∧ m / 64 % 64 < n / 64 % 64 := by omega
  have hsecond : m / 4096 = n / 4096 ∨ m / 262144 < n / 262144 ∨
      m / 262144 = n / 262144 ∧ m / 4096 % 64 < n / 4096 % 64 := by omega
  rcases hlast with hlast | hlast
  · rcases hthird with hthird | hthird | hthird
    · omega
    · rcases hsecond with hsecond | hsecond | hsecond <;> omega
    · omega
  · omega

/-- **The bytes of a smaller character are smaller,** whatever follows: they differ before either
encoding ends, a longer one by its first byte. -/
theorem utf8EncodeChar_lt {c d : Char} (h : c < d) (cs ds : List UInt8) :
    String.utf8EncodeChar c ++ cs < String.utf8EncodeChar d ++ ds := by
  have hlt : c.val.toNat < d.val.toNat := UInt32.lt_iff_toNat_lt.1 h
  have hd : d.val.toNat < 0x110000 := by
    have := d.valid
    rw [UInt32.isValidChar, Nat.isValidChar] at this
    omega
  have hdigits := digits_lt hlt
  have hfirst {n : Nat} (hn : n < 0x110000) : n / 262144 % 8 = n / 262144 :=
    Nat.mod_eq_of_lt (by omega)
  simp only [String.utf8EncodeChar]
  -- One case for each two lengths: a shorter character has a smaller first byte, a longer one is
  -- not smaller, and two of one length differ in some digit first.
  repeat' split
  all_goals
    simp (disch := omega) only [List.cons_append, List.cons_lt_cons_iff, ofNat_lt_ofNat_iff,
      ofNat_eq_ofNat_iff, hfirst]
    omega

/-- Characters that stand before others in the order of code points have smaller bytes, by induction
up to the first difference. -/
theorem flatMap_utf8EncodeChar_lt {cs ds : List Char} (h : cs < ds) :
    cs.flatMap String.utf8EncodeChar < ds.flatMap String.utf8EncodeChar := by
  induction cs generalizing ds with
  | nil =>
    cases ds with
    | nil => exact absurd h (List.lt_irrefl [])
    | cons d ds =>
      rw [List.flatMap_nil, List.flatMap_cons]
      cases hbytes : String.utf8EncodeChar d with
      | nil => exact absurd hbytes String.utf8EncodeChar_ne_nil
      | cons b bs => exact List.nil_lt_cons b _
  | cons c cs ih =>
    cases ds with
    | nil => exact absurd h (List.not_lt_nil _)
    | cons d ds =>
      rw [List.flatMap_cons, List.flatMap_cons]
      rcases List.cons_lt_cons_iff.1 h with hlt | ⟨rfl, hlt⟩
      · exact utf8EncodeChar_lt hlt _ _
      · exact List.append_left_lt (ih hlt)

/-- **Texts stand in the order of their bytes,** so comparing characters here decides what comparing
bytes does. -/
theorem lt_iff_bytes_lt {s t : String} : s < t ↔ bytes s < bytes t := by
  have hforward {s t : String} (h : s < t) : bytes s < bytes t := by
    rw [bytes_eq, bytes_eq]
    exact flatMap_utf8EncodeChar_lt (String.lt_iff.1 h)
  refine ⟨hforward, fun h => Classical.byContradiction fun hnot => ?_⟩
  by_cases heq : s = t
  · subst heq
    exact List.lt_irrefl _ h
  · refine List.lt_asymm h (hforward ?_)
    refine Classical.byContradiction fun hnot' => heq ?_
    exact String.le_antisymm (String.not_lt.1 hnot') (String.not_lt.1 hnot)

end Text
end CommitForm
