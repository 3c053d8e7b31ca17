/-
# Quoted texts

A text in double quotes, in which what cannot be seen is escaped: quotes, backslashes and the usual
control characters by a letter, and every other character that is unprintable or attaches to the
one before it by its code point.
-/

import CommitForm.Unicode.Sets

namespace CommitForm
namespace Text

/-- The lower-case hexadecimal digits of a number, without leading zeros. -/
def hexDigits (n : Nat) : List Char := Nat.toDigits 16 n

/-- A character as it stands in a quoted text: itself, or an escape if it is a quote, a backslash,
or cannot be seen by itself. -/
def quotedChar (c : Char) : List Char :=
  match c with
  | '\x00' => ['\\', '0']
  | '\t' => ['\\', 't']
  | '\r' => ['\\', 'r']
  | '\n' => ['\\', 'n']
  | '\\' => ['\\', '\\']
  | '"' => ['\\', '"']
  | c =>
    if 0x20 ≤ c.toNat ∧ c.toNat < 0x7F then [c]
    else if Unicode.attaching.contains c ∨ Unicode.unprintable.contains c then
      "\\u\x7b".toList ++ hexDigits c.toNat ++ ['\x7d']
    else [c]

/-- A text in quotes, in which every character can be told. -/
def quote (s : String) : String :=
  String.ofList ('"' :: s.toList.flatMap quotedChar ++ ['"'])

end Text
end CommitForm
