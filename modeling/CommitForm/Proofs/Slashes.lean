/-
# The two ends of a pattern

The closing slash of a pattern literal is found twice, and each time in another way.

| looked for | by | is |
| --- | --- | --- |
| in a source | the lexer | the first slash that is not behind a backslash |
| in a literal | the parser | the last slash |

The two are the same slash: what the lexer puts behind it are flags, and no flag is a slash.  So the
parser finds the body and the flags that the lexer has scanned, unless the body is empty.
-/

import CommitForm.Proofs.Grammar
import CommitForm.Proofs.Settling

namespace CommitForm
namespace When

/-- A literal with nothing between its slashes is no pattern: the last slash is the second
character, and nothing is cut out. -/
theorem splitPattern?_of_empty {flags : List Char} (h : '/' ∉ flags) :
    splitPattern? (String.ofList ('/' :: '/' :: flags)) = none := by
  rw [Option.eq_none_iff_forall_ne_some]
  rintro ⟨body, flags'⟩ hcut
  obtain ⟨heq, hbody, -⟩ := splitPattern?_eq_some_iff.1 hcut
  have hlist : '/' :: flags = body.toList ++ '/' :: flags'.toList := by
    simpa using congrArg String.toList heq
  cases hcs : body.toList with
  | nil => exact hbody (String.toList_eq_nil_iff.1 hcs)
  | cons c cs =>
    rw [hcs, List.cons_append] at hlist
    have hflags : flags = cs ++ '/' :: flags'.toList := (List.cons.inj hlist).2
    exact h (hflags ▸ List.mem_append_right cs List.mem_cons_self)

/-- A literal is cut at its last slash, which is the one in front of the flags, whatever slashes the
body has. -/
theorem splitPattern?_ofList (body : List Char) {flags : List Char} (h : '/' ∉ flags) :
    splitPattern? (String.ofList ('/' :: body ++ '/' :: flags)) =
      if body = [] then none else some (String.ofList body, String.ofList flags) := by
  split
  · next hbody =>
    subst hbody
    exact splitPattern?_of_empty h
  · next hbody =>
    have hwritten : String.ofList ('/' :: body ++ '/' :: flags) =
        "/" ++ String.ofList body ++ "/" ++ String.ofList flags := by
      rw [← String.toList_inj]
      simp
    rw [hwritten]
    refine splitPattern?_written ?_ (by rwa [String.toList_ofList])
    rw [ne_eq, ← String.toList_eq_nil_iff, String.toList_ofList]
    exact hbody

/-- **The parser takes a pattern literal apart where the lexer put it together.**  Behind blanks and
a slash the lexer scans a body up to its closing slash, and then all the flags that follow.  These
and the two slashes are the literal that it answers, and the parser cuts the literal into them, or
refuses it if the body is empty.  The lexer goes on behind the flags. -/
theorem splitPattern?_of_answer {source literal : String} {count : Nat}
    (h : (Cursor.start source.toList).answer count = .ok (.pattern literal)) :
    ∃ blanks rest body more : List Char,
      ((Cursor.start source.toList).proceed count).after = blanks ++ '/' :: rest ∧
      (∀ c ∈ blanks, Text.isBlank c = true) ∧
      splitUnescaped? '/' rest = some (body, more) ∧
      ((Cursor.start source.toList).proceed (count + 1)).after = more.dropWhile isFlag ∧
      literal = String.ofList ('/' :: body ++ '/' :: more.takeWhile isFlag) ∧
      splitPattern? literal =
        if body = [] then none
        else some (String.ofList body, String.ofList (more.takeWhile isFlag)) := by
  rw [Cursor.proceed_succ]
  rw [Cursor.answer] at h
  generalize (Cursor.start source.toList).proceed count = c at h ⊢
  rcases c.next_sound (Prod.ext h rfl) with ⟨heof, -⟩ | ⟨blanks, l, hblanks, hafter, -, hfits⟩
  · cases heof
  · have hends := hfits.ends
    cases hfits.spells with
    | punctuation ht => simp [punctuation] at ht
    | @pattern body flags hbody hflags =>
      have htake := takeWhile_append_of_head hflags hends
      have hdrop := dropWhile_append_of_head hflags hends
      have hscan := splitUnescaped?_complete hbody (by decide) (flags ++ c.next.2.after)
      refine ⟨blanks, body ++ '/' :: (flags ++ c.next.2.after), body, flags ++ c.next.2.after,
        by simp [hafter], hblanks, hscan, hdrop.symm, by rw [htake], ?_⟩
      rw [htake]
      exact splitPattern?_ofList body (not_mem_slash_of_isFlag hflags)

/-- A body with a slash and a backslash in it, both behind a backslash, and letters that are
flags. -/
theorem splitPattern?_of_answer_escapes :
    let source := "x =~ /gi\\/m\\\\/gi"
    (Cursor.start source.toList).answer 2 = .ok (.pattern "/gi\\/m\\\\/gi") ∧
    ∃ blanks rest body more : List Char,
      ((Cursor.start source.toList).proceed 2).after = blanks ++ '/' :: rest ∧
      (∀ c ∈ blanks, Text.isBlank c = true) ∧
      splitUnescaped? '/' rest = some (body, more) ∧
      ((Cursor.start source.toList).proceed 3).after = more.dropWhile isFlag ∧
      "/gi\\/m\\\\/gi" = String.ofList ('/' :: body ++ '/' :: more.takeWhile isFlag) ∧
      splitPattern? "/gi\\/m\\\\/gi" =
        if body = [] then none
        else some (String.ofList body, String.ofList (more.takeWhile isFlag)) := by
  intro source
  have h : (Cursor.start source.toList).answer 2 = .ok (.pattern "/gi\\/m\\\\/gi") := by
    decide +kernel
  exact ⟨h, splitPattern?_of_answer h⟩

end When
end CommitForm
