/-
# The operands of a when-clause

| of a clause | are |
| --- | --- |
| its leaves, from left to right | the operand tokens of its source, in order |
| its identifiers | the names among these tokens |

Nothing is left out and nothing comes twice: the leaves are also the leaf nodes of the tree, parents
before their children (`Expr.leaves_eq_filterMap`).  The tokens are those of the whole source, as a
clause has been read only when the source ends behind it (`Clause.exists_cut`).
-/

import CommitForm.Proofs.Lexer
import CommitForm.Proofs.Names

namespace CommitForm
namespace When

/-! ## Leaf nodes -/

namespace Expr

/-- The token that a leaf node is read from; a node with parts has none of its own. -/
def token? : Expr → Option Token
  | string s => some (.string s)
  | number n => some (.number n)
  | identifier name => some (.identifier name)
  | pattern body flags => some (.pattern ("/" ++ body ++ "/" ++ flags))
  | _ => none

/-- The name that an identifier node reads; no other node reads any. -/
def name? : Expr → Option String
  | identifier name => some name
  | _ => none

/-- The name of a leaf is the name that its token stands for. -/
theorem bind_token?_name? (e : Expr) : e.token?.bind Token.name? = e.name? := by cases e <;> rfl

mutual

/-- The leaves of an expression are its leaf nodes, in the order of all nodes from left to right. -/
theorem leaves_eq_filterMap (e : Expr) : e.leaves = (e :: e.descendants).filterMap token? := by
  cases e with
  | binary op l r =>
    rw [List.filterMap_cons_none rfl, descendants, List.filterMap_append, leaves,
      leaves_eq_filterMap l, leaves_eq_filterMap r]
  | not e => exact leaves_eq_filterMap e
  | array es => exact leavesOf_eq_filterMap es
  | _ => rfl

/-- The leaves of expressions are their leaf nodes, one expression after the other. -/
theorem leavesOf_eq_filterMap (es : List Expr) :
    leavesOf es = (descendantsOf es).filterMap token? := by
  cases es with
  | nil => rfl
  | cons e es =>
    rw [leavesOf, descendantsOf, List.filterMap_append, leaves_eq_filterMap e,
      leavesOf_eq_filterMap es]

end

/-- The identifiers of an expression are its identifier nodes, each as often as it occurs. -/
theorem identifiers_eq_filterMap_name? (e : Expr) :
    e.identifiers = (e :: e.descendants).filterMap name? := by
  rw [identifiers_eq_filterMap, leaves_eq_filterMap, List.filterMap_filterMap]
  simp only [bind_token?_name?]

/-- The leaves of further expressions stand behind those of the ones before. -/
theorem leavesOf_append (es fs : List Expr) : leavesOf (es ++ fs) = leavesOf es ++ leavesOf fs := by
  induction es with
  | nil => rfl
  | cons e es ih => rw [List.cons_append, leavesOf, leavesOf, ih, List.append_assoc]

end Expr

/-- The leaves of a part stand together among the leaves of the whole, by induction on the place of
the part. -/
theorem Context.leaves_infix (c : Context) (x : Expr) : x.leaves <:+: (c.plug x).leaves := by
  induction c with
  | hole => exact List.infix_rfl
  | left op c r ih => exact ih.trans (List.prefix_append _ _).isInfix
  | right op l c ih => exact ih.trans (List.suffix_append _ _).isInfix
  | not c ih => exact ih
  | array before c after ih =>
    rw [plug, Expr.leaves, Expr.leavesOf_append, Expr.leavesOf, ← List.append_assoc]
    exact ih.trans (List.infix_append _ _ _)

/-- The leaves of a node stand together among the leaves of the expression. -/
theorem Expr.leaves_infix {e x : Expr} (h : x ∈ e :: e.descendants) : x.leaves <:+: e.leaves := by
  rcases List.mem_cons.1 h with rfl | h
  · exact List.infix_rfl
  · obtain ⟨c, -, rfl⟩ := exists_plug_of_mem h
    exact c.leaves_infix x

/-! ## The tokens of a clause -/

/-- Every token that a text is cut into is spelled by some characters of it. -/
theorem Cut.exists_spells {before text : List Char} {ts : List Token} (h : Cut before text ts)
    {t : Token} (ht : t ∈ ts) : ∃ l, Spells l t := by
  induction h with
  | blanks => cases ht
  | lexeme _ hl _ ih =>
    rcases List.mem_cons.1 ht with rfl | ht
    · exact ⟨_, hl.spells⟩
    · exact ih ht

/-- The end token is not among the tokens that a text is cut into, since no characters spell it. -/
theorem Cut.eof_not_mem {before text : List Char} {ts : List Token} (h : Cut before text ts) :
    .eof ∉ ts := by
  intro ht
  obtain ⟨l, hl⟩ := h.exists_spells ht
  exact hl.ne_eof rfl

/-- An expression is read from all tokens before the end, so none of them is left over. -/
theorem sentence_of_parseTokens {ts : List Token} {e : Expr} (hts : .eof ∉ ts)
    (h : parseTokens (ts ++ [.eof]) = .ok e) : ∃ n, Sentence ts e n := by
  obtain ⟨r, hread, rfl⟩ := parseTokens_eq_ok_iff.1 h
  obtain ⟨⟨us, hus⟩, heof⟩ := expression_sound hread
  obtain ⟨n, -, hs⟩ := hus.derives
  obtain ⟨vs, t, rfl, ht⟩ := hs.exists_last
  obtain rfl := eq_of_append_eof hts ht (Place.token_eq_eof heof) hus.rest
  exact ⟨n, hs⟩

/-- A clause stands for the tokens that its source is cut into, as a sentence of the grammar. -/
theorem Clause.exists_cut {source : String} {c : Clause} (h : Clause.ofSource source = .ok c) :
    ∃ ts, tokenize source = .ok (ts ++ [.eof]) ∧ Cut [] source.toList ts ∧
      ∃ n, Sentence ts c.expr n := by
  obtain ⟨us, htokens, hparse, -⟩ := Clause.ofSource_eq_ok_iff.1 h
  obtain ⟨ts, rfl, hcut⟩ := Cursor.tokens_sound htokens
  exact ⟨ts, htokens, hcut, sentence_of_parseTokens hcut.eof_not_mem hparse⟩

/-- The names of tokens are names of operands, so leaving out other tokens loses no name. -/
theorem filterMap_name?_filter (ts : List Token) :
    (ts.filter Token.isOperand).filterMap Token.name? = ts.filterMap Token.name? := by
  rw [List.filterMap_filter]
  congr 1
  funext t
  cases t <;> rfl

/-- **The operands of a clause are the operand tokens of its source,** in order and with
repetitions, and they are all leaf nodes of its tree; so its identifiers are the names in the
source, and every identifier node is among them. -/
theorem Clause.leaves_eq_filter {source : String} {c : Clause}
    (h : Clause.ofSource source = .ok c) :
    ∃ ts, tokenize source = .ok ts ∧
      c.expr.leaves = ts.filter Token.isOperand ∧
      c.expr.leaves = (c.expr :: c.expr.descendants).filterMap Expr.token? ∧
      c.identifiers = ts.filterMap Token.name? ∧
      c.identifiers = (c.expr :: c.expr.descendants).filterMap Expr.name? := by
  obtain ⟨ts, htokens, -, n, hs⟩ := Clause.exists_cut h
  have hleaves : c.expr.leaves = (ts ++ [Token.eof]).filter Token.isOperand := by
    rw [List.filter_append, hs.filter_isOperand]
    exact (List.append_nil _).symm
  refine ⟨ts ++ [.eof], htokens, hleaves, c.expr.leaves_eq_filterMap, ?_,
    c.expr.identifiers_eq_filterMap_name?⟩
  rw [Clause.identifiers, Expr.identifiers_eq_filterMap, hleaves, filterMap_name?_filter]

/-- A clause with a name in an array in an array, which it has read before. -/
def nestedNames : Clause where
  source := "!(a == 'x') && b in [a, [b, 2]] || a =~ /a/i"
  expr :=
    .binary .either
      (.binary .both (.not (.binary .eq (.identifier "a") (.string "x")))
        (.binary .isIn (.identifier "b")
          (.array [.identifier "a", .array [.identifier "b", .number (Literal.digitRun ['2'])]])))
      (.binary .isMatch (.identifier "a") (.pattern "a" "i"))

/-- A clause with names in parentheses and arrays, whose leaves and identifiers are read off its
tokens in order. -/
theorem Clause.leaves_eq_filter_nestedNames :
    Clause.ofSource nestedNames.source = .ok nestedNames ∧
      ∃ ts, tokenize nestedNames.source = .ok ts ∧
        nestedNames.expr.leaves = ts.filter Token.isOperand ∧
        nestedNames.expr.leaves =
          (nestedNames.expr :: nestedNames.expr.descendants).filterMap Expr.token? ∧
        nestedNames.identifiers = ts.filterMap Token.name? ∧
        nestedNames.identifiers =
          (nestedNames.expr :: nestedNames.expr.descendants).filterMap Expr.name? := by
  have htokens : tokenize nestedNames.source = .ok
      [.not, .openParen, .identifier "a", .operator .eq, .string "x", .closeParen, .operator .both,
        .identifier "b", .operator .isIn, .openBracket, .identifier "a", .comma, .openBracket,
        .identifier "b", .comma, .number (Literal.digitRun ['2']), .closeBracket, .closeBracket,
        .operator .either, .identifier "a", .operator .isMatch, .pattern "/a/i", .eof] := by
    decide +kernel
  have h : Clause.ofSource nestedNames.source = .ok nestedNames :=
    Clause.ofSource_eq_ok_iff.2 ⟨_, htokens, rfl, rfl⟩
  exact ⟨h, Clause.leaves_eq_filter h⟩

end When
end CommitForm
