/-
# JSON values as YAML nodes

The YAML tokens of a JSON value are parsed into the events of the value, and these into its node.

| value | events | node |
| --- | --- | --- |
| a scalar | a scalar | a scalar |
| a list | the begin, the items and the end of a list | a list |
| an object | the begin, keys and values and the end of a map | a map |

No token of a JSON text gives a node an anchor or a tag.
-/

import CommitForm.Proofs.JsonTokens
import CommitForm.Yaml.Node

namespace CommitForm
namespace Yaml

/-! ## Events -/

/-- A scalar without an anchor or a tag, in a style, as the event that it happens as. -/
def bareScalar (Name : Type) (style : Style) (text : String) : Happening Name :=
  .scalar none none style text

/-- The text of a flag, as both formats write it in lower case. -/
def flagText (b : Bool) : String := if b then "true" else "false"

section

variable (Name : Type)

mutual

/-- The events of a value, without their places, which depend on how the text is spaced. -/
def happenings : Json.Value → List (Happening Name)
  | .null => [bareScalar Name .plain "null"]
  | .flag b => [bareScalar Name .plain (flagText b)]
  | .number cs => [bareScalar Name .plain (String.ofList cs)]
  | .text s => [bareScalar Name .doubleQuoted s]
  | .list vs => .listStart none none :: (itemHappenings vs ++ [.listEnd])
  | .object bs => .mapStart none none :: (entryHappenings bs ++ [.mapEnd])

/-- The events of the items of a list, item by item, without those of the list itself. -/
def itemHappenings : List Json.Value → List (Happening Name)
  | [] => []
  | v :: vs => happenings v ++ itemHappenings vs

/-- The events of the keys and values of an object, entry by entry, without those of the object
itself. -/
def entryHappenings : List (String × Json.Value) → List (Happening Name)
  | [] => []
  | (k, v) :: bs => bareScalar Name .doubleQuoted k :: (happenings v ++ entryHappenings bs)

end

end

namespace Parser

/-- A parser answers events and goes on as another one, without having reached the end of the
text. -/
inductive Emits : Parser → List (Event String) → Parser → Prop where
  | refl (p : Parser) : Emits p [] p
  | step {p q r : Parser} {e : Event String} {es : List (Event String)} (h : p.next = .ok (e, q))
      (hrunning : e.happening ≠ .streamEnd) (h' : Emits q es r) : Emits p (e :: es) r

/-- Events that follow on events are answered one after the other. -/
theorem Emits.trans {p q r : Parser} {es es' : List (Event String)} (h : Emits p es q)
    (h' : Emits q es' r) : Emits p (es ++ es') r := by
  induction h with
  | refl => exact h'
  | step h hrunning _ ih => exact .step h hrunning (ih h')

/-- An answer happens first, other happenings follow, and then a parser goes on before lexemes. -/
def Leads (r : Parsed) (hs : List (Happening String)) (p : Parser) (ls : List Lexeme) : Prop :=
  ∃ e q es ts, r = .ok (e, q) ∧ e.happening ≠ .streamEnd ∧ (e :: es).map Event.happening = hs ∧
    ts.map Token.lexeme = ls ∧ Emits q es { p with tokens := ts }

variable {p q : Parser} {r : Parsed} {hs hs' : List (Happening String)} {ls ls' : List Lexeme}

/-- An answer after which a parser goes on before lexemes, the case in which a single event is
answered. -/
theorem Leads.emit (p : Parser) (h : Happening String) (hrunning : h ≠ .streamEnd) {ts : List Token}
    (hts : ts.map Token.lexeme = ls) (place : Place) :
    Leads (emit { p with tokens := ts } h place) [h] p ls :=
  ⟨⟨h, place⟩, _, [], ts, rfl, hrunning, rfl, hts, .refl _⟩

/-- What a parser answers next follows on what it has answered, wherever the tokens have their
places. -/
theorem Leads.next (h : Leads r hs p ls)
    (h' : ∀ ts, ts.map Token.lexeme = ls → Leads (next { p with tokens := ts }) hs' q ls') :
    Leads r (hs ++ hs') q ls' := by
  obtain ⟨e, p', es, ts, hr, hrunning, rfl, hts, hemits⟩ := h
  obtain ⟨e', q', es', ts', hr', hrunning', rfl, hts', hemits'⟩ := h' ts hts
  exact ⟨e, p', es ++ e' :: es', ts', hr, hrunning, by simp, hts',
    hemits.trans (.step hr' hrunning' hemits')⟩

/-- Where a parser goes on does not depend on what it is before, only on what waits behind the
node. -/
theorem Leads.leave {ts : List Token} {e : Expectation}
    (h : Leads r hs (Parser.leave { p with tokens := ts, expects := e }) ls) :
    Leads r hs p.leave ls := by
  have hleave :
      Parser.leave { p with tokens := ts, expects := e } = { p.leave with tokens := ts } := by
    simp only [Parser.leave]
    split <;> rfl
  rw [hleave] at h
  exact h

/-! ## Nodes -/

/-- The lexemes that a node begins with, as far as values of JSON have them. -/
def OpensNode : Lexeme → Prop
  | .scalar _ _ | .flowListStart | .flowMapStart => True
  | _ => False

section

variable {block flat : Bool} {t : Token} {ts : List Token}

/-- The next token is the first of the tokens that are left, if there is one. -/
theorem peek_eq (hp : p.tokens = t :: ts) : p.peek = .ok t := by rw [peek, hp]

/-- A node without anchor and tag has no properties, and no token is taken for them. -/
theorem readProperties_eq (hp : p.tokens = t :: ts) (ht : OpensNode t.lexeme) :
    p.readProperties = .ok (⟨none, none, none⟩, p) := by
  have hpeek := peek_eq hp
  cases hl : t.lexeme <;> rw [hl] at ht <;> first
    | exact ht.elim
    | simp [readProperties, readAnchor, readTag, hpeek, hl, bind, Except.bind]

/-- Taking a token and leaving a node can be done in either order. -/
theorem leave_advance (hp : p.tokens = t :: ts) :
    p.leave.advance = { p.leave with tokens := ts } := by
  rw [leave]
  split <;> simp [advance, expecting, hp]

/-- A scalar is answered as one event, and the parser goes on behind it. -/
theorem node_scalar (hp : p.tokens = t :: ts) {style : Style} {text : List Char}
    (ht : t.lexeme = .scalar style text) :
    node block flat p = emit { p.leave with tokens := ts }
      (bareScalar String style (String.ofList text)) t.start := by
  have hproperties := readProperties_eq hp (by rw [ht]; trivial)
  simp only [node, peek_eq hp, hproperties, resolveTag, bind, Except.bind, ht, leave_advance hp]
  rfl

/-- An opening bracket is answered as the begin of a list, whose first item is expected next. -/
theorem node_list (hp : p.tokens = t :: ts) (ht : t.lexeme = .flowListStart) :
    node block flat p =
      emit { p with tokens := ts, expects := .flowEntry true } (.listStart none none) t.start := by
  have hproperties := readProperties_eq hp (by rw [ht]; trivial)
  simp only [node, peek_eq hp, hproperties, resolveTag, bind, Except.bind, ht]
  rw [advance, expecting, hp]
  rfl

/-- An opening brace is answered as the begin of a map, whose first key is expected next. -/
theorem node_map (hp : p.tokens = t :: ts) (ht : t.lexeme = .flowMapStart) :
    node block flat p =
      emit { p with tokens := ts, expects := .flowKey true } (.mapStart none none) t.start := by
  have hproperties := readProperties_eq hp (by rw [ht]; trivial)
  simp only [node, peek_eq hp, hproperties, resolveTag, bind, Except.bind, ht]
  rw [advance, expecting, hp]
  rfl

end

/-! ## Items and entries -/

/-- Tokens with lexemes are taken apart as their lexemes are, whatever their places. -/
theorem map_lexeme_cons {ts : List Token} {l : Lexeme} (h : ts.map Token.lexeme = l :: ls) :
    ∃ t ts', ts = t :: ts' ∧ t.lexeme = l ∧ ts'.map Token.lexeme = ls := by
  obtain ⟨t, ts', rfl, ht, hts⟩ := List.map_eq_cons_iff.1 h
  exact ⟨t, ts', rfl, ht, hts⟩

/-- The separator before an item is read: a comma, unless the item is the first. -/
theorem readComma_separator {first : Bool} {l : Lexeme} (f : Fault)
    (h : p.tokens.map Token.lexeme = (Json.separator first).flatMap tokensOf ++ l :: ls) :
    ∃ t ts, t.lexeme = l ∧ ts.map Token.lexeme = ls ∧
      p.readComma first f = .ok { p with tokens := t :: ts } := by
  cases first with
  | true =>
    obtain ⟨t, ts, hp, ht, hts⟩ := map_lexeme_cons h
    refine ⟨t, ts, ht, hts, ?_⟩
    rw [readComma, peek_eq hp, ← hp]
    rfl
  | false =>
    obtain ⟨c, cs, hp, hc, hcs⟩ := map_lexeme_cons h
    obtain ⟨t, ts, rfl, ht, hts⟩ := map_lexeme_cons hcs
    refine ⟨t, ts, ht, hts, ?_⟩
    simp only [readComma, peek_eq hp, bind, Except.bind, hc, if_true, advance, hp]
    rfl

/-- A closing bracket ends the list, behind its last item or at once. -/
theorem flowEntry_end (first : Bool) (h : p.tokens.map Token.lexeme = .flowListEnd :: ls) :
    Leads (p.flowEntry first) [.listEnd] p.leave ls := by
  obtain ⟨t, ts, hp, ht, hts⟩ := map_lexeme_cons h
  have hend : p.flowEntry first = emit { p.leave with tokens := ts } .listEnd t.start := by
    simp only [flowEntry, peek_eq hp, bind, Except.bind, ht, if_true, leave_advance hp]
  rw [hend]
  exact .emit p.leave .listEnd nofun hts t.start

/-- An item behind its separator is parsed as a node, behind which another item is expected. -/
theorem flowEntry_item {first : Bool} {l : Lexeme} (hl : OpensNode l)
    (h : p.tokens.map Token.lexeme = (Json.separator first).flatMap tokensOf ++ l :: ls) :
    ∃ ts, ts.map Token.lexeme = l :: ls ∧ p.flowEntry first =
      node false false { p with tokens := ts, pending := .flowEntry false :: p.pending } := by
  obtain ⟨t, ts, ht, hts, hcomma⟩ := readComma_separator .listEndExpected h
  obtain ⟨t', ts', hp⟩ : ∃ t' ts', p.tokens = t' :: ts' := by
    cases hp : p.tokens with
    | nil => rw [hp] at h; cases first <;> cases h
    | cons t' ts' => exact ⟨t', ts', rfl⟩
  have hne : t'.lexeme ≠ .flowListEnd := by
    rw [hp, List.map_cons] at h
    cases first with
    | true => rw [(List.cons.inj h).1]; rintro rfl; exact hl
    | false => rw [(List.cons.inj h).1]; nofun
  refine ⟨t :: ts, by rw [List.map_cons, ht, hts], ?_⟩
  simp only [flowEntry, peek_eq hp, bind, Except.bind, hne, if_false, hcomma]
  rw [peek_eq rfl]
  cases l <;> first | exact hl.elim | simp only [ht]

/-- A closing brace ends the map, behind its last entry or at once. -/
theorem flowKey_end (first : Bool) (h : p.tokens.map Token.lexeme = .flowMapEnd :: ls) :
    Leads (p.flowKey first) [.mapEnd] p.leave ls := by
  obtain ⟨t, ts, hp, ht, hts⟩ := map_lexeme_cons h
  have hend : p.flowKey first = emit { p.leave with tokens := ts } .mapEnd t.start := by
    simp only [flowKey, peek_eq hp, bind, Except.bind, ht, if_true, leave_advance hp]
  rw [hend]
  exact .emit p.leave .mapEnd nofun hts t.start

/-- A key behind its separator is answered as a scalar, behind which its value is expected. -/
theorem flowKey_entry {first : Bool} {style : Style} {key : List Char}
    (h : p.tokens.map Token.lexeme =
      (Json.separator first).flatMap tokensOf ++ .key :: .scalar style key :: ls) :
    Leads (p.flowKey first) [bareScalar String style (String.ofList key)]
      { p with expects := .flowValue } ls := by
  obtain ⟨t, ts, ht, hts, hcomma⟩ := readComma_separator .mapEndExpected h
  obtain ⟨u, us, rfl, hu, hus⟩ := map_lexeme_cons hts
  obtain ⟨t', ts', hp⟩ : ∃ t' ts', p.tokens = t' :: ts' := by
    cases hp : p.tokens with
    | nil => rw [hp] at h; cases first <;> cases h
    | cons t' ts' => exact ⟨t', ts', rfl⟩
  have hne : t'.lexeme ≠ .flowMapEnd := by
    rw [hp, List.map_cons] at h
    cases first with
    | true => rw [(List.cons.inj h).1]; nofun
    | false => rw [(List.cons.inj h).1]; nofun
  have hkey : p.flowKey first = node false false
      { p with tokens := u :: us, pending := .flowValue :: p.pending } := by
    simp only [flowKey, peek_eq hp, bind, Except.bind, hne, if_false, hcomma]
    rw [peek_eq rfl]
    simp only [ht, advance, List.tail_cons]
    rw [peek_eq rfl]
    simp only [nodeUnless, bind, Except.bind]
    rw [peek_eq rfl]
    simp [hu]
  rw [hkey, node_scalar rfl hu]
  exact .emit { p with expects := .flowValue } (bareScalar String style (String.ofList key)) nofun
    hus u.start

/-- A value behind its colon is parsed as a node, behind which another key is expected. -/
theorem flowValue_entry {l : Lexeme} (hl : OpensNode l)
    (h : p.tokens.map Token.lexeme = .value :: l :: ls) :
    ∃ ts, ts.map Token.lexeme = l :: ls ∧ p.flowValue =
      node false false { p with tokens := ts, pending := .flowKey false :: p.pending } := by
  obtain ⟨t, ts, hp, ht, hts⟩ := map_lexeme_cons h
  obtain ⟨u, us, rfl, hu, hus⟩ := map_lexeme_cons hts
  refine ⟨u :: us, hts, ?_⟩
  simp only [flowValue, peek_eq hp, bind, Except.bind, ht, if_true, advance, hp, List.tail_cons]
  rw [peek_eq rfl]
  simp only [nodeUnless, bind, Except.bind]
  rw [peek_eq rfl]
  cases l <;> first | exact hl.elim | simp [hu]

/-! ## Values -/

/-- The first token of a value opens a node, whatever the value is. -/
theorem tokens_head (v : Json.Value) (ls : List Lexeme) :
    ∃ l ls', v.lexemes.flatMap tokensOf ++ ls = l :: ls' ∧ OpensNode l := by
  rcases v with _ | (_ | _) | _ | _ | _ | _ <;> exact ⟨_, _, rfl, trivial⟩

mutual

/-- **A value is parsed** into its events, by recursion along the value, wherever it stands between
brackets. -/
theorem node_leads : (v : Json.Value) → ∀ {p : Parser} {ls : List Lexeme},
    p.tokens.map Token.lexeme = v.lexemes.flatMap tokensOf ++ ls → (block flat : Bool) →
    Leads (node block flat p) (happenings String v) p.leave ls
  | .null, p, ls, h, block, flat => by
    obtain ⟨t, ts, hp, ht, hts⟩ := map_lexeme_cons h
    rw [node_scalar hp ht]
    exact .emit p.leave (bareScalar String .plain "null") nofun hts t.start
  | .flag true, p, ls, h, block, flat => by
    obtain ⟨t, ts, hp, ht, hts⟩ := map_lexeme_cons h
    rw [node_scalar hp ht]
    exact .emit p.leave (bareScalar String .plain "true") nofun hts t.start
  | .flag false, p, ls, h, block, flat => by
    obtain ⟨t, ts, hp, ht, hts⟩ := map_lexeme_cons h
    rw [node_scalar hp ht]
    exact .emit p.leave (bareScalar String .plain "false") nofun hts t.start
  | .number cs, p, ls, h, block, flat => by
    obtain ⟨t, ts, hp, ht, hts⟩ := map_lexeme_cons h
    rw [node_scalar hp ht]
    exact .emit p.leave (bareScalar String .plain (String.ofList cs)) nofun hts t.start
  | .text s, p, ls, h, block, flat => by
    obtain ⟨t, ts, hp, ht, hts⟩ := map_lexeme_cons h
    rw [node_scalar hp ht, String.ofList_toList]
    exact .emit p.leave (bareScalar String .doubleQuoted s) nofun hts t.start
  | .list vs, p, ls, h, block, flat => by
    obtain ⟨t, ts, hp, ht, hts⟩ := map_lexeme_cons h
    rw [node_list hp ht]
    exact (Leads.emit { p with expects := .flowEntry true } (.listStart none none) nofun hts
      t.start).next fun us hus => .leave (items_lead true vs rfl hus)
  | .object bs, p, ls, h, block, flat => by
    obtain ⟨t, ts, hp, ht, hts⟩ := map_lexeme_cons h
    rw [node_map hp ht]
    exact (Leads.emit { p with expects := .flowKey true } (.mapStart none none) nofun hts
      t.start).next fun us hus => .leave (entries_lead true bs rfl hus)

/-- The items of a list are parsed into their events and that of the list's end. -/
theorem items_lead : (first : Bool) → (vs : List Json.Value) → ∀ {p : Parser} {ls : List Lexeme},
    p.expects = .flowEntry first →
    p.tokens.map Token.lexeme = (Json.itemLexemes first vs).flatMap tokensOf ++ ls →
    Leads p.next (itemHappenings String vs ++ [.listEnd]) p.leave ls
  | first, [], p, ls, hexpects, h => by
    rw [next, hexpects]
    exact flowEntry_end first h
  | first, v :: vs, p, ls, hexpects, h => by
    simp only [Json.itemLexemes, List.flatMap_append, List.append_assoc] at h
    obtain ⟨l, ls', hl, hopens⟩ :=
      tokens_head v ((Json.itemLexemes false vs).flatMap tokensOf ++ ls)
    rw [hl] at h
    obtain ⟨ts, hts, hitem⟩ := flowEntry_item hopens h
    rw [next, hexpects]
    dsimp only
    rw [hitem, itemHappenings, List.append_assoc]
    exact (node_leads v (hts.trans hl.symm) false false).next fun us hus =>
      .leave (items_lead false vs rfl hus)

/-- The entries of an object are parsed into their events and that of the object's end. -/
theorem entries_lead : (first : Bool) → (bs : List (String × Json.Value)) →
    ∀ {p : Parser} {ls : List Lexeme}, p.expects = .flowKey first →
    p.tokens.map Token.lexeme = (Json.entryLexemes first bs).flatMap tokensOf ++ ls →
    Leads p.next (entryHappenings String bs ++ [.mapEnd]) p.leave ls
  | first, [], p, ls, hexpects, h => by
    rw [next, hexpects]
    exact flowKey_end first h
  | first, (k, v) :: bs, p, ls, hexpects, h => by
    simp only [Json.entryLexemes, List.flatMap_append, List.flatMap_cons, tokensOf,
      List.append_assoc, List.cons_append, List.nil_append] at h
    obtain ⟨l, ls', hl, hopens⟩ :=
      tokens_head v ((Json.entryLexemes false bs).flatMap tokensOf ++ ls)
    have hkey := flowKey_entry h
    have hhappenings : entryHappenings String ((k, v) :: bs) ++ [.mapEnd] =
        [bareScalar String .doubleQuoted k] ++
          (happenings String v ++ (entryHappenings String bs ++ [.mapEnd])) := by
      simp [entryHappenings]
    rw [String.ofList_toList] at hkey
    rw [next, hexpects, hhappenings]
    refine hkey.next fun us hus => ?_
    rw [hl] at hus
    obtain ⟨ts, hts, hvalue⟩ :=
      flowValue_entry (p := { p with tokens := us, expects := .flowValue }) hopens hus
    rw [next]
    dsimp only
    rw [hvalue]
    exact (node_leads v (hts.trans hl.symm) false false).next fun us hus =>
      .leave (entries_lead false bs rfl hus)

end

/-! ## Documents -/

/-- Events that are answered stand first among all events of the text, and each takes one round of
the fuel. -/
theorem Emits.ofParser {p q : Parser} {es : List (Event String)} (h : Emits p es q) (n : Nat) :
    Events.ofParser (es.length + n) p =
      ⟨es ++ (Events.ofParser n q).list, (Events.ofParser n q).fault⟩ := by
  induction h with
  | refl => simp
  | @step p q r e es h hrunning _ ih =>
    rw [List.length_cons, Nat.add_right_comm, Events.ofParser, h]
    simp only [hrunning, if_false, ih]
    rfl

mutual

/-- Every event has a token of its own, so the fuel that is taken from the number of tokens
suffices. -/
theorem length_happenings : (v : Json.Value) →
    (happenings String v).length ≤ (v.lexemes.flatMap tokensOf).length
  | .null | .flag true | .flag false | .number _ | .text _ => Nat.le_refl 1
  | .list vs => by
    have hitems := length_itemHappenings true vs
    simp only [happenings, Json.Value.lexemes, List.flatMap_cons, tokensOf, List.length_cons,
      List.length_append, List.length_nil]
    omega
  | .object bs => by
    have hentries := length_entryHappenings true bs
    simp only [happenings, Json.Value.lexemes, List.flatMap_cons, tokensOf, List.length_cons,
      List.length_append, List.length_nil]
    omega

/-- The items of a list have fewer events than tokens, since the closing bracket has none here. -/
theorem length_itemHappenings : (first : Bool) → (vs : List Json.Value) →
    (itemHappenings String vs).length < ((Json.itemLexemes first vs).flatMap tokensOf).length
  | _, [] => Nat.zero_lt_one
  | first, v :: vs => by
    have hv := length_happenings v
    have hvs := length_itemHappenings false vs
    simp only [itemHappenings, Json.itemLexemes, List.flatMap_append, List.length_append]
    omega

/-- The entries of an object have fewer events than tokens, since the closing brace has none
here. -/
theorem length_entryHappenings : (first : Bool) → (bs : List (String × Json.Value)) →
    (entryHappenings String bs).length < ((Json.entryLexemes first bs).flatMap tokensOf).length
  | _, [] => Nat.zero_lt_one
  | first, (k, v) :: bs => by
    have hv := length_happenings v
    have hbs := length_entryHappenings false bs
    simp only [entryHappenings, Json.entryLexemes, List.flatMap_append, List.flatMap_cons, tokensOf,
      List.length_append, List.length_cons]
    omega

end

/-- A parser in its first document, which has no mark: a node is expected, and the document's end
behind it. -/
def inDocument (p : Parser) : Parser :=
  { p with
    expects := .blockNode
    pending := .documentEnd :: p.pending
    directives := TagDirective.defaults }

/-- Where a value stands first, a document begins without a mark and without taking a token. -/
theorem firstDocument_leads {l : Lexeme} (hl : OpensNode l) (hexpects : p.expects = .firstDocument)
    (h : p.tokens.map Token.lexeme = l :: ls) :
    Leads p.next [.documentStart] p.inDocument (l :: ls) := by
  obtain ⟨t, ts, hp, ht, hts⟩ := map_lexeme_cons h
  have hstart : p.document true =
      emit { p.inDocument with tokens := t :: ts } .documentStart t.start := by
    simp only [document, if_true, peek_eq hp, bind, Except.bind]
    rw [← hp]
    cases l <;> first | exact hl.elim | (rw [ht]; rfl)
  rw [next, hexpects]
  dsimp only
  rw [hstart]
  exact .emit p.inDocument .documentStart nofun (by rw [List.map_cons, ht, hts]) t.start

/-- A parser behind a document: another one or the end of the text is expected. -/
def behindDocument (p : Parser) : Parser := { p with expects := .document, directives := [] }

/-- At the end of the text the document ends without a mark and without taking a token. -/
theorem documentEnd_leads (hexpects : p.expects = .documentEnd)
    (h : p.tokens.map Token.lexeme = .streamEnd :: ls) :
    Leads p.next [.documentEnd] p.behindDocument (.streamEnd :: ls) := by
  obtain ⟨t, ts, hp, ht, hts⟩ := map_lexeme_cons h
  have hend : p.documentEnd =
      emit { p.behindDocument with tokens := t :: ts } .documentEnd t.start := by
    simp only [documentEnd, peek_eq hp, bind, Except.bind, ht, reduceCtorEq, if_false]
    rw [← hp]
    rfl
  rw [next, hexpects]
  dsimp only
  rw [hend]
  exact .emit p.behindDocument .documentEnd nofun (by rw [List.map_cons, ht, hts]) t.start

/-- Behind the document the end of the text is the only event that is left. -/
theorem streamEnd_ofParser (hexpects : p.expects = .document)
    (h : p.tokens.map Token.lexeme = [.streamEnd]) (n : Nat) :
    ∃ place, Events.ofParser (n + 1) p = ⟨[⟨.streamEnd, place⟩], none⟩ := by
  obtain ⟨t, ts, hp, ht, hts⟩ := map_lexeme_cons h
  have hends : p.skipEnds = p := by
    obtain ⟨tokens, fault, expects, pending, directives⟩ := p
    obtain rfl : tokens = t :: ts := hp
    simp [skipEnds, ht]
  refine ⟨t.start, ?_⟩
  rw [Events.ofParser, next, hexpects]
  simp only [document, hends, peek_eq hp, bind, Except.bind, ht, Bool.false_eq_true, if_false]
  rfl

/-- A document with a value leads to its end: its begin, the events of the value, and its end. -/
theorem document_leads (v : Json.Value) (hexpects : p.expects = .firstDocument)
    (h : p.tokens.map Token.lexeme = v.lexemes.flatMap tokensOf ++ [.streamEnd]) :
    Leads p.next (.documentStart :: (happenings String v ++ [.documentEnd]))
      p.inDocument.leave.behindDocument [.streamEnd] := by
  obtain ⟨l, ls, hl, hopens⟩ := tokens_head v [.streamEnd]
  have hstart := firstDocument_leads hopens hexpects (h.trans hl)
  have hcontent : Leads p.next ([.documentStart] ++ happenings String v) p.inDocument.leave
      [.streamEnd] := by
    rw [← hl] at hstart
    exact hstart.next fun us hus =>
      .leave (node_leads v (p := { p.inDocument with tokens := us }) hus true false)
  have hend : Leads p.next (([.documentStart] ++ happenings String v) ++ [.documentEnd])
      p.inDocument.leave.behindDocument [.streamEnd] :=
    hcontent.next fun us hus =>
      documentEnd_leads (p := { p.inDocument.leave with tokens := us }) rfl hus
  rw [List.append_assoc] at hend
  exact hend

/-- **The events of a value** are those of the only document, and no fault follows them. -/
theorem ofTokens_value (v : Json.Value) {ts : Tokens}
    (h : ts.list.map Token.lexeme = v.lexemes.flatMap tokensOf ++ [.streamEnd]) :
    (Events.ofTokens ts).fault = none ∧ (Events.ofTokens ts).list.map Event.happening =
      .documentStart :: (happenings String v ++ [.documentEnd, .streamEnd]) := by
  obtain ⟨e, q, es, us, hnext, hrunning, hes, hus, hemits⟩ :=
    document_leads v (p := ⟨ts.list, ts.fault, .firstDocument, [], []⟩) rfl h
  have hlength : (e :: es).length = (happenings String v).length + 2 := by
    have hmap := congrArg List.length hes
    simpa using hmap
  have htokens : (happenings String v).length < ts.list.length := by
    have hmap := congrArg List.length h
    have hhappenings := length_happenings v
    simp only [List.length_map, List.length_append, List.length_cons, List.length_nil] at hmap
    omega
  obtain ⟨n, hn⟩ : ∃ n, 6 * ts.list.length + 10 = (e :: es).length + (n + 1) :=
    ⟨6 * ts.list.length + 10 - (e :: es).length - 1, by omega⟩
  obtain ⟨place, hplace⟩ :=
    streamEnd_ofParser (p := { behindDocument _ with tokens := us }) rfl hus n
  rw [Events.ofTokens, hn, (Emits.step hnext hrunning hemits).ofParser, hplace]
  refine ⟨rfl, ?_⟩
  rw [List.map_append, hes]
  simp

end Parser
/-! ## Anchors -/

/-- Whether an event belongs to a value: it has neither an anchor nor a tag. -/
def IsBare : Happening String → Prop
  | .scalar none none _ _ | .listStart none none | .listEnd | .mapStart none none | .mapEnd => True
  | _ => False

mutual

/-- The events of a value have no anchors and no tags and are no aliases. -/
theorem isBare_happenings : (v : Json.Value) → ∀ h ∈ happenings String v, IsBare h
  | .null | .flag _ | .number _ | .text _ => fun h hh => by
    obtain rfl := List.mem_singleton.1 hh
    trivial
  | .list vs => fun h hh => by
    simp only [happenings, List.mem_cons, List.mem_append, List.not_mem_nil, or_false] at hh
    rcases hh with rfl | hh | rfl
    · trivial
    · exact isBare_itemHappenings vs h hh
    · trivial
  | .object bs => fun h hh => by
    simp only [happenings, List.mem_cons, List.mem_append, List.not_mem_nil, or_false] at hh
    rcases hh with rfl | hh | rfl
    · trivial
    · exact isBare_entryHappenings bs h hh
    · trivial

/-- The events of items have no anchors and no tags and are no aliases. -/
theorem isBare_itemHappenings : (vs : List Json.Value) → ∀ h ∈ itemHappenings String vs, IsBare h
  | [], _, hh => nomatch hh
  | v :: vs, h, hh => by
    rcases List.mem_append.1 hh with hh | hh
    · exact isBare_happenings v h hh
    · exact isBare_itemHappenings vs h hh

/-- The events of entries have no anchors and no tags and are no aliases. -/
theorem isBare_entryHappenings : (bs : List (String × Json.Value)) →
    ∀ h ∈ entryHappenings String bs, IsBare h
  | [], _, hh => nomatch hh
  | (k, v) :: bs, h, hh => by
    simp only [entryHappenings, List.mem_cons, List.mem_append] at hh
    rcases hh with rfl | hh | hh
    · trivial
    · exact isBare_happenings v h hh
    · exact isBare_entryHappenings bs h hh

end

/-- An event without its anchor, which is what numbering the anchors makes of an event that has
none. -/
def unnamed : Happening String → Happening Nat
  | .documentStart => .documentStart
  | .documentEnd => .documentEnd
  | .streamEnd => .streamEnd
  | .again _ => .again 0
  | .scalar _ tag style text => .scalar none tag style text
  | .listStart _ tag => .listStart none tag
  | .listEnd => .listEnd
  | .mapStart _ tag => .mapStart none tag
  | .mapEnd => .mapEnd

/-- Events without anchors are numbered without a fault and stay as they are. -/
theorem numbered_bare {es : List (Event String)} (h : ∀ e ∈ es, IsBare e.happening) (ns : Names) :
    (numbered ns es).2 = none ∧
      (numbered ns es).1.map Event.happening = es.map fun e => unnamed e.happening := by
  induction es with
  | nil => exact ⟨rfl, rfl⟩
  | cons e es ih =>
    have ih := ih fun e he => h e (List.mem_cons_of_mem _ he)
    have he := h e List.mem_cons_self
    obtain ⟨happening, place⟩ := e
    rw [numbered]
    revert he
    dsimp only
    unfold IsBare
    split <;> intro he
    all_goals first
      | exact he.elim
      | exact ⟨ih.1, by simp [Names.give, ih.2, unnamed]⟩

mutual

/-- The events of a value are the same for names and for numbers of anchors, since they have
none. -/
theorem unnamed_happenings : (v : Json.Value) →
    (happenings String v).map unnamed = happenings Nat v
  | .null | .flag _ | .number _ | .text _ => rfl
  | .list vs => by simp [happenings, unnamed, unnamed_itemHappenings vs]
  | .object bs => by simp [happenings, unnamed, unnamed_entryHappenings bs]

/-- The events of items are the same for names and for numbers of anchors. -/
theorem unnamed_itemHappenings : (vs : List Json.Value) →
    (itemHappenings String vs).map unnamed = itemHappenings Nat vs
  | [] => rfl
  | v :: vs => by simp [itemHappenings, unnamed_happenings v, unnamed_itemHappenings vs]

/-- The events of entries are the same for names and for numbers of anchors. -/
theorem unnamed_entryHappenings : (bs : List (String × Json.Value)) →
    (entryHappenings String bs).map unnamed = entryHappenings Nat bs
  | [] => rfl
  | (k, v) :: bs => by
    simp [entryHappenings, bareScalar, unnamed, unnamed_happenings v, unnamed_entryHappenings bs]

end

/-! ## Nodes -/

mutual

/-- The node of a value, wherever it stands: texts are quoted, everything else is plain and without
tag. -/
inductive IsNodeOf : Json.Value → Node → Prop where
  | null (place : Place) : IsNodeOf .null (.scalar none .plain "null" place)
  | flag (b : Bool) (place : Place) : IsNodeOf (.flag b) (.scalar none .plain (flagText b) place)
  | number {cs : List Char} (h : Json.IsNumber cs) (place : Place) :
      IsNodeOf (.number cs) (.scalar none .plain (String.ofList cs) place)
  | text (s : String) (place : Place) : IsNodeOf (.text s) (.scalar none .doubleQuoted s place)
  | list {vs : List Json.Value} {ns : List Node} (h : AreNodesOf vs ns) (place : Place) :
      IsNodeOf (.list vs) (.list none ns place)
  | object {bs : List (String × Json.Value)} {es : List (Node × Node)} (h : AreEntriesOf bs es)
      (place : Place) : IsNodeOf (.object bs) (.map none es place)

/-- The nodes of the items of a list, one for each item and in the same order. -/
inductive AreNodesOf : List Json.Value → List Node → Prop where
  | nil : AreNodesOf [] []
  | cons {v : Json.Value} {vs : List Json.Value} {n : Node} {ns : List Node} (hv : IsNodeOf v n)
      (h : AreNodesOf vs ns) : AreNodesOf (v :: vs) (n :: ns)

/-- The nodes of the keys and values of an object, one pair for each entry and in the same order. -/
inductive AreEntriesOf : List (String × Json.Value) → List (Node × Node) → Prop where
  | nil : AreEntriesOf [] []
  | cons {k : String} {place : Place} {v : Json.Value} {bs : List (String × Json.Value)} {n : Node}
      {es : List (Node × Node)} (hv : IsNodeOf v n) (h : AreEntriesOf bs es) :
      AreEntriesOf ((k, v) :: bs) ((.scalar none .doubleQuoted k place, n) :: es)

end

/-- What follows a node in frames: the node is added to the innermost one, or it is the whole. -/
def Node.resume (n : Node) : List Frame → List (Event Nat) → Node
  | [], _ => n
  | f :: frames, es => Node.ofEvents (f.add n :: frames) es

/-- Events are taken apart as what happens in them is, whatever their places. -/
theorem map_happening_cons {es : List (Event Nat)} {h : Happening Nat} {hs : List (Happening Nat)}
    (hes : es.map Event.happening = h :: hs) :
    ∃ place es', es = ⟨h, place⟩ :: es' ∧ es'.map Event.happening = hs := by
  obtain ⟨⟨_, place⟩, es', rfl, rfl, hes'⟩ := List.map_eq_cons_iff.1 hes
  exact ⟨place, es', rfl, hes'⟩

/-- The event of a scalar gives its node and goes on in the frames around it. -/
theorem ofEvents_scalar (style : Style) (text : String) (place : Place) (frames : List Frame)
    (es : List (Event Nat)) : Node.ofEvents frames (⟨bareScalar Nat style text, place⟩ :: es) =
      Node.resume (.scalar none style text place) frames es := by
  cases frames <;> rfl

/-- Numbers among lexemes are spelled as numbers, which a value by itself does not say. -/
def HasNumbers (ls : List Json.Lexeme) : Prop := ∀ cs, Json.Lexeme.number cs ∈ ls → Json.IsNumber cs

/-- Among fewer lexemes numbers are still spelled as numbers. -/
theorem HasNumbers.mono {ls ls' : List Json.Lexeme} (h : HasNumbers ls) (hsub : ls' ⊆ ls) :
    HasNumbers ls' := fun cs hcs => h cs (hsub hcs)

/-- Lexemes that are written in a text have their numbers spelled as numbers. -/
theorem hasNumbers_of_written {ls : List Json.Lexeme} {text : List Char}
    (h : Json.Written Json.SpellsAlike ls text) : HasNumbers ls := by
  induction h with
  | nil => exact fun cs hcs => nomatch hcs
  | cons _ hl _ ih =>
    rintro cs (_ | ⟨_, hcs⟩)
    · cases hl.spells with
      | number hnumber => exact hnumber
    · exact ih cs hcs

mutual

/-- **The events of a value** are those of its node, by recursion along the value, in whatever
frames they stand. -/
theorem ofEvents_value : (v : Json.Value) → HasNumbers v.lexemes →
    ∀ {es : List (Event Nat)} {hs : List (Happening Nat)},
    es.map Event.happening = happenings Nat v ++ hs → ∃ n rest, IsNodeOf v n ∧
      rest.map Event.happening = hs ∧ ∀ frames, Node.ofEvents frames es = n.resume frames rest
  | .null, _, es, hs, h => by
    obtain ⟨place, rest, rfl, hrest⟩ := map_happening_cons h
    exact ⟨_, rest, .null place, hrest, fun frames => ofEvents_scalar _ _ place frames rest⟩
  | .flag b, _, es, hs, h => by
    obtain ⟨place, rest, rfl, hrest⟩ := map_happening_cons h
    exact ⟨_, rest, .flag b place, hrest, fun frames => ofEvents_scalar _ _ place frames rest⟩
  | .number cs, hnumbers, es, hs, h => by
    obtain ⟨place, rest, rfl, hrest⟩ := map_happening_cons h
    exact ⟨_, rest, .number (hnumbers cs List.mem_cons_self) place, hrest,
      fun frames => ofEvents_scalar _ _ place frames rest⟩
  | .text s, _, es, hs, h => by
    obtain ⟨place, rest, rfl, hrest⟩ := map_happening_cons h
    exact ⟨_, rest, .text s place, hrest, fun frames => ofEvents_scalar _ _ place frames rest⟩
  | .list vs, hnumbers, es, hs, h => by
    obtain ⟨place, es, rfl, hes⟩ := map_happening_cons h
    rw [List.append_eq, List.append_assoc] at hes
    obtain ⟨ns, rest, hns, hrest, hitems⟩ := ofEvents_items vs
      (hnumbers.mono (List.subset_cons_self _ _)) hes
    obtain ⟨stop, rest, rfl, hrest'⟩ := map_happening_cons hrest
    refine ⟨.list none ns place, rest, .list hns place, hrest', fun frames => ?_⟩
    have hopen : Node.ofEvents frames (⟨.listStart none none, place⟩ :: es) =
        Node.ofEvents (.list none [] place :: frames) es := rfl
    rw [hopen, hitems, List.append_nil, Node.ofEvents]
    simp only [Frame.close, List.reverse_reverse]
    cases frames <;> rfl
  | .object bs, hnumbers, es, hs, h => by
    obtain ⟨place, es, rfl, hes⟩ := map_happening_cons h
    rw [List.append_eq, List.append_assoc] at hes
    obtain ⟨ns, rest, hns, hrest, hentries⟩ := ofEvents_entries bs
      (hnumbers.mono (List.subset_cons_self _ _)) hes
    obtain ⟨stop, rest, rfl, hrest'⟩ := map_happening_cons hrest
    refine ⟨.map none ns place, rest, .object hns place, hrest', fun frames => ?_⟩
    have hopen : Node.ofEvents frames (⟨.mapStart none none, place⟩ :: es) =
        Node.ofEvents (.map none [] none place :: frames) es := rfl
    rw [hopen, hentries, List.append_nil, Node.ofEvents]
    simp only [Frame.close, List.reverse_reverse]
    cases frames <;> rfl

/-- The events of items add their nodes to the frame of the list, the last one in front. -/
theorem ofEvents_items : (vs : List Json.Value) → {first : Bool} →
    HasNumbers (Json.itemLexemes first vs) →
    ∀ {es : List (Event Nat)} {hs : List (Happening Nat)},
    es.map Event.happening = itemHappenings Nat vs ++ hs → ∃ ns rest, AreNodesOf vs ns ∧
      rest.map Event.happening = hs ∧ ∀ items place frames,
        Node.ofEvents (.list none items place :: frames) es =
          Node.ofEvents (.list none (ns.reverse ++ items) place :: frames) rest
  | [], _, _, es, hs, h => ⟨[], es, .nil, h, fun _ _ _ => rfl⟩
  | v :: vs, first, hnumbers, es, hs, h => by
    rw [itemHappenings, List.append_assoc] at h
    have hv : v.lexemes ⊆ Json.itemLexemes first (v :: vs) := fun l hl => by
      simp [Json.itemLexemes, hl]
    have hvs : Json.itemLexemes false vs ⊆ Json.itemLexemes first (v :: vs) := fun l hl => by
      simp [Json.itemLexemes, hl]
    obtain ⟨n, rest, hn, hrest, hvalue⟩ := ofEvents_value v (hnumbers.mono hv) h
    obtain ⟨ns, rest, hns, hrest, hitems⟩ := ofEvents_items vs (hnumbers.mono hvs) hrest
    refine ⟨n :: ns, rest, .cons hn hns, hrest, fun items place frames => ?_⟩
    rw [hvalue, Node.resume, Frame.add, hitems, List.reverse_cons, List.append_assoc]
    rfl

/-- The events of entries add their keys and values to the frame of the map, the last one in
front. -/
theorem ofEvents_entries : (bs : List (String × Json.Value)) → {first : Bool} →
    HasNumbers (Json.entryLexemes first bs) →
    ∀ {es : List (Event Nat)} {hs : List (Happening Nat)},
    es.map Event.happening = entryHappenings Nat bs ++ hs → ∃ ns rest, AreEntriesOf bs ns ∧
      rest.map Event.happening = hs ∧ ∀ entries place frames,
        Node.ofEvents (.map none entries none place :: frames) es =
          Node.ofEvents (.map none (ns.reverse ++ entries) none place :: frames) rest
  | [], _, _, es, hs, h => ⟨[], es, .nil, h, fun _ _ _ => rfl⟩
  | (k, v) :: bs, first, hnumbers, es, hs, h => by
    obtain ⟨place, es, rfl, hes⟩ := map_happening_cons h
    rw [List.append_eq, List.append_assoc] at hes
    have hv : v.lexemes ⊆ Json.entryLexemes first ((k, v) :: bs) := fun l hl => by
      simp [Json.entryLexemes, hl]
    have hbs : Json.entryLexemes false bs ⊆ Json.entryLexemes first ((k, v) :: bs) :=
      fun l hl => by simp [Json.entryLexemes, hl]
    obtain ⟨n, rest, hn, hrest, hvalue⟩ := ofEvents_value v (hnumbers.mono hv) hes
    obtain ⟨ns, rest, hns, hrest, hentries⟩ := ofEvents_entries bs (hnumbers.mono hbs) hrest
    refine ⟨(.scalar none .doubleQuoted k place, n) :: ns, rest, .cons hn hns, hrest,
      fun entries start frames => ?_⟩
    rw [ofEvents_scalar, Node.resume, Frame.add, hvalue, Node.resume, Frame.add, hentries,
      List.reverse_cons, List.append_assoc]
    rfl

end

/-! ## Sources -/

/-- Events of a value are content of the document, so none of them begins or ends a document. -/
theorem isContent_of_isBare {e : Event String} (h : IsBare e.happening) : e.isContent = true := by
  rw [Event.isContent]
  split
  all_goals first
    | rfl
    | (rename_i he; rw [he] at h; exact h.elim)

/-- **The source of a value** is its node alone, without a fault and without a second document. -/
theorem Source.ofEvents_value {v : Json.Value} (hnumbers : HasNumbers v.lexemes) {es : Events}
    (h : es.list.map Event.happening =
      .documentStart :: (happenings String v ++ [.documentEnd, .streamEnd])) :
    IsNodeOf v (Source.ofEvents es).root ∧ (Source.ofEvents es).faultOf = none := by
  obtain ⟨⟨_, place⟩, rest, hlist, rfl, hrest⟩ := List.map_eq_cons_iff.1 h
  obtain ⟨content, behind, rfl, hcontent, hbehind⟩ := List.map_eq_append_iff.1 hrest
  obtain ⟨⟨_, _⟩, ends, rfl, rfl, hends⟩ := List.map_eq_cons_iff.1 hbehind
  obtain ⟨⟨_, _⟩, rfl, rfl⟩ := List.map_eq_singleton_iff.1 hends
  have hbare : ∀ e ∈ content, IsBare e.happening := fun e he =>
    isBare_happenings v _ (hcontent ▸ List.mem_map_of_mem he)
  have hall : ∀ e ∈ content, e.isContent = true := fun e he => isContent_of_isBare (hbare e he)
  obtain ⟨hunknown, hnumbered⟩ := numbered_bare hbare .empty
  have hhappenings : (numbered .empty content).1.map Event.happening = happenings Nat v ++ [] := by
    rw [hnumbered, List.append_nil, ← unnamed_happenings, ← hcontent, List.map_map]
    rfl
  obtain ⟨n, ns, hn, -, hroot⟩ := Yaml.ofEvents_value v hnumbers hhappenings
  rw [Source.ofEvents, hlist]
  split
  · next he => cases he
  · simp only [List.drop_succ_cons, List.drop_zero, List.takeWhile_append_of_pos hall,
      List.dropWhile_append_of_pos hall]
    have hcontent' (p : Place) : (⟨.documentEnd, p⟩ : Event String).isContent = false := rfl
    simp only [List.takeWhile_cons, List.dropWhile_cons, hcontent', Bool.false_eq_true, if_false,
      List.append_nil]
    refine ⟨?_, ?_⟩
    · rw [hroot]
      exact hn
    · simp [Source.faultOf, hunknown]

/-- **A JSON text is the source of its value,** if it is spelled alike in both formats and begins
and ends without tabs. -/
theorem Source.ofText_object {bs : List (String × Json.Value)} {text : String}
    (h : Json.Written Json.SpellsAlike (Json.Value.object bs).lexemes text.toList)
    (hstarts : StartsWithoutTabs text.toList) (hends : EndsWithoutTabs text.toList) :
    IsNodeOf (.object bs) (Source.ofText text).root ∧ (Source.ofText text).faultOf = none := by
  have htokens := (Tokens.ofText_object h hstarts hends).2
  exact ofEvents_value (hasNumbers_of_written h) (Parser.ofTokens_value _ htokens).2

end Yaml
end CommitForm
