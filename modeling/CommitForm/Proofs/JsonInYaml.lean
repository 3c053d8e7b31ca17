/-
# JSON documents in YAML

JSON texts are read by the YAML reader too, and a text that is written alike gives the same form
(`Form.ofYaml_of_ofJson`).  What must not occur in it:

| in | must not occur |
| --- | --- |
| a text | a pair of escapes for one character, raw characters that are breaks or not printable |
| a key | the same; a break before the colon, more than `keyLimit` characters up to the colon |
| the blanks around the document | a tab before it, and a tab behind a break behind it |
| the document | a list in the place of a record, an object in the place of a kind |

A pair of escapes is one character in JSON and none in YAML (`Form.ofYaml_surrogates`).
-/

import CommitForm.Form.Yaml
import CommitForm.Proofs.JsonNodes
import CommitForm.Proofs.JsonReading

namespace CommitForm
namespace Yaml

open Document

/-! ## Keyed values -/

mutual

/-- Whether records are objects and choices are texts in a value of a shape. -/
def IsKeyed : Shape → Json.Value → Prop
  | .optional s, v => v = .null ∨ IsKeyed s v
  | .list s, v => ∀ vs, v = .list vs → ∀ w ∈ vs, IsKeyed s w
  | .map s, v => ∀ bs, v = .object bs → ∀ b ∈ bs, IsKeyed s b.2
  | .choice _ _, v => ∃ name, v = .text name
  | .record _ es, v => ∃ bs, v = .object bs ∧ EntriesKeyed es bs
  | .text, _ | .flag, _ | .count, _ | .either _ _, _ => True

/-- The values of an object are keyed as the entries of a record ask for, each by the shape of the
entry that its key belongs to. -/
def EntriesKeyed : List Entry → List (String × Json.Value) → Prop
  | [], _ => True
  | .mk key aliases shape _ _ :: es, bs =>
    (∀ b ∈ bs, b.1 ∈ key :: aliases → IsKeyed shape b.2) ∧ EntriesKeyed es bs

end

/-! ## Scalars -/

variable {v : Json.Value} {n : Node}

/-- The node of a value is no alias, so following it gives the node and counts nothing. -/
theorem IsNodeOf.follow (h : IsNodeOf v n) (source : Source) (followed : Nat) :
    source.follow n followed = .ok (n, followed) := by
  cases h <;> rfl

/-- A reader takes the nodes of keyed values as a decoder takes the values. -/
def ReadsNodes (nesting : Nat) (keyed : Json.Value → Prop) (read : Reader) (decode : Json.Decoder) :
    Prop :=
  ∀ ⦃v n d⦄, IsNodeOf v n → keyed v → decode v = some d → ∀ source path depth followed,
    nesting ≤ depth → read source ⟨n, path, depth⟩ followed = .ok (d, followed)

/-- The node of a text is read as the text, whatever was expected in its place. -/
theorem readText_node {s : String} (expected : String) (h : IsNodeOf (.text s) n) (source : Source)
    (path : Path) (depth followed : Nat) :
    readText expected source ⟨n, path, depth⟩ followed = .ok (s, followed) := by
  rw [readText, h.follow]
  cases h
  rfl

/-- The reader of texts takes the nodes of texts, at any depth. -/
theorem readShape_text : ReadsNodes 0 (fun _ => True) (readShape .text) (Json.decode .text) := by
  intro v n d h _ hd source path depth followed _
  obtain ⟨s, rfl, rfl⟩ : ∃ s, v = .text s ∧ d = .text s := by
    cases v with
    | text s => exact ⟨s, rfl, (Option.some.inj hd).symm⟩
    | _ => cases hd
  rw [readShape]
  simp only [readText_node _ h]
  rfl

/-- The reader of flags takes the nodes of flags, whose texts are among the spellings of the core
schema. -/
theorem readFlag_node : ReadsNodes 0 (fun _ => True) readFlag Json.decodeFlag := by
  intro v n d h _ hd source path depth followed _
  obtain ⟨b, rfl, rfl⟩ : ∃ b, v = .flag b ∧ d = .flag b := by
    cases v with
    | flag b => exact ⟨b, rfl, (Option.some.inj hd).symm⟩
    | _ => cases hd
  rw [readFlag, readSpelled, h.follow]
  cases h
  cases b <;> rfl

/-! ## Counts -/

/-- A decimal digit is a digit of the radix ten, with the same value in both formats. -/
theorem radixDigit?_of_isDigit {c : Char} (h : c.isDigit) :
    Literal.radixDigit? 10 c = some (c.toNat - '0'.toNat) := by
  rw [Char.isDigit, Bool.and_eq_true, decide_eq_true_iff, decide_eq_true_iff] at h
  have hless : c.toNat - 48 < 10 := by
    have hle : c.toNat ≤ 57 := h.2
    omega
  have hrange : '0' ≤ c ∧ c ≤ '9' := h
  rw [Literal.radixDigit?, if_pos hrange, Option.filter_some, if_pos (by simpa using hless)]
  rfl

/-- Decimal digits spell the same whole number in both formats. -/
theorem digitsOf?_digits {cs : List Char} (hne : cs ≠ []) (hall : ∀ c ∈ cs, c.isDigit) :
    digitsOf? 10 cs = some (Nat.ofDigitChars 10 cs 0) := by
  have hmap : cs.mapM (Literal.radixDigit? 10) = some (cs.map fun c => c.toNat - '0'.toNat) := by
    clear hne
    induction cs with
    | nil => rfl
    | cons c cs ih =>
      rw [List.mapM_cons, radixDigit?_of_isDigit (hall c List.mem_cons_self),
        ih fun c hc => hall c (List.mem_cons_of_mem _ hc)]
      rfl
  rw [digitsOf?, if_neg hne, hmap, Option.map_some, List.foldl_map, Nat.ofDigitChars_eq_foldl]

/-- The digits of a number are a whole number, if it is written without sign, point and exponent. -/
theorem isWhole_of_isNumber {cs : List Char} (h : Json.IsNumber cs)
    (hall : cs.all Char.isDigit = true) : Json.IsWhole cs := by
  obtain @⟨sign, whole, fraction, exponent, hsign, hwhole, hfraction, hexponent⟩ := h
  simp only [List.mem_cons, List.not_mem_nil, or_false] at hsign
  rcases hsign with rfl | rfl
  · obtain ⟨rfl, rfl⟩ := (Json.all_isDigit_iff hwhole hfraction hexponent).1 hall
    simpa using hwhole
  · cases hall

/-- A whole number as JSON writes it has no superfluous zero and is a whole number of YAML. -/
theorem wholeOf?_whole {cs : List Char} (h : Json.IsWhole cs) :
    wholeOf? cs = some (Nat.ofDigitChars 10 cs 0 : Int) := by
  obtain ⟨⟨hne, hall⟩, hzero⟩ := h
  have hdigits := digitsOf?_digits hne hall
  obtain ⟨c, cs, rfl⟩ := List.exists_cons_of_ne_nil hne
  have hc := hall c List.mem_cons_self
  have hnatural : naturalOf? (c :: cs) = some (Nat.ofDigitChars 10 (c :: cs) 0) := by
    by_cases hc0 : c = '0'
    · subst hc0
      obtain rfl : cs = [] := (List.cons.inj (hzero rfl)).2
      rfl
    · have hlead : hasLeadingZero (c :: cs) = false := by
        rw [hasLeadingZero.eq_def]
        split
        · next he => exact absurd (List.cons.inj he).1 hc0
        · rfl
      rw [naturalOf?.eq_def]
      split
      · next he => exact absurd (List.cons.inj he).1 hc0
      · next he => exact absurd (List.cons.inj he).1 hc0
      · next he => exact absurd (List.cons.inj he).1 hc0
      · rw [hlead, if_neg Bool.false_ne_true, hdigits]
  rw [wholeOf?.eq_def]
  split
  · next he => obtain ⟨rfl, -⟩ := List.cons.inj he; cases hc
  · next he => obtain ⟨rfl, -⟩ := List.cons.inj he; cases hc
  · rw [hnatural]
    rfl

/-- The reader of counts takes the nodes of counts; a number that is no count is left out of the
comparison. -/
theorem readCount_node : ReadsNodes 0 (fun _ => True) readCount Json.decodeCount := by
  intro v n d h _ hd source path depth followed _
  obtain ⟨cs, rfl⟩ : ∃ cs, v = .number cs := by
    cases v with
    | number cs => exact ⟨cs, rfl⟩
    | _ => cases hd
  rw [readCount, readSpelled, h.follow]
  cases h with
  | number hnumber place =>
  rw [Json.decodeCount, Json.countOfDigits?] at hd
  split at hd
  · next hall =>
    have hwhole := isWhole_of_isNumber hnumber hall
    obtain ⟨c, cs, rfl⟩ := List.exists_cons_of_ne_nil hwhole.1.1
    have hminus : (c :: cs).head? ≠ some '-' := by
      rintro hminus
      obtain rfl := Option.some.inj hminus
      cases hall
    have hcount : countOf (Nat.ofDigitChars 10 (c :: cs) 0) = .ok d := by
      cases hcount : countOf (Nat.ofDigitChars 10 (c :: cs) 0) with
      | ok d' => rw [hcount] at hd; exact congrArg Except.ok (Option.some.inj hd)
      | error m => rw [hcount] at hd; cases hd
    have hsmall : (Nat.ofDigitChars 10 (c :: cs) 0 : Int) < Nat.pow 2 64 := by
      rw [countOf] at hcount
      split at hcount
      · next hlt => exact Int.lt_trans hlt.2 (by decide)
      · cases hcount
    have hspelled : countOf? (String.ofList (c :: cs)) = some (.ok d) := by
      rw [countOf?, String.toList_ofList, if_neg hminus, wholeOf?_whole hwhole, Option.filter_some,
        if_pos (by simpa using hsmall), Option.map_some, hcount]
    simp only [maySpell, BEq.rfl, Bool.true_or, if_true, hspelled]
    rfl
  · cases hd

/-! ## Options -/

/-- A number does not spell nothing, since it begins with a digit or a sign. -/
theorem not_isNothing_of_isNumber {cs : List Char} (h : Json.IsNumber cs) :
    (String.ofList cs == "" || isNull (String.ofList cs)) = false := by
  obtain ⟨a, as, rfl, ha, -⟩ := (Json.Spells.number h).exists_head
  refine Bool.eq_false_iff.2 fun hnothing => ?_
  have hmem : String.ofList (a :: as) ∈ ["", "~", "null", "Null", "NULL"] := by
    simpa [isNull] using hnothing
  have hhead : (a :: as).head?.any (fun a => a == '-' || a.isDigit) = true := by
    simpa [Json.Lexeme.StartsWith] using ha
  rw [← String.toList_ofList (l := a :: as)] at hhead
  generalize String.ofList (a :: as) = text at hmem hhead
  have hall : ["", "~", "null", "Null", "NULL"].all
      (fun text => !text.toList.head?.any fun a => a == '-' || a.isDigit) = true := by decide
  have hnot := List.all_eq_true.1 hall text hmem
  rw [hhead] at hnot
  cases hnot

/-- The node of a value other than `null` is not nothing: it is quoted, or it spells something. -/
theorem IsNodeOf.isNothing (h : IsNodeOf v n) (hv : v ≠ .null) : n.isNothing = .ok false := by
  cases h with
  | null => exact absurd rfl hv
  | flag b place => cases b <;> rfl
  | number hnumber place =>
    rw [Node.isNothing]
    simp [not_isNothing_of_isNumber hnumber]
  | text s place => rfl
  | list h place => rfl
  | object h place => rfl

/-- An optional value is read like the value it holds, and `null` is nothing in both formats. -/
theorem readOptional_node {nesting : Nat} {keyed : Json.Value → Prop} {read : Reader}
    {decode : Json.Decoder} (h : ReadsNodes nesting keyed read decode) :
    ReadsNodes nesting (fun v => v = .null ∨ keyed v) (readOptional read)
      (Json.decodeOptional decode) := by
  intro v n d hn hkeyed hd source path depth followed hdepth
  rw [readOptional, hn.follow]
  by_cases hv : v = .null
  · subst hv
    obtain rfl := Option.some.inj hd
    cases hn
    rfl
  · rw [Json.decodeOptional_of_ne hv, Option.map_eq_some_iff] at hd
    obtain ⟨d, hd, rfl⟩ := hd
    simp only [hn.isNothing hv, Site.to,
      h hn (hkeyed.resolve_left hv) hd source path depth followed hdepth]
    rfl

/-! ## Lists and maps -/

/-- If all items have images, so have the first and the others, which takes a decoded list apart. -/
theorem mapM_cons_eq_some {α β : Type} {f : α → Option β} {a : α} {as : List α} {bs : List β}
    (h : (a :: as).mapM f = some bs) :
    ∃ b bs', f a = some b ∧ as.mapM f = some bs' ∧ bs = b :: bs' := by
  rw [List.mapM_cons, Option.bind_eq_bind, Option.bind_eq_some_iff] at h
  obtain ⟨b, hb, h⟩ := h
  rw [Option.bind_eq_bind, Option.bind_eq_some_iff] at h
  obtain ⟨bs', hbs', hcons⟩ := h
  exact ⟨b, bs', hb, hbs', (Option.some.inj hcons).symm⟩

/-- The nodes of items are read as the data of the items, by induction on the items. -/
theorem readItems_nodes {α : Type} {read : Site → Nat → Counted α} {decode : Json.Value → Option α}
    {vs : List Json.Value} {ns : List Node} (hns : AreNodesOf vs ns) {depth : Nat}
    (hread : ∀ {v n a}, v ∈ vs → IsNodeOf v n → decode v = some a → ∀ path followed,
      read ⟨n, path, depth⟩ followed = .ok (a, followed))
    {as : List α} (has : vs.mapM decode = some as) (list : Path) (index followed : Nat) :
    readItems read list depth index ns followed = .ok (as, followed) := by
  induction vs generalizing ns as index with
  | nil =>
    cases hns
    obtain rfl := Option.some.inj has
    rfl
  | cons v vs ih =>
    cases hns with
    | cons hv hns =>
      obtain ⟨a, as', ha, has', rfl⟩ := mapM_cons_eq_some has
      rw [readItems, hread List.mem_cons_self hv ha]
      simp only [ih hns (fun hw => hread (List.mem_cons_of_mem _ hw)) has' (index + 1)]
      rfl

/-- The reader of lists takes the nodes of lists, which are one level deeper than their items. -/
theorem readList_node {nesting : Nat} {keyed : Json.Value → Prop} {read : Reader}
    {decode : Json.Decoder} (h : ReadsNodes nesting keyed read decode) :
    ReadsNodes (nesting + 1) (fun v => ∀ vs, v = .list vs → ∀ w ∈ vs, keyed w) (readList read)
      (Json.decodeList decode) := by
  intro v n d hn hkeyed hd source path depth followed hdepth
  obtain ⟨depth, rfl⟩ : ∃ m, depth = m + 1 := ⟨depth - 1, by omega⟩
  rw [readList, hn.follow]
  cases v with
  | list vs =>
    rw [Json.decodeList, Option.map_eq_some_iff] at hd
    obtain ⟨ds, hds, rfl⟩ := hd
    cases hn with
    | list hns place =>
      have hread {w n d} (hw : w ∈ vs) (hn : IsNodeOf w n) (hd : decode w = some d) (path : Path)
          (followed : Nat) : read source ⟨n, path, depth⟩ followed = .ok (d, followed) :=
        h hn (hkeyed vs rfl w hw) hd source path depth followed (Nat.le_of_succ_le_succ hdepth)
      have hitems := readItems_nodes hns hread hds path 0 followed
      simp only [opening, Site.to, hitems]
      rfl
  | _ => cases hd

/-- The nodes of entries are read as their keys and the data of their values, by induction on the
entries. -/
theorem readBindings_nodes {α : Type} {read : Site → Nat → Counted α}
    {decode : Json.Value → Option α} {source : Source} {map : Path} {depth : Nat}
    {bs : List (String × Json.Value)} {es : List (Node × Node)} (hes : AreEntriesOf bs es)
    (hread : ∀ {b n a}, b ∈ bs → IsNodeOf b.2 n → decode b.2 = some a → ∀ path followed,
      read ⟨n, path, depth⟩ followed = .ok (a, followed)) {as : List (String × α)}
    (has : (bs.mapM fun b => (decode b.2).map fun a => (b.1, a)) = some as) (followed : Nat) :
    readBindings (readText "a string" source) read map depth es followed = .ok (as, followed) := by
  induction bs generalizing es as with
  | nil =>
    cases hes
    obtain rfl := Option.some.inj has
    rfl
  | cons b bs ih =>
    cases hes with
    | @cons k place v _ n es hv hes =>
      obtain ⟨_, as', hb, has', rfl⟩ := mapM_cons_eq_some has
      obtain ⟨a, ha, rfl⟩ := Option.map_eq_some_iff.1 hb
      rw [readBindings, readText_node _ (.text k place)]
      simp only [hread List.mem_cons_self hv ha,
        ih hes (fun hw => hread (List.mem_cons_of_mem _ hw)) has']
      rfl

/-- The reader of maps takes the nodes of objects, which are one level deeper than their values. -/
theorem readMap_node {nesting : Nat} {keyed : Json.Value → Prop} {read : Reader}
    {decode : Json.Decoder} (h : ReadsNodes nesting keyed read decode) :
    ReadsNodes (nesting + 1) (fun v => ∀ bs, v = .object bs → ∀ b ∈ bs, keyed b.2) (readMap read)
      (Json.decodeMap decode) := by
  intro v n d hn hkeyed hd source path depth followed hdepth
  obtain ⟨depth, rfl⟩ : ∃ m, depth = m + 1 := ⟨depth - 1, by omega⟩
  rw [readMap, readEntriesOf, hn.follow]
  cases v with
  | object bs =>
    rw [Json.decodeMap, Option.map_eq_some_iff] at hd
    obtain ⟨ds, hds, rfl⟩ := hd
    cases hn with
    | object hes place =>
      have hread {b n d} (hb : b ∈ bs) (hn : IsNodeOf b.2 n) (hd : decode b.2 = some d)
          (path : Path) (followed : Nat) :
          read source ⟨n, path, depth⟩ followed = .ok (d, followed) :=
        h hn (hkeyed bs rfl b hb) hd source path depth followed (Nat.le_of_succ_le_succ hdepth)
      have hbindings : readBindings (readText "a string" source) (read source) path depth _
          followed = .ok (ds, followed) := readBindings_nodes hes hread hds followed
      simp only [opening, Site.to, hbindings]
      rfl
  | _ => cases hd

/-! ## Choices -/

/-- The reader of variants takes the nodes of texts; an object with a single key is a variant in
JSON only. -/
theorem readChoice_node (names : List String) : ReadsNodes 0 (fun v => ∃ name, v = .text name)
    (readChoice names) (Json.decodeChoice names) := by
  rintro _ n d hn ⟨name, rfl⟩ hd source path depth followed -
  rw [Json.decodeChoice, Json.variant?] at hd
  split at hd
  · next hknown =>
    obtain rfl := Option.some.inj hd
    rw [readChoice, hn.follow]
    cases hn
    simp only [readVariant, Node.ownTag?, hknown, if_true, Site.to]
    rfl
  · cases hd

/-- If all contents are texts, they are the contents of these texts. -/
theorem eq_texts_of_mapM {items : List Content} {ss : List String}
    (h : items.mapM Content.text? = some ss) : items = ss.map .text := by
  induction items generalizing ss with
  | nil => cases h; rfl
  | cons c items ih =>
    obtain ⟨s, ss', hs, hss', rfl⟩ := mapM_cons_eq_some h
    cases c with
    | text => cases hs; rw [ih hss']; rfl
    | _ => cases hs

/-- A content that fits a branch is a text or a list of texts. -/
theorem content_of_firstFit? {c : Content} {branches : List Shape} {d : Datum}
    (h : c.firstFit? branches = some d) :
    (∃ s, c = .text s) ∨ ∃ ss : List String, c = .list (ss.map .text) := by
  obtain ⟨branch, -, hfit⟩ := List.exists_of_findSome?_eq_some h
  cases c with
  | other => cases hfit
  | text s => exact .inl ⟨s, rfl⟩
  | list items =>
    cases branch with
    | list item =>
      cases item with
      | text =>
        obtain ⟨ss, hss, -⟩ := Option.map_eq_some_iff.1 hfit
        exact .inr ⟨ss, by rw [eq_texts_of_mapM hss]⟩
      | _ => cases hfit
    | _ => cases hfit

/-- The node of a text has this text for its content. -/
theorem readContent_text {s : String} (h : IsNodeOf (.text s) n) (source : Source) (depth : Nat)
    (path : Path) (followed : Nat) :
    readContent source depth n path followed = .ok (.text s, followed) := by
  cases h
  rw [readContent.eq_def]
  rfl

/-- The nodes of texts have these texts for their contents, by induction on the items. -/
theorem readContent_texts {vs : List Json.Value} {ns : List Node} (hns : AreNodesOf vs ns)
    {ss : List String} (hss : Json.contents vs = ss.map .text) (source : Source) (depth : Nat)
    (list : Path) (index followed : Nat) :
    readItems (fun s => readContent source depth s.node s.path) list depth index ns followed =
      .ok (ss.map .text, followed) := by
  induction vs generalizing ns ss index with
  | nil =>
    cases hns
    cases ss with
    | nil => rfl
    | cons => cases hss
  | cons v vs ih =>
    cases hns with
    | cons hv hns =>
      cases ss with
      | nil => cases hss
      | cons s ss =>
        obtain ⟨hs, hss'⟩ := List.cons.inj hss
        obtain rfl : v = .text s := by
          cases v with
          | text => rw [Content.text.inj hs]
          | _ => cases hs
        rw [readItems, readContent_text hv]
        simp only [ih hns hss' (index + 1)]
        rfl

/-- The reader of branches takes the nodes of texts and of lists of texts, the only values that fit
one. -/
theorem readEither_node (title : String) (branches : List Shape) :
    ReadsNodes 1 (fun _ => True) (readEither title branches) (Json.decodeEither branches) := by
  intro v n d hn _ hd source path depth followed hdepth
  obtain ⟨depth, rfl⟩ : ∃ m, depth = m + 1 := ⟨depth - 1, by omega⟩
  have hread : readContent source (depth + 1) n path followed = .ok (v.content, followed) := by
    rcases content_of_firstFit? hd with ⟨s, hs⟩ | ⟨ss, hss⟩
    · obtain rfl : v = .text s := by
        cases v with
        | text => rw [Content.text.inj hs]
        | _ => cases hs
      rw [readContent_text hn]
      rfl
    · cases v with
      | list vs =>
        have hcontents : Json.contents vs = ss.map .text := Content.list.inj hss
        cases hn with
        | list hns place =>
          rw [readContent.eq_def]
          simp only [Source.follow, Node.ownTag?, Option.isSome_none, Bool.false_eq_true, if_false,
            readContent_texts hns hcontents]
          rw [Json.Value.content, hcontents]
          rfl
      | _ => cases hss
  rw [readEither]
  simp only [hread]
  rw [Json.decodeEither] at hd
  rw [hd]

/-! ## Records -/

mutual

/-- The node of a value is not cut off, so it may be passed over where no slot asks for it. -/
theorem IsNodeOf.isWhole : (v : Json.Value) → ∀ {n}, IsNodeOf v n → n.isWhole = true
  | .null, _, .null _ | .flag _, _, .flag _ _ | .number _, _, .number _ _ | .text _, _, .text _ _ =>
    rfl
  | .list vs, _, .list h _ => areWhole_nodes vs h
  | .object bs, _, .object h _ => entriesAreWhole_nodes bs h

/-- The nodes of a list's items are not cut off, by recursion along the items. -/
theorem areWhole_nodes : (vs : List Json.Value) → ∀ {ns}, AreNodesOf vs ns →
    Node.areWhole ns = true
  | [], _, .nil => rfl
  | v :: vs, _, .cons hv h => by
    rw [Node.areWhole, IsNodeOf.isWhole v hv, areWhole_nodes vs h]
    rfl

/-- The nodes of an object's keys and values are not cut off, by recursion along the entries. -/
theorem entriesAreWhole_nodes : (bs : List (String × Json.Value)) → ∀ {es}, AreEntriesOf bs es →
    Node.entriesAreWhole es = true
  | [], _, .nil => rfl
  | (_, v) :: bs, _, .cons hv h => by
    rw [Node.entriesAreWhole, Node.entryIsWhole, IsNodeOf.isWhole v hv, entriesAreWhole_nodes bs h]
    rfl

end

/-- A reader takes the nodes of the values that entries give a slot, and the slot is otherwise that
of the decoder. -/
structure SlotReads (nesting : Nat) (bs : List (String × Json.Value)) (s : Slot Reader)
    (t : Slot Json.Decoder) : Prop extends s.IsLike t where
  read : ∀ {b n d}, b ∈ bs → t.hasKey b.1 = true → IsNodeOf b.2 n → t.read b.2 = some d →
    ∀ source path depth followed, nesting ≤ depth →
      s.read source ⟨n, path, depth⟩ followed = .ok (d, followed)

section Records

variable {nesting : Nat} {all : List (String × Json.Value)} {slots : List (Slot Reader)}
  {decoders : List (Slot Json.Decoder)}
  (hslots : List.Forall₂ (SlotReads nesting all) slots decoders)
include hslots

/-- The nodes of entries fill the slots of a record as the entries do, by induction on the
entries. -/
theorem readSlots_nodes {bs : List (String × Json.Value)} (hbs : bs ⊆ all)
    {es : List (Node × Node)} (hes : AreEntriesOf bs es) {filled filled' : Filled}
    (h : Json.fillEntries decoders filled bs = some filled') (source : Source) (record : Path)
    {depth : Nat} (hdepth : nesting ≤ depth) (followed : Nat) :
    readSlots slots source record depth filled es followed = .ok (filled', followed) := by
  induction bs generalizing es filled with
  | nil =>
    cases hes
    obtain rfl := Option.some.inj h
    rfl
  | cons b bs ih =>
    obtain ⟨hb, hbs'⟩ := List.cons_subset.1 hbs
    cases hes with
    | @cons k place v _ n es hv hes =>
      rw [Json.fillEntries] at h
      rw [readSlots, readText_node _ (.text k place)]
      dsimp only
      rcases Slot.find?_like SlotReads.toIsLike hslots k 0 with
        ⟨hfind, hfind'⟩ | ⟨s, t, i, hst, hkey, hfind, hfind'⟩
      · simp only [hfind'] at h
        simp only [hfind, IsNodeOf.isWhole v hv, if_true]
        exact ih hbs' hes h
      · simp only [hfind'] at h
        simp only [hfind]
        split at h
        · cases h
        · next hfilled =>
          rw [Option.bind_eq_some_iff] at h
          obtain ⟨d, hd, h⟩ := h
          rw [if_neg hfilled]
          simp only [hst.read hb hkey hv hd source _ depth followed hdepth]
          exact ih hbs' hes h

/-- The reader of records takes the nodes of objects, completed with the same defaults. -/
theorem readRecord_node (title : String) {n : Node} {d : Datum} (hn : IsNodeOf (.object all) n)
    (hd : Json.decodeRecord decoders (.object all) = some d) (source : Source) (path : Path)
    {depth : Nat} (hdepth : nesting + 1 ≤ depth) (followed : Nat) :
    readRecord title slots source ⟨n, path, depth⟩ followed = .ok (d, followed) := by
  obtain ⟨depth, rfl⟩ : ∃ m, depth = m + 1 := ⟨depth - 1, by omega⟩
  rw [Json.decodeRecord, Option.bind_eq_some_iff] at hd
  obtain ⟨filled, hfilled, hd⟩ := hd
  rw [Option.map_eq_some_iff] at hd
  obtain ⟨ds, hds, rfl⟩ := hd
  have hcomplete : complete slots filled = .ok ds := by
    rw [complete_like (hslots.imp fun _ _ h => h.toIsLike)]
    cases hc : complete decoders filled with
    | ok ds' => rw [hc] at hds; exact congrArg Except.ok (Option.some.inj hds)
    | error m => rw [hc] at hds; cases hds
  have hnone : (slots.map fun _ => none : Filled) = decoders.map fun _ => none := by
    rw [List.map_const', List.map_const', hslots.length_eq]
  rw [← hnone] at hfilled
  rw [readRecord, readEntriesOf, hn.follow]
  cases hn with
  | object hes place =>
    have hread := readSlots_nodes hslots (List.Subset.refl _) hes hfilled source path
      (Nat.le_of_succ_le_succ hdepth) followed
    simp only [opening, Site.to, hread, hcomplete]
    rfl

end Records

/-! ## Shapes -/

/-- What suffices as depth for a reader suffices if more may be opened. -/
theorem ReadsNodes.mono {nesting nesting' : Nat} {keyed : Json.Value → Prop} {read : Reader}
    {decode : Json.Decoder} (h : ReadsNodes nesting keyed read decode) (hle : nesting ≤ nesting') :
    ReadsNodes nesting' keyed read decode :=
  fun _ _ _ hn hkeyed hd source path depth followed hdepth =>
    h hn hkeyed hd source path depth followed (Nat.le_trans hle hdepth)

mutual

/-- **Reading a node along a shape** gives the datum of the value, by induction on the shape, as
deep as the shape is nested. -/
theorem readShape_node : (shape : Shape) →
    ReadsNodes (Json.nesting shape) (IsKeyed shape) (readShape shape) (Json.decode shape)
  | .text => readShape_text
  | .flag => readFlag_node
  | .count => readCount_node
  | .optional s => readOptional_node (readShape_node s)
  | .list s => readList_node (readShape_node s)
  | .map s => readMap_node (readShape_node s)
  | .choice _ names => (readChoice_node names).mono (Nat.zero_le _)
  | .either title branches => readEither_node title branches
  | .record title es => by
    rintro _ n d hn ⟨bs, rfl, hkeyed⟩ hd source path depth followed hdepth
    exact readRecord_node (slotsOf_read es hkeyed (Nat.le_refl _)) title hn hd source path hdepth
      followed

/-- The slots of entries take the nodes of values that are keyed as the entries ask for. -/
theorem slotsOf_read : (es : List Entry) → {bs : List (String × Json.Value)} →
    EntriesKeyed es bs → {nesting : Nat} → Json.entriesNesting es ≤ nesting →
    List.Forall₂ (SlotReads nesting bs) (slotsOf es) (Json.decoders es)
  | [], _, _, _, _ => .nil
  | .mk key aliases shape missing _ :: es, bs, hkeyed, nesting, hle => by
    rw [Json.entriesNesting, Nat.max_le] at hle
    refine .cons ⟨⟨rfl, rfl, rfl⟩, fun {b n d} hb hkey hn hd => ?_⟩ (slotsOf_read es hkeyed.2 hle.2)
    rw [Slot.hasKey, Bool.or_eq_true, beq_iff_eq, List.contains_iff_mem] at hkey
    have hmem : b.1 ∈ key :: aliases := List.mem_cons.2 (hkey.imp_left Eq.symm)
    exact (readShape_node shape).mono hle.1 hn (hkeyed.1 b hb hmem) hd

end

/-- **A JSON text that is written alike** is read as the datum of its value. -/
theorem read_alike {title : String} {es : List Entry}
    (hshape : Json.nesting (.record title es) ≤ maxDepth) {v : Json.Value} {text : String}
    (hkeyed : IsKeyed (.record title es) v)
    (htext : Json.Written Json.SpellsAlike v.lexemes text.toList)
    (hstarts : StartsWithoutTabs text.toList) (hends : EndsWithoutTabs text.toList) {d : Datum}
    (hd : Json.decode (.record title es) v = some d) : read (.record title es) text = .ok d := by
  obtain ⟨bs, rfl, hentries⟩ := hkeyed
  obtain ⟨hroot, hfault⟩ := Source.ofText_object htext hstarts hends
  have hread := readShape_node (.record title es) hroot ⟨bs, rfl, hentries⟩ hd
    (Source.ofText text) .root maxDepth 0 hshape
  rw [read, Source.read, hread, hfault]

end Yaml

/-- **A JSON text that is written alike** gives the same form in YAML: records are objects, kinds
are texts, and characters, keys and blanks are such that they mean the same in YAML. -/
theorem Form.ofYaml_of_ofJson {v : Json.Value} {text : String}
    (hkeyed : Yaml.IsKeyed Form.shape v)
    (htext : Json.Written Json.SpellsAlike v.lexemes text.toList)
    (hstarts : Yaml.StartsWithoutTabs text.toList) (hends : Yaml.EndsWithoutTabs text.toList)
    {form : Form} (h : Form.ofJson text = .ok form) : Form.ofYaml text = .ok form := by
  have hisText : Json.IsTextOf v text := htext.mono fun _ _ hl => hl.spells
  have hread : (Json.read Form.shape text).toOption = Json.decode Form.shape v :=
    Json.read_isTextOf (by decide) hisText
  rw [Form.ofJson] at h
  cases hjson : Json.read Form.shape text with
  | error e => rw [hjson] at h; cases h
  | ok d =>
    rw [hjson] at h hread
    have hyaml : Yaml.read Form.shape text = .ok d :=
      Yaml.read_alike (by decide) hkeyed htext hstarts hends hread.symm
    rw [Form.ofYaml, hyaml]
    exact h

namespace Yaml

/-- Characters that mean themselves in both formats spell the same text between quotes. -/
theorem spellsTextAlike_plain {cs : List Char} (h : (cs.all fun c => decide (0x20 ≤ c.toNat) &&
    isPrintable c && !isBreak c && c != '"' && c != '\\') = true) : Json.SpellsTextAlike cs cs := by
  induction cs with
  | nil => exact .nil
  | cons c cs ih =>
    simp only [List.all_cons, Bool.and_eq_true, decide_eq_true_iff, Bool.not_eq_true', bne_iff_ne]
      at h ih
    obtain ⟨⟨⟨⟨⟨hcontrol, hprintable⟩, hbreak⟩, hquote⟩, hslash⟩, hcs⟩ := h
    exact .plain hcontrol hprintable hbreak hquote hslash (ih (by simpa using hcs))

/-- A text that begins with a character other than a blank has no tabs in front of it. -/
theorem startsWithoutTabs_cons {a : Char} (ha : Json.Cursor.isBlank a = false) (cs : List Char) :
    StartsWithoutTabs (a :: cs) := by
  rintro (_ | ⟨w, ws⟩) hws hprefix htab
  · cases htab
  · obtain ⟨rfl, -⟩ := List.cons_prefix_cons.1 hprefix
    rw [hws w List.mem_cons_self] at ha
    cases ha

/-- Behind the last character of a text there are no tabs if the blanks behind it are none. -/
theorem endsWithoutTabs_append {a : Char} (ha : Json.Cursor.isBlank a = false) (cs : List Char)
    {ws : List Char} (hws : '\t' ∉ ws) : EndsWithoutTabs (cs ++ a :: ws) := by
  intro b ws' _ hblank hsuffix htab
  have hnot : a ∉ ws' := fun hmem => by
    rw [hblank a hmem] at ha
    cases ha
  have hsuffix' := (List.suffix_cons b ws').trans hsuffix
  rcases List.suffix_or_suffix_of_suffix hsuffix' (List.suffix_append cs (a :: ws)) with h | h
  · rcases List.suffix_cons_iff.1 h with rfl | h
    · exact hnot List.mem_cons_self
    · exact hws (h.mem htab)
  · exact hnot (h.mem List.mem_cons_self)

end Yaml

/-- A text with tabs and escapes that are read alike gives the form that it gives as JSON. -/
theorem Form.ofYaml_tabsAndEscapes :
    Form.ofYaml "\x7b\n\t\"template\"\t: \"\\u00e9\\t\"\x7d\n" = .ok ⟨.text "é\t", [], true⟩ := by
  have hblank {ws : List Char} (h : ws.all Json.Cursor.isBlank = true) : Json.AreBlank ws :=
    List.all_eq_true.1 h
  have hkey : Json.SpellsTextAlike "template".toList "template".toList :=
    Yaml.spellsTextAlike_plain (by decide)
  have htext : Json.SpellsTextAlike "é\t".toList "\\u00e9\\t".toList :=
    .unit (.mk (by decide)) (.letter rfl .nil)
  have hobject := @Json.Written.cons Json.SpellsAlike .objectStart _ [] ['\x7b'] _
    (hblank (by decide)) (.other rfl .objectStart)
    (@Json.Written.cons _ _ _ ['\n', '\t'] _ _ (hblank (by decide))
      (@Json.SpellsAlike.key _ _ ['\t'] hkey (by simp) (by decide))
      (@Json.Written.cons _ _ _ [' '] _ _ (hblank (by decide)) (.text htext)
        (@Json.Written.cons _ _ _ [] _ _ (hblank (by decide)) (.other rfl .objectEnd)
          (.nil (hblank (by decide : ['\n'].all Json.Cursor.isBlank = true))))))
  have hwritten : Json.Written Json.SpellsAlike
      (Json.Value.object [("template", .text "é\t")]).lexemes
      "\x7b\n\t\"template\"\t: \"\\u00e9\\t\"\x7d\n".toList := by
    refine Eq.mp (congrArg (Json.Written Json.SpellsAlike _) ?_) hobject
    decide
  have hkeyed : Yaml.IsKeyed Form.shape (.object [("template", .text "é\t")]) := by
    refine ⟨_, rfl, ?_⟩
    simp [Yaml.EntriesKeyed, Yaml.IsKeyed]
  have hstarts := Yaml.startsWithoutTabs_cons (a := '\x7b') (by decide)
    "\n\t\"template\"\t: \"\\u00e9\\t\"\x7d\n".toList
  have hends := @Yaml.endsWithoutTabs_append '\x7d' (by decide)
    "\x7b\n\t\"template\"\t: \"\\u00e9\\t\"".toList ['\n'] (by decide)
  exact Form.ofYaml_of_ofJson hkeyed hwritten hstarts hends (by decide +kernel)

/-- A pair of escapes is one character in JSON and none in YAML, so the same text gives a form in
one format and an error in the other. -/
theorem Form.ofYaml_surrogates :
    (Form.ofJson "\x7b\"template\":\"\\ud83d\\ude00\"\x7d").toOption =
        some ⟨.text "😀", [], true⟩ ∧
      (Form.ofYaml "\x7b\"template\":\"\\ud83d\\ude00\"\x7d").toOption = none := by
  decide +kernel

end CommitForm
