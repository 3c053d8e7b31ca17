/-
# Forms survive being written

A form that is written as JSON is read back unchanged, in whatever way the text writes the value
(`Form.ofJson_toJson`).  It does not matter under which of its keys an entry stands, and entries
under keys that a record does not know may be added anywhere (`Varies`).

What is asked of a shape for this: no two entries of a record share a key (`Shape.IsDistinct`), and
an entry that is left out in writing has the default that is put in for it in reading
(`Shape.IsFaithful`).
-/

import CommitForm.Proofs.JsonReading

namespace CommitForm
namespace Document

/-! ## Entries of records -/

/-- The keys that mean an entry: the one it is written under, and the aliases that are accepted in
reading. -/
def Entry.keys : Entry → List String
  | .mk key aliases _ _ _ => key :: aliases

/-- No key means two entries, so the order of the entries in a text cannot matter for which of them
a key fills. -/
def Entry.AreDistinct (es : List Entry) : Prop :=
  es.Pairwise fun e e' => ∀ k ∈ e.keys, k ∉ e'.keys

instance (es : List Entry) : Decidable (Entry.AreDistinct es) :=
  inferInstanceAs (Decidable (es.Pairwise fun e e' => ∀ k ∈ e.keys, k ∉ e'.keys))

mutual

/-- No key means two entries of a record, in the shape itself and in the shapes inside.  A choice by
shape has texts and lists of texts only. -/
def Shape.IsDistinct : Shape → Prop
  | .text | .flag | .count | .choice _ _ | .either _ _ => True
  | .optional shape | .list shape | .map shape => shape.IsDistinct
  | .record _ es => Entry.AreDistinct es ∧ Entry.HaveDistinct es

/-- The shapes of entries are distinct, one by one.  How the keys of the entries go together is said
at the record. -/
def Entry.HaveDistinct : List Entry → Prop
  | [] => True
  | .mk _ _ shape _ _ :: es => shape.IsDistinct ∧ Entry.HaveDistinct es

end

/-- The shape of each entry of a record is distinct, so the values inside can be compared by it. -/
theorem Entry.HaveDistinct.shape {es : List Entry} (h : Entry.HaveDistinct es) {e : Entry}
    (he : e ∈ es) : e.shape.IsDistinct := by
  induction es with
  | nil => cases he
  | cons e' es ih =>
    obtain ⟨_, _, shape, _, _⟩ := e'
    rcases List.mem_cons.1 he with rfl | he
    · exact h.1
    · exact ih h.2 he

end Document

namespace Json

open Document

/-- The slot of an entry: its keys, the default that is taken for a missing value, and how its value
is decoded. -/
def slotOf : Entry → Slot Decoder
  | .mk key aliases shape missing _ => ⟨key, aliases, missing, decode shape⟩

/-- The slots that a record is decoded with are those of its entries, in the same order and at the
same indices. -/
theorem decoders_eq_map (es : List Entry) : decoders es = es.map slotOf := by
  induction es with
  | nil => rfl
  | cons e es ih =>
    obtain ⟨key, aliases, shape, missing, omitted⟩ := e
    rw [decoders, ih]
    rfl

/-- A key fits the slot of an entry if and only if it means the entry, as its key or as one of its
aliases. -/
theorem hasKey_slotOf {e : Entry} {k : String} : (slotOf e).hasKey k = true ↔ k ∈ e.keys := by
  obtain ⟨key, aliases, shape, missing, omitted⟩ := e
  rw [slotOf, Slot.hasKey, Entry.keys, Bool.or_eq_true, beq_iff_eq, List.contains_iff_mem,
    List.mem_cons, eq_comm]

/-- Any key of an entry leads to its slot, as no slot in front of it fits the key. -/
theorem find?_of_mem_keys {es : List Entry} (hes : Entry.AreDistinct es) {i : Nat} {e : Entry}
    (he : es[i]? = some e) {k : String} (hk : k ∈ e.keys) (n : Nat) :
    (((decoders es).zipIdx n).find? fun x => x.1.hasKey k) = some (slotOf e, n + i) := by
  rw [decoders_eq_map]
  induction es generalizing i n with
  | nil => cases he
  | cons e' es ih =>
    obtain ⟨hhead, htail⟩ := List.pairwise_cons.1 hes
    rw [List.map_cons, List.zipIdx_cons, List.find?_cons]
    cases i with
    | zero =>
      obtain rfl := Option.some.inj he
      rw [hasKey_slotOf.2 hk]
      rfl
    | succ i =>
      have hmem : e ∈ es := List.mem_of_getElem? he
      have hother : (slotOf e').hasKey k = false :=
        Bool.eq_false_iff.2 fun h => hhead e hmem k (hasKey_slotOf.1 h) hk
      rw [hother]
      have hfind := ih htail he (n + 1)
      rw [hfind, Nat.add_right_comm, Nat.add_assoc]

/-- A key that means no entry leads to no slot, so its value is passed over. -/
theorem find?_of_foreign {es : List Entry} {k : String} (hk : ∀ e ∈ es, k ∉ e.keys) :
    ((decoders es).zipIdx.find? fun x => x.1.hasKey k) = none := by
  rw [decoders_eq_map, List.find?_eq_none]
  rintro ⟨s, i⟩ hs hkey
  obtain ⟨e, he, rfl⟩ := List.mem_map.1 (List.fst_mem_of_mem_zipIdx hs)
  exact hk e he (hasKey_slotOf.1 hkey)

/-- An entry of the text under a foreign key fills nothing, and the others are read as without
it. -/
theorem fillEntries_foreign {es : List Entry} {k : String} (hk : ∀ e ∈ es, k ∉ e.keys)
    (filled : Filled) (w : Value) (bs : List (String × Value)) :
    fillEntries (decoders es) filled ((k, w) :: bs) = fillEntries (decoders es) filled bs := by
  rw [fillEntries, find?_of_foreign hk]

/-! ## Values that mean the same -/

mutual

/-- A value means the same along a shape: keys of entries of a record have been replaced by other
keys of the same entries, and entries with keys of no entry have been added. -/
inductive Varies : Shape → Value → Value → Prop where
  | same (shape : Shape) (v : Value) : Varies shape v v
  | optional {shape : Shape} {v w : Value} (h : Varies shape v w) : Varies (.optional shape) v w
  | list {shape : Shape} {vs ws : List Value} (h : ItemsVary shape vs ws) :
      Varies (.list shape) (.list vs) (.list ws)
  | record {title : String} {es : List Entry} {bs cs : List (String × Value)}
      (h : EntriesVary es bs cs) : Varies (.record title es) (.object bs) (.object cs)

/-- The items of two lists mean the same, one by one and in the same order. -/
inductive ItemsVary : Shape → List Value → List Value → Prop where
  | nil {shape : Shape} : ItemsVary shape [] []
  | cons {shape : Shape} {v w : Value} {vs ws : List Value} (h : Varies shape v w)
      (hs : ItemsVary shape vs ws) : ItemsVary shape (v :: vs) (w :: ws)

/-- The entries of two records mean the same, in the same order: each under any of its keys, with
foreign entries in between in the second record. -/
inductive EntriesVary : List Entry → List (String × Value) → List (String × Value) → Prop where
  | nil {es : List Entry} : EntriesVary es [] []
  | renamed {es : List Entry} {e : Entry} {k k' : String} {v w : Value}
      {bs cs : List (String × Value)} (he : e ∈ es) (hk : k ∈ e.keys) (hk' : k' ∈ e.keys)
      (h : Varies e.shape v w) (hs : EntriesVary es bs cs) :
      EntriesVary es ((k, v) :: bs) ((k', w) :: cs)
  | added {es : List Entry} {k : String} {w : Value} {bs cs : List (String × Value)}
      (hk : ∀ e ∈ es, k ∉ e.keys) (hs : EntriesVary es bs cs) : EntriesVary es bs ((k, w) :: cs)

end

/-- The entry of an index under two of its keys, with values that mean the same, in front of entries
that do. -/
theorem EntriesVary.keyed {es : List Entry} (i : Nat) {e : Entry} (he : es[i]? = some e)
    {k k' : String} (hk : k ∈ e.keys) (hk' : k' ∈ e.keys) {v w : Value} (h : Varies e.shape v w)
    {bs cs : List (String × Value)} (hs : EntriesVary es bs cs) :
    EntriesVary es ((k, v) :: bs) ((k', w) :: cs) :=
  .renamed (List.mem_of_getElem? he) hk hk' h hs

/-- Values that mean the same are both nothing or both something, so an optional value is absent in
both or in neither. -/
theorem Varies.eq_null_iff : {shape : Shape} → {v w : Value} → Varies shape v w →
    (v = .null ↔ w = .null)
  | _, _, _, .same _ _ => Iff.rfl
  | _, _, _, .optional h => h.eq_null_iff
  | _, _, _, .list _ => ⟨nofun, nofun⟩
  | _, _, _, .record _ => ⟨nofun, nofun⟩

mutual

/-- **Values that mean the same** have the same datum, or none.  The recursion is that of the shape,
with lists and records decoded part by part. -/
theorem decode_varies : {shape : Shape} → {v w : Value} → Varies shape v w → shape.IsDistinct →
    decode shape v = decode shape w
  | _, _, _, .same _ _, _ => rfl
  | .optional shape, v, w, .optional h, hshape => by
    by_cases hv : v = .null
    · rw [hv, h.eq_null_iff.1 hv]
    · have hw : w ≠ .null := fun hw => hv (h.eq_null_iff.2 hw)
      rw [decode, decodeOptional_of_ne hv, decodeOptional_of_ne hw, decode_varies h hshape]
  | .list shape, .list vs, .list ws, .list h, hshape => by
    rw [decode, decodeList, decodeList, decode_items h hshape]
  | .record title es, .object bs, .object cs, .record h, hshape => by
    rw [decode, decodeRecord, decodeRecord, fillEntries_vary h hshape.1 hshape.2]

/-- Lists whose items mean the same have the same data, or fail alike. -/
theorem decode_items : {shape : Shape} → {vs ws : List Value} → ItemsVary shape vs ws →
    shape.IsDistinct → vs.mapM (decode shape) = ws.mapM (decode shape)
  | _, _, _, .nil, _ => rfl
  | shape, v :: vs, w :: ws, .cons h hs, hshape => by
    rw [List.mapM_cons, List.mapM_cons, decode_varies h hshape, decode_items hs hshape]

/-- Entries that mean the same fill the slots alike, whatever has been filled before, as keys of one
entry lead to one slot. -/
theorem fillEntries_vary : {es : List Entry} → {bs cs : List (String × Value)} →
    EntriesVary es bs cs → Entry.AreDistinct es → Entry.HaveDistinct es → ∀ {filled : Filled},
    fillEntries (decoders es) filled bs = fillEntries (decoders es) filled cs
  | _, _, _, .nil, _, _, _ => rfl
  | es, (_, v) :: bs, (_, w) :: cs, .renamed (e := e) he hk hk' h hs, hes, hshapes, filled => by
    obtain ⟨i, hi⟩ := List.getElem?_of_mem he
    have hread : (slotOf e).read v = (slotOf e).read w := by
      obtain ⟨key, aliases, shape, missing, omitted⟩ := e
      exact decode_varies h (hshapes.shape he)
    rw [fillEntries, fillEntries, find?_of_mem_keys hes hi hk, find?_of_mem_keys hes hi hk']
    dsimp only
    split
    · rfl
    · rw [hread]
      exact congrArg _ (funext fun d => fillEntries_vary hs hes hshapes)
  | es, _, _, .added hk hs, hes, hshapes, filled => by
    rw [fillEntries_foreign hk]
    exact fillEntries_vary hs hes hshapes

end

end Json

namespace Document

/-! ## Writing and reading back -/

mutual

/-- What is written along a shape can be read back: an optional value stands in an entry that is
left out without a value, and any value is a text or a list of texts. -/
def Shape.IsFaithful : Shape → Prop
  | .text | .flag | .count | .choice _ _ => True
  | .optional _ => False
  | .list shape | .map shape => shape.IsFaithful
  | .either _ branches => .text ∈ branches ∧ .list .text ∈ branches
  | .record _ es => Entry.AreFaithful es

/-- An entry that is left out is put in again by its default.  Optional entries are left out when
absent, and others when they are empty lists, if at all. -/
def Entry.AreFaithful : List Entry → Prop
  | [] => True
  | .mk _ _ (.optional shape) missing omitted :: es =>
    shape.IsFaithful ∧ omitted = true ∧ missing = some .absent ∧ Entry.AreFaithful es
  | .mk _ _ shape missing omitted :: es =>
    shape.IsFaithful ∧ (omitted = true → missing = some (.list [])) ∧ Entry.AreFaithful es

end

end Document

namespace Json

open Document

/-- A datum is read back from the tree that is written for it, and there is such a tree. -/
def Returns (shape : Shape) (d : Datum) : Prop :=
  ∃ t, tree? shape d = some t ∧ decode shape t.value = some d

/-- The datum of an entry is read back, or left out and put in again. -/
inductive EntryReturns : Entry → Datum → Prop where
  | omitted {key : String} {aliases : List String} {shape : Shape} {d : Datum} (hd : isBlank d) :
      EntryReturns (.mk key aliases shape (some d) true) d
  | written {key : String} {aliases : List String} {shape : Shape} {missing : Option Datum}
      {omitted : Bool} {d : Datum} (hd : (omitted && isBlank d) = false) (h : Returns shape d) :
      EntryReturns (.mk key aliases shape missing omitted) d

/-- A tree is never read as nothing, since nothing is written by leaving its entry out. -/
theorem Tree.value_ne_null (t : Tree) : t.value ≠ .null := by
  cases t <;> exact nofun

/-- The values of trees are taken one by one. -/
theorem Tree.values_eq_map (ts : List Tree) : Tree.values ts = ts.map Tree.value := by
  induction ts with
  | nil => rfl
  | cons t ts ih => rw [Tree.values, ih]; rfl

/-- The bindings of a record are the values of its trees, each under the same key. -/
theorem Tree.bindings_eq_map (es : List (String × Tree)) :
    Tree.bindings es = es.map fun e => (e.1, e.2.value) := by
  induction es with
  | nil => rfl
  | cons e es ih =>
    obtain ⟨k, t⟩ := e
    rw [Tree.bindings, ih]
    rfl

/-- Written one by one, and read back one by one: if each part comes back, so does the list of
all. -/
theorem exists_mapM_mapM {α β γ : Type} {write : α → Option β} {value : β → γ} {read : γ → Option α}
    {as : List α} (h : ∀ a ∈ as, ∃ b, write a = some b ∧ read (value b) = some a) :
    ∃ bs, as.mapM write = some bs ∧ (bs.map value).mapM read = some as := by
  induction as with
  | nil => exact ⟨[], rfl, rfl⟩
  | cons a as ih =>
    obtain ⟨b, hwrite, hread⟩ := h a List.mem_cons_self
    obtain ⟨bs, hwrites, hreads⟩ := ih fun a ha => h a (List.mem_cons_of_mem _ ha)
    exact ⟨b :: bs, by rw [List.mapM_cons, hwrite, hwrites]; rfl,
      by rw [List.map_cons, List.mapM_cons, hread, hreads]; rfl⟩

/-- A list is read back if its items are. -/
theorem returns_list {shape : Shape} {ds : List Datum} (h : ∀ d ∈ ds, Returns shape d) :
    Returns (.list shape) (.list ds) := by
  obtain ⟨ts, hwrite, hread⟩ := exists_mapM_mapM h
  refine ⟨.list ts, by rw [tree?_list, hwrite]; rfl, ?_⟩
  rw [decode, Tree.value, decodeList, Tree.values_eq_map, hread]
  rfl

/-- A map is read back if its values are, under the keys they are written with. -/
theorem returns_map {shape : Shape} {bs : List (String × Datum)} (h : ∀ b ∈ bs, Returns shape b.2) :
    Returns (.map shape) (.map bs) := by
  obtain ⟨ts, hwrite, hread⟩ := @exists_mapM_mapM (String × Datum) (String × Tree) (String × Value)
    (fun b => (tree? shape b.2).map fun t => (b.1, t)) (fun b => (b.1, b.2.value))
    (fun b => (decode shape b.2).map fun d => (b.1, d)) bs fun b hb => by
      obtain ⟨t, hwrite, hread⟩ := h b hb
      exact ⟨(b.1, t), by rw [hwrite]; rfl, by rw [hread]; rfl⟩
  refine ⟨.object ts, by rw [tree?_map, hwrite]; rfl, ?_⟩
  rw [decode, Tree.value, decodeMap, Tree.bindings_eq_map, hread]
  rfl

/-- A datum is that of the first branch that fits if it is that of any. -/
theorem firstFit?_eq {content : Content} {branches : List Shape} {d : Datum}
    (h : ∃ branch ∈ branches, content.fit? branch = some d)
    (hunique : ∀ branch d', content.fit? branch = some d' → d' = d) :
    content.firstFit? branches = some d := by
  obtain ⟨branch, hbranch, hfit⟩ := h
  rw [Content.firstFit?]
  cases hfirst : branches.findSome? content.fit? with
  | none =>
    rw [List.findSome?_eq_none_iff] at hfirst
    rw [hfirst branch hbranch] at hfit
    cases hfit
  | some d' =>
    obtain ⟨branch', -, hfit'⟩ := List.exists_of_findSome?_eq_some hfirst
    rw [hunique branch' d' hfit']

/-- A list of texts, looked at as content, is the list of these texts again. -/
theorem contents_texts (ss : List String) :
    (contents (Tree.values (ss.map .text))).mapM Content.text? = some ss := by
  induction ss with
  | nil => rfl
  | cons s ss ih =>
    rw [List.map_cons, Tree.values, contents, List.mapM_cons, ih]
    rfl

/-- A choice by shape is read back: a text as a text, and a list of texts as this list.  Whichever
branch fits first, it gives the same datum as the one meant. -/
theorem returns_either {title : String} {branches : List Shape} (htext : .text ∈ branches)
    (htexts : .list .text ∈ branches) {d : Datum} (hd : d.HasShape (.either title branches)) :
    Returns (.either title branches) d := by
  rcases hd.exists_either with ⟨s, rfl⟩ | ⟨ss, rfl⟩
  · refine ⟨.text s, by rw [tree?_either, plainTree?], ?_⟩
    refine firstFit?_eq ⟨.text, htext, rfl⟩ fun branch d' hfit => ?_
    cases branch with
    | text => exact (Option.some.inj hfit).symm
    | _ => cases hfit
  · have htree : plainTree? (.ofTexts ss) = some (.list (ss.map .text)) := by
      rw [Datum.ofTexts, plainTree?, ← Datum.ofTexts, texts?_ofTexts]
      · rfl
      · exact nofun
    refine ⟨.list (ss.map .text), by rw [tree?_either, htree], ?_⟩
    have hcontents := contents_texts ss
    refine firstFit?_eq ⟨.list .text, htexts, ?_⟩ fun branch d' hfit => ?_
    · rw [Tree.value, Value.content, Content.fit?, hcontents]
      rfl
    · cases branch with
      | list item =>
        cases item with
        | text =>
          rw [Tree.value, Value.content, Content.fit?, hcontents] at hfit
          exact (Option.some.inj hfit).symm
        | _ => cases hfit
      | _ => cases hfit

/-- A number of 32 bits is in the range of counts, so writing it down and reading it again gives it
back. -/
theorem countOf_toNat (n : UInt32) : countOf n.toNat = .ok (.count n) := by
  have hsmall : (0 : Int) ≤ n.toNat ∧ (n.toNat : Int) < (Nat.pow 2 32 : Nat) :=
    ⟨Int.natCast_nonneg _, Int.ofNat_lt.2 n.toNat_lt⟩
  rw [countOf, if_pos hsmall, Int.toNat_natCast, UInt32.ofNat_toNat]

/-- A count is read back from the whole number that it is written as. -/
theorem returns_count (n : UInt32) : Returns .count (.count n) := by
  refine ⟨.count n.toNat, rfl, ?_⟩
  have hdigits : (Nat.toDigits 10 n.toNat).all Char.isDigit = true :=
    List.all_eq_true.2 (isWhole_toDigits n.toNat).1.2
  rw [decode, Tree.value, decodeCount, countOfDigits?, if_pos hdigits,
    Nat.ofDigitChars_ten_toDigits, countOf_toNat]
  rfl

/-- The name of a variant is read back as the same variant, if it is one of the choice. -/
theorem returns_choice {title name : String} {names : List String} (h : name ∈ names) :
    Returns (.choice title names) (.variant name) := by
  have hname : names.contains name = true := List.contains_iff_mem.2 h
  exact ⟨.text name, by rw [tree?_choice, if_pos hname],
    by rw [decode, Tree.value, decodeChoice, variant?, if_pos hname]⟩

/-! ### Records -/

/-- What is filled in from the entries that are written: nothing for one that is left out, and the
datum for each of the others. -/
def writtenSlots : List Entry → List Datum → Filled
  | .mk _ _ _ _ omitted :: es, d :: ds =>
    (if omitted && isBlank d then none else some d) :: writtenSlots es ds
  | _, _ => []

/-- Defaults stand for the entries that are left out, so the slots are completed to the data that
have been written. -/
theorem complete_writtenSlots {es : List Entry} {ds : List Datum}
    (h : List.Forall₂ EntryReturns es ds) :
    complete (decoders es) (writtenSlots es ds) = .ok ds := by
  induction h with
  | nil => rfl
  | cons hhead _ ih =>
    cases hhead with
    | omitted hd =>
      rw [decoders, writtenSlots, Bool.true_and, if_pos hd, complete, List.tail_cons, ih]
      rfl
    | written hd _ =>
      rw [decoders, writtenSlots, hd, complete, List.tail_cons, ih]
      rfl

/-- The entries that are written fill the slots behind those filled already, by induction on the
entries, of which some are in front and have been read. -/
theorem fillEntries_written {all : List Entry} (hall : Entry.AreDistinct all) {es : List Entry}
    {ds : List Datum} (h : List.Forall₂ EntryReturns es ds) :
    ∀ (before : List Entry) (filled : Filled), all = before ++ es →
      filled.length = before.length →
      ∃ ts, entryTrees? es ds = some ts ∧
        fillEntries (decoders all) (filled ++ es.map fun _ => none) (Tree.bindings ts) =
          some (filled ++ writtenSlots es ds) := by
  induction h with
  | nil => exact fun _ _ _ _ => ⟨[], rfl, by rw [Tree.bindings, fillEntries]; rfl⟩
  | @cons e d es ds hhead _ ih =>
    intro before filled hes hlength
    have hes' : all = (before ++ [e]) ++ es := by rw [List.append_assoc]; exact hes
    have hnext (o : Option Datum) := ih (before ++ [e]) (filled ++ [o]) hes' (by simp [hlength])
    cases hhead with
    | omitted hd =>
      obtain ⟨ts, hts, hfill⟩ := hnext none
      refine ⟨ts, by rw [entryTrees?, Bool.true_and, if_pos hd, hts], ?_⟩
      rw [writtenSlots, Bool.true_and, if_pos hd]
      simpa using hfill
    | @written key aliases shape missing omitted _ hd hreturns =>
      obtain ⟨ts, hts, hfill⟩ := hnext (some d)
      obtain ⟨t, ht, hread⟩ := hreturns
      refine ⟨(key, t) :: ts, by rw [entryTrees?, hd, ht, hts]; rfl, ?_⟩
      have hi : all[filled.length]? = some (.mk key aliases shape missing omitted) := by
        rw [hes, hlength, List.getElem?_append_right (Nat.le_refl _), Nat.sub_self]
        rfl
      have hopen : (filled ++ none :: es.map fun _ => none)[filled.length]? = some none := by
        rw [List.getElem?_append_right (Nat.le_refl _), Nat.sub_self]
        rfl
      have hset : fill (filled ++ none :: es.map fun _ => none) filled.length d =
          (filled ++ [some d]) ++ es.map fun _ => none := by
        rw [fill, List.set_append_right _ _ (Nat.le_refl _), Nat.sub_self, List.append_assoc]
        rfl
      rw [Tree.bindings, fillEntries, find?_of_mem_keys hall hi List.mem_cons_self, Nat.zero_add,
        writtenSlots, hd, List.map_cons]
      have hvalue : (slotOf (.mk key aliases shape missing omitted)).read t.value = some d := hread
      simp only [hopen, Option.join_some, Option.isSome_none, Bool.false_eq_true, if_false]
      rw [hvalue, Option.bind_some, hset, hfill, List.append_assoc]
      rfl

/-- A record is read back if no key means two of its entries and each entry is read back or put in
again by its default. -/
theorem returns_record {title : String} {es : List Entry} (hes : Entry.AreDistinct es)
    {ds : List Datum} (h : List.Forall₂ EntryReturns es ds) :
    Returns (.record title es) (.record ds) := by
  obtain ⟨ts, hts, hfill⟩ := fillEntries_written hes h [] [] rfl rfl
  have hnone : (decoders es).map (fun _ => (none : Option Datum)) = es.map fun _ => none := by
    rw [decoders_eq_map, List.map_map]
    rfl
  refine ⟨.object ts, by rw [tree?_record, hts]; rfl, ?_⟩
  rw [List.nil_append, List.nil_append] at hfill
  rw [decode, Tree.value, decodeRecord, hnone, hfill, Option.bind_some, complete_writtenSlots h]
  rfl

/-- An entry whose shape is not optional is left out, if at all, as an empty list, and this is its
default. -/
theorem Entry.AreFaithful.plain {key : String} {aliases : List String} {shape : Shape}
    {missing : Option Datum} {omitted : Bool} {es : List Entry}
    (h : Entry.AreFaithful (.mk key aliases shape missing omitted :: es))
    (hshape : ∀ inner, shape ≠ .optional inner) : shape.IsFaithful ∧
      (omitted = true → missing = some (.list [])) ∧ Entry.AreFaithful es := by
  cases shape with
  | optional inner => exact absurd rfl (hshape inner)
  | _ => exact h

/-- A blank datum that is not optional is the empty list, for only what is absent is blank
besides. -/
theorem eq_nil_of_isBlank {shape : Shape} (hshape : ∀ inner, shape ≠ .optional inner) {d : Datum}
    (h : d.HasShape shape) (hd : isBlank d = true) : d = .list [] := by
  cases h with
  | absent inner => exact absurd rfl (hshape inner)
  | @list _ ds h =>
    cases ds with
    | nil => rfl
    | cons d ds => cases hd
  | eitherList _ _ ss =>
    cases ss with
    | nil => rfl
    | cons s ss => cases hd
  | _ => cases hd

/-- An optional value that is there is read back as the value inside is, which is never written as
nothing. -/
theorem returns_optional {shape : Shape} {d : Datum} (h : Returns shape d) :
    Returns (.optional shape) (.present d) := by
  obtain ⟨t, hwrite, hread⟩ := h
  refine ⟨t, by rw [tree?_optional, hwrite], ?_⟩
  rw [decode, decodeOptional_of_ne t.value_ne_null, hread]
  rfl

mutual

/-- **Every datum of a shape is read back** from the tree that is written for it. -/
theorem returns : (shape : Shape) → shape.IsDistinct → shape.IsFaithful → {d : Datum} →
    d.HasShape shape → Returns shape d
  | .text, _, _, _, .text s => ⟨.text s, rfl, rfl⟩
  | .flag, _, _, _, .flag b => ⟨.flag b, rfl, rfl⟩
  | .count, _, _, _, .count n => returns_count n
  | .list shape, hdistinct, hfaithful, _, .list h =>
    returns_list fun d hd => returns shape hdistinct hfaithful (h d hd)
  | .map shape, hdistinct, hfaithful, _, .map h =>
    returns_map fun b hb => returns shape hdistinct hfaithful (h b hb)
  | .choice _ _, _, _, _, .choice h => returns_choice h
  | .either _ _, _, hfaithful, _, hd => returns_either hfaithful.1 hfaithful.2 hd
  | .record _ es, hdistinct, hfaithful, _, .record h =>
    returns_record hdistinct.1 (entries_return es hdistinct.2 hfaithful h)

/-- The entries of a faithful record come back, each written or left out, by recursion over the
entries along with their data. -/
theorem entries_return : (es : List Entry) → Entry.HaveDistinct es → Entry.AreFaithful es →
    {ds : List Datum} → Datum.HasEntries es ds → List.Forall₂ EntryReturns es ds
  | [], _, _, _, .nil => .nil
  | .mk _ _ shape missing omitted :: es, hdistinct, hfaithful, _, .cons (d := d) h hs => by
    by_cases hoptional : ∃ inner, shape = .optional inner
    · obtain ⟨inner, rfl⟩ := hoptional
      obtain ⟨hinner, rfl, rfl, hes⟩ := hfaithful
      refine .cons ?_ (entries_return es hdistinct.2 hes hs)
      cases h with
      | absent => exact .omitted rfl
      | present h => exact .written rfl (returns_optional (returns inner hdistinct.1 hinner h))
    · have hshape (inner : Shape) (h : shape = .optional inner) := hoptional ⟨inner, h⟩
      obtain ⟨hplain, hmissing, hes⟩ := Entry.AreFaithful.plain hfaithful hshape
      refine .cons ?_ (entries_return es hdistinct.2 hes hs)
      cases hd : omitted && isBlank d with
      | true =>
        obtain ⟨rfl, hblank⟩ := Bool.and_eq_true_iff.1 hd
        obtain rfl := eq_nil_of_isBlank hshape h hblank
        rw [hmissing rfl]
        exact .omitted rfl
      | false => exact .written hd (returns shape hdistinct.1 hplain h)

end

end Json

open Document
open Document.Datum (HasShape)

/-! ## Forms -/

/-- A value that may be absent, put into a datum and taken out again, is the same. -/
theorem optional?_ofOption {α : Type} {write : α → Datum} {read : Datum → Option α}
    (h : ∀ a, read (write a) = some a) (o : Option α) :
    (Datum.ofOption write o).optional? read = some o := by
  cases o with
  | none => rfl
  | some a => rw [Datum.ofOption, Datum.optional?, h]; rfl

/-- A list of records, put into data one by one and taken out again, is the same. -/
theorem mapM_ofDatum_toDatum {α : Type} {write : α → Datum} {read : Datum → Option α}
    (h : ∀ a, read (write a) = some a) (as : List α) : (as.map write).mapM read = some as := by
  induction as with
  | nil => rfl
  | cons a as ih => rw [List.map_cons, List.mapM_cons, h, ih]; rfl

/-- A text taken out of its datum is the text. -/
theorem text?_text (s : String) : (Datum.text s).text? = some s := rfl

/-- A count taken out of its datum is the count. -/
theorem count?_count (n : UInt32) : (Datum.count n).count? = some n := rfl

/-- An option of an enum field is made up from its datum again, with its label and its value. -/
theorem EnumOption.ofDatum?_toDatum (o : EnumOption) : ofDatum? o.toDatum = some o := by
  simp [toDatum, ofDatum?, optional?_ofOption text?_text, text?_text]

/-- Dependencies are made up from their datum again, and one name stays apart from the list with
this name. -/
theorem DependsOn.ofDatum?_toDatum (names : DependsOn) : ofDatum? names.toDatum = some names := by
  cases names with
  | one s => rfl
  | many ss => exact congrArg (Option.map _) (texts?_ofTexts ss)

/-- A template is made up from its datum again, and one text stays apart from the list of its
lines. -/
theorem TemplateSource.ofDatum?_toDatum (template : TemplateSource) :
    ofDatum? template.toDatum = some template := by
  cases template with
  | lines ss => exact congrArg (Option.map _) (texts?_ofTexts ss)
  | text s => rfl

/-- A field is made up from its datum again, with every part that a form can give it. -/
theorem Field.ofDatum?_toDatum (f : Field) : ofDatum? f.toDatum = some f := by
  simp [toDatum, ofDatum?, optional?_ofOption text?_text, optional?_ofOption count?_count,
    optional?_ofOption DependsOn.ofDatum?_toDatum, mapM_ofDatum_toDatum EnumOption.ofDatum?_toDatum,
    text?_text, Datum.flag?, FieldKind.ofDatum?, FieldKind.ofName?_name]

/-- A form is made up from its datum again, so it is known once its datum has been read back. -/
theorem Form.ofDatum?_toDatum (form : Form) : ofDatum? form.toDatum = some form := by
  simp [toDatum, ofDatum?, TemplateSource.ofDatum?_toDatum,
    mapM_ofDatum_toDatum Field.ofDatum?_toDatum, Datum.flag?]

/-- A value that may be absent is of the optional shape, if values that are there are of the shape
inside. -/
theorem hasShape_ofOption {α : Type} {write : α → Datum} {shape : Shape}
    (h : ∀ a, (write a).HasShape shape) (o : Option α) :
    (Datum.ofOption write o).HasShape (.optional shape) := by
  cases o with
  | none => exact .absent shape
  | some a => exact .present (h a)

/-- A list of records is of the shape of lists, if each of them is of its own shape. -/
theorem hasShape_map {α : Type} {write : α → Datum} {shape : Shape}
    (h : ∀ a, (write a).HasShape shape) (as : List α) :
    (Datum.list (as.map write)).HasShape (.list shape) := by
  refine .list fun d hd => ?_
  obtain ⟨a, -, rfl⟩ := List.mem_map.1 hd
  exact h a

/-- The datum of an option is of the shape that options are read along. -/
theorem EnumOption.hasShape_toDatum (o : EnumOption) : o.toDatum.HasShape EnumOption.shape :=
  .record (.cons (.text _) (.cons (hasShape_ofOption .text _)
    (.cons (hasShape_ofOption .text _) .nil)))

/-- The datum of dependencies is a text or a list of texts, as the shape asks. -/
theorem DependsOn.hasShape_toDatum (names : DependsOn) :
    names.toDatum.HasShape (textOrList "DependsOn") := by
  cases names with
  | one s => exact .eitherText _ _ s
  | many ss => exact .eitherList _ _ ss

/-- The datum of a template is a text or a list of texts, which fits the shape whatever branches it
names. -/
theorem TemplateSource.hasShape_toDatum (template : TemplateSource) (branches : List Shape) :
    template.toDatum.HasShape (.either "TemplateSource" branches) := by
  cases template with
  | lines ss => exact .eitherList _ _ ss
  | text s => exact .eitherText _ _ s

/-- The datum of a field is of the shape that fields are read along, entry by entry. -/
theorem Field.hasShape_toDatum (f : Field) : f.toDatum.HasShape Field.shape := by
  have hkind : (Datum.variant f.kind.name).HasShape
      (.choice "FieldKind" (FieldKind.all.map FieldKind.name)) := by
    refine .choice (List.mem_map_of_mem ?_)
    cases f.kind <;> decide
  have htext (o : Option String) : (Datum.ofOption .text o).HasShape (.optional .text) :=
    hasShape_ofOption .text o
  have hcount (o : Option UInt32) : (Datum.ofOption .count o).HasShape (.optional .count) :=
    hasShape_ofOption .count o
  exact .record <| .cons (.text _) <| .cons (.text _) <| .cons hkind <| .cons (htext _) <|
    .cons (hasShape_map EnumOption.hasShape_toDatum _) <| .cons (.flag _) <| .cons (.flag _) <|
    .cons (htext _) <| .cons (htext _) <| .cons (htext _) <| .cons (htext _) <|
    .cons (.flag _) <| .cons (.flag _) <| .cons (hcount _) <| .cons (hcount _) <|
    .cons (hcount _) <| .cons (hcount _) <| .cons (htext _) <|
    .cons (hasShape_ofOption DependsOn.hasShape_toDatum _) <| .cons (htext _) .nil

/-- The datum of a form is of the shape that documents are read along. -/
theorem Form.hasShape_toDatum (form : Form) : form.toDatum.HasShape Form.shape :=
  .record (.cons (form.template.hasShape_toDatum _)
    (.cons (hasShape_map Field.hasShape_toDatum _) (.cons (.flag _) .nil)))

/-- In the shape of forms no key means two entries of a record, which is decided by looking through
it. -/
theorem Form.shape_isDistinct : Form.shape.IsDistinct := by
  simp only [Form.shape, Field.shape, EnumOption.shape, optionalEntry, flagEntry, textOrList,
    Shape.IsDistinct, Entry.HaveDistinct, and_true, true_and]
  decide

/-- In the shape of forms every entry that is left out in writing has the default that is put in for
it in reading. -/
theorem Form.shape_isFaithful : Form.shape.IsFaithful := by
  simp [Form.shape, Field.shape, EnumOption.shape, optionalEntry, flagEntry, textOrList,
    Shape.IsFaithful, Entry.AreFaithful]

/-- What is written for a form is not nested more deeply than a reader of texts goes. -/
theorem Form.nesting_shape : Json.nesting Form.shape < Json.maxDepth := by
  decide

/-- The tree of a form is read back as the datum of the form. -/
theorem Form.decode_toJson (form : Form) :
    Json.decode Form.shape form.toJson.value = some form.toDatum := by
  obtain ⟨t, hwrite, hread⟩ :=
    Json.returns Form.shape shape_isDistinct shape_isFaithful form.hasShape_toDatum
  rw [Form.toJson, hwrite]
  exact hread

/-- A form is read from every text of a value that is decoded to its datum. -/
theorem Form.ofJson_of_decode {form : Form} {v : Json.Value}
    (h : Json.decode Form.shape v = some form.toDatum) {text : String}
    (htext : Json.IsTextOf v text) : Form.ofJson text = .ok form := by
  have hread := Json.read_isTextOf Form.nesting_shape htext
  rw [h] at hread
  rw [Form.ofJson]
  cases hd : Json.read Form.shape text with
  | error e => rw [hd] at hread; cases hread
  | ok d =>
    rw [hd] at hread
    obtain rfl := Option.some.inj hread
    simp only [Form.ofDatum?_toDatum]

/-- **A form survives being written**: its JSON text is read back as the form.  So is any other text
of its value, keys of entries replaced by other keys of the same entries, and entries with keys of
no entry added. -/
theorem Form.ofJson_toJson (form : Form) :
    Form.ofJson (String.ofList form.toJson.render) = .ok form ∧
      ∀ (v : Json.Value) (text : String), Json.Varies Form.shape form.toJson.value v →
        Json.IsTextOf v text → Form.ofJson text = .ok form := by
  have hdecode := form.decode_toJson
  refine ⟨ofJson_of_decode hdecode form.toJson.isTextOf_render, fun v text hv htext => ?_⟩
  exact ofJson_of_decode (Json.decode_varies hv shape_isDistinct ▸ hdecode) htext

/-- A form with all of its keys replaced that have another, and with a note. -/
theorem Form.ofJson_otherKeys :
    Form.ofJson ("\x7b\"template\":\"a\",\"note\":true,\"fields\":[\x7b\"name\":\"a\"," ++
      "\"label\":\"a\",\"type\":\"text\",\"multiple\":false,\"combobox\":false," ++
      "\"multiline\":false,\"monospace\":false,\"linkedToken\":\"b\",\"shown\":\"b\"\x7d]," ++
      "\"reduceEmptyLines\":true\x7d") =
    .ok {
      template := .text "a"
      fields := [{ Field.ofKind "a" .text with
        dependsOn := some (.one "b"), matchExpression := some "b" }]
      reduceEmptyLines := true } := by
  let tree : Json.Tree := .object [("template", .text "a"), ("note", .flag true),
    ("fields", .list [.object [("name", .text "a"), ("label", .text "a"), ("type", .text "text"),
      ("multiple", .flag false), ("combobox", .flag false), ("multiline", .flag false),
      ("monospace", .flag false), ("linkedToken", .text "b"), ("shown", .text "b")]]),
    ("reduceEmptyLines", .flag true)]
  refine (Form.ofJson_toJson _).2 tree.value _ ?_ ?_
  · refine .record <| Json.EntriesVary.keyed 0 rfl (by decide) (by decide) (.same _ _) <|
      .added (by decide) <| Json.EntriesVary.keyed 1 rfl (by decide) (by decide) ?_ <|
      Json.EntriesVary.keyed 2 rfl (by decide) (by decide) (.same _ _) .nil
    refine .list (.cons (.record ?_) .nil)
    exact Json.EntriesVary.keyed 0 rfl (by decide) (by decide) (.same _ _) <|
      Json.EntriesVary.keyed 1 rfl (by decide) (by decide) (.same _ _) <|
      Json.EntriesVary.keyed 2 rfl (by decide) (by decide) (.same _ _) <|
      Json.EntriesVary.keyed 5 rfl (by decide) (by decide) (.same _ _) <|
      Json.EntriesVary.keyed 6 rfl (by decide) (by decide) (.same _ _) <|
      Json.EntriesVary.keyed 11 rfl (by decide) (by decide) (.same _ _) <|
      Json.EntriesVary.keyed 12 rfl (by decide) (by decide) (.same _ _) <|
      Json.EntriesVary.keyed 18 rfl (by decide) (by decide) (.same _ _) <|
      Json.EntriesVary.keyed 19 rfl (by decide) (by decide) (.same _ _) .nil
  · refine (congrArg (Json.IsTextOf tree.value) ?_).mp tree.isTextOf_render
    decide +kernel

end CommitForm
