/-
# Loading options in any order

A call looks up the provider of every request and starts one task for each.  `Loading` is such a
call under way: the tasks that still run, and those that have ended, in the order in which they did.

| step | what happens |
| --- | --- |
| `answers` | any running task ends with its response |
| `breaks` | any running task breaks down |
| `registers` | somebody else changes the registry |

A task knows the provider that was found for it when the call was made, so the last step changes
nothing for it.  A breakdown does not tell whose it is: all that the call receives from it is that
one task less is running.

No step loses a task or ends one twice (`Loading.Sound`), so every response finds its place and
every place left empty is one of a breakdown.  Hence the responses stand in the order of the fields
and are those of single loads, whatever the order in which the tasks end and whichever of them break
down (`loadAll_in_any_order`).
-/

import Mathlib.Data.List.Nodup
import Mathlib.Logic.Relation
import CommitForm.Options

namespace CommitForm
namespace Options

/-! ## Calls under way -/

/-- A request under way: its place, and the provider that was found for it when it was started. -/
structure Task where
  index : Nat
  request : Request
  provider : Option Provider

/-- The task for a request at a place, with the provider that the registry has at the time of the
call. -/
def Registry.task (r : Registry) (q : Request × Nat) : Task := ⟨q.2, q.1, r.get? q.1.provider⟩

/-- The response a task ends with; none if its provider breaks down, while one that is too slow has
a response that says so. -/
def Task.answer? (context : Context) (limit : Nat) (t : Task) : Option Response :=
  Options.answer? t.provider context limit t.request

/-- A call under way: the registry, the tasks that run, and what has come back from those that have
ended. -/
structure Loading where
  /-- The registry, which others may change meanwhile. -/
  registry : Registry
  running : List Task
  /-- The places of the tasks that have ended, the first one first, with their responses; a task
  that broke down has none. -/
  ended : List (Nat × Option Response)

/-- What a call receives when a task has ended: the place and the response, or nothing of use if the
task broke down. -/
def arrival : Nat × Option Response → Option (Nat × Response)
  | (i, response?) => response?.map fun response => (i, response)

namespace Loading

/-- A call that has just been made.  All look-ups and all starts of tasks are one step here: they
happen one after the other, but the call does not wait in between, and what it has found for a
request is in the task from then on.  So nobody is meant to change the registry between the first
look-up and the last. -/
def start (r : Registry) (qs : List Request) : Loading where
  registry := r
  running := qs.zipIdx.map r.task
  ended := []

/-- What a call has received, in the order of arrival, which need not be that of the requests. -/
def arrivals (s : Loading) : List (Option (Nat × Response)) := s.ended.map arrival

/-- Whether the task of a place has broken down, so that nothing has come back for this place. -/
def BrokeDown (s : Loading) (i : Nat) : Prop := (i, none) ∈ s.ended

/-- One step of a call, of a task of it or of somebody else. -/
inductive Step (context : Context) (limit : Nat) : Loading → Loading → Prop where
  | answers {s : Loading} {before after : List Task} {t : Task} {response : Response}
      (ht : s.running = before ++ t :: after) (h : t.answer? context limit = some response) :
      Step context limit s
        { s with running := before ++ after, ended := s.ended ++ [(t.index, some response)] }
  | breaks {s : Loading} {before after : List Task} {t : Task}
      (ht : s.running = before ++ t :: after) :
      Step context limit s
        { s with running := before ++ after, ended := s.ended ++ [(t.index, none)] }
  | registers {s : Loading} (r : Registry) : Step context limit s { s with registry := r }

/-- Any number of steps, in which tasks may end in any order and the registry may change. -/
abbrev Leads (context : Context) (limit : Nat) : Loading → Loading → Prop :=
  Relation.ReflTransGen (Step context limit)

/-! ## What every step keeps -/

/-- No task has been lost or has ended twice, those that run ask the providers of `r`, and those
that have answered have done so as `r` does. -/
structure Sound (r : Registry) (context : Context) (limit : Nat) (qs : List Request)
    (s : Loading) : Prop where
  indices : (s.ended.map Prod.fst ++ s.running.map Task.index).Perm (List.range qs.length)
  running : ∀ t ∈ s.running, qs[t.index]? = some t.request ∧ t.provider = r.get? t.request.provider
  ended : ∀ i response, (i, some response) ∈ s.ended →
    ∃ q, qs[i]? = some q ∧ r.respond? context limit q = some response

variable {r : Registry} {context : Context} {limit : Nat} {qs : List Request} {s s' : Loading}

/-- At the start every request has a task that runs, and none has ended. -/
theorem sound_start (r : Registry) (context : Context) (limit : Nat) (qs : List Request) :
    Sound r context limit qs (start r qs) where
  indices := by
    have hindices : (start r qs).running.map Task.index = List.range qs.length := by
      rw [start, List.map_map, List.range_eq_range']
      exact List.zipIdx_map_snd 0 qs
    rw [hindices]
    exact List.Perm.refl _
  running := by
    intro t ht
    obtain ⟨q, hq, rfl⟩ := List.mem_map.1 ht
    exact ⟨List.mem_zipIdx_iff_getElem?.1 hq, rfl⟩
  ended := fun i response h => absurd h List.not_mem_nil

/-- A task that ends moves from those that run to those that have ended. -/
theorem Sound.settle (h : Sound r context limit qs s) {before after : List Task} {t : Task}
    (ht : s.running = before ++ t :: after) {response? : Option Response}
    (hresponse : ∀ response, response? = some response → t.answer? context limit = some response) :
    Sound r context limit qs
      { s with running := before ++ after, ended := s.ended ++ [(t.index, response?)] } where
  indices := by
    refine List.Perm.trans ?_ h.indices
    simp only [ht, List.map_append, List.map_cons, List.map_nil, List.append_assoc,
      List.singleton_append]
    exact List.Perm.append_left _ List.perm_middle.symm
  running := by
    intro u hu
    refine h.running u ?_
    rw [ht]
    exact (List.mem_append.1 hu).elim (List.mem_append_left _) fun hu =>
      List.mem_append_right _ (List.mem_cons_of_mem _ hu)
  ended := by
    intro i response hi
    rcases List.mem_append.1 hi with hi | hi
    · exact h.ended i response hi
    · obtain ⟨rfl, rfl⟩ := Prod.mk.inj (List.mem_singleton.1 hi)
      obtain ⟨hq, hprovider⟩ := h.running t (ht ▸ List.mem_append_right _ List.mem_cons_self)
      refine ⟨t.request, hq, ?_⟩
      rw [Registry.respond?, ← hprovider]
      exact hresponse response rfl

/-- A step keeps the call sound: one task moves from those that run to those that have ended, or the
registry changes. -/
theorem Sound.step (h : Sound r context limit qs s) (hstep : Step context limit s s') :
    Sound r context limit qs s' := by
  cases hstep with
  | answers ht hanswer =>
    refine h.settle ht fun response he => ?_
    rwa [← Option.some.inj he]
  | breaks ht => exact h.settle ht fun response he => absurd he (by simp)
  | registers => exact ⟨h.indices, h.running, h.ended⟩

/-- **No run loses a task or ends one twice,** by induction on its steps. -/
theorem Sound.leads (h : Sound r context limit qs s) (hs : Leads context limit s s') :
    Sound r context limit qs s' := by
  induction hs with
  | refl => exact h
  | tail _ hstep ih => exact ih.step hstep

end Loading

/-! ## Every order occurs -/

section

variable (r : Registry) (context : Context) (limit : Nat) (qs : List Request)

/-- Whether the provider asked for a place breaks down by itself, or there is no such place. -/
def breaksDown (i : Nat) : Bool := (qs[i]?.bind (r.respond? context limit)).isNone

/-- What the task of a place ends with, if the tasks in `broken` break down. -/
def outcome? (broken : Nat → Bool) (i : Nat) : Option Response :=
  if broken i then none else qs[i]?.bind (r.respond? context limit)

variable {r context limit qs}

/-- If no tasks break down but those whose providers do, every place has the response of its
provider. -/
theorem outcome?_breaksDown (i : Nat) :
    outcome? r context limit qs (breaksDown r context limit qs) i =
      qs[i]?.bind (r.respond? context limit) := by
  rw [outcome?, breaksDown]
  cases qs[i]?.bind (r.respond? context limit) <;> rfl

/-- A place is without a response just if its task is among those that break down, which all those
of broken providers are. -/
theorem outcome?_eq_none_iff {broken : Nat → Bool} {i : Nat}
    (h : breaksDown r context limit qs i = true → broken i = true) :
    outcome? r context limit qs broken i = none ↔ broken i = true := by
  rw [breaksDown, Option.isNone_iff_eq_none] at h
  rw [outcome?]
  split
  · next hb => exact iff_of_true rfl hb
  · next hb => exact iff_of_false (fun hnone => hb (h hnone)) hb

/-- A task that runs ends as its place says, in a step that may come next whatever other tasks there
are. -/
theorem Loading.Sound.step_outcome? {broken : Nat → Bool} {s : Loading}
    (hs : s.Sound r context limit qs) {before after : List Task} {t : Task}
    (ht : s.running = before ++ t :: after)
    (hbroken : breaksDown r context limit qs t.index = true → broken t.index = true) :
    Step context limit s { s with
      running := before ++ after
      ended := s.ended ++ [(t.index, outcome? r context limit qs broken t.index)] } := by
  rw [outcome?]
  by_cases hb : broken t.index = true
  · rw [if_pos hb]
    exact .breaks ht
  · obtain ⟨hq, hprovider⟩ := hs.running t (ht ▸ List.mem_append_right _ List.mem_cons_self)
    have hanswer : t.answer? context limit = r.respond? context limit t.request := by
      rw [Task.answer?, hprovider, Registry.respond?]
    rw [breaksDown, hq, Option.bind_some] at hbroken
    rw [if_neg hb, hq, Option.bind_some]
    cases hresponse : r.respond? context limit t.request with
    | none => exact absurd (hbroken (by rw [hresponse]; rfl)) hb
    | some response => exact .answers ht (hanswer.trans hresponse)

/-- **The tasks that still run may end in any order,** and any of them may break down. -/
theorem Loading.Sound.exists_leads {broken : Nat → Bool} {order : List Nat} {s : Loading}
    (hs : s.Sound r context limit qs) (horder : order.Perm (s.running.map Task.index))
    (hbroken : ∀ i ∈ order, breaksDown r context limit qs i = true → broken i = true) :
    ∃ s', Leads context limit s s' ∧ s'.running = [] ∧
      s'.ended = s.ended ++ order.map fun i => (i, outcome? r context limit qs broken i) := by
  induction order generalizing s with
  | nil => exact ⟨s, .refl, List.map_eq_nil_iff.1 horder.nil_eq.symm, by simp⟩
  | cons i order ih =>
    obtain ⟨t, ht, rfl⟩ := List.mem_map.1 (horder.subset List.mem_cons_self)
    obtain ⟨before, after, hsplit⟩ := List.append_of_mem ht
    have hrest : order.Perm ((before ++ after).map Task.index) := by
      rw [hsplit, List.map_append, List.map_cons] at horder
      rw [List.map_append]
      exact (horder.trans List.perm_middle).cons_inv
    have hstep := hs.step_outcome? hsplit (hbroken _ List.mem_cons_self)
    obtain ⟨s', hleads, hend, hended⟩ :=
      ih (hs.step hstep) hrest fun i hi => hbroken i (List.mem_cons_of_mem _ hi)
    exact ⟨s', .head hstep hleads, hend, by rw [hended]; simp⟩

/-- A call that has just been made may end in any order, with any breakdowns. -/
theorem Loading.exists_leads_start {broken : Nat → Bool} {order : List Nat}
    (horder : order.Perm (List.range qs.length))
    (hbroken : ∀ i ∈ order, breaksDown r context limit qs i = true → broken i = true) :
    ∃ s, Leads context limit (start r qs) s ∧ s.running = [] ∧
      s.ended = order.map fun i => (i, outcome? r context limit qs broken i) := by
  have hsound := sound_start r context limit qs
  have hindices : ((start r qs).running.map Task.index).Perm (List.range qs.length) := by
    simpa [start] using hsound.indices
  simpa [start] using hsound.exists_leads (horder.trans hindices.symm) hbroken

end

/-! ## Every response finds its place -/

/-- Putting a response in its slot neither adds a slot nor removes one. -/
theorem length_settle (slots : List (Option Response)) (a : Option (Nat × Response)) :
    (settle slots a).length = slots.length := by
  cases a with
  | none => rfl
  | some a => exact List.length_set

/-- However many responses are put in their slots, the number of slots stays. -/
theorem length_foldl_settle (arrivals : List (Option (Nat × Response)))
    (slots : List (Option Response)) : (arrivals.foldl settle slots).length = slots.length := by
  induction arrivals generalizing slots with
  | nil => rfl
  | cons a arrivals ih => rw [List.foldl_cons, ih, length_settle]

/-- There is one response for each request, also for those whose tasks broke down. -/
theorem length_gather (qs : List Request) (arrivals : List (Option (Nat × Response))) :
    (gather qs arrivals).length = qs.length := by
  simp [gather, length_foldl_settle]

/-- A response is put in its own slot and leaves all others alone. -/
theorem getElem?_settle_of_ne {i j : Nat} (h : i ≠ j) (slots : List (Option Response))
    (response? : Option Response) : (settle slots (arrival (i, response?)))[j]? = slots[j]? := by
  cases response? with
  | none => rfl
  | some response => exact List.getElem?_set_ne h

/-- A slot that no task belongs to that has ended keeps what it holds. -/
theorem getElem?_foldl_settle_of_not_mem {ended : List (Nat × Option Response)} {i : Nat}
    (h : i ∉ ended.map Prod.fst) (slots : List (Option Response)) :
    ((ended.map arrival).foldl settle slots)[i]? = slots[i]? := by
  induction ended generalizing slots with
  | nil => rfl
  | cons e ended ih =>
    rw [List.map_cons, List.mem_cons, not_or] at h
    rw [List.map_cons, List.foldl_cons, ih h.2, getElem?_settle_of_ne (Ne.symm h.1)]

/-- The place of a task holds what the task has ended with, if it was empty and no other task has
the same place. -/
theorem getElem?_foldl_settle {ended : List (Nat × Option Response)}
    (hnodup : (ended.map Prod.fst).Nodup) {i : Nat} {response? : Option Response}
    (hmem : (i, response?) ∈ ended) {slots : List (Option Response)}
    (hslot : slots[i]? = some none) :
    ((ended.map arrival).foldl settle slots)[i]? = some response? := by
  induction ended generalizing slots with
  | nil => exact absurd hmem List.not_mem_nil
  | cons e ended ih =>
    rw [List.map_cons, List.nodup_cons] at hnodup
    rw [List.map_cons, List.foldl_cons]
    rcases List.mem_cons.1 hmem with rfl | hmem
    · rw [getElem?_foldl_settle_of_not_mem hnodup.1]
      cases response? with
      | none => exact hslot
      | some response =>
        exact List.getElem?_set_self (List.getElem?_eq_some_iff.1 hslot).choose
    · have hne : e.1 ≠ i := by
        intro he
        exact hnodup.1 (he ▸ List.mem_map_of_mem hmem)
      exact ih hnodup.2 hmem (by rw [getElem?_settle_of_ne hne, hslot])

/-- A request whose task has ended has the response of that task, or the one that says it broke
down, in whatever order the tasks ended. -/
theorem getElem?_gather {qs : List Request} {ended : List (Nat × Option Response)}
    (hnodup : (ended.map Prod.fst).Nodup) {i : Nat} {response? : Option Response}
    (hmem : (i, response?) ∈ ended) {q : Request} (hq : qs[i]? = some q) :
    (gather qs (ended.map arrival))[i]? = some (response?.getD (.broken q.field)) := by
  have hslot : (qs.map fun _ => (none : Option Response))[i]? = some none := by
    rw [List.getElem?_map, hq]
    rfl
  have hzip : (((ended.map arrival).foldl settle (qs.map fun _ => none)).zip qs)[i]? =
      some (response?, q) :=
    List.getElem?_zip_eq_some.2 ⟨getElem?_foldl_settle hnodup hmem hslot, hq⟩
  rw [gather, List.getElem?_map, hzip]
  rfl

/-- In a call that has come to its end every place holds the response of its task. -/
theorem Loading.Sound.getElem?_gather {s : Loading} {r : Registry} {context : Context} {limit : Nat}
    {qs : List Request} (hs : s.Sound r context limit qs) (hend : s.running = []) {i : Nat}
    {q : Request} (hq : qs[i]? = some q) :
    s.BrokeDown i ∧ (gather qs s.arrivals)[i]? = some (.broken q.field) ∨
      ¬ s.BrokeDown i ∧ ∃ response, r.respond? context limit q = some response ∧
        (gather qs s.arrivals)[i]? = some response := by
  have hindices : (s.ended.map Prod.fst).Perm (List.range qs.length) := by
    simpa [hend] using hs.indices
  have hnodup : (s.ended.map Prod.fst).Nodup := hindices.nodup_iff.2 List.nodup_range
  have hmem : i ∈ s.ended.map Prod.fst :=
    hindices.mem_iff.2 (List.mem_range.2 (List.getElem?_eq_some_iff.1 hq).choose)
  obtain ⟨⟨j, response?⟩, hended, rfl⟩ := List.mem_map.1 hmem
  have hplace := Options.getElem?_gather hnodup hended hq
  cases response? with
  | none => exact .inl ⟨hended, hplace⟩
  | some response =>
    obtain ⟨q', hq', hresponse⟩ := hs.ended j response hended
    obtain rfl : q' = q := Option.some.inj (hq'.symm.trans hq)
    refine .inr ⟨fun hbroken => ?_, response, hresponse, hplace⟩
    exact absurd (List.inj_on_of_nodup_map hnodup hended hbroken rfl) (by simp)

/-! ## Fields and their responses -/

/-- Whether a field asks a provider for its options: its kind says so and a provider is named. -/
def asks (f : Field) : Bool := f.kind = .dynamicEnum && f.provider.isSome

/-- The requests are those of the fields that ask a provider, in the order of the fields. -/
theorem requests_eq_map (fields : List Field) :
    requests fields = (fields.filter asks).map fun f => ⟨f.name, f.provider.getD ""⟩ := by
  induction fields with
  | nil => rfl
  | cons f fields ih =>
    rw [requests] at ih ⊢
    rw [List.filterMap_cons, List.filter_cons, ih, asks]
    by_cases hkind : f.kind = .dynamicEnum
    · cases hprovider : f.provider with
      | none => simp [hkind]
      | some p => simp [hkind, hprovider]
    · simp [hkind]

/-- The requests are those of the fields that ask, at the same places among them. -/
theorem getElem?_requests {fields : List Field} {i : Nat} {f : Field}
    (h : (fields.filter asks)[i]? = some f) :
    ∃ p, f.provider = some p ∧ (requests fields)[i]? = some ⟨f.name, p⟩ := by
  have hasks : asks f = true := (List.mem_filter.1 (List.mem_of_getElem? h)).2
  rw [asks, Bool.and_eq_true] at hasks
  obtain ⟨p, hp⟩ := Option.isSome_iff_exists.1 hasks.2
  refine ⟨p, hp, ?_⟩
  rw [requests_eq_map, List.getElem?_map, h, Option.map_some, hp, Option.getD_some]

/-- A response carries the name of the field whose request it answers. -/
theorem field_of_answer? {provider : Option Provider} {context : Context} {limit : Nat}
    {q : Request} {response : Response} (h : answer? provider context limit q = some response) :
    response.field = q.field := by
  cases provider with
  | none =>
    obtain rfl := Option.some.inj h
    rfl
  | some provider =>
    simp only [answer?] at h
    split at h
    · obtain rfl := Option.some.inj h
      rfl
    · split at h
      · obtain rfl := Option.some.inj h
        rfl
      · obtain rfl := Option.some.inj h
        rfl
      · cases h

/-- One response for each field that asks a provider, in the order of the fields: that of a load
for this field alone, or a failure if its task broke down. -/
structure Answered (r : Registry) (context : Context) (limit : Nat) (fields : List Field)
    (brokeDown : Nat → Prop) (responses : List Response) : Prop where
  length : responses.length = (fields.filter asks).length
  response : ∀ i f, (fields.filter asks)[i]? = some f →
    ∃ p response, f.provider = some p ∧ responses[i]? = some response ∧ response.field = f.name ∧
      (brokeDown i → response.outcome = .error "failed to load options") ∧
      (¬ brokeDown i → r.respond? context limit ⟨f.name, p⟩ = some response ∧
        r.load context limit ⟨f.name, p⟩ = response)

variable {r : Registry} {context : Context} {limit : Nat} {fields : List Field} {s : Loading}

/-- When no task runs any more, every field that asks has its answer, at its own place. -/
theorem Loading.Sound.answered (hs : s.Sound r context limit (requests fields))
    (hend : s.running = []) :
    Answered r context limit fields s.BrokeDown (gather (requests fields) s.arrivals) where
  length := by rw [length_gather, requests_eq_map, List.length_map]
  response := by
    intro i f hf
    obtain ⟨p, hp, hq⟩ := getElem?_requests hf
    rcases hs.getElem?_gather hend hq with
      ⟨hbroken, hplace⟩ | ⟨hbroken, response, hresponse, hplace⟩
    · exact ⟨p, _, hp, hplace, rfl, fun _ => rfl, fun h => absurd hbroken h⟩
    · refine ⟨p, response, hp, hplace, field_of_answer? hresponse, fun h => absurd h hbroken,
        fun _ => ⟨hresponse, ?_⟩⟩
      rw [Registry.load, hresponse]
      rfl

/-! ## The call itself -/

/-- The order in which tasks end is an order of all places, each of them once. -/
theorem order_perm (r : Registry) (context : Context) (limit : Nat) (qs : List Request) :
    (r.order context limit qs).Perm (List.range qs.length) := List.mergeSort_perm _ _

/-- Tasks that end in an order arrive in that order, each with the response of its provider. -/
theorem arrivals_eq_map {qs : List Request} {order : List Nat} (h : ∀ i ∈ order, i < qs.length) :
    r.arrivals context limit qs order =
      (order.map fun i => (i, qs[i]?.bind (r.respond? context limit))).map arrival := by
  rw [Registry.arrivals, List.map_map, ← List.filterMap_eq_map]
  refine List.filterMap_congr fun i hi => ?_
  rw [Function.comp_apply, Function.comp_apply, List.getElem?_eq_getElem (h i hi)]
  rfl

/-- When all tasks have ended in an order, those have broken down whose places have no response. -/
theorem Loading.brokeDown_iff {order : List Nat} {response? : Nat → Option Response}
    (hended : s.ended = order.map fun i => (i, response? i)) {i : Nat} (hi : i ∈ order) :
    s.BrokeDown i ↔ response? i = none := by
  rw [BrokeDown, hended, List.mem_map]
  constructor
  · rintro ⟨j, -, hj⟩
    obtain ⟨rfl, hnone⟩ := Prod.mk.inj hj
    exact hnone
  · intro hnone
    exact ⟨i, hi, by rw [hnone]⟩

/-- **Loading all options is a run of the call:** the one in which the tasks end in the order of
their delays and break down where their own providers do. -/
theorem exists_leads_loadAll (r : Registry) (fields : List Field) (context : Context)
    (limit : Nat) :
    ∃ s, Loading.Leads context limit (.start r (requests fields)) s ∧ s.running = [] ∧
      (∀ i < (requests fields).length,
        s.BrokeDown i ↔ breaksDown r context limit (requests fields) i = true) ∧
      r.loadAll fields context limit = gather (requests fields) s.arrivals := by
  have horder := order_perm r context limit (requests fields)
  have hbroken : ∀ i ∈ r.order context limit (requests fields),
      breaksDown r context limit (requests fields) i = true →
        breaksDown r context limit (requests fields) i = true := fun _ _ h => h
  obtain ⟨s, hleads, hend, hended⟩ := Loading.exists_leads_start horder hbroken
  simp only [outcome?_breaksDown] at hended
  refine ⟨s, hleads, hend, fun i hi => ?_, ?_⟩
  · rw [Loading.brokeDown_iff hended (horder.mem_iff.2 (List.mem_range.2 hi)), breaksDown,
      Option.isNone_iff_eq_none]
  · have hbound : ∀ i ∈ r.order context limit (requests fields), i < (requests fields).length :=
      fun i hi => List.mem_range.1 (horder.mem_iff.1 hi)
    rw [Registry.loadAll, arrivals_eq_map hbound, Loading.arrivals, hended]

/-- There are as many requests as fields that ask. -/
theorem length_requests (fields : List Field) :
    (requests fields).length = (fields.filter asks).length := by
  rw [requests_eq_map, List.length_map]

/-- What a call is answered with depends on the breakdowns of its own tasks only. -/
theorem Answered.congr {brokeDown brokeDown' : Nat → Prop} {responses : List Response}
    (h : Answered r context limit fields brokeDown responses)
    (hiff : ∀ i < (requests fields).length, brokeDown i ↔ brokeDown' i) :
    Answered r context limit fields brokeDown' responses where
  length := h.length
  response := by
    intro i f hf
    have hi : i < (requests fields).length := by
      rw [length_requests]
      exact (List.getElem?_eq_some_iff.1 hf).choose
    obtain ⟨p, response, hp, hplace, hname, hbroken, hload⟩ := h.response i f hf
    exact ⟨p, response, hp, hplace, hname, fun hb => hbroken ((hiff i hi).2 hb),
      fun hb => hload fun hb' => hb ((hiff i hi).1 hb')⟩

/-- **Loading options loses, duplicates and reorders nothing.**  In every state of a call each
request is under way or has ended, once; however the call comes to its end, its responses are those
of single loads in the order of the fields, with failures where tasks broke down; every order of
ends and every set of breakdowns does occur; and loading all options is one of these runs. -/
theorem loadAll_in_any_order (r : Registry) (fields : List Field) (context : Context)
    (limit : Nat) :
    (∀ s, Loading.Leads context limit (.start r (requests fields)) s →
      (s.ended.map Prod.fst ++ s.running.map Task.index).Perm
          (List.range (fields.filter asks).length) ∧
        (s.running = [] →
          Answered r context limit fields s.BrokeDown (gather (requests fields) s.arrivals))) ∧
    (∀ (order : List Nat) (broken : Nat → Bool),
      order.Perm (List.range (fields.filter asks).length) →
      (∀ i ∈ order, breaksDown r context limit (requests fields) i = true → broken i = true) →
      ∃ s, Loading.Leads context limit (.start r (requests fields)) s ∧ s.running = [] ∧
        s.ended.map Prod.fst = order ∧ ∀ i ∈ order, s.BrokeDown i ↔ broken i = true) ∧
    Answered r context limit fields
      (fun i => breaksDown r context limit (requests fields) i = true)
      (r.loadAll fields context limit) := by
  have hsound := Loading.sound_start r context limit (requests fields)
  rw [← length_requests]
  refine ⟨fun s hs => ⟨(hsound.leads hs).indices, fun hend => (hsound.leads hs).answered hend⟩,
    fun order broken horder hbroken => ?_, ?_⟩
  · obtain ⟨s, hleads, hend, hended⟩ := Loading.exists_leads_start horder hbroken
    refine ⟨s, hleads, hend, by simp [hended, Function.comp_def], fun i hi => ?_⟩
    rw [Loading.brokeDown_iff hended hi, outcome?_eq_none_iff (hbroken i hi)]
  · obtain ⟨s, hleads, hend, hbroken, hload⟩ := exists_leads_loadAll r fields context limit
    rw [hload]
    exact ((hsound.leads hleads).answered hend).congr hbroken

/-- A registry with a provider that answers after twenty milliseconds, to be given less time or
more. -/
def slowRegistry : Registry := NameMap.ofList [("slow", fun _ => ⟨20, .options []⟩)]

/-- Two fields that ask the same provider, a text, and a field whose provider nobody knows. -/
def fourFields : List Field :=
  [{ Field.ofKind "first" .dynamicEnum with provider := some "slow" },
    { Field.ofKind "second" .dynamicEnum with provider := some "slow" },
    Field.ofKind "plain" .text,
    { Field.ofKind "third" .dynamicEnum with provider := some "missing" }]

/-- The tasks end from the last to the first, and the one in the middle breaks down. -/
theorem loading_lastFirst :
    ∃ s, Loading.Leads ⟨none, .empty⟩ 30 (.start slowRegistry (requests fourFields)) s ∧
      s.running = [] ∧ s.ended.map Prod.fst = [2, 1, 0] ∧ s.BrokeDown 1 ∧ ¬ s.BrokeDown 2 ∧
      Answered slowRegistry ⟨none, .empty⟩ 30 fourFields s.BrokeDown
        (gather (requests fourFields) s.arrivals) := by
  obtain ⟨hruns, horders, -⟩ := loadAll_in_any_order slowRegistry fourFields ⟨none, .empty⟩ 30
  have hown : ∀ i ∈ [2, 1, 0],
      breaksDown slowRegistry ⟨none, .empty⟩ 30 (requests fourFields) i = false := by decide
  obtain ⟨s, hleads, hend, horder, hbroken⟩ := horders [2, 1, 0] (· == 1) (by decide)
    fun i hi h => absurd (hown i hi) (by rw [h]; simp)
  refine ⟨s, hleads, hend, horder, (hbroken 1 (by simp)).2 rfl, fun h => ?_,
    (hruns s hleads).2 hend⟩
  exact absurd ((hbroken 2 (by simp)).1 h) (by simp)

end Options
end CommitForm
