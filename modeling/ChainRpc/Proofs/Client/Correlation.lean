import ChainRpc.Proofs.Checked
import ChainRpc.Proofs.Client.Steps

/-!
# Which response a request gets

A single request gets the response in its body only under its own identifier. The requests of a batch
get the responses of an array one after the other: each request the first one under its identifier. The
slots of a batch are what the part of the array that has been read gives its requests, and with
distinct identifiers every response goes to one slot at most.
-/

namespace ChainRpc.Client

variable {s s' : State} {p : Prepared} {response : Response} {items : List Json}

/-! ### Single responses -/

/-- What a response under the identifier of a request gives it. -/
def verdict (p : Prepared) (response : Response) : Except Fault Value :=
  match response.error with
  | some error => .error (.protocol (.answered error))
  | none       =>
    (p.method.decodeResult (Value.ofJson response.result)).mapError (.undecodable p.method.name)

lemma isClientError_of_verdict {fault : Fault} (h : verdict p response = .error fault) :
    fault.isClientError := by
  unfold verdict at h
  split at h
  · cases h
    rfl
  · obtain ⟨issues, _, rfl⟩ := Checked.mapError_eq_error_iff.mp h
    rfl

/-- A response under the identifier of its request comes to the verdict, and one record is logged that
is no warning. -/
lemma outcome_of_id_eq (h : response.id = some p.request.id) (s : State) :
    ∃ message, outcome p response s = (verdict p response, s.logged [⟨.debug, message⟩]) := by
  have hid : checkId p.request.id response.id s = (.ok (), s) := by
    rw [h, checkId, if_pos rfl]
    rfl
  unfold outcome verdict
  rw [bind_of_ok hid]
  cases response.error with
  | some error => exact ⟨_, bind_of_ok (note_apply _ _) _⟩
  | none =>
    rw [h]
    exact ⟨_, (bind_of_ok (note_apply _ _) _).trans (ofExcept_apply _ _)⟩

/-- Only a response under its identifier gives a request a value. -/
lemma outcome_eq_ok {v : Value} (h : outcome p response s = (.ok v, s')) :
    response.id = some p.request.id ∧ verdict p response = .ok v := by
  by_cases hid : response.id = some p.request.id
  · obtain ⟨message, ho⟩ := outcome_of_id_eq hid s
    rw [ho] at h
    exact ⟨hid, congrArg Prod.fst h⟩
  · exfalso
    unfold outcome at h
    cases hr : response.id with
    | none =>
      rw [hr, bind_of_ok (show checkId p.request.id none s = (.ok (), s) from rfl)] at h
      cases he : response.error with
      | some error =>
        simp only [he, bind_of_ok (note_apply _ _)] at h
        cases h
      | none =>
        rw [he] at h
        cases h
    | some found =>
      have hne : found ≠ p.request.id := fun e => hid (by rw [hr, e])
      rw [hr, checkId, if_neg hne, bind_apply, bind_apply, note_apply] at h
      cases h

/-- The response in a body comes to its verdict if it is under the identifier of the request. -/
lemma finish_of_id_eq {body : Bytes} {payload : Json} (hload : Json.ofBytes body = .ok payload)
    (hparse : parse payload = .ok response) (hid : response.id = some p.request.id) (s : State) :
    ∃ message, finish p body s = (verdict p response, s.logged [⟨.debug, message⟩]) := by
  have hl : load body s = (.ok payload, s) := by rw [load, hload]; rfl
  obtain ⟨message, ho⟩ := outcome_of_id_eq hid s
  refine ⟨message, ?_⟩
  rw [finish, bind_of_ok hl]
  split
  · next items =>
    simp [parse, Value.ofJson, Response.ofValue, Except.mapError] at hparse
  · rw [hparse, bind_of_ok (ofExcept_ok _ _), ho]

/-- Where a body gives a request a value, it holds a response under its identifier. -/
lemma finish_eq_ok {body : Bytes} {v : Value} (h : finish p body s = (.ok v, s')) :
    ∃ payload response, Json.ofBytes body = .ok payload ∧ (∀ items, payload ≠ .list items) ∧
      parse payload = .ok response ∧ response.id = some p.request.id ∧
        verdict p response = .ok v := by
  rw [finish, bind_apply, load, ofExcept_apply] at h
  cases hload : Json.ofBytes body with
  | error cause =>
    rw [hload] at h
    cases h
  | ok payload =>
    rw [hload] at h
    simp only [Except.mapError] at h
    split at h
    · cases h
    · next hlist =>
      rw [bind_apply, ofExcept_apply] at h
      cases hparse : parse payload with
      | error cause =>
        rw [hparse] at h
        cases h
      | ok response =>
        rw [hparse] at h
        obtain ⟨hid, hv⟩ := outcome_eq_ok h
        exact ⟨payload, response, rfl, hlist, hparse, hid, hv⟩

/-! ### Arrays of responses -/

/-- The identifier of the response that an item of an array is, if it is one and carries one. -/
def answeredId? (item : Json) : Option RequestId :=
  (parse item).toOption.bind (·.id)

/-- The response that an item of an array is, if it carries the identifier. -/
def responseTo (id : RequestId) (item : Json) : Option Response :=
  (parse item).toOption.filter (·.id == some id)

/-- What an array gives a request: the verdict on the first response under its identifier. -/
def slotResult (items : List Json) (p : Prepared) : Except Fault Value :=
  match items.findSome? (responseTo p.request.id) with
  | some response => verdict p response
  | none          => .error (.protocol (.unanswered p.request.id p.method.name))

lemma responseTo_eq_some_iff {id : RequestId} {item : Json} :
    responseTo id item = some response ↔ parse item = .ok response ∧ response.id = some id := by
  cases hp : parse item with
  | error cause => simp [responseTo, hp, Except.toOption]
  | ok found =>
    simp only [responseTo, hp, Except.toOption, Option.filter_eq_some_iff, Option.some.injEq,
      beq_iff_eq, Except.ok.injEq]

lemma answeredId?_eq_some_iff {id : RequestId} {item : Json} :
    answeredId? item = some id ↔ ∃ response, parse item = .ok response ∧ response.id = some id := by
  cases hp : parse item <;> simp [answeredId?, hp, Except.toOption]

/-- The slot after a part of an array is read. -/
def Slot.served (items : List Json) (slot : Slot) : Slot :=
  { slot with
    got := slot.got.or
      ((items.findSome? (responseTo slot.prepared.request.id)).map (verdict slot.prepared)) }

@[simp] lemma Slot.prepared_served (items : List Json) (slot : Slot) :
    (slot.served items).prepared = slot.prepared := rfl

@[simp] lemma Slot.served_nil (slot : Slot) : slot.served [] = slot := by
  simp [Slot.served]

lemma Slot.served_cons (item : Json) (rest : List Json) (slot : Slot) :
    slot.served (item :: rest) = (slot.served [item]).served rest := by
  simp only [Slot.served, List.findSome?_cons, List.findSome?_nil]
  cases slot.got <;> cases responseTo slot.prepared.request.id item <;> simp

lemma Slot.served_of_got {slot : Slot} {result : Except Fault Value} (h : slot.got = some result)
    (items : List Json) : slot.served items = slot := by
  cases slot
  subst h
  rfl

lemma Slot.served_of_id_ne {slot : Slot} {item : Json}
    (h : answeredId? item ≠ some slot.prepared.request.id) : slot.served [item] = slot := by
  have hn : responseTo slot.prepared.request.id item = none := by
    by_contra hc
    obtain ⟨response, hr⟩ := Option.ne_none_iff_exists'.mp hc
    exact h (answeredId?_eq_some_iff.mpr ⟨response, responseTo_eq_some_iff.mp hr⟩)
  simp [Slot.served, hn]

lemma Slot.map_served_eq_self {slots : List Slot} {item : Json}
    (h : ∀ slot ∈ slots, answeredId? item ≠ some slot.prepared.request.id) :
    slots.map (Slot.served [item]) = slots := by
  induction slots with
  | nil => rfl
  | cons slot rest ih =>
    obtain ⟨hslot, hrest⟩ := List.forall_mem_cons.mp h
    rw [List.map_cons, Slot.served_of_id_ne hslot, ih hrest]

/-- The result of a slot that nothing was read for is what the whole array gives. -/
lemma Slot.result_served (items : List Json) (p : Prepared) :
    (({ prepared := p } : Slot).served items).result = slotResult items p := by
  simp only [Slot.result, Slot.served, Option.none_or, slotResult]
  cases items.findSome? (responseTo p.request.id) <;> rfl

/-! ### Delivery -/

/-- The identifiers of the requests of slots. -/
abbrev slotIds (slots : List Slot) : List RequestId :=
  slots.map (·.prepared.request.id)

/-- The identifiers that slots still wait for. -/
abbrev openIds (slots : List Slot) : List RequestId :=
  slotIds (slots.filter (·.got.isNone))

lemma Slot.waitsFor_iff {slot : Slot} {id : RequestId} :
    slot.waitsFor id ↔ slot.got = none ∧ slot.prepared.request.id = id := by
  simp [Slot.waitsFor]

/-- A waiting slot is served with the outcome of the response. -/
lemma Slot.served_of_waitsFor {slot : Slot} {id : RequestId} {item : Json}
    (hp : parse item = .ok response) (hid : response.id = some id) (h : slot.waitsFor id) :
    slot.served [item] = { slot with got := some (verdict slot.prepared response) } := by
  obtain ⟨hgot, hslot⟩ := Slot.waitsFor_iff.mp h
  have hr : responseTo id item = some response := responseTo_eq_some_iff.mpr ⟨hp, hid⟩
  simp [Slot.served, hgot, hslot, hr]

lemma Slot.served_of_not_waitsFor {slot : Slot} {id : RequestId} {item : Json}
    (hanswered : answeredId? item = some id) (h : ¬ slot.waitsFor id) :
    slot.served [item] = slot := by
  cases hgot : slot.got with
  | some result => exact Slot.served_of_got hgot _
  | none =>
    apply Slot.served_of_id_ne
    intro hslot
    rw [hanswered, Option.some.injEq] at hslot
    exact h (Slot.waitsFor_iff.mpr ⟨hgot, hslot.symm⟩)

/-- The faults that a response stands for are kept as results. -/
lemma keepClientErrors_outcome {p : Prepared} (hid : response.id = some p.request.id) (s : State) :
    ∃ message, keepClientErrors (outcome p response) s =
      (.ok (verdict p response), s.logged [⟨.debug, message⟩]) := by
  obtain ⟨message, ho⟩ := outcome_of_id_eq hid s
  refine ⟨message, ?_⟩
  rw [keepClientErrors_apply, ho]
  cases hv : verdict p response with
  | ok v => rfl
  | error fault =>
    dsimp only
    rw [if_pos (isClientError_of_verdict hv)]

/-- A response goes to no slot where none waits for its identifier, and else to the one that does. -/
lemma deliver_cases {id : RequestId} {item : Json} (hp : parse item = .ok response)
    (hid : response.id = some id) {slots : List Slot} (hn : (slotIds slots).Nodup) (s : State) :
    (id ∉ openIds slots ∧ deliver response id slots = none ∧
      slots.map (Slot.served [item]) = slots) ∨
    (id ∈ openIds slots ∧ ∃ act message, deliver response id slots = some act ∧
      act s = (.ok (slots.map (Slot.served [item])), s.logged [⟨.debug, message⟩])) := by
  have hanswered : answeredId? item = some id := answeredId?_eq_some_iff.mpr ⟨response, hp, hid⟩
  induction slots with
  | nil => exact .inl ⟨nofun, rfl, rfl⟩
  | cons slot rest ih =>
    rw [slotIds, List.map_cons, List.nodup_cons] at hn
    obtain ⟨hfresh, hn⟩ := hn
    rw [deliver]
    by_cases hw : slot.waitsFor id
    · -- The first slot takes the response, and no other one has its identifier.
      obtain ⟨hgot, hslot⟩ := Slot.waitsFor_iff.mp hw
      have hrest : rest.map (Slot.served [item]) = rest := by
        apply Slot.map_served_eq_self
        intro other ho h
        rw [hanswered, ← hslot, Option.some.injEq] at h
        exact hfresh (h ▸ List.mem_map_of_mem ho)
      obtain ⟨message, hk⟩ := keepClientErrors_outcome (p := slot.prepared)
        (hid.trans (by rw [hslot])) s
      rw [if_pos hw]
      refine .inr ⟨?_, _, message, rfl, ?_⟩
      · simp [openIds, slotIds, hgot, hslot]
      · rw [bind_of_ok hk, List.map_cons, hrest, Slot.served_of_waitsFor hp hid hw]
        rfl
    · have hopen : id ∈ openIds (slot :: rest) ↔ id ∈ openIds rest := by
        rw [openIds, List.filter_cons]
        split
        · next hgot =>
          rw [slotIds, List.map_cons, List.mem_cons]
          exact or_iff_right fun h => hw (Slot.waitsFor_iff.mpr ⟨by simpa using hgot, h.symm⟩)
        · rfl
      rw [if_neg hw, hopen, List.map_cons, Slot.served_of_not_waitsFor hanswered hw]
      rcases ih hn with ⟨hout, hd, hr⟩ | ⟨hin, act, message, hd, ha⟩
      · exact .inl ⟨hout, by rw [hd]; rfl, by rw [hr]⟩
      · refine .inr ⟨hin, _, message, by rw [hd]; rfl, ?_⟩
        exact bind_of_ok ha _

/-- An item of the array serves the slots and leaves one record, a warning just where it goes to no
slot. -/
lemma deliverItem_apply {slots : List Slot} (hn : (slotIds slots).Nodup) (item : Json) (s : State) :
    ∃ message, deliverItem slots item s = (.ok (slots.map (Slot.served [item])),
      s.logged [⟨if ∃ id ∈ openIds slots, answeredId? item = some id then .debug else .warning,
        message⟩]) := by
  have hnone (h : answeredId? item = none) : slots.map (Slot.served [item]) = slots := by
    apply Slot.map_served_eq_self
    intro slot _
    simp [h]
  unfold deliverItem
  cases hp : parse item with
  | error cause =>
    have ha : answeredId? item = none := by rw [answeredId?, hp]; rfl
    rw [hnone ha, if_neg (by rw [ha]; rintro ⟨id, _, h⟩; cases h)]
    exact ⟨_, bind_of_ok (note_apply _ _) _⟩
  | ok response =>
    cases hid : response.id with
    | none =>
      have ha : answeredId? item = none := by rw [answeredId?, hp]; exact hid
      rw [hnone ha, if_neg (by rw [ha]; rintro ⟨id, _, h⟩; cases h)]
      dsimp only
      rw [hid]
      exact ⟨_, bind_of_ok (note_apply _ _) _⟩
    | some id =>
      have ha : answeredId? item = some id := answeredId?_eq_some_iff.mpr ⟨response, hp, hid⟩
      dsimp only
      rw [hid, Option.bind_some]
      rcases deliver_cases hp hid hn s with ⟨hout, hd, hr⟩ | ⟨hin, act, message, hd, hact⟩
      · rw [hd, hr, if_neg (by rw [ha]; rintro ⟨other, ho, h⟩; cases h; exact hout ho)]
        exact ⟨_, bind_of_ok (note_apply _ _) _⟩
      · rw [hd, if_pos ⟨id, hin, ha⟩]
        exact ⟨message, hact⟩

/-! ### Whole arrays -/

/-- An item of an array is delivered if it is the first one that answers some of the identifiers. -/
def Delivered (ids : List RequestId) (items : List Json) (i : Nat) : Prop :=
  ∃ id ∈ ids, items[i]?.bind answeredId? = some id ∧
    ∀ j < i, items[j]?.bind answeredId? ≠ some id

instance (ids : List RequestId) (items : List Json) : DecidablePred (Delivered ids items) :=
  fun i => inferInstanceAs (Decidable (∃ id ∈ ids, items[i]?.bind answeredId? = some id ∧
    ∀ j < i, items[j]?.bind answeredId? ≠ some id))

lemma delivered_zero {ids : List RequestId} {item : Json} {rest : List Json} :
    Delivered ids (item :: rest) 0 ↔ ∃ id ∈ ids, answeredId? item = some id := by
  simp [Delivered]

/-- Behind the first item only the identifiers that it does not answer are left. -/
lemma delivered_succ {ids : List RequestId} {item : Json} {rest : List Json} {i : Nat} :
    Delivered ids (item :: rest) (i + 1) ↔
      Delivered (ids.filter (answeredId? item ≠ some ·)) rest i := by
  simp only [Delivered, List.mem_filter, decide_eq_true_eq, List.getElem?_cons_succ]
  refine exists_congr fun id => ⟨?_, ?_⟩
  · rintro ⟨hid, hi, hfirst⟩
    exact ⟨⟨hid, hfirst 0 (Nat.succ_pos i)⟩, hi, fun j hj => hfirst (j + 1) (Nat.succ_lt_succ hj)⟩
  · rintro ⟨⟨hid, hitem⟩, hi, hfirst⟩
    refine ⟨hid, hi, fun j hj => ?_⟩
    cases j with
    | zero => exact hitem
    | succ j => exact hfirst j (Nat.lt_of_succ_lt_succ hj)

/-- The level of the record that each item of an array leaves. -/
def itemLevels (ids : List RequestId) (items : List Json) : List Log.Level :=
  (List.range items.length).map fun i => if Delivered ids items i then .debug else .warning

lemma itemLevels_cons (ids : List RequestId) (item : Json) (rest : List Json) :
    itemLevels ids (item :: rest) =
      (if ∃ id ∈ ids, answeredId? item = some id then .debug else .warning) ::
        itemLevels (ids.filter (answeredId? item ≠ some ·)) rest := by
  simp [itemLevels, List.range_succ_eq_map, delivered_zero, delivered_succ]

/-- Items are delivered or leave a warning. -/
lemma count_delivered_add_count_warning (ids : List RequestId) (items : List Json) :
    (List.range items.length).countP (fun i => Delivered ids items i) +
      (itemLevels ids items).count .warning = items.length := by
  have h : (itemLevels ids items).count .warning =
      (List.range items.length).countP fun i => ¬ Delivered ids items i := by
    rw [itemLevels, List.count, List.countP_map]
    refine List.countP_congr fun i _ => ?_
    by_cases hd : Delivered ids items i <;> simp [hd]
  rw [h]
  have hc := List.length_eq_countP_add_countP (fun i => decide (Delivered ids items i))
    (l := List.range items.length)
  simpa using hc.symm

/-- An item closes the slot that it answers. -/
lemma openIds_served (item : Json) (slots : List Slot) :
    openIds (slots.map (Slot.served [item])) =
      (openIds slots).filter (answeredId? item ≠ some ·) := by
  induction slots with
  | nil => rfl
  | cons slot rest ih =>
    have hgot : (slot.served [item]).got.isNone ↔
        slot.got.isNone ∧ answeredId? item ≠ some slot.prepared.request.id := by
      cases hg : slot.got with
      | some result => simp [Slot.served, hg]
      | none =>
        by_cases ha : answeredId? item = some slot.prepared.request.id
        · obtain ⟨response, hr⟩ := answeredId?_eq_some_iff.mp ha
          simp [Slot.served, hg, ha, responseTo_eq_some_iff.mpr hr]
        · simp [Slot.served_of_id_ne ha, hg, ha]
    simp only [openIds, slotIds] at ih ⊢
    by_cases h : slot.got.isNone <;>
      by_cases ha : answeredId? item = some slot.prepared.request.id <;>
      simp_all

/-- The items of an array serve the slots, and each leaves a record. -/
lemma deliverAll_apply {slots : List Slot} (hn : (slotIds slots).Nodup) (items : List Json)
    (s : State) :
    ∃ records, deliverAll slots items s = (.ok (slots.map (Slot.served items)), s.logged records) ∧
      records.map (·.level) = itemLevels (openIds slots) items := by
  induction items generalizing slots s with
  | nil =>
    refine ⟨[], ?_, rfl⟩
    rw [List.map_congr_left (fun slot _ => Slot.served_nil slot), State.logged_nil, List.map_id']
    rfl
  | cons item rest ih =>
    obtain ⟨message, hitem⟩ := deliverItem_apply hn item s
    have hn' : (slotIds (slots.map (Slot.served [item]))).Nodup := by
      simpa [slotIds, Function.comp_def] using hn
    let record : Log.Record :=
      ⟨if ∃ id ∈ openIds slots, answeredId? item = some id then .debug else .warning, message⟩
    obtain ⟨records, hrest, hlevels⟩ := ih hn' (s.logged [record])
    refine ⟨record :: records, ?_, ?_⟩
    · rw [deliverAll, bind_of_ok hitem, hrest, State.logged_logged, List.map_map]
      congr 2
      exact List.map_congr_left fun slot _ => (Slot.served_cons item rest slot).symm
    · rw [List.map_cons, hlevels, openIds_served, itemLevels_cons]

/-- An array of responses gives every request of a batch the verdict on the first response under its
identifier. -/
lemma finishBatch_of_list {prepared : List Prepared} {body : Bytes}
    (hload : Json.ofBytes body = .ok (.list items))
    (hn : (prepared.map (·.request.id)).Nodup) (s : State) :
    ∃ records, finishBatch prepared body s =
        (.ok (prepared.map (slotResult items)), s.logged records) ∧
      records.map (·.level) = itemLevels (prepared.map (·.request.id)) items := by
  let slots : List Slot := prepared.map fun p => { prepared := p }
  have hids : slotIds slots = prepared.map (·.request.id) := by
    simp [slotIds, slots, Function.comp_def]
  have hopen : openIds slots = prepared.map (·.request.id) := by
    rw [← hids, openIds, List.filter_eq_self.mpr]
    simp [slots]
  have hnodup : (slotIds slots).Nodup := hids ▸ hn
  obtain ⟨records, hd, hlevels⟩ := deliverAll_apply hnodup items s
  refine ⟨records, ?_, hopen ▸ hlevels⟩
  have hl : load body s = (.ok (.list items), s) := by rw [load, hload]; rfl
  rw [finishBatch, bind_of_ok hl]
  dsimp only
  rw [bind_of_ok hd, List.map_map]
  simp [pure_apply, slots, Function.comp_def, Slot.result_served]

/-- A body that is JSON but no array breaks the protocol for the whole batch. -/
lemma finishBatch_of_not_list {prepared : List Prepared} {body : Bytes} {payload : Json}
    (hload : Json.ofBytes body = .ok payload) (hlist : ∀ items, payload ≠ .list items)
    (s : State) : ∃ cause, finishBatch prepared body s = (.error (.protocol cause), s) := by
  have hl : load body s = (.ok payload, s) := by rw [load, hload]; rfl
  rw [finishBatch, bind_of_ok hl]
  split
  · exact absurd rfl (hlist _)
  · rw [bind_apply, ofExcept_apply]
    cases parse payload with
    | error cause => exact ⟨cause, rfl⟩
    | ok response =>
      simp only [Except.mapError]
      cases response.error with
      | some error => exact ⟨_, rfl⟩
      | none => exact ⟨_, rfl⟩

/-- The results of a batch come from an array. -/
lemma finishBatch_eq_ok {prepared : List Prepared} {body : Bytes} {results : List (Except Fault Value)}
    (hn : (prepared.map (·.request.id)).Nodup)
    (h : finishBatch prepared body s = (.ok results, s')) :
    ∃ items, Json.ofBytes body = .ok (.list items) ∧ results = prepared.map (slotResult items) := by
  cases hload : Json.ofBytes body with
  | error cause =>
    have hl : load body s = (.error (.ofUnreadable cause), s) := by rw [load, hload]; rfl
    rw [finishBatch, bind_of_error hl] at h
    cases h
  | ok payload =>
    by_cases hlist : ∃ items, payload = .list items
    · obtain ⟨items, rfl⟩ := hlist
      obtain ⟨records, hf, _⟩ := finishBatch_of_list hload hn s
      exact ⟨items, rfl, Except.ok.inj (congrArg Prod.fst (h.symm.trans hf))⟩
    · obtain ⟨cause, hf⟩ := finishBatch_of_not_list hload (fun items e => hlist ⟨items, e⟩) s
      cases h.symm.trans hf

/-- A slot with a value got it from an item of the array. -/
lemma slotResult_eq_ok {v : Value} (h : slotResult items p = .ok v) :
    ∃ item ∈ items, ∃ response, parse item = .ok response ∧ response.id = some p.request.id ∧
      verdict p response = .ok v := by
  unfold slotResult at h
  split at h
  · next response hf =>
    obtain ⟨item, hitem, hr⟩ := List.exists_of_findSome?_eq_some hf
    obtain ⟨hparse, hid⟩ := responseTo_eq_some_iff.mp hr
    exact ⟨item, hitem, response, hparse, hid, h⟩
  · cases h

end ChainRpc.Client
