import ChainRpc.Proofs.Client.Attribution
import ChainRpc.Proofs.Client.TypedCalls
import ChainRpc.Proofs.Node.Runs

/-!
# Errors of a node

An error that a handler raises comes back to the caller as it stands: the code, the message and the data,
whatever null values and empty values there are in them. In a batch it fills the slot of its call, and every
slot is what a batch of the call alone gives.
-/

namespace ChainRpc

/-- The error that a handler raises for an error object. -/
def ErrorObject.raised (e : ErrorObject) : NodeError :=
  ⟨.int e.code, .str e.message, .ofJson e.data⟩

/-- The parts of an error are within the digit limit, of characters, free of floating-point numbers and not
nested too deep. -/
structure ErrorObject.IsCarried (e : ErrorObject) : Prop where
  code : IsShort e.code
  message : e.message.IsScalar
  data : e.data.Portable 200

/-- A caller finds the code, the message and the data of a node's error, a text that shows the code and the
message, and the dictionary that the node makes of its error. -/
structure ProtocolError.IsVerbatim (cause : ProtocolError) (e : ErrorObject) : Prop where
  parts : cause.parts = ⟨.str e.message, .int e.code, .ofJson e.data⟩
  text : cause.text = Text.concat ["[", Text.ofInt e.code, "] ", e.message]
  entries : ∃ j, e.raised.toJson = .ok j ∧ Value.dict cause.parts.toEntries = .ofJson j
  data : Entries.has cause.parts.toEntries "data" = true ↔ e.data ≠ .null

namespace ErrorObject

variable {e : ErrorObject}

lemma IsCarried.toJson_data (h : e.IsCarried) : Value.toJson (.ofJson e.data) = .ok e.data :=
  Value.toJson_ofJson h.data.fits (by decide)

lemma IsCarried.toErrorObject_raised (h : e.IsCarried) : e.raised.toErrorObject = .ok e :=
  ofEntries_members h.toJson_data

lemma IsCarried.sendable (h : e.IsCarried) :
    Outcome.Sendable (Node.writerNesting - 3) (.error e) :=
  .error h.code h.message (h.data.with_floats.mono (by decide))

/-- Data are left out of the dictionary of an error if they are null. -/
lemma toEntries_answered (e : ErrorObject) :
    (ProtocolError.answered e).parts.toEntries =
      if e.data = .null then ([("code", .int e.code), ("message", .str e.message)] : Entries Value)
      else [("code", .int e.code), ("message", .str e.message), ("data", .ofJson e.data)] := by
  have hnull : Value.ofJson e.data = .null ↔ e.data = .null :=
    ⟨fun h => Value.eq_of_ofJson_eq e.data h, fun h => by rw [h]; rfl⟩
  rw [ErrorParts.toEntries]
  simp only [ProtocolError.parts, ProtocolError.data, hnull]
  rfl

/-- What a client raises for an error object shows the error as the node raised it. -/
lemma IsCarried.isVerbatim (h : e.IsCarried) : (ProtocolError.answered e).IsVerbatim e where
  parts := rfl
  text := rfl
  entries := by
    refine ⟨e.toJson, ?_, ?_⟩
    · rw [NodeError.toJson, h.toErrorObject_raised]
    · rw [toEntries_answered, toJson]
      split <;> rfl
  data := by
    rw [toEntries_answered]
    split
    · next hnull => exact iff_of_false Bool.false_ne_true (not_not_intro hnull)
    · next hnull => exact iff_of_true rfl hnull

end ErrorObject

namespace Client

variable {n : Node} {outcome : Outcome} {t : TableCall} {ts : List TableCall} {e : ErrorObject}
  {session : Session Node} {link : Http.Link Node} {first id : Nat}

/-! ### What a node answers calls with -/

namespace TableCall

/-- The node answers the call with the outcome, whatever the identifier, and can send it. -/
def Gets (t : TableCall) (n : Node) (outcome : Outcome) : Prop :=
  (∀ id, Node.Gives n.handlers (t.request id) outcome) ∧ outcome.Sendable (Node.writerNesting - 3)

/-- The handler of the method raises the error when it is called with the parameters of the call. -/
def Raises (t : TableCall) (n : Node) (e : ErrorObject) : Prop :=
  ∃ handler : Handler, n.handlers.get? t.method.name = some handler ∧
    handler.run (t.params.map .ofJson) = .error e.raised

lemma Raises.gets (h : t.Raises n e) (he : e.IsCarried) : t.Gets n (.error e) := by
  obtain ⟨handler, hget, hrun⟩ := h
  refine ⟨fun id => .handled hget ?_, he.sendable⟩
  show (handler.run (t.params.map .ofJson)).Gives _
  rw [hrun]
  exact .error he.toErrorObject_raised

/-- A node that is told to fail a method raises the error on every call of it. -/
lemma raises_fail (t : TableCall) (n : Node) (he : e.IsCarried) :
    t.Raises (n.fail t.method.name e.raised) e := by
  refine ⟨_, Entries.get?_put_self _ _ _, Handler.run_failing _ ?_ _⟩
  have hcode : Value.spoken? (.int e.code) = some (Text.ofInt e.code) := by
    rw [← decimal?_of_isShort he.code]
    rfl
  show (NodeError.text? ⟨.int e.code, .str e.message, .ofJson e.data⟩).isSome
  rw [NodeError.text?, hcode]
  rfl

/-- The response to the call under an identifier. -/
def answer (outcome : Outcome) (id : Nat) : Json :=
  Response.withOutcome (.int id) outcome

/-- What the response to the call, and no other, gives it in a batch. -/
def slot (t : TableCall) (outcome : Outcome) (id : Nat) : Except Fault Value :=
  slotResult [answer outcome id] (t.wire.numbered id)

end TableCall

/-! ### Responses in an array -/

lemma id_of_parse {sent : RequestId} {response : Response}
    (h : parse (Response.withOutcome sent.toJson outcome) = .ok response) : response.id = some sent := by
  obtain ⟨entries, hentries, hid, -⟩ := parse_eq_ok h
  have hget : Entries.get? "id" entries = some sent.toJson := by
    cases outcome <;> cases hentries <;> rfl
  rw [Member.withDefault, Value.get?_ofJsonEntries, hget] at hid
  have hcheck := Checked.under_eq_ok_iff.mp hid
  cases sent <;> exact (Except.ok.inj hcheck).symm

lemma responseTo_of_ne {sent other : RequestId} (hne : other ≠ sent) :
    responseTo sent (Response.withOutcome other.toJson outcome) = none := by
  cases hfound : responseTo sent (Response.withOutcome other.toJson outcome) with
  | none => rfl
  | some response =>
    obtain ⟨hparse, hid⟩ := responseTo_eq_some_iff.mp hfound
    exact absurd (Option.some.inj ((id_of_parse hparse).symm.trans hid)) hne

/-- A request finds its own response in an array, as if it were the only one, whether it is accepted or
not. -/
lemma slotResult_of_own {answers : List Json} {own : Json} {p : Prepared} (hmem : own ∈ answers)
    (hothers : ∀ other ∈ answers, other ≠ own → responseTo p.request.id other = none) :
    slotResult answers p = slotResult [own] p := by
  have hfind : answers.findSome? (responseTo p.request.id) = responseTo p.request.id own := by
    cases hown : responseTo p.request.id own with
    | none =>
      refine List.findSome?_eq_none_iff.mpr fun other hother => ?_
      by_cases heq : other = own
      · rw [heq, hown]
      · exact hothers other hother heq
    | some response =>
      cases hfound : answers.findSome? (responseTo p.request.id) with
      | none => exact nomatch hown.symm.trans (List.findSome?_eq_none_iff.mp hfound own hmem)
      | some found =>
        obtain ⟨other, hother, hresponse⟩ := List.exists_of_findSome?_eq_some hfound
        by_cases heq : other = own
        · rw [← hown, ← heq, hresponse]
        · exact nomatch (hothers other hother heq).symm.trans hresponse
  have hsingle : [own].findSome? (responseTo p.request.id) = responseTo p.request.id own := by
    rw [List.findSome?_cons, List.findSome?_nil]
    cases responseTo p.request.id own <;> rfl
  rw [slotResult, slotResult, hfind, hsingle]

/-! ### Posts to a node -/

lemma run_roundTrip_of_body {α : Type} {body answer : Bytes} (hopen : link.closed = false)
    (h : (link.peer.post body).body = .ok answer) (read : Bytes → Act α) (state : State) :
    ∃ records, ((Resumable.roundTrip (.ok body) read).run Node.connection ⟨state, link⟩).1 =
      (read answer (state.logged records)).1 := by
  have hsend : Node.connection.endpoint.send Node.connection.peer body link = _ :=
    Node.send_of_body hopen h
  have hrun : (Resumable.roundTrip (.ok body) read).run Node.connection ⟨state, link⟩ = _ :=
    Resumable.run_roundTrip_of_answered read (congrArg (·.1.result) hsend)
  exact ⟨_, congrArg Prod.fst hrun⟩

namespace TableCall

lemma Gets.answered (h : t.Gets n outcome) (hid : id < 10 ^ digitLimit) :
    Node.Answered n.handlers (t.request id).toJson (answer outcome id) :=
  .valid (Request.ofValue_toJson (t.portable_request hid) (by decide)) (h.1 id)

lemma Gets.sendable (h : t.Gets n outcome) (hid : id < 10 ^ digitLimit) :
    (answer outcome id).Sendable (Node.writerNesting - 1) := by
  have hshort : IsShort (id : Int) := hid
  exact Node.sendable_withOutcome (.int hshort) h.2

lemma parse_answer (he : e.IsCarried) (id : Nat) :
    parse (answer (.error e) id) = .ok ⟨some (.int id), .null, some e⟩ := by
  have hid : Member.nullable RequestId.ofValue (.ofJson (.int id)) = .ok (some (.int id)) := rfl
  exact Response.parse_withError hid he.toJson_data

lemma slot_error (t : TableCall) (he : e.IsCarried) (id : Nat) :
    t.slot (.error e) id = .error (.protocol (.answered e)) := by
  have hown : responseTo (.int id) (answer (.error e) id) = some ⟨some (.int id), .null, some e⟩ :=
    responseTo_eq_some_iff.mpr ⟨parse_answer he id, rfl⟩
  refine slotResult_of_unique (p := t.wire.numbered id) (List.mem_singleton_self _) hown ?_
  intro other hother found hfound
  obtain rfl := List.mem_singleton.mp hother
  exact Option.some.inj (hfound.symm.trans hown)

/-- The answer to a request that gets an error raises it. -/
lemma Gets.run_submit (h : t.Gets link.peer (.error e)) (he : e.IsCarried)
    (hopen : link.closed = false) (hid : id < 10 ^ digitLimit) (state : State) :
    ((Resumable.submit (t.wire.numbered id)).run Node.connection ⟨state, link⟩).1 =
      .error (.protocol (.answered e)) := by
  have hrequest := t.portable_request hid
  have hbody : (t.wire.numbered id).request.encode =
      .ok (Utf8.encodeAll ((t.request id).toJson.write Request.writeFloat)) :=
    Request.encode_of_portable hrequest (by decide)
  have hraw := Json.ofBytes_write Request.writeFloat (Request.portable_toJson hrequest) (by decide)
  obtain ⟨b, hb, hload⟩ := Node.body_post hraw (.single nofun (h.answered hid))
    ((h.sendable hid).mono (by decide))
  obtain ⟨records, hrun⟩ := run_roundTrip_of_body hopen hb (finish (t.wire.numbered id)) state
  obtain ⟨message, hfinish⟩ :=
    finish_of_id_eq (p := t.wire.numbered id) hload (parse_answer he id) rfl (state.logged records)
  rw [Resumable.submit, hbody, hrun, hfinish]
  rfl

end TableCall

/-- In the array of all answers each call finds its own. -/
lemma slotResult_answers {outcome : TableCall → Outcome} {c : TableCall × Nat}
    (hc : c ∈ ts.zipIdx first) :
    slotResult ((ts.zipIdx first).map fun c => TableCall.answer (outcome c.1) c.2)
        (c.1.wire.numbered c.2) = c.1.slot (outcome c.1) c.2 := by
  have hn : ((ts.zipIdx first).map (·.2)).Nodup := by
    rw [List.zipIdx_map_snd]
    exact List.nodup_range'
  have hmem : TableCall.answer (outcome c.1) c.2 ∈
      (ts.zipIdx first).map fun c => TableCall.answer (outcome c.1) c.2 := List.mem_map_of_mem hc
  refine slotResult_of_own hmem fun other hother hne => ?_
  obtain ⟨d, hd, rfl⟩ := List.mem_map.mp hother
  have hids : RequestId.int d.2 ≠ .int c.2 := by
    intro heq
    have hnumber : d.2 = c.2 := Int.ofNat_inj.mp (RequestId.int.inj heq)
    exact hne (by rw [List.inj_on_of_nodup_map hn hd hc hnumber])
  exact responseTo_of_ne hids

/-- The requests of calls are posted as one body, and the array of their responses comes back. -/
lemma post_calls_gets {outcome : TableCall → Outcome} (hne : ts ≠ [])
    (hshort : ∀ c ∈ ts.zipIdx first, c.2 < 10 ^ digitLimit) (h : ∀ t ∈ ts, t.Gets n (outcome t)) :
    ∃ body b, Request.encodeBatch ((ts.zipIdx first).map fun c => c.1.request c.2) = .ok body ∧
      (n.post body).body = .ok b ∧ Json.ofBytes b =
        .ok (.list ((ts.zipIdx first).map fun c => TableCall.answer (outcome c.1) c.2)) := by
  let requests := (ts.zipIdx first).map fun c => c.1.request c.2
  let answers := (ts.zipIdx first).map fun c => TableCall.answer (outcome c.1) c.2
  have hrequests : ∀ r ∈ requests, r.Portable Method.tableHeight :=
    List.forall_mem_map.mpr fun c hc => c.1.portable_request (hshort c hc)
  have hpayload : (Json.list (requests.map Request.toJson)).Portable (Method.tableHeight + 3) :=
    .list (List.forall_mem_map.mpr fun r hr => Request.portable_toJson (hrequests r hr))
  have hgets (c : TableCall × Nat) (hc : c ∈ ts.zipIdx first) : c.1.Gets n (outcome c.1) :=
    h c.1 (List.fst_mem_of_mem_zipIdx hc)
  have hanswered : List.Forall₂ (Node.Answered n.handlers) (requests.map Request.toJson) answers := by
    rw [List.map_map, List.forall₂_map_left_iff, List.forall₂_map_right_iff, List.forall₂_same]
    exact fun c hc => (hgets c hc).answered (hshort c hc)
  have hsendable : (Json.list answers).Sendable Node.writerNesting :=
    .list (List.forall_mem_map.mpr fun c hc => (hgets c hc).sendable (hshort c hc))
  have hraw := Json.ofBytes_write Request.writeFloat hpayload (by decide)
  have hitems : requests.map Request.toJson ≠ [] := by simpa [requests] using hne
  obtain ⟨b, hb, hload⟩ := Node.body_post hraw (.of_ne_nil hitems hanswered) hsendable
  exact ⟨_, b, Request.encodeBatch_of_portable hrequests (by decide), hb, hload⟩

/-- Each request of a batch gets what its own response gives it. -/
lemma run_submitAll_gets {outcome : TableCall → Outcome} (hopen : link.closed = false)
    (hids : first + ts.length ≤ 10 ^ digitLimit) (h : ∀ t ∈ ts, t.Gets link.peer (outcome t))
    (state : State) :
    ((Resumable.submitAll (numberedFrom first (ts.map TableCall.wire))).run Node.connection
        ⟨state, link⟩).1 =
      .ok ((ts.zipIdx first).map fun c => c.1.slot (outcome c.1) c.2) := by
  by_cases hnil : ts = []
  · subst hnil
    rfl
  · have hshort : ∀ c ∈ ts.zipIdx first, c.2 < 10 ^ digitLimit := by
      intro c hc
      have hlt := List.snd_lt_add_of_mem_zipIdx hc
      omega
    obtain ⟨body, b, hbody, hb, hload⟩ := post_calls_gets hnil hshort h
    let prepared := numberedFrom first (ts.map TableCall.wire)
    have hprepared : prepared ≠ [] := by simpa [prepared, numberedFrom_map] using hnil
    have hencoded : Request.encodeBatch (prepared.map (·.request)) = .ok body := by
      rw [← hbody]
      simp only [prepared, numberedFrom_map, List.map_map]
      rfl
    obtain ⟨sent, hrun⟩ := run_roundTrip_of_body hopen hb (finishBatch prepared) state
    obtain ⟨records, hfinish, -⟩ :=
      finishBatch_of_list hload (nodup_ids_numberedFrom first _) (state.logged sent)
    rw [Resumable.submitAll_of_ne_nil hprepared, hencoded, hrun, hfinish]
    simp only [numberedFrom_map, List.map_map]
    exact congrArg Except.ok (List.map_congr_left fun c hc => slotResult_answers hc)

/-! ### Operations -/

/-- A call that is answered with an error raises it. -/
lemma run_call_gets (isResumable : Bool) (h : t.Gets session.link.peer (.error e)) (he : e.IsCarried)
    (hopen : session.link.closed = false) (hid : session.state.nextId < 10 ^ digitLimit) :
    ((Operation.call t.call.1 t.call.2).run isResumable Node.connection session).1 =
      .error (.protocol (.answered e)) := by
  obtain ⟨built, hbuilt⟩ :=
    Resumable.run_call_of_isLegible t.wireCall_call t.isLegible_wire Node.connection session
  have hrun := h.run_submit he hopen hid ((session.state.issued 1).logged built)
  refine (congrArg Prod.fst (Operation.run_call isResumable Node.connection session _ _)).trans ?_
  show ((Resumable.call .ckb t.call.1 t.call.2).run Node.connection session).1.map _ = _
  rw [hbuilt, hrun]
  rfl

/-- In a batch each call gets what its own response gives it. -/
lemma run_batch_gets (isResumable : Bool) {outcome : TableCall → Outcome}
    (h : ∀ t ∈ ts, t.Gets session.link.peer (outcome t)) (hopen : session.link.closed = false)
    (hids : session.state.nextId + ts.length ≤ 10 ^ digitLimit) :
    ((Operation.batch (ts.map TableCall.call)).run isResumable Node.connection session).1 =
      .ok (.slots ((ts.zipIdx session.state.nextId).map fun c => c.1.slot (outcome c.1) c.2)) := by
  have hlegible : ∀ w ∈ ts.map TableCall.wire, w.IsLegible :=
    List.forall_mem_map.mpr fun t _ => t.isLegible_wire
  obtain ⟨built, hbuilt⟩ := Resumable.run_batch_of_isLegible
    (wireCalls_map TableCall.wireCall_call ts) hlegible Node.connection session
  have hrun := run_submitAll_gets hopen hids h
    ((session.state.issued (ts.map TableCall.wire).length).logged built)
  refine (congrArg Prod.fst (Operation.run_batch isResumable Node.connection session _)).trans ?_
  show ((Resumable.batch .ckb (ts.map TableCall.call)).run Node.connection session).1.map _ = _
  rw [hbuilt, hrun]
  rfl

/-- An outcome for each call; a call for which the error is raised gets the error. -/
lemma exists_outcomes (he : e.IsCarried)
    (h : ∀ t ∈ ts, t.Raises n e ∨ ∃ outcome, t.Gets n outcome) :
    ∃ outcome : TableCall → Outcome,
      ∀ t ∈ ts, t.Gets n (outcome t) ∧ (t.Raises n e → outcome t = .error e) := by
  have hchoice (t : TableCall) : ∃ outcome, t ∈ ts →
      t.Gets n outcome ∧ (t.Raises n e → outcome = .error e) := by
    by_cases hraises : t.Raises n e
    · exact ⟨.error e, fun _ => ⟨hraises.gets he, fun _ => rfl⟩⟩
    · by_cases ht : t ∈ ts
      · obtain ⟨outcome, hgets⟩ := (h t ht).resolve_left hraises
        exact ⟨outcome, fun _ => ⟨hgets, fun hr => absurd hr hraises⟩⟩
      · exact ⟨.error e, fun ht' => absurd ht' ht⟩
  choose outcome houtcome using hchoice
  exact ⟨outcome, houtcome⟩

/-- As long as the identifiers are within the digit limit, an error that is raised for a call of the table,
by a handler or because the node is told to fail the method, reaches the caller with its code, its message
and its data: the call raises it, and a batch has it in the slot of the call. Every slot of the batch is what
a batch of its call alone gives under the same identifier. -/
theorem node_errors_reach_the_caller (isResumable : Bool) (session : Session Node)
    (hopen : session.link.closed = false) (e : ErrorObject) (he : e.IsCarried) :
    (∀ (t : TableCall) (n : Node), t.Raises (n.fail t.method.name e.raised) e) ∧
    (∀ t : TableCall, t.Raises session.link.peer e → session.state.nextId < 10 ^ digitLimit →
      ∃ cause : ProtocolError, cause.IsVerbatim e ∧
        ((Operation.call (.named (.str t.method.name)) t.args).run isResumable Node.connection
          session).1 = .error (.protocol cause)) ∧
    ∀ ts : List TableCall, session.state.nextId + ts.length ≤ 10 ^ digitLimit →
      (∀ t ∈ ts, t.Raises session.link.peer e ∨ ∃ outcome, t.Gets session.link.peer outcome) →
      ∃ slots, ((Operation.batch (ts.map TableCall.call)).run isResumable Node.connection session).1 =
          .ok (.slots slots) ∧
        slots.length = ts.length ∧
        ∀ i t, ts[i]? = some t → ∃ slot, slots[i]? = some slot ∧
          ((Operation.batch [t.call]).run isResumable Node.connection
            ⟨session.state.issued i, session.link⟩).1 = .ok (.slots [slot]) ∧
          (t.Raises session.link.peer e → ∃ cause : ProtocolError, cause.IsVerbatim e ∧
            slot = .error (.protocol cause)) := by
  refine ⟨fun t n => t.raises_fail n he, fun t ht hid => ?_, fun ts hids hts => ?_⟩
  · exact ⟨_, he.isVerbatim, run_call_gets isResumable (ht.gets he) he hopen hid⟩
  · obtain ⟨outcome, houtcome⟩ := exists_outcomes he hts
    have hgets : ∀ t ∈ ts, t.Gets session.link.peer (outcome t) := fun t ht => (houtcome t ht).1
    refine ⟨_, run_batch_gets isResumable hgets hopen hids, by simp, fun i t ht => ?_⟩
    have hmem : t ∈ ts := List.mem_of_getElem? ht
    have hi : i < ts.length := (List.getElem?_eq_some_iff.mp ht).1
    refine ⟨t.slot (outcome t) (session.state.nextId + i), by simp [ht], ?_, fun hraises => ?_⟩
    · let issued : Session Node := ⟨session.state.issued i, session.link⟩
      have halone : ∀ s ∈ [t], s.Gets issued.link.peer (outcome s) :=
        List.forall_mem_singleton.mpr (hgets t hmem)
      have hissued : issued.state.nextId + [t].length ≤ 10 ^ digitLimit := by
        show session.state.nextId + i + 1 ≤ _
        omega
      exact run_batch_gets isResumable halone hopen hissued
    · rw [(houtcome t hmem).2 hraises, t.slot_error he]
      exact ⟨_, he.isVerbatim, rfl⟩

/-- An error without a tip: null and an empty array stand in its data. -/
def noTip : ErrorObject where
  code := -1107
  message := "No tip"
  data := .dict [("pool", .null), ("peers", .list [])]

lemma isCarried_noTip : noTip.IsCarried where
  code := isShort_of_lt (by decide)
  message := by decide
  data := by
    refine .dict (by simp [Entries.names]; decide) ?_ ?_
    · simp only [List.forall_mem_cons]
      exact ⟨by decide, by decide, List.forall_mem_nil _⟩
    · simp only [List.forall_mem_cons]
      exact ⟨.null, .list (List.forall_mem_nil _), List.forall_mem_nil _⟩

/-- A node that knows the hash of a block, but fails over the number of the tip. -/
def failingNode : Node :=
  (({} : Node).respond hashCall.method.name (.ofJson hashCall.result)).fail "get_tip_block_number"
    noTip.raised

/-- A new client of that node. -/
def failingSession : Session Node where
  link := { peer := failingNode }

lemma gets_hashCall : hashCall.untyped.Gets failingNode (.result hashCall.result) := by
  have hresponds : failingNode.RespondsWith hashCall.method hashCall.value :=
    (Node.respondsWith_respond _ _ _).register (by decide) _
  have hrun (params : List Value) : (Handler.constant hashCall.method.name
      (.ofJson hashCall.result)).run params = .value (.ofJson hashCall.result) := rfl
  have hgives (params : List Value) : ((Handler.constant hashCall.method.name
      (.ofJson hashCall.result)).run params).Gives (.result hashCall.result) :=
    hrun params ▸ .value _
  exact ⟨fun _ => .handled hresponds (hgives _),
    .result (hashCall.portable_result.with_floats.mono (by decide))⟩

/-- The number of the tip fails, alone and in a batch before the hash of a block. -/
theorem node_errors_reach_the_caller_tip :
    (∃ cause : ProtocolError, cause.IsVerbatim noTip ∧
      ((Operation.call (.named (.str "get_tip_block_number")) []).run true Node.connection
        failingSession).1 = .error (.protocol cause)) ∧
    ∃ slots, ((Operation.batch [tipCall.untyped.call, hashCall.untyped.call]).run false
        Node.connection failingSession).1 = .ok (.slots slots) ∧
      ∃ cause : ProtocolError, cause.IsVerbatim noTip ∧
        slots[0]? = some (.error (.protocol cause)) := by
  have hlimit : 10 ^ 1 ≤ 10 ^ digitLimit := Nat.pow_le_pow_right (by decide) (by decide)
  have hids : failingSession.state.nextId + 2 ≤ 10 ^ digitLimit := Nat.le_trans (by decide) hlimit
  obtain ⟨hfail, -, -⟩ := node_errors_reach_the_caller true failingSession rfl noTip isCarried_noTip
  have htip : tipCall.untyped.Raises failingSession.link.peer noTip := hfail tipCall.untyped _
  constructor
  · exact (node_errors_reach_the_caller true failingSession rfl noTip isCarried_noTip).2.1
      tipCall.untyped htip (by omega)
  · have hanswered : ∀ t ∈ [tipCall.untyped, hashCall.untyped],
        t.Raises failingSession.link.peer noTip ∨ ∃ outcome, t.Gets failingSession.link.peer outcome := by
      simp only [List.forall_mem_cons]
      exact ⟨.inl htip, .inr ⟨_, gets_hashCall⟩, List.forall_mem_nil _⟩
    obtain ⟨slots, hrun, -, hslots⟩ :=
      (node_errors_reach_the_caller false failingSession rfl noTip isCarried_noTip).2.2
        [tipCall.untyped, hashCall.untyped] hids hanswered
    obtain ⟨slot, hslot, -, hraises⟩ := hslots 0 tipCall.untyped rfl
    obtain ⟨cause, hverbatim, rfl⟩ := hraises htip
    exact ⟨slots, hrun, cause, hverbatim, hslot⟩

end Client

end ChainRpc
