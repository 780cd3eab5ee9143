import ChainRpc.Proofs.Client.Agreement
import ChainRpc.Proofs.Client.Faults
import ChainRpc.Proofs.Node.Answers
import ChainRpc.Proofs.Shape.Portable

/-!
# Typed calls to a node

A client calls a method of the table by its name, and a node answers with the wire form of a value. The
client gets the value, and the node has taken the request for what it is: the request that was built of the
arguments, under the identifier that was issued. The same holds of batches of such calls.
-/

namespace ChainRpc

/-- A client is connected to a node. -/
def Node.connection : Client.Connection Node where
  endpoint := endpoint
  peer := peer

namespace Client

/-! ### Names in the table -/

lemma nodup_names_table : (Method.table.map (·.name)).Nodup := by decide +kernel

lemma mem_table_of_find? {m : Method} (h : Registry.ckb.find? m.name = some m) : m ∈ Method.table :=
  List.mem_of_find?_eq_some h

lemma find_named {m : Method} (hm : m ∈ Method.table) :
    (MethodRef.named (.str m.name)).find .ckb = .ok m := by
  have hfind : Registry.ckb.find? m.name = some m := find?_of_nodup_map nodup_names_table hm
  rw [MethodRef.find, Registry.get, Registry.getBy, Registry.findBy, hfind]
  rfl

/-! ### Calls of the table -/

/-- A call of a method of the table, whose arguments have a wire form. The texts in them are of
characters. -/
structure TableCall where
  method : Method
  args : List Value
  /-- The wire form of the arguments. -/
  params : List Json
  mem_table : method ∈ Method.table
  made : ∀ v ∈ args, v.Made ∧ v.IsScalar
  encodes : method.encodeParams args = .ok params

namespace TableCall

variable {id : Nat}

/-- The call, by the name of the method. -/
def call (t : TableCall) : MethodRef × List Value := (.named (.str t.method.name), t.args)

/-- The wire form of the call. -/
def wire (t : TableCall) : WireCall := ⟨t.method, t.params⟩

/-- The request of the call under an identifier. -/
def request (t : TableCall) (id : Nat) : Request := ⟨.int id, t.method.name, t.params⟩

lemma wireCall_call (t : TableCall) : wireCall .ckb t.call.1 t.call.2 = .ok t.wire :=
  wireCall_eq_ok_iff.mpr ⟨find_named t.mem_table, t.encodes⟩

lemma portable_params (t : TableCall) : ∀ j ∈ t.params, j.Portable Method.tableHeight :=
  Method.portable_of_encodeParams t.mem_table t.made t.encodes

lemma isLegible_wire (t : TableCall) : t.wire.IsLegible := fun j hj =>
  (t.portable_params j hj).isLegible

lemma portable_request (t : TableCall) (h : id < 10 ^ digitLimit) :
    (t.request id).Portable Method.tableHeight where
  id := .int h
  method := Method.isCarried_table.1 _ t.mem_table
  params := t.portable_params

end TableCall

/-! ### Calls with a value -/

/-- A call of a method of the table, whose arguments have a wire form, and a value that the method can
have. The texts in both are of characters. -/
structure TypedCall where
  method : Method
  args : List Value
  /-- The wire form of the arguments. -/
  params : List Json
  value : Value
  mem_table : method ∈ Method.table
  made : ∀ v ∈ args, v.Made ∧ v.IsScalar
  encodes : method.encodeParams args = .ok params
  decodes : ∃ x : Value, x.Made ∧ method.decodeResult x = .ok value
  isScalar : value.IsScalar

namespace TypedCall

variable {id : Nat}

/-- The call, by the name of the method. -/
def call (t : TypedCall) : MethodRef × List Value := (.named (.str t.method.name), t.args)

/-- The wire form of the value. -/
def result (t : TypedCall) : Json := t.method.encodeResult t.value

/-- The wire form of the call. -/
def wire (t : TypedCall) : WireCall := ⟨t.method, t.params⟩

/-- The request of the call under an identifier. -/
def request (t : TypedCall) (id : Nat) : Request := ⟨.int id, t.method.name, t.params⟩

/-- The response of a node to the call under an identifier. -/
def response (t : TypedCall) (id : Nat) : Json := Response.ofResult (.int id) t.result

/-- The call without its value. -/
def untyped (t : TypedCall) : TableCall where
  method := t.method
  args := t.args
  params := t.params
  mem_table := t.mem_table
  made := t.made
  encodes := t.encodes

lemma wireCall_call (t : TypedCall) : wireCall .ckb t.call.1 t.call.2 = .ok t.wire :=
  t.untyped.wireCall_call

lemma isLegible_wire (t : TypedCall) : t.wire.IsLegible :=
  t.untyped.isLegible_wire

lemma portable_request (t : TypedCall) (h : id < 10 ^ digitLimit) :
    (t.request id).Portable Method.tableHeight :=
  t.untyped.portable_request h

lemma portable_result (t : TypedCall) : t.result.Portable Method.tableHeight := by
  obtain ⟨x, hx, hvalue⟩ := t.decodes
  exact (Method.portable_encodeResult t.mem_table hx t.isScalar hvalue).1

lemma portable_response (t : TypedCall) (h : id < 10 ^ digitLimit) :
    (t.response id).Portable (Method.tableHeight + 1) :=
  Response.portable_ofResult (t.portable_request h).id t.portable_result

lemma decodeResult_result (t : TypedCall) :
    t.method.decodeResult (.ofJson t.result) = .ok t.value := by
  obtain ⟨x, hx, hvalue⟩ := t.decodes
  exact (Method.portable_encodeResult t.mem_table hx t.isScalar hvalue).2

lemma parse_response (t : TypedCall) (id : Nat) :
    parse (t.response id) = .ok ⟨some (.int id), t.result, none⟩ :=
  Response.parse_ofResult t.portable_result.fits (by decide)

/-- The verdict on a call that is answered with its value is that value. -/
lemma verdict_response (t : TypedCall) (id : Nat) :
    verdict (t.wire.numbered id) ⟨some (.int id), t.result, none⟩ = .ok t.value := by
  show (t.method.decodeResult (.ofJson t.result)).mapError _ = _
  rw [t.decodeResult_result]
  rfl

end TypedCall

/-! ### What a node answers -/

section Answers

variable {calls : List (TypedCall × Nat)} {n : Node}

lemma portable_responses (hids : ∀ e ∈ calls, e.2 < 10 ^ digitLimit) :
    (Json.list (calls.map fun e => e.1.response e.2)).Portable (Method.tableHeight + 2) :=
  .list (List.forall_mem_map.mpr fun e he => e.1.portable_response (hids e he))

lemma post_calls (hne : calls ≠ []) (hids : ∀ e ∈ calls, e.2 < 10 ^ digitLimit)
    (h : ∀ e ∈ calls, n.RespondsWith e.1.method e.1.value) :
    let requests := calls.map fun e => e.1.request e.2
    let responses := calls.map fun e => e.1.response e.2
    n.post (Utf8.encodeAll ((Json.list (requests.map Request.toJson)).write Request.writeFloat)) =
      { body := .ok (Utf8.encodeAll ((Json.list responses).write Request.writeFloat)), log := [],
        node := { n with requests := n.requests ++ requests } } := by
  let answered := calls.map fun e => (e.1.request e.2, e.1.result)
  have hrequests : ∀ a ∈ answered, a.1.Portable Method.tableHeight :=
    List.forall_mem_map.mpr fun e he => e.1.portable_request (hids e he)
  have hresults : ∀ a ∈ answered, a.2.Portable Method.tableHeight :=
    List.forall_mem_map.mpr fun e _ => e.1.portable_result
  have hanswers : ∀ a ∈ answered, Node.Answers n.handlers a.1 a.2 :=
    List.forall_mem_map.mpr fun e he => (h e he).answers rfl
  have hpost := Node.post_batch Request.writeFloat (by simpa [answered] using hne) hrequests hresults
    (by decide) hanswers
  intro requests responses
  simp only [answered, List.map_map] at hpost
  simp only [requests, responses, List.map_map]
  exact hpost

end Answers

/-! ### Legible calls -/

namespace Resumable

variable {σ : Type} {registry : Registry} {ref : MethodRef} {args : List Value} {w : WireCall}
  {calls : List (MethodRef × List Value)} {ws : List WireCall}

lemma run_call_of_isLegible (hw : wireCall registry ref args = .ok w) (hl : w.IsLegible)
    (c : Connection σ) (session : Session σ) :
    ∃ records, (call registry ref args).run c session =
      (submit (w.numbered session.state.nextId)).run c
        ⟨(session.state.issued 1).logged records, session.link⟩ := by
  rcases call_cases c registry ref args session with
    ⟨fault, hf, _⟩ | ⟨w', hw', hl', _⟩ | ⟨w', message, hw', _, _, hr⟩
  · cases hw.symm.trans hf
  · cases hw.symm.trans hw'
    exact absurd hl hl'
  · cases hw.symm.trans hw'
    exact ⟨_, hr⟩

lemma run_batch_of_isLegible (hws : WireCalls registry calls ws) (hl : ∀ w ∈ ws, w.IsLegible)
    (c : Connection σ) (session : Session σ) :
    ∃ records, (batch registry calls).run c session =
      (submitAll (numberedFrom session.state.nextId ws)).run c
        ⟨(session.state.issued ws.length).logged records, session.link⟩ := by
  rcases batch_cases c registry calls session with
    ⟨ws', records, hws', _, _, _, hr⟩ | ⟨before, call, rest, _, _, fault, rfl, _, _, hf, _⟩ |
      ⟨before, call, rest, _, _, w, rfl, _, _, hw, hl', _⟩
  · cases hws.unique hws'
    exact ⟨records, hr⟩
  · obtain ⟨w, _, hw⟩ := hws.exists_of_mem (List.mem_append_right before List.mem_cons_self)
    cases hw.symm.trans hf
  · obtain ⟨w', hmem, hw'⟩ := hws.exists_of_mem
      (List.mem_append_right before List.mem_cons_self)
    cases hw.symm.trans hw'
    exact absurd (hl w hmem) hl'

end Resumable

/-! ### Posts to a node -/

variable {state : State} {link : Http.Link Node} {session : Session Node} {t : TypedCall}
  {ts : List TypedCall} {first id : Nat}

lemma run_roundTrip_of_post {α : Type} {body answer : Bytes} {next : Node}
    (hopen : link.closed = false)
    (h : link.peer.post body = { body := .ok answer, log := [], node := next })
    (read : Bytes → Act α) :
    (Resumable.roundTrip (.ok body) read).run Node.connection ⟨state, link⟩ =
      ((read answer state).1, ⟨(read answer state).2, { link with peer := next }⟩) := by
  have hsend : Node.connection.endpoint.send Node.connection.peer body link = _ :=
    Node.send_of_post hopen h
  have hrun : (Resumable.roundTrip (.ok body) read).run Node.connection ⟨state, link⟩ = _ :=
    Resumable.run_roundTrip_of_answered read (congrArg (·.1.result) hsend)
  rw [hsend] at hrun
  simpa [Http.Delivery.body] using hrun

/-- The link to a node that has taken further requests. -/
def linkAfter (link : Http.Link Node) (requests : List Request) : Http.Link Node :=
  { link with peer := { link.peer with requests := link.peer.requests ++ requests } }

@[simp] lemma linkAfter_nil (link : Http.Link Node) : linkAfter link [] = link := by
  simp [linkAfter]

@[simp] lemma linkAfter_linkAfter (link : Http.Link Node) (first second : List Request) :
    linkAfter (linkAfter link first) second = linkAfter link (first ++ second) := by
  simp [linkAfter]

/-! ### Single calls -/

/-- A request that is carried and that the node answers gets the verdict on the answer. -/
lemma run_submit_of_answers {room : Nat} {p : Prepared} {j : Json} (hopen : link.closed = false)
    (hr : p.request.Portable room) (hj : j.Portable room) (hroom : room < Json.writeRoom)
    (h : Node.Answers link.peer.handlers p.request j) (state : State) :
    ∃ records, (Resumable.submit p).run Node.connection ⟨state, link⟩ =
      (verdict p ⟨some p.request.id, j, none⟩,
        ⟨state.logged records, linkAfter link [p.request]⟩) := by
  have hlimit : room < 254 := hroom
  have hbody := Request.encode_of_portable hr hroom
  have hpost := Node.post_request Request.writeFloat hr hj hroom h
  have hload := Json.ofBytes_write Request.writeFloat (Response.portable_ofResult hr.id hj)
    (show room + 1 ≤ 990 by omega)
  have hparse : parse (Response.ofResult p.request.id j) = .ok ⟨some p.request.id, j, none⟩ :=
    Response.parse_ofResult hj.fits (show room < 255 by omega)
  obtain ⟨message, hfinish⟩ := finish_of_id_eq (p := p) hload hparse rfl state
  refine ⟨[⟨.debug, message⟩], ?_⟩
  rw [Resumable.submit, hbody, run_roundTrip_of_post hopen hpost, hfinish]
  rfl

lemma run_submit_typed (t : TypedCall) (hopen : link.closed = false) (hid : id < 10 ^ digitLimit)
    (h : link.peer.RespondsWith t.method t.value) (state : State) :
    ∃ records, (Resumable.submit (t.wire.numbered id)).run Node.connection ⟨state, link⟩ =
      (.ok t.value, ⟨state.logged records, linkAfter link [t.request id]⟩) := by
  obtain ⟨records, hrun⟩ := run_submit_of_answers (p := t.wire.numbered id) hopen
    (t.portable_request hid) t.portable_result (by decide) (h.answers rfl) state
  exact ⟨records, hrun.trans (congrArg (·, _) (t.verdict_response id))⟩

/-- A call of a method that the node answers with the value. -/
lemma run_call_typed (t : TypedCall) (hopen : session.link.closed = false)
    (hid : session.state.nextId < 10 ^ digitLimit)
    (h : session.link.peer.RespondsWith t.method t.value) :
    ∃ records, (Resumable.call .ckb t.call.1 t.call.2).run Node.connection session =
      (.ok t.value, ⟨(session.state.issued 1).logged records,
        linkAfter session.link [t.request session.state.nextId]⟩) := by
  obtain ⟨built, hbuilt⟩ :=
    Resumable.run_call_of_isLegible t.wireCall_call t.isLegible_wire Node.connection session
  obtain ⟨records, hrun⟩ := run_submit_typed t hopen hid h ((session.state.issued 1).logged built)
  exact ⟨built ++ records, by rw [hbuilt, hrun, State.logged_logged]⟩

/-! ### Batches -/

/-- In the array of responses every call finds its value. -/
lemma slotResult_responses {calls : List (TypedCall × Nat)} {e : TypedCall × Nat}
    (hn : (calls.map (·.2)).Nodup) (he : e ∈ calls) :
    slotResult (calls.map fun e => e.1.response e.2) (e.1.wire.numbered e.2) = .ok e.1.value := by
  have hparse (d : TypedCall × Nat) : parse (d.1.response d.2) = _ := d.1.parse_response d.2
  rw [← e.1.verdict_response e.2]
  refine slotResult_of_unique (List.mem_map_of_mem he)
    (responseTo_eq_some_iff.mpr ⟨hparse e, rfl⟩) ?_
  intro other hother found hfound
  obtain ⟨d, hd, rfl⟩ := List.mem_map.mp hother
  obtain ⟨hd', hid⟩ := responseTo_eq_some_iff.mp hfound
  cases hd'.symm.trans (hparse d)
  have hnumber : d.2 = e.2 := Int.ofNat_inj.mp (by simpa using hid)
  rw [List.inj_on_of_nodup_map hn hd he hnumber]

lemma wireCalls_map {α : Type} {call : α → MethodRef × List Value} {wire : α → WireCall}
    (h : ∀ a, wireCall .ckb (call a).1 (call a).2 = .ok (wire a)) (as : List α) :
    WireCalls .ckb (as.map call) (as.map wire) := by
  rw [WireCalls, List.forall₂_map_left_iff, List.forall₂_map_right_iff, List.forall₂_same]
  exact fun a _ => h a

lemma numberedFrom_map {α : Type} (first : Nat) (wire : α → WireCall) (as : List α) :
    numberedFrom first (as.map wire) = (as.zipIdx first).map fun e => (wire e.1).numbered e.2 := by
  induction as generalizing first with
  | nil => rfl
  | cons a rest ih => simp [numberedFrom, ih]

lemma requests_numberedFrom (first : Nat) (ts : List TypedCall) :
    (numberedFrom first (ts.map TypedCall.wire)).map (·.request) =
      (ts.zipIdx first).map fun e => e.1.request e.2 := by
  rw [numberedFrom_map, List.map_map]
  rfl

lemma map_slotResult_numberedFrom (first : Nat) (ts : List TypedCall) :
    (numberedFrom first (ts.map TypedCall.wire)).map
        (slotResult ((ts.zipIdx first).map fun e => e.1.response e.2)) =
      ts.map fun t => .ok t.value := by
  have hn : ((ts.zipIdx first).map (·.2)).Nodup := by
    rw [List.zipIdx_map_snd]
    exact List.nodup_range'
  rw [numberedFrom_map, List.map_map]
  calc (ts.zipIdx first).map (slotResult _ ∘ fun e => e.1.wire.numbered e.2)
    _ = (ts.zipIdx first).map fun e => .ok e.1.value :=
      List.map_congr_left fun e he => slotResult_responses hn he
    _ = ((ts.zipIdx first).map (·.1)).map fun t => .ok t.value := by rw [List.map_map]; rfl
    _ = ts.map fun t => .ok t.value := by rw [List.zipIdx_map_fst]

lemma run_submitAll_typed (hopen : link.closed = false) (hids : first + ts.length ≤ 10 ^ digitLimit)
    (h : ∀ t ∈ ts, link.peer.RespondsWith t.method t.value) (state : State) :
    ∃ records,
      (Resumable.submitAll (numberedFrom first (ts.map TypedCall.wire))).run Node.connection
          ⟨state, link⟩ =
        (.ok (ts.map fun t => .ok t.value), ⟨state.logged records,
          linkAfter link ((ts.zipIdx first).map fun e => e.1.request e.2)⟩) := by
  by_cases hnil : ts = []
  · subst hnil
    refine ⟨[], ?_⟩
    simp only [List.zipIdx_nil, List.map_nil, linkAfter_nil, State.logged_nil]
    rfl
  · have hshort : ∀ e ∈ ts.zipIdx first, e.2 < 10 ^ digitLimit := by
      intro e he
      have hlt := List.snd_lt_add_of_mem_zipIdx he
      omega
    have hrequests : ∀ r ∈ (ts.zipIdx first).map fun e => e.1.request e.2,
        r.Portable Method.tableHeight :=
      List.forall_mem_map.mpr fun e he => e.1.portable_request (hshort e he)
    have hbody := Request.encodeBatch_of_portable hrequests (by decide)
    have hpost := post_calls (by simpa using hnil) hshort
      fun e he => h e.1 (List.fst_mem_of_mem_zipIdx he)
    have hload := Json.ofBytes_write Request.writeFloat (portable_responses hshort) (by decide)
    obtain ⟨records, hfinish, _⟩ := finishBatch_of_list hload
      (nodup_ids_numberedFrom first (ts.map TypedCall.wire)) state
    have hne : numberedFrom first (ts.map TypedCall.wire) ≠ [] := by
      simpa [numberedFrom_map] using hnil
    refine ⟨records, ?_⟩
    rw [Resumable.submitAll_of_ne_nil hne, requests_numberedFrom, hbody,
      run_roundTrip_of_post hopen hpost, hfinish, map_slotResult_numberedFrom]
    rfl

/-- A batch of calls of methods that the node answers with the values. -/
lemma run_batch_typed (hopen : session.link.closed = false)
    (hids : session.state.nextId + ts.length ≤ 10 ^ digitLimit)
    (h : ∀ t ∈ ts, session.link.peer.RespondsWith t.method t.value) :
    ∃ records, (Resumable.batch .ckb (ts.map TypedCall.call)).run Node.connection session =
      (.ok (ts.map fun t => .ok t.value), ⟨(session.state.issued ts.length).logged records,
        linkAfter session.link ((ts.zipIdx session.state.nextId).map fun e => e.1.request e.2)⟩) := by
  have hlegible : ∀ w ∈ ts.map TypedCall.wire, w.IsLegible :=
    List.forall_mem_map.mpr fun t _ => t.isLegible_wire
  obtain ⟨built, hbuilt⟩ :=
    Resumable.run_batch_of_isLegible (wireCalls_map TypedCall.wireCall_call ts) hlegible Node.connection session
  rw [List.length_map] at hbuilt
  obtain ⟨records, hrun⟩ :=
    run_submitAll_typed hopen hids h ((session.state.issued ts.length).logged built)
  exact ⟨built ++ records, by rw [hbuilt, hrun, State.logged_logged]⟩

/-! ### Histories -/

/-- A call alone, or a batch of calls. -/
inductive TypedOperation
  | call (t : TypedCall)
  | batch (ts : List TypedCall)

namespace TypedOperation

/-- The calls of the operation. -/
def calls : TypedOperation → List TypedCall
  | .call t   => [t]
  | .batch ts => ts

/-- What is asked of the client. -/
def operation : TypedOperation → Operation
  | .call t   => .call (.named (.str t.method.name)) t.args
  | .batch ts => .batch (ts.map TypedCall.call)

/-- The value of the call, or the values of the calls in their order. -/
def result : TypedOperation → Operation.Result
  | .call t   => .value t.value
  | .batch ts => .slots (ts.map fun t => .ok t.value)

/-- An operation whose methods the node answers with the values. -/
lemma run_operation (op : TypedOperation) (isResumable : Bool) (hopen : session.link.closed = false)
    (hids : session.state.nextId + op.calls.length ≤ 10 ^ digitLimit)
    (h : ∀ t ∈ op.calls, session.link.peer.RespondsWith t.method t.value) :
    ∃ records, op.operation.run isResumable Node.connection session =
      (.ok op.result, ⟨(session.state.issued op.calls.length).logged records,
        linkAfter session.link
          ((op.calls.zipIdx session.state.nextId).map fun e => e.1.request e.2)⟩) := by
  cases op with
  | call t =>
    obtain ⟨records, hrun⟩ := run_call_typed t hopen (Nat.lt_of_succ_le hids)
      (h t (List.mem_singleton_self t))
    refine ⟨records, (Operation.run_call isResumable Node.connection session _ _).trans ?_⟩
    exact congrArg (fun r => (r.1.map Operation.Result.value, r.2)) hrun
  | batch ts =>
    obtain ⟨records, hrun⟩ := run_batch_typed hopen hids h
    refine ⟨records, (Operation.run_batch isResumable Node.connection session _).trans ?_⟩
    exact congrArg (fun r => (r.1.map Operation.Result.slots, r.2)) hrun

/-- Operations one after the other, whose methods the node answers with the values. -/
lemma runAll_operation (ops : List TypedOperation) (isResumable : Bool)
    (hopen : session.link.closed = false)
    (hids : session.state.nextId + (ops.flatMap calls).length ≤ 10 ^ digitLimit)
    (h : ∀ t ∈ ops.flatMap calls, session.link.peer.RespondsWith t.method t.value) :
    ∃ records, Operation.runAll isResumable Node.connection (ops.map operation) session =
      (ops.map fun op => .ok op.result,
        ⟨(session.state.issued (ops.flatMap calls).length).logged records,
          linkAfter session.link
            (((ops.flatMap calls).zipIdx session.state.nextId).map fun e => e.1.request e.2)⟩) := by
  induction ops generalizing session with
  | nil => exact ⟨[], by simp [Operation.runAll]⟩
  | cons op rest ih =>
    rw [List.flatMap_cons, List.length_append] at hids
    rw [List.flatMap_cons, List.forall_mem_append] at h
    obtain ⟨first, hfirst⟩ := run_operation op isResumable hopen (by omega) h.1
    let next : Session Node := ⟨(session.state.issued op.calls.length).logged first,
      linkAfter session.link ((op.calls.zipIdx session.state.nextId).map fun e => e.1.request e.2)⟩
    have hnext : next.link.closed = false := hopen
    obtain ⟨records, hrest⟩ := ih hnext (by simpa [next, Nat.add_assoc] using hids) h.2
    refine ⟨first ++ records, ?_⟩
    rw [List.map_cons, Operation.runAll, hfirst]
    dsimp only
    rw [hrest]
    simp [next, List.zipIdx_append]

end TypedOperation

/-- The session after the node is told to answer a method with a fixed result. -/
def Session.told (session : Session Node) (name : Text) (result : Value) : Session Node :=
  { session with link := { session.link with peer := session.link.peer.respond name result } }

/-- As long as the identifiers are within the digit limit, a client gets from a node just the values that
the node was told to answer with, alone and in batches, and the node remembers one request for every call:
in order, under the identifiers that were issued, with the names of the methods and the wire forms of the
arguments. -/
theorem node_serves_typed_calls (isResumable : Bool) (session : Session Node)
    (hopen : session.link.closed = false) :
    (∀ t : TypedCall, session.state.nextId < 10 ^ digitLimit →
      let told := session.told t.method.name (.ofJson (t.method.encodeResult t.value))
      let finished := (Operation.call (.named (.str t.method.name)) t.args).run isResumable
        Node.connection told
      finished.1 = .ok (.value t.value) ∧
      finished.2.link.peer.requests = session.link.peer.requests ++
        [⟨.int session.state.nextId, t.method.name, t.params⟩]) ∧
    ∀ ops : List TypedOperation,
      let ts := ops.flatMap TypedOperation.calls
      session.state.nextId + ts.length ≤ 10 ^ digitLimit →
      (∀ t ∈ ts, session.link.peer.RespondsWith t.method t.value) →
      let finished := Operation.runAll isResumable Node.connection
        (ops.map TypedOperation.operation) session
      finished.1 = ops.map (fun op => .ok op.result) ∧
      finished.2.state.nextId = session.state.nextId + ts.length ∧
      finished.2.link.peer.requests = session.link.peer.requests ++
        (ts.zipIdx session.state.nextId).map
          fun (t, id) => ⟨.int id, t.method.name, t.params⟩ := by
  constructor
  · intro t hid told finished
    have htold : told.link.closed = false := hopen
    obtain ⟨records, hrun⟩ := TypedOperation.run_operation (.call t) isResumable htold hid
      (List.forall_mem_singleton.mpr (Node.respondsWith_respond _ _ _))
    have hfinished : finished = _ := hrun
    rw [hfinished]
    exact ⟨rfl, rfl⟩
  · intro ops ts hids h finished
    obtain ⟨records, hrun⟩ := TypedOperation.runAll_operation ops isResumable hopen hids h
    have hfinished : finished = _ := hrun
    rw [hfinished]
    exact ⟨rfl, rfl, rfl⟩

/-- The number of the tip, asked for without arguments. -/
def tipCall : TypedCall where
  method := .getTipBlockNumber
  args := []
  params := []
  value := .int 255
  mem_table := mem_table_of_find? rfl
  made := List.forall_mem_nil _
  encodes := rfl
  decodes := ⟨.str "0xFF", .flat rfl, Checked.eq_ok_of_toOption (by decide +kernel)⟩
  isScalar := .int 255

/-- The hash of a block, asked for by its number. -/
def hashCall : TypedCall where
  method := .getBlockHash
  args := [.int 7]
  params := [.str "0x7"]
  value := .bytes (List.replicate 32 1)
  mem_table := mem_table_of_find? rfl
  made := List.forall_mem_singleton.mpr ⟨.flat rfl, .int 7⟩
  encodes := rfl
  decodes := ⟨.str (ByteString.encode (List.replicate 32 1)), .flat rfl,
    Checked.eq_ok_of_toOption (by decide +kernel)⟩
  isScalar := .bytes _

/-- A new client of a new node. -/
def freshSession : Session Node where
  link := { peer := {} }

/-- A node was told the number of the tip and the hash of a block. -/
def toldSession : Session Node :=
  (freshSession.told tipCall.method.name (.ofJson tipCall.result)).told hashCall.method.name
    (.ofJson hashCall.result)

/-- The number of the tip comes back, alone and in a batch behind the hash of a block. -/
theorem node_serves_typed_calls_tip :
    ((Operation.call (.named (.str "get_tip_block_number")) []).run true Node.connection
      (freshSession.told "get_tip_block_number" (.str "0xff"))).1 = .ok (.value (.int 255)) ∧
    (Operation.runAll false Node.connection
        ([.call tipCall, .batch [hashCall, tipCall]].map TypedOperation.operation)
        toldSession).2.link.peer.requests =
      [⟨.int 1, "get_tip_block_number", []⟩, ⟨.int 2, "get_block_hash", [.str "0x7"]⟩,
        ⟨.int 3, "get_tip_block_number", []⟩] := by
  have hlimit : 10 ^ 1 ≤ 10 ^ digitLimit := Nat.pow_le_pow_right (by decide) (by decide)
  have htip : toldSession.link.peer.RespondsWith tipCall.method tipCall.value :=
    (Node.respondsWith_respond _ _ _).register (by decide) _
  have hhash : toldSession.link.peer.RespondsWith hashCall.method hashCall.value :=
    Node.respondsWith_respond _ _ _
  have hfirst : freshSession.state.nextId < 10 ^ digitLimit := Nat.lt_of_lt_of_le (by decide) hlimit
  have hall : toldSession.state.nextId + 3 ≤ 10 ^ digitLimit := Nat.le_trans (by decide) hlimit
  constructor
  · exact ((node_serves_typed_calls true freshSession rfl).1 tipCall hfirst).1
  · have hserved := (node_serves_typed_calls false toldSession rfl).2
      [.call tipCall, .batch [hashCall, tipCall]] hall
      (by simpa [TypedOperation.calls] using ⟨htip, hhash, htip⟩)
    exact hserved.2.2

end Client

end ChainRpc
