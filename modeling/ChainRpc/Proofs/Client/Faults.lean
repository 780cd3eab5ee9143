import ChainRpc.Proofs.Client.Batches
import ChainRpc.Proofs.Client.Reading
import ChainRpc.Proofs.Request

/-!
# Which faults operations end with

An operation whose requests have bodies fails with a fault that a client answers for, whatever comes of
the post. There are two exceptions, both about limits of the runtime: an integer too long to be shown
stops the operation before the post, and a body beyond the limits of the reader stops it after the post.
-/

namespace ChainRpc

/-! ### Outcomes of posts -/

namespace Http

variable {σ : Type}

/-- The outcome is one of a post: an answer, a timeout or a failure. -/
def Outcome.isRegular : Outcome → Bool
  | .broke _ => false
  | _        => true

/-- What comes of posting a body. -/
def Endpoint.outcome (e : Endpoint) (peer : Peer σ) (body : Bytes) (link : Link σ) : Outcome :=
  match e.prepare body with
  | .error outcome => outcome
  | .ok post =>
    if link.closed then .broke .closed else (peer post link.peer).outcome.through post

lemma Endpoint.result_send (e : Endpoint) (peer : Peer σ) (body : Bytes) (link : Link σ) :
    (e.send peer body link).1.result = ((e.outcome peer body link).delivery e.shownUrl).result := by
  unfold send outcome
  cases e.prepare body with
  | error outcome => rfl
  | ok post =>
    dsimp only
    split <;> rfl

/-- Without a body, a post that comes to something regular leaves a fault of the transport. -/
lemma Outcome.isClientError_of_delivery {o : Outcome} {url : Text} {fault : Fault}
    (ho : o.isRegular) (h : (o.delivery url).result = .error fault) : fault.isClientError := by
  cases o with
  | answered status body =>
    by_cases hs : 200 ≤ status ∧ status < 300
    · rw [delivery, if_pos hs] at h
      cases h
    · rw [delivery, if_neg hs] at h
      cases h
      rfl
  | timedOut reason | failed reason =>
    cases h
    rfl
  | broke cause => cases ho

end Http

/-- The document exceeds a limit of the reader. -/
def Unreadable.isLimit : Unreadable → Bool
  | .tooManyDigits _ | .tooDeep => true
  | _ => false

lemma Fault.isClientError_ofUnreadable (cause : Unreadable) :
    (Fault.ofUnreadable cause).isClientError = !cause.isLimit := by
  cases cause <;> rfl

namespace Client

variable {σ α β : Type} {c : Connection σ} {session : Session σ} {e : Exchange} {p : Prepared}
  {prepared : List Prepared}

/-! ### Round trips -/

/-- The result is what reading the answer to a body comes to. -/
structure Exchange.IsRead (c : Connection σ) (link : Http.Link σ) (e : Exchange)
    (result : Except Fault α) : Prop where
  posted : e.answer = (c.endpoint.send c.peer e.body link).1.result
  undelivered : ∀ fault, e.answer = .error fault → result = .error fault
  unreadable : ∀ answer cause, e.answer = .ok answer → Json.ofBytes answer = .error cause →
    result = .error (.ofUnreadable cause)
  failed : ∀ answer fault, e.answer = .ok answer → result = .error fault →
    ReadingFault answer fault

namespace Exchange.IsRead

variable {link : Http.Link σ} {result : Except Fault α}

lemma map (h : e.IsRead c link result) (wrap : α → β) : e.IsRead c link (result.map wrap) where
  posted := h.posted
  undelivered fault he := by rw [h.undelivered fault he]; rfl
  unreadable answer cause he hc := by rw [h.unreadable answer cause he hc]; rfl
  failed answer fault he hr := by
    cases result with
    | ok a => cases hr
    | error found =>
      cases hr
      exact h.failed answer fault he rfl

/-- Only a body beyond the limits of the reader makes reading an answer fail otherwise than a client
does. -/
lemma isClientError_iff (h : e.IsRead c link result)
    (hregular : (c.endpoint.outcome c.peer e.body link).isRegular) :
    (∀ fault, result = .error fault → fault.isClientError) ↔
      ∀ answer cause, e.answer = .ok answer → Json.ofBytes answer = .error cause →
        cause.isLimit = false := by
  constructor
  · intro hall answer cause he hc
    have hcause := hall _ (h.unreadable answer cause he hc)
    rw [Fault.isClientError_ofUnreadable] at hcause
    simpa using hcause
  · intro hlimit fault hresult
    cases he : e.answer with
    | error found =>
      rw [h.undelivered found he] at hresult
      cases hresult
      rw [h.posted, Http.Endpoint.result_send] at he
      exact Http.Outcome.isClientError_of_delivery hregular he
    | ok answer =>
      cases h.failed answer fault he hresult with
      | client hclient => exact hclient
      | document hc => rw [Fault.isClientError_ofUnreadable, hlimit answer _ he hc]; rfl

end Exchange.IsRead

namespace Resumable

lemma isRead_roundTrip {encoded : Except Uncarried Bytes} {body : Bytes} {read : Bytes → Act α}
    (hbody : encoded = .ok body) (hfails : ∀ answer, FailsOnly (ReadingFault answer) (read answer))
    (hunreadable : ∀ answer cause s, Json.ofBytes answer = .error cause →
      read answer s = (.error (.ofUnreadable cause), s)) (c : Connection σ) (session : Session σ) :
    ∃ e, (roundTrip encoded read).exchanges c session = [e] ∧
      e.IsRead c session.link ((roundTrip encoded read).run c session).1 := by
  subst hbody
  let sent := c.endpoint.send c.peer body session.link
  refine ⟨⟨body, sent.1.result⟩, exchanges_roundTrip c body read session, rfl, ?_, ?_, ?_⟩
  · intro fault he
    rw [run_roundTrip_of_failed read he]
  · intro answer cause he hc
    rw [run_roundTrip_of_answered read he, hunreadable answer cause _ hc]
  · intro answer fault he hr
    rw [run_roundTrip_of_answered read he] at hr
    exact hfails answer _ fault _ (Prod.ext hr rfl)

/-- A single request with a body is posted, and the answer is read. -/
lemma isRead_submit (hp : p.request.obstacle? = none) (c : Connection σ) (session : Session σ) :
    ∃ e, (submit p).exchanges c session = [e] ∧
      e.IsRead c session.link ((submit p).run c session).1 := by
  obtain ⟨body, hbody⟩ := Request.encode_of_obstacle? hp
  exact isRead_roundTrip hbody (fun answer => (failsOnly_finish p answer).mono fun _ h => h.reading)
    (fun _ _ s hc => finish_of_unreadable hc p s) c session

/-- The requests of a batch with a body are posted together, and the answer is read. -/
lemma isRead_submitAll (hne : prepared ≠ []) (hn : (prepared.map (·.request.id)).Nodup)
    (hp : ∀ p ∈ prepared, p.request.obstacle? = none) (c : Connection σ) (session : Session σ) :
    ∃ e, (submitAll prepared).exchanges c session = [e] ∧
      e.IsRead c session.link ((submitAll prepared).run c session).1 := by
  obtain ⟨body, hbody⟩ := Request.encodeBatch_of_obstacle? (List.forall_mem_map.mpr hp)
  rw [submitAll_of_ne_nil hne]
  exact isRead_roundTrip hbody (failsOnly_finishBatch hn)
    (fun _ _ s hc => finishBatch_of_unreadable hc prepared s) c session

end Resumable

/-! ### Operations -/

namespace Operation

variable {registry : Registry} {op : Operation} {next : Nat}

/-- The requests that a call, a call by name alone or a batch builds, the next identifier being given. -/
def Builds (registry : Registry) (next : Nat) : Operation → List Prepared → Prop
  | .call ref args, prepared => ∃ w, wireCall registry ref args = .ok w ∧ prepared = [w.numbered next]
  | .callRaw name params, prepared => ∃ p, rawRequest name params next = .ok p ∧ prepared = [p]
  | .batch calls, prepared => ∃ ws, WireCalls registry calls ws ∧ prepared = numberedFrom next ws
  | _, _ => False

/-- What becomes of an operation with requests: an integer that cannot be shown stops it before the post;
without requests nothing is posted; otherwise a body is posted and the answer to it is read. -/
inductive Ends (c : Connection σ) (link : Http.Link σ) (prepared : List Prepared) :
    List Exchange → Except Fault α → Prop
  | unshown (h : ¬ ∀ p ∈ prepared, p.IsLegible) : Ends c link prepared [] (.error .tooLarge)
  | idle (h : prepared = []) (a : α) : Ends c link prepared [] (.ok a)
  | read (h : ∀ p ∈ prepared, p.IsLegible) {e : Exchange} {result : Except Fault α}
      (he : e.IsRead c link result) : Ends c link prepared [e] result

lemma Ends.map {link : Http.Link σ} {exchanges : List Exchange} {result : Except Fault α}
    (h : Ends c link prepared exchanges result) (wrap : α → β) :
    Ends c link prepared exchanges (result.map wrap) := by
  cases h with
  | unshown h => exact .unshown h
  | idle h a => exact .idle h (wrap a)
  | read h he => exact .read h (he.map wrap)

end Operation

/-! ### What operations with requests come to -/

section Builds

variable {registry : Registry} {calls : List (MethodRef × List Value)} {ws : List WireCall}

lemma forall_numberedFrom_isLegible (first : Nat) (ws : List WireCall) :
    (∀ p ∈ numberedFrom first ws, p.IsLegible) ↔ ∀ w ∈ ws, w.IsLegible := by
  induction ws generalizing first with
  | nil => simp [numberedFrom]
  | cons w rest ih =>
    rw [numberedFrom, List.forall_mem_cons, List.forall_mem_cons, ih, isLegible_numbered]

lemma WireCalls.exists_of_mem {call : MethodRef × List Value} (h : WireCalls registry calls ws)
    (hc : call ∈ calls) : ∃ w ∈ ws, wireCall registry call.1 call.2 = .ok w := by
  obtain ⟨i, hi, rfl⟩ := List.mem_iff_getElem.mp hc
  have hlength : i < ws.length := h.length_eq ▸ hi
  exact ⟨ws[i], List.getElem_mem hlength, List.Forall₂.get h hi hlength⟩

namespace Resumable

lemma ends_submit {state : State} (hl : p.IsLegible) (hp : p.request.obstacle? = none)
    (c : Connection σ) (link : Http.Link σ) :
    Operation.Ends c link [p] ((submit p).exchanges c ⟨state, link⟩)
      ((submit p).run c ⟨state, link⟩).1 := by
  obtain ⟨e, he, hread⟩ := isRead_submit hp c ⟨state, link⟩
  rw [he]
  exact .read (List.forall_mem_singleton.mpr hl) hread

lemma ends_call {ref : MethodRef} {args : List Value} {w : WireCall}
    (hw : wireCall registry ref args = .ok w)
    (hp : (w.numbered session.state.nextId).request.obstacle? = none) (c : Connection σ) :
    Operation.Ends c session.link [w.numbered session.state.nextId]
      ((call registry ref args).exchanges c session) ((call registry ref args).run c session).1 := by
  rcases call_cases c registry ref args session with
    ⟨fault, hf, _, _⟩ | ⟨w', hw', hl, he, hr⟩ | ⟨w', message, hw', hl, he, hr⟩
  · cases hw.symm.trans hf
  · cases hw.symm.trans hw'
    rw [he, hr]
    exact .unshown fun hall => hl (hall _ (List.mem_singleton_self _))
  · cases hw.symm.trans hw'
    rw [he, hr]
    exact ends_submit ((isLegible_numbered w _).mpr hl) hp c _

lemma ends_callRaw {name params : Value}
    (hraw : rawRequest name params session.state.nextId = .ok p)
    (hp : p.request.obstacle? = none) (c : Connection σ) :
    Operation.Ends c session.link [p] ((callRaw name params).exchanges c session)
      ((callRaw name params).run c session).1 := by
  rcases callRaw_cases c name params session with
    ⟨fault, hf, _, _⟩ | ⟨p', hp', hl, he, hr⟩ | ⟨p', message, hp', hl, he, hr⟩
  · cases hraw.symm.trans hf
  · cases hraw.symm.trans hp'
    rw [he, hr]
    exact .unshown fun hall => hl (List.forall_mem_singleton.mp hall)
  · cases hraw.symm.trans hp'
    rw [he, hr]
    exact ends_submit hl hp c _

lemma ends_batch (hws : WireCalls registry calls ws)
    (hp : ∀ p ∈ numberedFrom session.state.nextId ws, p.request.obstacle? = none)
    (c : Connection σ) :
    Operation.Ends c session.link (numberedFrom session.state.nextId ws)
      ((batch registry calls).exchanges c session) ((batch registry calls).run c session).1 := by
  rcases batch_cases c registry calls session with
    ⟨ws', records, hws', hl, _, he, hr⟩ | ⟨before, call, rest, _, _, fault, rfl, _, _, hf, _, _⟩ |
      ⟨before, call, rest, _, _, w, rfl, _, _, hw, hl, he, hr⟩
  · obtain rfl := hws.unique hws'
    rw [he, hr]
    by_cases hne : numberedFrom session.state.nextId ws = []
    · rw [hne]
      exact .idle rfl []
    · obtain ⟨e, he, hread⟩ := isRead_submitAll hne (nodup_ids_numberedFrom _ ws) hp c
        ⟨(session.state.issued ws.length).logged records, session.link⟩
      rw [he]
      exact .read ((forall_numberedFrom_isLegible _ ws).mpr hl) hread
  · obtain ⟨w, _, hw⟩ := hws.exists_of_mem (List.mem_append_right before List.mem_cons_self)
    cases hw.symm.trans hf
  · -- The call that cannot be shown is one of the batch.
    obtain ⟨w', hmem, hw'⟩ := hws.exists_of_mem
      (List.mem_append_right before List.mem_cons_self)
    cases hw.symm.trans hw'
    rw [he, hr]
    exact .unshown fun hall => hl ((forall_numberedFrom_isLegible _ ws).mp hall w hmem)

end Resumable

end Builds

namespace Operation

lemma ends_of_builds {op : Operation} (isResumable : Bool)
    (hbuilds : op.Builds c.registry session.state.nextId prepared)
    (hp : ∀ p ∈ prepared, p.request.obstacle? = none) :
    Ends c session.link prepared (op.exchanges isResumable c session)
      (op.run isResumable c session).1 := by
  cases op with
  | call ref args =>
    obtain ⟨w, hw, rfl⟩ := hbuilds
    rw [exchanges_call, run_call]
    exact (Resumable.ends_call hw (hp _ (List.mem_singleton_self _)) c).map _
  | callRaw name params =>
    obtain ⟨p, hraw, rfl⟩ := hbuilds
    rw [exchanges_callRaw, run_callRaw]
    exact (Resumable.ends_callRaw hraw (hp _ (List.mem_singleton_self _)) c).map _
  | batch calls =>
    obtain ⟨ws, hws, rfl⟩ := hbuilds
    rw [exchanges_batch, run_batch]
    exact (Resumable.ends_batch hws hp c).map _
  | nextId | typed name args named | post body => exact hbuilds.elim

/-- Whatever comes of its post, an operation with requests ends with a value or with a fault that a client
answers for, exactly if its integers can be shown and the answer is within the limits of the reader. -/
theorem fails_as_client_iff {op : Operation} (isResumable : Bool) (c : Connection σ)
    (session : Session σ) (hbuilds : op.Builds c.registry session.state.nextId prepared)
    (hp : ∀ p ∈ prepared, p.request.obstacle? = none)
    (hregular : ∀ e ∈ op.exchanges isResumable c session,
      (c.endpoint.outcome c.peer e.body session.link).isRegular) :
    let exchanges := op.exchanges isResumable c session
    let result := (op.run isResumable c session).1
    (¬ (∀ p ∈ prepared, p.IsLegible) → exchanges = [] ∧ result = .error .tooLarge) ∧
    (∀ e ∈ exchanges, ∀ answer cause, e.answer = .ok answer → Json.ofBytes answer = .error cause →
      cause.isLimit → result = .error (.unreadable cause)) ∧
    ((∀ fault, result = .error fault → fault.isClientError) ↔
      (∀ p ∈ prepared, p.IsLegible) ∧
        ∀ e ∈ exchanges, ∀ answer cause, e.answer = .ok answer →
          Json.ofBytes answer = .error cause → cause.isLimit = false) := by
  intro exchanges result
  have hends : Ends c session.link prepared exchanges result := ends_of_builds isResumable hbuilds hp
  change ∀ e ∈ exchanges, _ at hregular
  generalize exchanges = exchanges, result = result at hends hregular ⊢
  cases hends with
  | unshown hl =>
    refine ⟨fun _ => ⟨rfl, rfl⟩, by simp, fun hall => ?_, fun ⟨hall, _⟩ => (hl hall).elim⟩
    cases hall _ rfl
  | idle hnil a =>
    subst hnil
    simp
  | @read hl e result he =>
    simp only [List.forall_mem_singleton] at hregular ⊢
    refine ⟨fun h => (h hl).elim, ?_, ?_⟩
    · intro answer cause hanswer hc hlimit
      rw [he.unreadable answer cause hanswer hc]
      cases cause <;> first | rfl | cases hlimit
    · rw [he.isClientError_iff hregular]
      exact (and_iff_right hl).symm

/-- A call by name alone, without parameters. -/
def bareCall : Operation := .callRaw (.str "m") (.list [])

/-- The request of the bare call under the first identifier. -/
def bareRequest : Prepared := ⟨{ name := "m" }, ⟨.int 1, "m", []⟩⟩

/-- The first session with a peer that answers once, with this body. -/
def replied (body : Bytes) : Session Http.Script where
  link := { peer := { replies := [fun _ => .answered 200 body] } }

lemma builds_bareCall (body : Bytes) :
    bareCall.Builds .ckb (replied body).state.nextId [bareRequest] :=
  ⟨bareRequest, rfl, rfl⟩

lemma obstacle?_bareRequest : ∀ p ∈ [bareRequest], p.request.obstacle? = none := by
  decide

lemma ofBytes_cut : Json.ofBytes [0x5B] = .error (.malformed ⟨.value, 1, 1, 2⟩) := by
  rfl

/-- An answer that stops short breaks the protocol. -/
theorem fails_as_client_iff_cut :
    bareCall.Builds .ckb (replied [0x5B]).state.nextId [bareRequest] ∧
    (∀ p ∈ [bareRequest], p.request.obstacle? = none) ∧
    (∀ e ∈ bareCall.exchanges false scripted (replied [0x5B]),
      (scripted.endpoint.outcome scripted.peer e.body (replied [0x5B]).link).isRegular) ∧
    ∀ fault, (bareCall.run false scripted (replied [0x5B])).1 = .error fault →
      fault.isClientError := by
  have hregular : ∀ e ∈ bareCall.exchanges false scripted (replied [0x5B]),
      (scripted.endpoint.outcome scripted.peer e.body (replied [0x5B]).link).isRegular := by
    decide +kernel
  have hanswers : ∀ e ∈ bareCall.exchanges false scripted (replied [0x5B]),
      e.answer.toOption = some [0x5B] := by
    decide +kernel
  have h := fails_as_client_iff false scripted _ (builds_bareCall _) obstacle?_bareRequest hregular
  refine ⟨builds_bareCall _, obstacle?_bareRequest, hregular, h.2.2.mpr
    ⟨by simp [Prepared.IsLegible, bareRequest], fun e he answer cause hanswer hc => ?_⟩⟩
  have hcut := hanswers e he
  rw [hanswer] at hcut
  obtain rfl : answer = [0x5B] := Option.some.inj hcut
  cases hc.symm.trans ofBytes_cut
  rfl

/-- An integer of 4301 digits in an answer ends a call with a fault that no client answers for. -/
theorem not_fails_as_client_longInteger :
    let body : Bytes := List.replicate (digitLimit + 1) 0x31
    bareCall.Builds .ckb (replied body).state.nextId [bareRequest] ∧
    (∀ p ∈ [bareRequest], p.request.obstacle? = none) ∧
    (∀ e ∈ bareCall.exchanges false scripted (replied body),
      (scripted.endpoint.outcome scripted.peer e.body (replied body).link).isRegular) ∧
    ¬ ∀ fault, (bareCall.run false scripted (replied body)).1 = .error fault →
      fault.isClientError := by
  intro body
  have hregular : ∀ e ∈ bareCall.exchanges false scripted (replied body),
      (scripted.endpoint.outcome scripted.peer e.body (replied body).link).isRegular := by
    decide +kernel
  have hfault : (match (bareCall.run false scripted (replied body)).1 with
      | .error fault => fault.isClientError
      | .ok _        => true) = false := by
    decide +kernel
  refine ⟨builds_bareCall body, obstacle?_bareRequest, hregular, fun hall => ?_⟩
  split at hfault
  · next fault hresult =>
    rw [hall fault hresult] at hfault
    cases hfault
  · cases hfault

end Operation

end Client

end ChainRpc
