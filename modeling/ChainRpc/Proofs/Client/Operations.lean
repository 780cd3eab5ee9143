import ChainRpc.Proofs.Client.Building
import ChainRpc.Proofs.Client.Dialogue

/-!
# What operations come to

Every operation with a request builds it, hands its body out and reads the answer. The lemmas list what
an operation can come to: which identifiers it takes, which bodies it sends and what it answers.
-/

namespace ChainRpc.Client

variable {σ α β : Type} {c : Connection σ} {session session' : Session σ} {p : Prepared}

/-! ### Reading answers takes no identifiers -/

lemma keepsIds_outcome (p : Prepared) (response : Response) : KeepsIds (outcome p response) := by
  refine .bind ?_ fun _ => ?_
  · unfold checkId
    split
    · exact .pure _
    · split
      · exact .pure _
      · exact .bind (.note _ _) fun _ => .throw _
  · split
    · exact .bind (.note _ _) fun _ => .throw _
    · exact .throw _
    · exact .bind (.note _ _) fun _ => .ofExcept _ _

lemma keepsIds_finish (p : Prepared) (body : Bytes) : KeepsIds (finish p body) := by
  refine .bind (.ofExcept _ _) fun payload => ?_
  split
  · exact .throw _
  · exact .bind (.ofExcept _ _) fun response => keepsIds_outcome p response

lemma keepsIds_of_deliver {response : Response} {id : RequestId} {slots : List Slot}
    {act : Act (List Slot)} (h : deliver response id slots = some act) : KeepsIds act := by
  induction slots generalizing act with
  | nil => cases h
  | cons slot rest ih =>
    rw [deliver] at h
    split at h
    · cases h
      exact .bind (.keepClientErrors (keepsIds_outcome _ _)) fun _ => .pure _
    · obtain ⟨act, hact, rfl⟩ := Option.map_eq_some_iff.mp h
      exact .bind (ih hact) fun _ => .pure _

lemma keepsIds_deliverItem (slots : List Slot) (item : Json) : KeepsIds (deliverItem slots item) := by
  unfold deliverItem
  split
  · exact .bind (.note _ _) fun _ => .pure _
  · split
    · next h =>
      obtain ⟨id, _, hd⟩ := Option.bind_eq_some_iff.mp h
      exact keepsIds_of_deliver hd
    · exact .bind (.note _ _) fun _ => .pure _

lemma keepsIds_deliverAll (slots : List Slot) (items : List Json) :
    KeepsIds (deliverAll slots items) := by
  induction items generalizing slots with
  | nil => exact .pure _
  | cons item rest ih => exact .bind (keepsIds_deliverItem _ _) fun slots => ih slots

lemma keepsIds_finishBatch (prepared : List Prepared) (body : Bytes) :
    KeepsIds (finishBatch prepared body) := by
  refine .bind (.ofExcept _ _) fun payload => ?_
  split
  · exact .bind (keepsIds_deliverAll _ _) fun _ => .pure _
  · refine .bind (.ofExcept _ _) fun response => ?_
    split <;> exact .throw _

/-! ### Single requests -/

namespace Resumable

/-- Sends a prepared request and makes a value of the response. -/
def submit (p : Prepared) : Resumable Value :=
  roundTrip p.request.encode (finish p)

lemma nextId_submit (c : Connection σ) (p : Prepared) (session : Session σ) :
    ((submit p).run c session).2.state.nextId = session.state.nextId :=
  nextId_roundTrip (keepsIds_finish p) c _ session

/-- A call has no wire form and changes nothing; or it has one that cannot be shown, and only takes an
identifier; or it takes an identifier and is submitted. -/
lemma call_cases (c : Connection σ) (registry : Registry) (ref : MethodRef) (args : List Value)
    (session : Session σ) :
    (∃ fault, wireCall registry ref args = .error fault ∧
      (call registry ref args).exchanges c session = [] ∧
      (call registry ref args).run c session = (.error fault, session)) ∨
    (∃ w, wireCall registry ref args = .ok w ∧ ¬ w.IsLegible ∧
      (call registry ref args).exchanges c session = [] ∧
      (call registry ref args).run c session =
        (.error .tooLarge, ⟨session.state.issued 1, session.link⟩)) ∨
    (∃ w message, wireCall registry ref args = .ok w ∧ w.IsLegible ∧
      let p := w.numbered session.state.nextId
      let built := ⟨(session.state.issued 1).logged [⟨.debug, message⟩], session.link⟩
      (call registry ref args).exchanges c session = (submit p).exchanges c built ∧
      (call registry ref args).run c session = (submit p).run c built) := by
  rw [call_eq]
  rcases build_cases registry ref args session.state with
    ⟨fault, hw, hb⟩ | ⟨w, hw, hl, hb⟩ | ⟨w, message, hw, hl, hb⟩
  · exact .inl ⟨fault, hw, exchanges_ofAct_bind_of_error hb _, run_ofAct_bind_of_error hb _⟩
  · exact .inr (.inl ⟨w, hw, hl, exchanges_ofAct_bind_of_error hb _, run_ofAct_bind_of_error hb _⟩)
  · exact .inr (.inr ⟨w, message, hw, hl, exchanges_ofAct_bind_of_ok hb _,
      run_ofAct_bind_of_ok hb _⟩)

/-- A call by name alone takes an identifier in every case, and is submitted if its parameters are JSON
and can be shown. -/
lemma callRaw_cases (c : Connection σ) (name params : Value) (session : Session σ) :
    (∃ fault, rawRequest name params session.state.nextId = .error fault ∧
      (callRaw name params).exchanges c session = [] ∧
      (callRaw name params).run c session =
        (.error fault, ⟨session.state.issued 1, session.link⟩)) ∨
    (∃ p, rawRequest name params session.state.nextId = .ok p ∧ ¬ p.IsLegible ∧
      (callRaw name params).exchanges c session = [] ∧
      (callRaw name params).run c session =
        (.error .tooLarge, ⟨session.state.issued 1, session.link⟩)) ∨
    (∃ p message, rawRequest name params session.state.nextId = .ok p ∧ p.IsLegible ∧
      let built := ⟨(session.state.issued 1).logged [⟨.debug, message⟩], session.link⟩
      (callRaw name params).exchanges c session = (submit p).exchanges c built ∧
      (callRaw name params).run c session = (submit p).run c built) := by
  rw [callRaw_eq]
  rcases buildRaw_cases name params session.state with
    ⟨fault, hw, hb⟩ | ⟨p, hw, hl, hb⟩ | ⟨p, message, hw, hl, hb⟩
  · exact .inl ⟨fault, hw, exchanges_ofAct_bind_of_error hb _, run_ofAct_bind_of_error hb _⟩
  · exact .inr (.inl ⟨p, hw, hl, exchanges_ofAct_bind_of_error hb _, run_ofAct_bind_of_error hb _⟩)
  · exact .inr (.inr ⟨p, message, hw, hl, exchanges_ofAct_bind_of_ok hb _,
      run_ofAct_bind_of_ok hb _⟩)

/-! ### Batches -/

/-- Sends the requests of a batch and sorts the responses. -/
def submitAll (prepared : List Prepared) : Resumable (List (Except Fault Value)) :=
  if prepared.isEmpty then pure []
  else roundTrip (Request.encodeBatch (prepared.map (·.request))) (finishBatch prepared)

lemma submitAll_of_ne_nil {prepared : List Prepared} (h : prepared ≠ []) :
    submitAll prepared =
      roundTrip (Request.encodeBatch (prepared.map (·.request))) (finishBatch prepared) :=
  if_neg (by simpa using h)

lemma nextId_submitAll (c : Connection σ) (prepared : List Prepared) (session : Session σ) :
    ((submitAll prepared).run c session).2.state.nextId = session.state.nextId := by
  unfold submitAll
  split
  · rfl
  · exact nextId_roundTrip (keepsIds_finishBatch prepared) c _ session

/-- A batch fails at its first call without a wire form, or with one that cannot be shown, and takes
identifiers only up to there; otherwise it is submitted as a whole. -/
lemma batch_cases (c : Connection σ) (registry : Registry) (calls : List (MethodRef × List Value))
    (session : Session σ) :
    (∃ ws records, WireCalls registry calls ws ∧ (∀ w ∈ ws, w.IsLegible) ∧
      (∀ r ∈ records, r.level = .debug) ∧
      let prepared := numberedFrom session.state.nextId ws
      let built := ⟨(session.state.issued ws.length).logged records, session.link⟩
      (batch registry calls).exchanges c session = (submitAll prepared).exchanges c built ∧
      (batch registry calls).run c session = (submitAll prepared).run c built) ∨
    (∃ before call rest ws records fault, calls = before ++ call :: rest ∧
      WireCalls registry before ws ∧ (∀ w ∈ ws, w.IsLegible) ∧
      wireCall registry call.1 call.2 = .error fault ∧
      (batch registry calls).exchanges c session = [] ∧
      (batch registry calls).run c session =
        (.error fault, ⟨(session.state.issued ws.length).logged records, session.link⟩)) ∨
    (∃ before call rest ws records w, calls = before ++ call :: rest ∧
      WireCalls registry before ws ∧ (∀ w ∈ ws, w.IsLegible) ∧
      wireCall registry call.1 call.2 = .ok w ∧ ¬ w.IsLegible ∧
      (batch registry calls).exchanges c session = [] ∧
      (batch registry calls).run c session = (.error .tooLarge,
        ⟨(session.state.issued (ws.length + 1)).logged records, session.link⟩)) := by
  rw [batch_eq]
  rcases buildBatch_cases registry calls session.state with
    ⟨ws, records, hws, hls, hd, hb⟩ | ⟨before, call, rest, ws, records, fault, hc, hws, hls, hf, hb⟩ |
      ⟨before, call, rest, ws, records, w, hc, hws, hls, hw, hl, hb⟩
  · exact .inl ⟨ws, records, hws, hls, hd, exchanges_ofAct_bind_of_ok hb _,
      run_ofAct_bind_of_ok hb _⟩
  · exact .inr (.inl ⟨before, call, rest, ws, records, fault, hc, hws, hls, hf,
      exchanges_ofAct_bind_of_error hb _, run_ofAct_bind_of_error hb _⟩)
  · exact .inr (.inr ⟨before, call, rest, ws, records, w, hc, hws, hls, hw, hl,
      exchanges_ofAct_bind_of_error hb _, run_ofAct_bind_of_error hb _⟩)

/-! ### Helpers -/

/-- Calls a method of the table, the result of which may not be null. -/
def fetch (registry : Registry) (m : Method) (method detail : Text) (arg : Value) :
    Resumable Value := do
  let v ← call registry (.direct m) [arg]
  require method detail v

/-- Goes on with the number of a block: the one given, or that of the tip. -/
def withNumber (registry : Registry) (number : Value) (f : Value → Resumable Value) :
    Resumable Value :=
  if number = .null then call registry (.direct .getTipBlockNumber) [] >>= f else f number

/-! ### Results of operations -/

/-- Wrapping the value of an operation changes nothing else. -/
lemma run_wrap (c : Connection σ) (x : Resumable α) (wrap : α → β) (session : Session σ) :
    (x >>= fun a => pure (wrap a)).run c session =
      ((x.run c session).1.map wrap, (x.run c session).2) := by
  rw [run_bind, bind_apply]
  rcases x.run c session with ⟨_ | _, _⟩ <;> rfl

lemma exchanges_wrap (c : Connection σ) (x : Resumable α) (wrap : α → β) (session : Session σ) :
    (x >>= fun a => pure (wrap a)).exchanges c session = x.exchanges c session := by
  cases h : x.run c session with
  | mk result session' =>
    cases result with
    | ok a => rw [exchanges_bind_of_ok h, exchanges_pure, List.append_nil]
    | error fault => exact exchanges_bind_of_error h _

end Resumable

namespace Operation

section Dialogue

variable {isResumable : Bool} {op : Operation} {x : Resumable α} {wrap : α → Result}

lemma run_of_dialogue (h : op.dialogue isResumable c.registry = x >>= fun a => pure (wrap a))
    (session : Session σ) :
    op.run isResumable c session = ((x.run c session).1.map wrap, (x.run c session).2) := by
  rw [← run_dialogue, h, Resumable.run_wrap]

lemma exchanges_of_dialogue (h : op.dialogue isResumable c.registry = x >>= fun a => pure (wrap a))
    (session : Session σ) : op.exchanges isResumable c session = x.exchanges c session := by
  rw [exchanges, h, Resumable.exchanges_wrap]

end Dialogue

variable (isResumable : Bool) (c : Connection σ) (session : Session σ)

lemma run_nextId : Operation.nextId.run isResumable c session =
    (.ok (.id session.state.nextId), ⟨session.state.issued 1, session.link⟩) := by
  rw [← run_dialogue]
  rfl

lemma run_call (ref : MethodRef) (args : List Value) :
    (Operation.call ref args).run isResumable c session =
      (((Resumable.call c.registry ref args).run c session).1.map .value,
        ((Resumable.call c.registry ref args).run c session).2) :=
  run_of_dialogue rfl session

lemma exchanges_call (ref : MethodRef) (args : List Value) :
    (Operation.call ref args).exchanges isResumable c session =
      (Resumable.call c.registry ref args).exchanges c session :=
  exchanges_of_dialogue rfl session

lemma run_callRaw (name params : Value) :
    (Operation.callRaw name params).run isResumable c session =
      (((Resumable.callRaw name params).run c session).1.map .value,
        ((Resumable.callRaw name params).run c session).2) :=
  run_of_dialogue rfl session

lemma exchanges_callRaw (name params : Value) :
    (Operation.callRaw name params).exchanges isResumable c session =
      (Resumable.callRaw name params).exchanges c session :=
  exchanges_of_dialogue rfl session

lemma run_batch (calls : List (MethodRef × List Value)) :
    (Operation.batch calls).run isResumable c session =
      (((Resumable.batch c.registry calls).run c session).1.map .slots,
        ((Resumable.batch c.registry calls).run c session).2) :=
  run_of_dialogue rfl session

lemma exchanges_batch (calls : List (MethodRef × List Value)) :
    (Operation.batch calls).exchanges isResumable c session =
      (Resumable.batch c.registry calls).exchanges c session :=
  exchanges_of_dialogue rfl session

end Operation

end ChainRpc.Client
