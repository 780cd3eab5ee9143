import ChainRpc.Client.Operation
import ChainRpc.Http.Script
import ChainRpc.Proofs.Client.Names
import ChainRpc.Proofs.Client.Steps

/-!
# What operations say to the peer

An operation under way hands its bodies out one by one, so the exchanges with the peer can be listed
beside its result. The operations of a blocking client are runs of the same operations under way, apart
from the name of the class in their faults; whatever is shown of these holds of both kinds of client.
-/

namespace ChainRpc.Client

variable {σ α β : Type}

/-- What goes over a link once: a body, and the answer to it. -/
structure Exchange where
  body : Bytes
  answer : Except Fault Bytes

namespace Exchange

/-- The body with its answer, if one came back. -/
def answered? (e : Exchange) : Option (Bytes × Bytes) :=
  e.answer.toOption.map (e.body, ·)

lemma answered?_eq_some_iff {e : Exchange} {body answer : Bytes} :
    e.answered? = some (body, answer) ↔ e = ⟨body, .ok answer⟩ := by
  obtain ⟨sent, result⟩ := e
  cases result <;> simp [answered?, Except.toOption]

/-- Exchanges that were all answered are known from their bodies. -/
lemma eq_of_map_answered? {exchanges : List Exchange} (known : List (Bytes × Bytes))
    (h : exchanges.map answered? = known.map some) :
    exchanges = known.map fun (body, answer) => ⟨body, .ok answer⟩ := by
  induction known generalizing exchanges with
  | nil => simpa using h
  | cons pair rest ih =>
    cases exchanges with
    | nil => cases h
    | cons e es =>
      obtain ⟨he, hes⟩ := List.cons.inj h
      rw [ih hes, answered?_eq_some_iff.mp he, List.map_cons]

end Exchange

/-! ### Runs of operations under way -/

namespace Task

/-- The exchanges while an operation is answered through a connection. -/
def exchanges (c : Connection σ) : Task α → Http.Link σ → List Exchange
  | .done _ _, _ => []
  | .awaiting body state resume, link =>
    let (delivery, link) := c.endpoint.send c.peer body link
    ⟨body, delivery.result⟩ ::
      (resume delivery.result { state with log := state.log ++ delivery.log }).exchanges c link

lemma run_andThen (c : Connection σ) (f : α → Resumable β) (t : Task α) (link : Http.Link σ) :
    (t.andThen f).run c link = match t.run c link with
      | (.ok a, session)        => (f a session.state).run c session.link
      | (.error fault, session) => (.error fault, session) := by
  induction t generalizing link with
  | done result state => cases result <;> rfl
  | awaiting body state resume ih => exact ih _ _ _

lemma exchanges_andThen (c : Connection σ) (f : α → Resumable β) (t : Task α)
    (link : Http.Link σ) :
    (t.andThen f).exchanges c link = t.exchanges c link ++ match t.run c link with
      | (.ok a, session) => (f a session.state).exchanges c session.link
      | (.error _, _)    => [] := by
  induction t generalizing link with
  | done result state => cases result <;> rfl
  | awaiting body state resume ih => exact congrArg (List.cons _) (ih _ _ _)

end Task

namespace Resumable

variable {c : Connection σ} {x : Resumable α} {f : α → Resumable β} {session session' : Session σ}

/-- The exchanges while an operation is run through a connection. -/
def exchanges (c : Connection σ) (x : Resumable α) (session : Session σ) : List Exchange :=
  (x session.state).exchanges c session.link

lemma run_pure (c : Connection σ) (a : α) : (pure a : Resumable α).run c = pure a := rfl

lemma run_ofAct (c : Connection σ) (act : Act α) : (ofAct act).run c = Blocking.ofAct act := rfl

lemma run_post (c : Connection σ) (body : Bytes) : (post body).run c = Blocking.post c body := rfl

/-- Running operations one after the other is running the first one and then the second one. -/
lemma run_bind (c : Connection σ) (x : Resumable α) (f : α → Resumable β) :
    (x >>= f).run c = x.run c >>= fun a => (f a).run c := by
  funext session
  rw [bind_apply]
  refine (Task.run_andThen c f (x session.state) session.link).trans ?_
  rw [show (x session.state).run c session.link = x.run c session from rfl]
  rcases x.run c session with ⟨_ | _, _⟩ <;> rfl

lemma exchanges_bind_of_ok {a : α} (h : x.run c session = (.ok a, session'))
    (f : α → Resumable β) :
    (x >>= f).exchanges c session = x.exchanges c session ++ (f a).exchanges c session' := by
  refine (Task.exchanges_andThen c f (x session.state) session.link).trans ?_
  rw [show (x session.state).run c session.link = _ from h]
  rfl

lemma exchanges_bind_of_error {fault : Fault} (h : x.run c session = (.error fault, session'))
    (f : α → Resumable β) : (x >>= f).exchanges c session = x.exchanges c session := by
  refine (Task.exchanges_andThen c f (x session.state) session.link).trans ?_
  rw [show (x session.state).run c session.link = _ from h]
  exact List.append_nil _

@[simp] lemma exchanges_pure (c : Connection σ) (a : α) (session : Session σ) :
    (pure a : Resumable α).exchanges c session = [] := rfl

@[simp] lemma exchanges_ofAct (c : Connection σ) (act : Act α) (session : Session σ) :
    (ofAct act).exchanges c session = [] := rfl

/-! ### Steps without a link before an operation -/

variable {act : Act α} {state state' : State} {link : Http.Link σ}

lemma run_ofAct_bind_of_ok {a : α} (h : act state = (.ok a, state')) (f : α → Resumable β) :
    (ofAct act >>= f).run c ⟨state, link⟩ = (f a).run c ⟨state', link⟩ := by
  rw [run_bind, run_ofAct]
  exact bind_of_ok (by rw [Blocking.ofAct, h]) _

lemma run_ofAct_bind_of_error {fault : Fault} (h : act state = (.error fault, state'))
    (f : α → Resumable β) :
    (ofAct act >>= f).run c ⟨state, link⟩ = (.error fault, ⟨state', link⟩) := by
  rw [run_bind, run_ofAct]
  exact bind_of_error (by rw [Blocking.ofAct, h]) _

lemma exchanges_ofAct_bind_of_ok {a : α} (h : act state = (.ok a, state'))
    (f : α → Resumable β) :
    (ofAct act >>= f).exchanges c ⟨state, link⟩ = (f a).exchanges c ⟨state', link⟩ := by
  have hrun : (ofAct act).run c ⟨state, link⟩ = (.ok a, ⟨state', link⟩) := by
    rw [run_ofAct, Blocking.ofAct, h]
  exact exchanges_bind_of_ok hrun f

lemma exchanges_ofAct_bind_of_error {fault : Fault} (h : act state = (.error fault, state'))
    (f : α → Resumable β) : (ofAct act >>= f).exchanges c ⟨state, link⟩ = [] := by
  have hrun : (ofAct act).run c ⟨state, link⟩ = (.error fault, ⟨state', link⟩) := by
    rw [run_ofAct, Blocking.ofAct, h]
  exact exchanges_bind_of_error hrun f

/-! ### Round trips -/

/-- Hands a body out, if there is one, and reads the answer. -/
def roundTrip (encoded : Except Uncarried Bytes) (read : Bytes → Act α) : Resumable α := do
  let body ← ofAct (ofExcept .unserializable encoded)
  let answer ← post body
  ofAct (read answer)

/-- The transport has logged its part before the answer is read. -/
lemma run_roundTrip_of_answered {body answer : Bytes} (read : Bytes → Act α)
    (h : (c.endpoint.send c.peer body session.link).1.result = .ok answer) :
    let sent := c.endpoint.send c.peer body session.link
    (roundTrip (.ok body) read).run c session =
      ((read answer (session.state.logged sent.1.log)).1,
        ⟨(read answer (session.state.logged sent.1.log)).2, sent.2⟩) := by
  intro sent
  have hpost : (post body).run c session = (.ok answer, ⟨session.state.logged sent.1.log, sent.2⟩) :=
    Prod.ext h rfl
  have hrun : (roundTrip (.ok body) read).run c session =
      (post body >>= fun answer => ofAct (read answer)).run c session := rfl
  rw [hrun, run_bind]
  exact bind_of_ok hpost _

lemma run_roundTrip_of_failed {body : Bytes} {fault : Fault} (read : Bytes → Act α)
    (h : (c.endpoint.send c.peer body session.link).1.result = .error fault) :
    let sent := c.endpoint.send c.peer body session.link
    (roundTrip (.ok body) read).run c session =
      (.error fault, ⟨session.state.logged sent.1.log, sent.2⟩) := by
  intro sent
  have hpost : (post body).run c session =
      (.error fault, ⟨session.state.logged sent.1.log, sent.2⟩) := Prod.ext h rfl
  have hrun : (roundTrip (.ok body) read).run c session =
      (post body >>= fun answer => ofAct (read answer)).run c session := rfl
  rw [hrun, run_bind]
  exact bind_of_error hpost _

/-- A body is handed out once. -/
lemma exchanges_roundTrip (c : Connection σ) (body : Bytes) (read : Bytes → Act α)
    (session : Session σ) :
    (roundTrip (.ok body) read).exchanges c session =
      [⟨body, (c.endpoint.send c.peer body session.link).1.result⟩] := by
  let sent := c.endpoint.send c.peer body session.link
  have hpost : (post body).run c session =
      (sent.1.result, ⟨session.state.logged sent.1.log, sent.2⟩) := rfl
  have hsent : (post body).exchanges c session = [⟨body, sent.1.result⟩] := rfl
  have hexchanges : (roundTrip (.ok body) read).exchanges c session =
      (post body >>= fun answer => ofAct (read answer)).exchanges c session := rfl
  rw [hexchanges, ← hsent]
  cases hresult : sent.1.result with
  | error fault =>
    rw [hresult] at hpost
    exact exchanges_bind_of_error hpost _
  | ok answer =>
    rw [hresult] at hpost
    rw [exchanges_bind_of_ok hpost, exchanges_ofAct, List.append_nil]

/-- A round trip hands out nothing without a body. A body is handed out once; what comes back is read,
and a fault instead of it ends the round trip. -/
lemma roundTrip_cases (c : Connection σ) (encoded : Except Uncarried Bytes) (read : Bytes → Act α)
    (session : Session σ) :
    (∃ cause, encoded = .error cause ∧ (roundTrip encoded read).exchanges c session = [] ∧
      (roundTrip encoded read).run c session = (.error (.unserializable cause), session)) ∨
    (∃ body fault records link, encoded = .ok body ∧
      (roundTrip encoded read).exchanges c session = [⟨body, .error fault⟩] ∧
      (roundTrip encoded read).run c session =
        (.error fault, ⟨session.state.logged records, link⟩)) ∨
    (∃ body answer records link, encoded = .ok body ∧
      (roundTrip encoded read).exchanges c session = [⟨body, .ok answer⟩] ∧
      (roundTrip encoded read).run c session =
        ((read answer (session.state.logged records)).1,
          ⟨(read answer (session.state.logged records)).2, link⟩)) := by
  cases encoded with
  | error cause => exact .inl ⟨cause, rfl, rfl, rfl⟩
  | ok body =>
    have hexchanges := exchanges_roundTrip c body read session
    cases hresult : (c.endpoint.send c.peer body session.link).1.result with
    | error fault =>
      rw [hresult] at hexchanges
      exact .inr (.inl ⟨body, fault, _, _, rfl, hexchanges, run_roundTrip_of_failed read hresult⟩)
    | ok answer =>
      rw [hresult] at hexchanges
      exact .inr (.inr ⟨body, answer, _, _, rfl, hexchanges, run_roundTrip_of_answered read hresult⟩)

/-- Reading an answer is all that a round trip does to the client, apart from the log. -/
lemma nextId_roundTrip {read : Bytes → Act α} (hread : ∀ answer, KeepsIds (read answer))
    (c : Connection σ) (encoded : Except Uncarried Bytes) (session : Session σ) :
    ((roundTrip encoded read).run c session).2.state.nextId = session.state.nextId := by
  rcases roundTrip_cases c encoded read session with
    ⟨cause, _, _, hr⟩ | ⟨body, fault, records, link, _, _, hr⟩ | ⟨body, answer, records, link, _, _, hr⟩
  · rw [hr]
  · rw [hr]
    rfl
  · rw [hr]
    exact hread answer _

end Resumable

/-! ### Operations -/

namespace Resumable

lemma call_eq (registry : Registry) (ref : MethodRef) (args : List Value) :
    call registry ref args =
      ofAct (build registry ref args) >>= fun p => roundTrip p.request.encode (finish p) := rfl

lemma callRaw_eq (name params : Value) :
    callRaw name params =
      ofAct (buildRaw name params) >>= fun p => roundTrip p.request.encode (finish p) := rfl

lemma batch_eq (registry : Registry) (calls : List (MethodRef × List Value)) :
    batch registry calls = ofAct (buildBatch registry calls) >>= fun prepared =>
      if prepared.isEmpty then pure []
      else roundTrip (Request.encodeBatch (prepared.map (·.request))) (finishBatch prepared) := rfl

/-! ### Both kinds of clients -/

variable (c : Connection σ)

lemma run_roundTrip (p : Prepared) :
    (roundTrip p.request.encode (finish p)).run c = Blocking.submit c p := by
  simp only [roundTrip, Blocking.submit, run_bind, run_ofAct, run_post]

lemma run_call (ref : MethodRef) (args : List Value) :
    (call c.registry ref args).run c = Blocking.call c ref args := by
  simp only [call_eq, Blocking.call, run_bind, run_ofAct, run_roundTrip]

lemma run_callRaw (name params : Value) :
    (callRaw name params).run c = Blocking.callRaw c name params := by
  simp only [callRaw_eq, Blocking.callRaw, run_bind, run_ofAct, run_roundTrip]

lemma run_batch (calls : List (MethodRef × List Value)) :
    (batch c.registry calls).run c = Blocking.batch c calls := by
  rw [batch_eq, Blocking.batch, run_bind, run_ofAct]
  congr 1
  funext prepared
  cases prepared with
  | nil => rfl
  | cons p rest =>
    simp only [List.isEmpty_cons, Bool.false_eq_true, if_false, roundTrip, run_bind, run_ofAct,
      run_post]

lemma run_require (method detail : Text) (v : Value) :
    (require method detail v).run c =
      Blocking.ofAct (ofExcept (fun f => f) (required method detail v)) := rfl

lemma blockNumber_of_ne_null {number : Value} (h : number ≠ .null) :
    Blocking.blockNumber c number = pure number := by
  cases number <;> first | rfl | exact absurd rfl h

lemma run_blockHash (number : Value) :
    (blockHash c.registry number).run c = Blocking.blockHash c number := by
  by_cases h : number = .null
  · subst h
    simp only [blockHash, if_true, Blocking.blockHash, Blocking.blockNumber, run_bind, run_call,
      run_require, Blocking.callTyped]
  · simp only [blockHash, if_neg h, Blocking.blockHash, blockNumber_of_ne_null c h, run_bind,
      run_pure, run_call, run_require, Blocking.callTyped]

lemma run_blockByNumber (number : Value) :
    (blockByNumber c.registry number).run c = Blocking.blockByNumber c number := by
  by_cases h : number = .null
  · subst h
    simp only [blockByNumber, if_true, Blocking.blockByNumber, Blocking.blockNumber, run_bind,
      run_call, run_require, Blocking.callTyped]
  · simp only [blockByNumber, if_neg h, Blocking.blockByNumber, blockNumber_of_ne_null c h, run_bind,
      run_pure, run_call, run_require, Blocking.callTyped]

lemma run_blockByHash (hash : Value) :
    (blockByHash c.registry hash).run c = Blocking.blockByHash c hash := by
  simp only [blockByHash, Blocking.blockByHash, run_bind, run_call, run_require, Blocking.callTyped]

lemma run_transaction (hash : Value) :
    (transaction c.registry hash).run c = Blocking.transaction c hash := by
  simp only [transaction, Blocking.transaction, run_bind, run_call, run_require, Blocking.callTyped]

lemma run_helper (h : Helper) (args : List Value) :
    (helper c.registry h args).run c = Blocking.helper c h args := by
  cases h <;> simp only [helper, Blocking.helper, run_blockHash, run_blockByNumber, run_blockByHash,
    run_transaction]

lemma run_typedAs (name : Text) (args : List Value) (named : Entries Value) :
    (typedAs Blocking.className c.registry name args named).run c =
      Blocking.typed c name args named := by
  rw [typedAs, Blocking.typed, Blocking.methods_eq, Attribute.find?_typed]
  cases TypedName.find? name with
  | none => rfl
  | some found =>
    simp only [Option.map_some, TypedName.signature_toAttribute, run_bind, run_ofAct]
    congr 1
    funext bound
    cases found with
    | method m => exact run_call c _ _
    | helper h => exact run_helper c h bound

end Resumable

namespace Operation

/-- The name of the class of a kind of client. -/
def className (isResumable : Bool) : Text :=
  if isResumable then Resumable.className else Blocking.className

/-- The operation of either kind of client as one under way. -/
def dialogue (isResumable : Bool) (registry : Registry) : Operation → Resumable Result
  | .typed name args named => do
    return .value (← Resumable.typedAs (className isResumable) registry name args named)
  | op => op.resumable registry

/-- Both kinds of clients carry an operation out as its exchanges say. -/
lemma run_dialogue (isResumable : Bool) (c : Connection σ) (op : Operation) :
    (op.dialogue isResumable c.registry).run c = op.run isResumable c := by
  cases isResumable with
  | true =>
    cases op with
    | typed name args named =>
      simp only [dialogue, className, if_true, run, resumable, Resumable.typed_eq]
    | _ => rfl
  | false =>
    cases op with
    | nextId => rfl
    | _ =>
      simp only [dialogue, className, Bool.false_eq_true, if_false, resumable, run, blocking,
        Resumable.run_bind, Resumable.run_call, Resumable.run_callRaw, Resumable.run_batch,
        Resumable.run_typedAs, Resumable.run_post, Resumable.run_pure]

/-- The exchanges of an operation with the peer. -/
def exchanges (isResumable : Bool) (c : Connection σ) (op : Operation) (session : Session σ) :
    List Exchange :=
  (op.dialogue isResumable c.registry).exchanges c session

end Operation

/-! ### Scripted peers -/

/-- A connection to a peer that gives prepared answers. -/
def scripted : Connection Http.Script where
  endpoint := { url := .str "http://node", headers := [] }
  peer := Http.Script.answer

/-- The body that carries a JSON value. -/
def bodyOf (j : Json) : Bytes :=
  Utf8.encodeAll (j.write Http.Script.writeFloat)

/-- The first session with a peer that answers with these values, one after the other. -/
def Session.answered (answers : List Json) : Session Http.Script where
  link := { peer := { replies := answers.map fun j _ => Http.Script.reply j } }

end ChainRpc.Client
