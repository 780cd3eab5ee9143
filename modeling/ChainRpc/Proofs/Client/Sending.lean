import ChainRpc.Proofs.Client.Operations
import ChainRpc.Proofs.Client.Reading
import ChainRpc.Proofs.Client.Refusals
import ChainRpc.Proofs.Request
import ChainRpc.Proofs.Shape.Fits

/-!
# What is sent and what is not

A request that is not refused has a body, provided its texts are whole and its values are not nested too
deep; that body is handed to the transport once. Reading the answer never fails as a refusal does, so a
client that reports an unknown method or arguments that do not fit has sent nothing.
-/

namespace ChainRpc.Client

variable {σ α β : Type} {registry : Registry} {call : MethodRef × List Value}
  {calls : List (MethodRef × List Value)}

/-! ### Faults of reading -/

/-- The step fails in other ways only. -/
def NeverRejects (x : Act α) : Prop :=
  ∀ s fault s', x s = (.error fault, s') → isRejection fault = false

lemma isRejection_eq_false_of_readingFault {body : Bytes} {fault : Fault}
    (h : ReadingFault body fault) : isRejection fault = false := by
  cases h with
  | client h => cases fault <;> first | rfl | cases h
  | @document cause _ => cases cause <;> rfl

lemma neverRejects_of_readingFault {x : Act α} {body : Bytes}
    (h : FailsOnly (ReadingFault body) x) : NeverRejects x :=
  h.mono fun _ => isRejection_eq_false_of_readingFault

lemma neverRejects_finish (p : Prepared) (body : Bytes) : NeverRejects (finish p body) :=
  neverRejects_of_readingFault ((failsOnly_finish p body).mono fun _ h => h.reading)

lemma neverRejects_finishBatch {prepared : List Prepared}
    (hn : (prepared.map (·.request.id)).Nodup) (body : Bytes) :
    NeverRejects (finishBatch prepared body) :=
  neverRejects_of_readingFault (failsOnly_finishBatch hn body)

/-! ### Sending -/

namespace Resumable

variable {p : Prepared}

/-- A round trip with a body hands it out once, and a rejection can only come from the transport. -/
lemma roundTrip_sends {encoded : Except Uncarried Bytes} {body : Bytes} {read : Bytes → Act α}
    (hbody : encoded = .ok body) (hread : ∀ answer, NeverRejects (read answer)) (c : Connection σ)
    (session : Session σ) :
    ∃ e, (roundTrip encoded read).exchanges c session = [e] ∧ e.body = body ∧
      ∀ fault, ((roundTrip encoded read).run c session).1 = .error fault → isRejection fault →
        e.answer = .error fault := by
  subst hbody
  rcases roundTrip_cases c (.ok body) read session with
    ⟨_, hb, _, _⟩ | ⟨_, fault, records, link, hb, he, hr⟩ | ⟨_, answer, records, link, hb, he, hr⟩
  · cases hb
  · cases hb
    refine ⟨_, he, rfl, fun found hfound _ => ?_⟩
    rw [hr] at hfound
    cases hfound
    rfl
  · cases hb
    refine ⟨_, he, rfl, fun found hfound hrejection => ?_⟩
    rw [hr] at hfound
    have hnever := hread answer _ found _ (Prod.ext hfound rfl)
    rw [hnever] at hrejection
    cases hrejection

lemma submit_sends (hp : p.request.obstacle? = none) (c : Connection σ) (session : Session σ) :
    ∃ e, (submit p).exchanges c session = [e] ∧ p.request.encode = .ok e.body ∧
      ∀ fault, ((submit p).run c session).1 = .error fault → isRejection fault →
        e.answer = .error fault := by
  obtain ⟨body, hbody⟩ := Request.encode_of_obstacle? hp
  obtain ⟨e, he, hb, hr⟩ := roundTrip_sends hbody (neverRejects_finish p) c session
  exact ⟨e, he, hb ▸ hbody, hr⟩

lemma submitAll_sends {prepared : List Prepared} (hne : prepared ≠ [])
    (hn : (prepared.map (·.request.id)).Nodup) (hp : ∀ p ∈ prepared, p.request.obstacle? = none)
    (c : Connection σ) (session : Session σ) :
    ∃ e, (submitAll prepared).exchanges c session = [e] ∧
      Request.encodeBatch (prepared.map (·.request)) = .ok e.body ∧
      ∀ fault, ((submitAll prepared).run c session).1 = .error fault → isRejection fault →
        e.answer = .error fault := by
  obtain ⟨body, hbody⟩ := Request.encodeBatch_of_obstacle? (List.forall_mem_map.mpr hp)
  rw [submitAll_of_ne_nil hne]
  obtain ⟨e, he, hb, hr⟩ := roundTrip_sends hbody (neverRejects_finishBatch hn) c session
  exact ⟨e, he, hb ▸ hbody, hr⟩

end Resumable

/-! ### Scope -/

/-- How deep the values of arguments may be nested. -/
def depthLimit : Nat := 200

/-- The texts of the call are whole, and its values are not nested too deep. -/
def InScope (call : MethodRef × List Value) : Prop :=
  (∀ m, call.1 = .direct m → m.hasWholeNames) ∧ ∀ v ∈ call.2, v.Fits depthLimit

/-- A call in scope has a request with a body. -/
lemma obstacle?_numbered {w : WireCall} (hregistry : ∀ m ∈ registry.methods, m.hasWholeNames)
    (hscope : InScope call) (hw : wireCall registry call.1 call.2 = .ok w) (n : Nat) :
    (w.numbered n).request.obstacle? = none := by
  obtain ⟨hmethod, hparams⟩ := wireCall_eq_ok_iff.mp hw
  have hm : w.method.hasWholeNames := by
    cases hcall : call.1 with
    | named name =>
      rw [hcall, MethodRef.find, Checked.mapError_eq_ok_iff] at hmethod
      exact hregistry _ (Registry.mem_of_get hmethod)
    | direct m =>
      rw [hcall] at hmethod
      cases hmethod
      exact hscope.1 _ hcall
  exact Request.obstacle?_eq_none rfl (Method.isWhole_name hm)
    (Method.fits_of_encodeParams hm hscope.2 hparams) (by decide)

/-- A request by name alone has a body if its name and its items are in scope. -/
lemma obstacle?_raw {name : Value} {items : List Value} {n : Nat} {p : Prepared}
    (hname : name.Fits depthLimit) (hitems : ∀ v ∈ items, v.Fits depthLimit)
    (hp : rawRequest name (.list items) n = .ok p) : p.request.obstacle? = none := by
  obtain ⟨is, t, js, his, ht, hjs, rfl⟩ := rawRequest_eq_ok_iff.mp hp
  cases his
  exact Request.obstacle?_eq_none rfl (Shape.isWhole_of_text hname ht)
    (Value.fits_of_toJsonItems hitems hjs) (by decide)

/-- The operation is one of a client proper, its texts are whole and its values are not nested too deep.
A call by name alone has a list of parameters, and the arguments of a typed method fit its
signature. -/
def Operation.InScope (isResumable : Bool) : Operation → Prop
  | .nextId => True
  | .call ref args => Client.InScope (ref, args)
  | .callRaw name params =>
    name.Fits depthLimit ∧ ∃ items, params = .list items ∧ ∀ v ∈ items, v.Fits depthLimit
  | .batch calls => ∀ call ∈ calls, Client.InScope call
  | .typed name args named =>
    (∃ m bound, TypedName.find? name = some (.method m) ∧
      (m.signature (className isResumable)).bind args named = .ok bound) ∧
    (∀ v ∈ args, v.Fits depthLimit) ∧ ∀ e ∈ named, e.2.Fits depthLimit
  | .post _ => False

end ChainRpc.Client
