import ChainRpc.Proofs.Client.Batches
import ChainRpc.Proofs.Client.History
import ChainRpc.Proofs.Envelope

/-!
# Where values come from

A value that an operation delivers has been decoded from the result of a response that came back for
that very operation, under the identifier issued for it. Identifiers are issued once, so no response
delivers a value in two places of a history, however often it is replayed.
-/

namespace ChainRpc.Client

variable {σ : Type} {registry : Registry} {p : Prepared} {response : Response} {v : Value}

/-! ### Successful responses -/

/-- A JSON object with this identifier and this result, and with no error. -/
def Success (item id result : Json) : Prop :=
  ∃ entries, item = .dict entries ∧ Entries.get? "id" entries = some id ∧
    Entries.get? "result" entries = some result ∧
      (Entries.get? "error" entries).getD .null = .null

/-- The identifier of a response, if it carries one, is an integer or a text. -/
def HasPlainId (item : Json) : Prop :=
  ∀ entries id, item = .dict entries → Entries.get? "id" entries = some id →
    id = .null ∨ (∃ n, id = .int n) ∨ ∃ t, id = .str t

/-- A response is an object with an identifier that was checked. Unless it is an error, it has its
result from the object. -/
lemma parse_eq_ok {item : Json} (h : parse item = .ok response) :
    ∃ entries, item = .dict entries ∧
      Member.withDefault (Value.ofJsonEntries entries) "id" none (Member.nullable RequestId.ofValue) =
        .ok response.id ∧
      (response.error = none → Entries.get? "result" entries = some response.result ∧
        (Entries.get? "error" entries).getD .null = .null) := by
  rw [parse, Checked.mapError_eq_ok_iff] at h
  cases item with
  | dict entries =>
    rw [Value.ofJson, Response.ofValue] at h
    split at h
    · cases h
    · next houtcome =>
      obtain ⟨version, ⟨id, result, error⟩, _, hmembers, rfl⟩ := Checked.map_both_eq_ok_iff.mp h
      obtain ⟨hid, hmembers⟩ := Checked.both_eq_ok_iff.mp hmembers
      obtain ⟨hresult, herror⟩ := Checked.both_eq_ok_iff.mp hmembers
      refine ⟨entries, rfl, hid, fun hnone => ?_⟩
      obtain rfl : error = none := hnone
      simp only [Response.hasValue, Entries.has, Member.withDefault, Value.get?_ofJsonEntries]
        at houtcome hresult herror
      have hnull : (Entries.get? "error" entries).getD .null = .null := by
        cases he : Entries.get? "error" entries with
        | none => rfl
        | some e =>
          rw [he] at herror
          have hv := Member.nullable_eq_ok_none_iff.mp (Checked.under_eq_ok_iff.mp herror)
          cases e <;> first | rfl | cases hv
      refine ⟨?_, hnull⟩
      cases hr : Entries.get? "result" entries with
      | none =>
        exfalso
        apply houtcome
        rw [hr]
        cases he : Entries.get? "error" entries with
        | none => rfl
        | some e =>
          rw [he] at hnull
          obtain rfl : e = .null := hnull
          rfl
      | some r =>
        rw [hr] at hresult
        rw [Value.eq_of_toJson_ofJson (Checked.under_eq_ok_iff.mp hresult)]
  | _ => cases h

/-- An identifier that is read as an integer is one, if it is no number of another kind. -/
lemma get?_id_eq_int {entries : List (Text × Json)} {n : Int} (hplain : HasPlainId (.dict entries))
    (h : Member.withDefault (Value.ofJsonEntries entries) "id" none
      (Member.nullable RequestId.ofValue) = .ok (some (.int n))) :
    Entries.get? "id" entries = some (.int n) := by
  rw [Member.withDefault, Value.get?_ofJsonEntries] at h
  cases hid : Entries.get? "id" entries with
  | none =>
    rw [hid] at h
    cases h
  | some id =>
    rw [hid] at h
    have hcheck := Checked.under_eq_ok_iff.mp h
    rcases hplain entries id rfl hid with rfl | ⟨m, rfl⟩ | ⟨t, rfl⟩
    · cases hcheck
    · cases hcheck
      rfl
    · cases hcheck

/-- A value comes from the result of a success, by the descriptor of its method. -/
lemma success_of_verdict {item : Json} {n : Int} (hparse : parse item = .ok response)
    (hid : response.id = some (.int n)) (hplain : HasPlainId item)
    (hverdict : verdict p response = .ok v) :
    ∃ result, Success item (.int n) result ∧
      p.method.decodeResult (Value.ofJson result) = .ok v := by
  obtain ⟨entries, rfl, hmember, hresult⟩ := parse_eq_ok hparse
  unfold verdict at hverdict
  split at hverdict
  · cases hverdict
  · next hnone =>
    obtain ⟨hr, he⟩ := hresult hnone
    rw [hid] at hmember
    exact ⟨response.result, ⟨entries, rfl, get?_id_eq_int hplain hmember, hr, he⟩,
      Checked.mapError_eq_ok_iff.mp hverdict⟩

/-! ### Operations that read a value -/

namespace Resumable

variable {c : Connection σ} {session session' : Session σ} {method? : Option Method}

/-- A value of the operation is read, by the method given, from the answer to the last body, which is
that of a request under the last identifier that the operation has taken. -/
def Reads (c : Connection σ) (x : Resumable Value) (method? : Option Method) : Prop :=
  ∀ session v session', x.run c session = (.ok v, session') →
    ∃ (p : Prepared) (n : Nat) (e : Exchange) (answer : Bytes) (s s' : State),
      method? = some p.method ∧ p.request.id = .int n ∧
      session.state.nextId ≤ n ∧ session'.state.nextId = n + 1 ∧
      (x.exchanges c session).getLast? = some e ∧ p.request.encode = .ok e.body ∧
      e.answer = .ok answer ∧ finish p answer s = (.ok v, s')

lemma submit_eq_ok (h : (submit p).run c session = (.ok v, session')) :
    ∃ body answer s s', p.request.encode = .ok body ∧
      (submit p).exchanges c session = [⟨body, .ok answer⟩] ∧ finish p answer s = (.ok v, s') := by
  rcases roundTrip_cases c p.request.encode (finish p) session with
    ⟨_, _, _, hr⟩ | ⟨_, _, _, _, _, _, hr⟩ | ⟨body, answer, records, link, hb, he, hr⟩
  · cases h.symm.trans hr
  · cases h.symm.trans hr
  · have hv := congrArg Prod.fst (hr.symm.trans h)
    exact ⟨body, answer, session.state.logged records, _, hb, he, Prod.ext hv rfl⟩

namespace Reads

lemma call (registry : Registry) (ref : MethodRef) (args : List Value) :
    Reads c (call registry ref args) (ref.find registry).toOption := by
  intro session v session' h
  rcases call_cases c registry ref args session with
    ⟨_, _, _, hr⟩ | ⟨_, _, _, _, hr⟩ | ⟨w, message, hw, _, he, hr⟩
  · cases h.symm.trans hr
  · cases h.symm.trans hr
  · have hsubmit := hr.symm.trans h
    obtain ⟨body, answer, s, s', hbody, hsent, hf⟩ := submit_eq_ok hsubmit
    have hnext := nextId_submit c (w.numbered session.state.nextId)
      ⟨(session.state.issued 1).logged [⟨.debug, message⟩], session.link⟩
    rw [hsubmit] at hnext
    refine ⟨w.numbered session.state.nextId, session.state.nextId, ⟨body, .ok answer⟩, answer, s, s',
      ?_, rfl, Nat.le_refl _, hnext, ?_, hbody, rfl, hf⟩
    · rw [(wireCall_eq_ok_iff.mp hw).1]
      rfl
    · rw [he, hsent]
      rfl

lemma callRaw (name params : Value) :
    Reads c (callRaw name params) (some { name := name.spoken?.getD [] }) := by
  intro session v session' h
  rcases callRaw_cases c name params session with
    ⟨_, _, _, hr⟩ | ⟨_, _, _, _, hr⟩ | ⟨p, message, hp, _, he, hr⟩
  · cases h.symm.trans hr
  · cases h.symm.trans hr
  · have hsubmit := hr.symm.trans h
    obtain ⟨body, answer, s, s', hbody, hsent, hf⟩ := submit_eq_ok hsubmit
    have hnext := nextId_submit c p
      ⟨(session.state.issued 1).logged [⟨.debug, message⟩], session.link⟩
    rw [hsubmit] at hnext
    obtain ⟨_, _, _, _, _, _, rfl⟩ := rawRequest_eq_ok_iff.mp hp
    refine ⟨_, session.state.nextId, ⟨body, .ok answer⟩, answer, s, s', rfl, rfl, Nat.le_refl _, hnext,
      ?_, hbody, rfl, hf⟩
    rw [he, hsent]
    rfl

/-- What goes before leaves the last exchange and the last identifier to the operation. -/
lemma bind {α : Type} {x : Resumable α} {f : α → Resumable Value} (hx : Advances c x)
    (hf : ∀ a, Reads c (f a) method?) : Reads c (x >>= f) method? := by
  intro session v session' h
  rw [run_bind, bind_apply] at h
  rcases hr : x.run c session with ⟨fault | a, middle⟩
  · rw [hr] at h
    cases h
  · rw [hr] at h
    obtain ⟨p, n, e, answer, s, s', hm, hid, hle, hnext, he, hrest⟩ := hf a _ _ _ h
    have hadvance := hx session
    rw [hr] at hadvance
    refine ⟨p, n, e, answer, s, s', hm, hid, Nat.le_trans hadvance hle, hnext, ?_, hrest⟩
    rw [exchanges_bind_of_ok hr, List.getLast?_append, he]
    rfl

/-- Requiring a value changes nothing where there is one. -/
lemma require {x : Resumable Value} (hx : Reads c x method?) (method : Text)
    (detail : Text) : Reads c (x >>= fun v => Resumable.require method detail v) method? := by
  intro session v session' h
  rw [run_bind, bind_apply] at h
  rcases hr : x.run c session with ⟨fault | a, middle⟩
  · rw [hr] at h
    cases h
  · rw [hr] at h
    have hrequired : required method detail a = .ok v ∧ session' = middle := by
      dsimp only at h
      rw [run_require, Blocking.ofAct, ofExcept_apply] at h
      obtain ⟨hv, hs⟩ := Prod.mk.inj h
      exact ⟨Checked.mapError_eq_ok_iff.mp hv, hs.symm⟩
    obtain ⟨hv, rfl⟩ := hrequired
    have hav : a = v := by cases a <;> first | cases hv; rfl | cases hv
    subst hav
    obtain ⟨p, n, e, answer, s, s', hm, hid, hle, hnext, he, hrest⟩ := hx _ _ _ hr
    refine ⟨p, n, e, answer, s, s', hm, hid, hle, hnext, ?_, hrest⟩
    rw [exchanges_bind_of_ok hr, List.getLast?_append, he]
    rfl

lemma fetch (registry : Registry) (m : Method) (method detail : Text) (arg : Value) :
    Reads c (fetch registry m method detail arg) (some m) :=
  .require (.call registry (.direct m) [arg]) method detail

lemma withNumber (registry : Registry) (number : Value) {f : Value → Resumable Value}
    (hf : ∀ number, Reads c (f number) method?) :
    Reads c (withNumber registry number f) method? := by
  unfold Resumable.withNumber
  split
  · exact .bind (.call _ _ _) hf
  · exact hf number

end Reads

end Resumable

/-- The method by which a helper decodes its value. -/
def Helper.descriptor : Helper → Method
  | .blockHash | .tipBlockHash | .genesisHash     => .getBlockHash
  | .blockByNumber | .lastBlock | .genesisBlock   => .getBlockByNumber
  | .blockByHash => .getBlock
  | .transaction => .getTransaction

/-- The method by which a typed method or helper decodes its value. -/
def TypedName.descriptor : TypedName → Method
  | .method m => m
  | .helper h => h.descriptor

namespace Resumable.Reads

variable {c : Connection σ}

lemma blockHash (registry : Registry) (number : Value) :
    Reads c (blockHash registry number) (some .getBlockHash) :=
  .withNumber registry number fun _ => .fetch _ _ _ _ _

lemma blockByNumber (registry : Registry) (number : Value) :
    Reads c (blockByNumber registry number) (some .getBlockByNumber) :=
  .withNumber registry number fun _ => .fetch _ _ _ _ _

lemma helper (registry : Registry) (h : Helper) (args : List Value) :
    Reads c (helper registry h args) (some h.descriptor) := by
  cases h with
  | blockHash => exact .blockHash registry _
  | tipBlockHash => exact .blockHash registry .null
  | genesisHash => exact .blockHash registry (.int 0)
  | blockByNumber => exact .blockByNumber registry _
  | lastBlock => exact .blockByNumber registry .null
  | genesisBlock => exact .blockByNumber registry (.int 0)
  | blockByHash => exact .fetch registry .getBlock _ _ _
  | transaction => exact .fetch registry .getTransaction _ _ _

lemma typedAs (className : Text) (registry : Registry) (name : Text) (args : List Value)
    (named : Entries Value) :
    Reads c (typedAs className registry name args named)
      ((TypedName.find? name).map TypedName.descriptor) := by
  unfold Resumable.typedAs
  cases TypedName.find? name with
  | none => exact fun _ _ _ h => nomatch h
  | some found =>
    refine .bind (.ofAct (.ofExcept _ _)) fun bound => ?_
    cases found with
    | method m => exact .call registry (.direct m) bound
    | helper h => exact .helper registry h bound

end Resumable.Reads

/-- A batch with results has sent its requests, and the results are read from the array that came
back. -/
lemma Resumable.batch_eq_ok {c : Connection σ} {session session' : Session σ}
    {calls : List (MethodRef × List Value)} {results : List (Except Fault Value)}
    (h : (batch registry calls).run c session = (.ok results, session')) (hne : results ≠ []) :
    ∃ ws body answer items, WireCalls registry calls ws ∧
      let prepared := numberedFrom session.state.nextId ws
      (batch registry calls).exchanges c session = [⟨body, .ok answer⟩] ∧
      Request.encodeBatch (prepared.map (·.request)) = .ok body ∧
      Json.ofBytes answer = .ok (.list items) ∧ results = prepared.map (slotResult items) ∧
      session'.state.nextId = session.state.nextId + ws.length := by
  rcases batch_cases c registry calls session with
    ⟨ws, built, hws, _, _, he, hr⟩ | ⟨_, _, _, _, _, _, _, _, _, _, _, hr⟩ |
      ⟨_, _, _, _, _, _, _, _, _, _, _, _, hr⟩
  · have hrun := hr.symm.trans h
    have hnext := nextId_submitAll c (numberedFrom session.state.nextId ws)
      ⟨(session.state.issued ws.length).logged built, session.link⟩
    rw [hrun] at hnext
    by_cases hnil : numberedFrom session.state.nextId ws = []
    · rw [hnil] at hrun
      exact absurd (Except.ok.inj (congrArg Prod.fst hrun)).symm hne
    · rw [submitAll_of_ne_nil hnil] at he hrun
      rcases roundTrip_cases c _ _ _ with
        ⟨_, _, _, ht⟩ | ⟨_, _, _, _, _, _, ht⟩ | ⟨body, answer, records, link, hb, hs, ht⟩
      · cases hrun.symm.trans ht
      · cases hrun.symm.trans ht
      · have hv := congrArg Prod.fst (ht.symm.trans hrun)
        obtain ⟨items, hload, hresults⟩ :=
          finishBatch_eq_ok (nodup_ids_numberedFrom _ _) (Prod.ext hv rfl)
        exact ⟨ws, body, answer, items, hws, he.trans hs, hb, hload, hresults, hnext⟩
  · cases h.symm.trans hr
  · cases h.symm.trans hr

/-! ### Deliveries -/

/-- The method by which an operation decodes the value in one of its places. -/
def Operation.descriptor? (registry : Registry) : Operation → (place : Nat) → Option Method
  | .call ref _, _       => (ref.find registry).toOption
  | .callRaw name _, _   => some { name := name.spoken?.getD [] }
  | .batch calls, i      => calls[i]?.bind fun call => (call.1.find registry).toOption
  | .typed name _ _, _   => (TypedName.find? name).map TypedName.descriptor
  | .nextId, _ | .post _, _ => none

/-- The items of a body in which responses can stand. -/
def responsesIn (body : Bytes) : List Json :=
  match Json.ofBytes body with
  | .ok (.list items) => items
  | .ok payload       => [payload]
  | .error _          => []

/-- A body asks for something under an identifier: it is a request, or has one in this place of a
batch. -/
def Asks (body : Bytes) (place : Nat) (id : RequestId) : Prop :=
  (place = 0 ∧ ∃ r : Request, r.encode = .ok body ∧ r.id = id) ∨
    ∃ rs, Request.encodeBatch rs = .ok body ∧ rs[place]?.map (·.id) = some id

namespace Turn

/-- The value that a turn delivers in a place: in a slot of a batch, or in the only place of another
operation. -/
def delivered? (t : Turn σ) (place : Nat) : Option Value :=
  match t.result with
  | .ok (.value v)       => if place = 0 then some v else none
  | .ok (.slots results) => results[place]?.bind (·.toOption)
  | _                    => none

/-- The identifier issued for a place of a turn: those of a batch follow each other, and another
operation has the last one that it has taken. -/
def idAt (t : Turn σ) (place : Nat) : Nat :=
  match t.result with
  | .ok (.slots _) => t.before.state.nextId + place
  | _              => t.after.state.nextId - 1

/-- A turn delivers a value in a place from a response under an identifier. -/
structure Delivers (registry : Registry) (t : Turn σ) (place n : Nat) (v : Value) : Prop where
  delivered : t.delivered? place = some v
  id : t.idAt place = n
  issued : t.before.state.nextId ≤ n ∧ n < t.after.state.nextId
  /-- The value is decoded from a success that answers the last body of the turn. -/
  source : ∃ e answer item result method, t.exchanges.getLast? = some e ∧
    Asks e.body place (.int n) ∧ e.answer = .ok answer ∧ item ∈ responsesIn answer ∧
    Success item (.int n) result ∧ t.op.descriptor? registry place = some method ∧
    method.decodeResult (Value.ofJson result) = .ok v

/-- All responses that come back in a turn have plain identifiers. -/
def GetsPlainIds (t : Turn σ) : Prop :=
  ∀ e ∈ t.exchanges, ∀ answer, e.answer = .ok answer → ∀ item ∈ responsesIn answer, HasPlainId item

end Turn

lemma responsesIn_of_not_list {body : Bytes} {payload : Json} (hload : Json.ofBytes body = .ok payload)
    (hlist : ∀ items, payload ≠ .list items) : responsesIn body = [payload] := by
  rw [responsesIn, hload]
  split
  · next h => exact absurd (Except.ok.inj h) (hlist _)
  · next h => rw [Except.ok.inj h]
  · next h => cases h

namespace Operation

variable {isResumable : Bool} {c : Connection σ} {session : Session σ}

/-- An operation that reads a value delivers it from a response under its identifier. -/
lemma delivers_of_reads {op : Operation} {x : Resumable Value} {method? : Option Method}
    (hx : x.Reads c method?) (hmethod : op.descriptor? c.registry 0 = method?)
    (hd : op.dialogue isResumable c.registry = x >>= fun v => pure (.value v))
    (hplain : (op.turn isResumable c session).GetsPlainIds) {place : Nat}
    (h : (op.turn isResumable c session).delivered? place = some v) :
    ∃ n, (op.turn isResumable c session).Delivers c.registry place n v := by
  have hresult : (op.turn isResumable c session).result = (x.run c session).1.map .value :=
    congrArg Prod.fst (run_of_dialogue hd session)
  have hafter : (op.turn isResumable c session).after = (x.run c session).2 :=
    congrArg Prod.snd (run_of_dialogue hd session)
  rcases hr : x.run c session with ⟨fault | w, session'⟩
  · rw [hr] at hresult
    rw [Turn.delivered?, hresult] at h
    cases h
  · rw [hr] at hresult hafter
    have h' := h
    rw [Turn.delivered?, hresult] at h'
    obtain ⟨rfl, rfl⟩ : place = 0 ∧ w = v := by simpa [Except.map] using h'
    obtain ⟨p, n, e, answer, s, s', hm, hid, hle, hnext, he, hbody, hanswer, hf⟩ := hx _ _ _ hr
    obtain ⟨payload, response, hload, hlist, hparse, hresponse, hverdict⟩ := finish_eq_ok hf
    have hitem : payload ∈ responsesIn answer := by
      rw [responsesIn_of_not_list hload hlist]
      exact List.mem_cons_self
    have hlast : (op.turn isResumable c session).exchanges.getLast? = some e := by
      rw [← he, ← exchanges_of_dialogue hd]
      rfl
    rw [hid] at hresponse
    obtain ⟨result, hsuccess, hdecoded⟩ := success_of_verdict hparse hresponse
      (hplain e (List.mem_of_getLast? hlast) answer hanswer payload hitem) hverdict
    refine ⟨n, h, ?_, ⟨hle, ?_⟩, e, answer, payload, result, p.method, hlast, ?_, hanswer, hitem,
      hsuccess, hmethod.trans hm, hdecoded⟩
    · rw [Turn.idAt, hresult, hafter, hnext]
      rfl
    · rw [hafter, hnext]
      exact Nat.lt_succ_self n
    · exact .inl ⟨rfl, p.request, hbody, hid⟩

/-- A batch delivers a value in a slot from a response under the identifier of its request. -/
lemma delivers_of_batch {calls : List (MethodRef × List Value)}
    (hplain : ((Operation.batch calls).turn isResumable c session).GetsPlainIds) {place : Nat}
    (h : ((Operation.batch calls).turn isResumable c session).delivered? place = some v) :
    ∃ n, ((Operation.batch calls).turn isResumable c session).Delivers c.registry place n v := by
  have hresult : ((Operation.batch calls).turn isResumable c session).result = _ :=
    congrArg Prod.fst (run_batch isResumable c session calls)
  have hafter : ((Operation.batch calls).turn isResumable c session).after = _ :=
    congrArg Prod.snd (run_batch isResumable c session calls)
  rcases hr : (Resumable.batch c.registry calls).run c session with ⟨fault | results, session'⟩
  · rw [hr] at hresult
    rw [Turn.delivered?, hresult] at h
    cases h
  · rw [hr] at hresult hafter
    have h' := h
    rw [Turn.delivered?, hresult] at h'
    obtain ⟨slot, hslot, hv⟩ := Option.bind_eq_some_iff.mp h'
    obtain rfl : slot = .ok v := by
      cases slot <;> cases hv
      rfl
    have hne : results ≠ [] := by
      rintro rfl
      cases hslot
    obtain ⟨ws, body, answer, items, hws, hsent, hbody, hload, hresults, hnext⟩ :=
      Resumable.batch_eq_ok hr hne
    rw [hresults, List.getElem?_map, getElem?_numberedFrom] at hslot
    obtain ⟨p, hp, hgot⟩ := Option.map_eq_some_iff.mp hslot
    obtain ⟨w, hw, rfl⟩ := Option.map_eq_some_iff.mp hp
    obtain ⟨item, hitem, response, hparse, hid, hverdict⟩ := slotResult_eq_ok hgot
    have hlast : ((Operation.batch calls).turn isResumable c session).exchanges =
        [⟨body, .ok answer⟩] := (exchanges_batch isResumable c session calls).trans hsent
    have hin : item ∈ responsesIn answer := by
      rw [responsesIn, hload]
      exact hitem
    obtain ⟨result, hsuccess, hdecoded⟩ := success_of_verdict hparse hid
      (hplain _ (by rw [hlast]; exact List.mem_cons_self) answer rfl item hin) hverdict
    have hplace : place < ws.length := (List.getElem?_eq_some_iff.mp hw).1
    refine ⟨session.state.nextId + place, h, ?_, ⟨Nat.le_add_right _ _, ?_⟩, ⟨body, .ok answer⟩, answer,
      item, result, w.method, ?_, .inr ⟨_, hbody, ?_⟩, rfl, hin, hsuccess, ?_, hdecoded⟩
    · rw [Turn.idAt, hresult]
      rfl
    · rw [hafter, hnext]
      exact Nat.add_lt_add_left hplace _
    · rw [hlast]
      rfl
    · rw [List.getElem?_map, getElem?_numberedFrom, hw]
      rfl
    · obtain ⟨call, hcall, hwire⟩ := hws.getElem? hw
      show calls[place]?.bind _ = _
      rw [hcall, Option.bind_some, (wireCall_eq_ok_iff.mp hwire).1]
      rfl

/-- Whatever a turn delivers comes from a response that came back in it. -/
lemma delivers_turn {op : Operation} (hplain : (op.turn isResumable c session).GetsPlainIds)
    {place : Nat} (h : (op.turn isResumable c session).delivered? place = some v) :
    ∃ n, (op.turn isResumable c session).Delivers c.registry place n v := by
  cases op with
  | nextId =>
    have hresult : (Operation.nextId.turn isResumable c session).result = _ :=
      congrArg Prod.fst (run_nextId isResumable c session)
    rw [Turn.delivered?, hresult] at h
    cases h
  | call ref args => exact delivers_of_reads (.call _ _ _) rfl rfl hplain h
  | callRaw name params => exact delivers_of_reads (.callRaw _ _) rfl rfl hplain h
  | batch calls => exact delivers_of_batch hplain h
  | typed name args named => exact delivers_of_reads (.typedAs _ _ _ _ _) rfl rfl hplain h
  | post body =>
    have hresult : ((Operation.post body).turn isResumable c session).result =
        ((Resumable.post body).run c session).1.map .body :=
      congrArg Prod.fst (run_of_dialogue rfl session)
    rw [Turn.delivered?, hresult] at h
    cases hr : ((Resumable.post body).run c session).1 with
    | error fault =>
      rw [hr] at h
      cases h
    | ok b =>
      rw [hr] at h
      cases h

/-! ### Histories -/

/-- A turn delivers under one identifier in one place only. -/
lemma place_unique {registry : Registry} {t : Turn σ} {i j n : Nat} {w : Value}
    (hi : t.Delivers registry i n v) (hj : t.Delivers registry j n w) : i = j := by
  have hids : t.idAt i = t.idAt j := hi.id.trans hj.id.symm
  have hdi := hi.delivered
  have hdj := hj.delivered
  unfold Turn.idAt at hids
  unfold Turn.delivered? at hdi hdj
  split at hdi
  · next h =>
    rw [h] at hdj
    have hi0 : i = 0 := by
      by_contra hne
      rw [if_neg hne] at hdi
      cases hdi
    have hj0 : j = 0 := by
      by_contra hne
      dsimp only at hdj
      rw [if_neg hne] at hdj
      cases hdj
    rw [hi0, hj0]
  · next h =>
    rw [h] at hids
    exact Nat.add_left_cancel hids
  · cases hdi

/-- Every value that a history delivers was decoded, by the descriptor of its operation, from a success
that came back in that very turn under the identifier issued for its place. Responses under the same
identifier deliver in the same place, and successes without an identifier deliver nothing. -/
theorem no_value_is_misattributed (isResumable : Bool) (c : Connection σ) (ops : List Operation)
    (session : Session σ) (hplain : ∀ t ∈ turns isResumable c ops session, t.GetsPlainIds) :
    let history := turns isResumable c ops session
    (∀ t ∈ history, ∀ place v, t.delivered? place = some v →
      ∃ n, t.Delivers c.registry place n v) ∧
    (∀ (a b : Nat) t u i j n v w, history[a]? = some t → history[b]? = some u →
      t.Delivers c.registry i n v → u.Delivers c.registry j n w → a = b ∧ i = j) ∧
    (∀ t ∈ history,
      (∀ e ∈ t.exchanges, ∀ answer, e.answer = .ok answer → ∀ item ∈ responsesIn answer,
        ∀ id result, Success item id result → id = .null) →
      ∀ place, t.delivered? place = none) := by
  intro history
  have hdelivers : ∀ t ∈ history, ∀ place v, t.delivered? place = some v →
      ∃ n, t.Delivers c.registry place n v := by
    intro t ht place v h
    have hturn := eq_turn_of_mem ht
    have hids := hplain t ht
    rw [hturn] at h hids ⊢
    exact delivers_turn hids h
  refine ⟨hdelivers, ?_, ?_⟩
  · intro a b t u i j n v w ha hb ht hu
    have hordered (a b : Nat) (t u : Turn σ) (hab : a < b) (ha : history[a]? = some t)
        (hb : history[b]? = some u) : t.after.state.nextId ≤ u.before.state.nextId := by
      obtain ⟨hla, rfl⟩ := List.getElem?_eq_some_iff.mp ha
      obtain ⟨hlb, rfl⟩ := List.getElem?_eq_some_iff.mp hb
      exact List.pairwise_iff_getElem.mp (pairwise_turns ops session) a b hla hlb hab
    -- Turns at two places of the history have no identifier in common.
    rcases Nat.lt_trichotomy a b with hab | rfl | hab
    · have h := hordered a b t u hab ha hb
      exact absurd (Nat.lt_of_lt_of_le ht.issued.2 h) (Nat.not_lt_of_le hu.issued.1)
    · obtain rfl := Option.some.inj (ha.symm.trans hb)
      exact ⟨rfl, place_unique ht hu⟩
    · have h := hordered b a u t hab hb ha
      exact absurd (Nat.lt_of_lt_of_le hu.issued.2 h) (Nat.not_lt_of_le ht.issued.1)
  · intro t ht hnull place
    cases h : t.delivered? place with
    | none => rfl
    | some v =>
      obtain ⟨n, hd⟩ := hdelivers t ht place v h
      obtain ⟨e, answer, item, result, _, he, _, hanswer, hitem, hsuccess, _⟩ := hd.source
      cases hnull e (List.mem_of_getLast? he) answer hanswer item hitem _ _ hsuccess

/-- A success under the identifier 1. -/
def firstSuccess : Json := .dict [("id", .int 1), ("result", .str "a")]

lemma hasPlainId_firstSuccess : HasPlainId firstSuccess := by
  intro entries id hentries hid
  cases hentries
  cases hid
  exact .inr (.inl ⟨1, rfl⟩)

/-- Two calls that get the same success. -/
def replayed : List (Turn Http.Script) :=
  turns false scripted (List.replicate 2 (.call (.direct { name := "m" }) []))
    (.answered [firstSuccess, firstSuccess])

/-- A response that is replayed delivers its value only the first time. -/
theorem no_value_is_misattributed_replayed :
    replayed.map (·.delivered? 0) = [some (.str "a"), none] ∧
      ∃ t ∈ replayed, ∃ n, t.Delivers .ckb 0 n (.str "a") := by
  have hanswers : ∀ t ∈ replayed, ∀ e ∈ t.exchanges,
      e.answer.toOption.map responsesIn = some [firstSuccess] := by decide +kernel
  have hplain : ∀ t ∈ replayed, t.GetsPlainIds := by
    intro t ht e he answer hanswer item hitem
    have h := hanswers t ht e he
    rw [hanswer] at h
    obtain rfl : item = firstSuccess :=
      List.mem_singleton.mp (Option.some.inj h ▸ hitem)
    exact hasPlainId_firstSuccess
  have hdelivered : replayed.map (·.delivered? 0) = [some (.str "a"), none] := by decide +kernel
  obtain ⟨t, ht, hv⟩ : ∃ t ∈ replayed, t.delivered? 0 = some (.str "a") :=
    List.mem_map.mp (hdelivered ▸ List.mem_cons_self)
  have h := no_value_is_misattributed false scripted _ _ hplain
  exact ⟨hdelivered, t, ht, h.1 t ht 0 _ hv⟩

end Operation

end ChainRpc.Client
