import ChainRpc.Proofs.Client.Batches
import ChainRpc.Proofs.Client.History
import Mathlib.Data.List.Nodup

/-!
# Batches and single calls agree

Calls can be made one after the other or in one batch. If every request is answered by a response under
its identifier, both ways give the same results, send the same requests and take the same identifiers,
whatever order the responses of the batch come in.
-/

namespace ChainRpc.Client

variable {σ τ : Type} {reply : Request → Json} {prepared : List Prepared} {p : Prepared}

/-! ### Replies -/

/-- Every request is answered by a response under its identifier. -/
def Replies (reply : Request → Json) (prepared : List Prepared) : Prop :=
  ∀ p ∈ prepared,
    ∃ response, parse (reply p.request) = .ok response ∧ response.id = some p.request.id

/-- What the answer to its request gives a call. -/
def replyResult (reply : Request → Json) (p : Prepared) : Except Fault Value :=
  match parse (reply p.request) with
  | .ok response => verdict p response
  | .error cause => .error (.protocol cause)

lemma replyResult_eq {response : Response} (h : parse (reply p.request) = .ok response) :
    replyResult reply p = verdict p response := by
  rw [replyResult, h]

lemma isClientError_of_replyResult {fault : Fault} (h : replyResult reply p = .error fault) :
    fault.isClientError := by
  unfold replyResult at h
  split at h
  · exact isClientError_of_verdict h
  · cases h
    rfl

/-- In an array with one response under the identifier of a request, the request finds it. -/
lemma slotResult_of_unique {items : List Json} {item : Json} {response : Response}
    (hmem : item ∈ items) (hitem : responseTo p.request.id item = some response)
    (hunique : ∀ other ∈ items, ∀ found, responseTo p.request.id other = some found →
      found = response) :
    slotResult items p = verdict p response := by
  cases hfind : items.findSome? (responseTo p.request.id) with
  | none => exact nomatch hitem.symm.trans (List.findSome?_eq_none_iff.mp hfind item hmem)
  | some found =>
    obtain ⟨other, hother, hfound⟩ := List.exists_of_findSome?_eq_some hfind
    rw [slotResult, hfind, hunique other hother found hfound]

/-- In an array of all the answers, in any order, every request finds its own one. -/
lemma slotResult_of_perm {items : List Json} (hreply : Replies reply prepared)
    (hn : (prepared.map (·.request.id)).Nodup)
    (hperm : items.Perm (prepared.map (reply ·.request))) (hp : p ∈ prepared) :
    slotResult items p = replyResult reply p := by
  obtain ⟨response, hparse, hid⟩ := hreply p hp
  have hown : responseTo p.request.id (reply p.request) = some response :=
    responseTo_eq_some_iff.mpr ⟨hparse, hid⟩
  have hmem : reply p.request ∈ items := hperm.mem_iff.mpr (List.mem_map_of_mem hp)
  rw [replyResult_eq hparse]
  refine slotResult_of_unique hmem hown fun item hitem found hfound => ?_
  -- The item that was found answers some request, and only one request has the identifier.
  obtain ⟨q, hq, rfl⟩ := List.mem_map.mp (hperm.mem_iff.mp hitem)
  obtain ⟨hqparse, hqid⟩ := responseTo_eq_some_iff.mp hfound
  obtain ⟨_, hqparse', hqid'⟩ := hreply q hq
  obtain rfl := Except.ok.inj (hqparse.symm.trans hqparse')
  have hids : q.request.id = p.request.id := Option.some.inj (hqid'.symm.trans hqid)
  obtain rfl := List.inj_on_of_nodup_map hn hq hp hids
  exact Option.some.inj (hfound.symm.trans hown)

/-! ### Calls one after the other -/

/-- A call with an answer has sent its request, and its value is read from the answer. -/
lemma Resumable.call_of_answered {c : Connection σ} {registry : Registry} {ref : MethodRef}
    {args : List Value} {session : Session σ} {body answer : Bytes}
    (h : (call registry ref args).exchanges c session = [⟨body, .ok answer⟩]) :
    ∃ w records link, wireCall registry ref args = .ok w ∧
      let p := w.numbered session.state.nextId
      let state := (session.state.issued 1).logged records
      p.request.encode = .ok body ∧
      (call registry ref args).run c session =
        ((finish p answer state).1, ⟨(finish p answer state).2, link⟩) := by
  rcases call_cases c registry ref args session with
    ⟨_, _, he, _⟩ | ⟨_, _, _, he, _⟩ | ⟨w, message, hw, _, he, hr⟩
  · exact nomatch h.symm.trans he
  · exact nomatch h.symm.trans he
  · rw [h] at he
    rcases roundTrip_cases c _ _ _ with
      ⟨_, _, hn, _⟩ | ⟨_, _, _, _, _, hs, _⟩ | ⟨b, a, sent, link, hb, hs, ht⟩
    · exact nomatch he.trans hn
    · exact nomatch he.trans hs
    · obtain ⟨rfl, rfl⟩ : body = b ∧ answer = a := by simpa using he.trans hs
      refine ⟨w, [⟨.debug, message⟩] ++ sent, link, hw, hb, hr.trans (ht.trans ?_)⟩
      rw [State.logged_logged]

/-- A call whose request is answered by a response under its identifier comes to what the response
gives it. -/
lemma Operation.run_call_of_reply {isResumable : Bool} {c : Connection σ} {session : Session σ}
    {ref : MethodRef} {args : List Value} {w : WireCall} {body answer : Bytes}
    (hw : wireCall c.registry ref args = .ok w)
    (hsent : (Operation.call ref args).exchanges isResumable c session = [⟨body, .ok answer⟩])
    (hload : Json.ofBytes answer = .ok (reply (w.numbered session.state.nextId).request))
    (hreply : Replies reply [w.numbered session.state.nextId]) :
    let p := w.numbered session.state.nextId
    let t := (Operation.call ref args).turn isResumable c session
    p.request.encode = .ok body ∧ t.result = (replyResult reply p).map .value ∧
      t.after.state.nextId = session.state.nextId + 1 := by
  intro p t
  rw [exchanges_call] at hsent
  obtain ⟨w', records, link, hw', hbody, hrun⟩ := Resumable.call_of_answered hsent
  obtain rfl := Except.ok.inj (hw.symm.trans hw')
  obtain ⟨response, hparse, hid⟩ := hreply p List.mem_cons_self
  obtain ⟨message, hf⟩ := finish_of_id_eq hload hparse hid
    ((session.state.issued 1).logged records)
  have ht : (Operation.call ref args).run isResumable c session = _ :=
    run_call isResumable c session ref args
  rw [hrun, hf] at ht
  refine ⟨hbody, ?_, ?_⟩
  · rw [replyResult_eq hparse]
    exact congrArg Prod.fst ht
  · exact congrArg (·.2.state.nextId) ht

/-- The operations that make calls one after the other. -/
def oneByOne (calls : List (MethodRef × List Value)) : List Operation :=
  calls.map fun (ref, args) => .call ref args

/-- Each turn has sent one body and got a reply to its request. -/
abbrev AnsweredBy (reply : Request → Json) (prepared : List Prepared)
    (history : List (Turn σ)) : Prop :=
  List.Forall₂ (fun p t => ∃ body answer, t.exchanges = [⟨body, .ok answer⟩] ∧
    Json.ofBytes answer = .ok (reply p.request)) prepared history

/-- Each turn has sent one body, which is that of its request. -/
abbrev Sends (requests : List Request) (history : List (Turn σ)) : Prop :=
  List.Forall₂ (fun r t => ∃ e, t.exchanges = [e] ∧ r.encode = .ok e.body) requests history

/-- Calls made one after the other, each answered by a response under its identifier, come to what the
responses give them. -/
lemma Operation.turns_oneByOne {isResumable : Bool} {c : Connection σ} {session : Session σ}
    {calls : List (MethodRef × List Value)} {ws : List WireCall}
    (hws : WireCalls c.registry calls ws)
    (hreply : Replies reply (numberedFrom session.state.nextId ws))
    (hanswered : AnsweredBy reply (numberedFrom session.state.nextId ws)
      (turns isResumable c (oneByOne calls) session)) :
    let prepared := numberedFrom session.state.nextId ws
    let history := turns isResumable c (oneByOne calls) session
    history.map (·.result) = prepared.map (fun p => (replyResult reply p).map .value) ∧
      Sends (prepared.map (·.request)) history ∧
      (lastSession session history).state.nextId = session.state.nextId + ws.length := by
  induction hws generalizing session with
  | nil => exact ⟨rfl, .nil, rfl⟩
  | @cons call w calls ws hw hws ih =>
    obtain ⟨ref, args⟩ := call
    cases hanswered with
    | cons hfirst hrest =>
      obtain ⟨body, answer, hsent, hload⟩ := hfirst
      obtain ⟨hhead, htail⟩ := List.forall_mem_cons.mp hreply
      obtain ⟨hbody, hresult, hnext⟩ :=
        run_call_of_reply hw hsent hload (by simpa [Replies] using hhead)
      rw [← hnext] at hrest htail
      obtain ⟨hresults, hsends, hlast⟩ := ih htail hrest
      intro prepared history
      have hprepared : prepared = w.numbered session.state.nextId ::
          numberedFrom ((Operation.call ref args).turn isResumable c session).after.state.nextId
            ws := by
        rw [hnext]
        rfl
      have hhistory : history = (Operation.call ref args).turn isResumable c session ::
          turns isResumable c (oneByOne calls)
            ((Operation.call ref args).turn isResumable c session).after := rfl
      rw [hprepared, hhistory]
      refine ⟨?_, .cons ⟨_, hsent, hbody⟩ hsends, ?_⟩
      · rw [List.map_cons, List.map_cons, hresult, hresults]
      · rw [lastSession_cons, hlast, hnext, List.length_cons]
        omega

/-! ### Batches -/

/-- A batch whose requests are all answered by responses under their identifiers, in any order, comes to
what the responses give its calls. -/
lemma Operation.run_batch_of_replies {isResumable : Bool} {c : Connection σ} {session : Session σ}
    {calls : List (MethodRef × List Value)} {ws : List WireCall} {items : List Json}
    (hws : WireCalls c.registry calls ws)
    (hreply : Replies reply (numberedFrom session.state.nextId ws))
    (hperm : items.Perm ((numberedFrom session.state.nextId ws).map (reply ·.request)))
    (hbatch : calls ≠ [] → ∃ body answer,
      (Operation.batch calls).exchanges isResumable c session = [⟨body, .ok answer⟩] ∧
        Json.ofBytes answer = .ok (.list items)) :
    let prepared := numberedFrom session.state.nextId ws
    let t := (Operation.batch calls).turn isResumable c session
    t.result = .ok (.slots (prepared.map (replyResult reply))) ∧
      t.after.state.nextId = session.state.nextId + calls.length ∧
      (calls ≠ [] → ∃ e, t.exchanges = [e] ∧
        Request.encodeBatch (prepared.map (·.request)) = .ok e.body) := by
  intro prepared t
  have ht : (Operation.batch calls).run isResumable c session = _ :=
    run_batch isResumable c session calls
  by_cases hnil : calls = []
  · subst hnil
    cases hws
    have hrun : (Resumable.batch c.registry []).run c session = (.ok [], session) := rfl
    rw [hrun] at ht
    exact ⟨congrArg Prod.fst ht, congrArg (·.2.state.nextId) ht, absurd rfl⟩
  · obtain ⟨body, answer, hsent, hload⟩ := hbatch hnil
    have hsent' := hsent
    rw [exchanges_batch] at hsent'
    obtain ⟨ws', built, sent, link, hws', _, _, hbody, hrun⟩ := Resumable.batch_of_answered hsent'
    obtain rfl := hws.unique hws'
    have hn := nodup_ids_numberedFrom session.state.nextId ws
    obtain ⟨records, hf, _⟩ := finishBatch_of_list hload hn
      ((session.state.issued ws.length).logged (built ++ sent))
    have hslots : prepared.map (slotResult items) = prepared.map (replyResult reply) :=
      List.map_congr_left fun p hp => slotResult_of_perm hreply hn hperm hp
    rw [hrun, hf, hslots] at ht
    refine ⟨congrArg Prod.fst ht, ?_, fun _ => ⟨_, hsent, hbody⟩⟩
    rw [← hws.length_eq]
    exact congrArg (·.2.state.nextId) ht

/-! ### Agreement -/

/-- Calls made in one batch or one after the other, from the same identifier and with a response to each
request, come to the same results. The responses of the batch may come in any order. Both ways send
the same requests and take the same identifiers. -/
theorem batch_agrees_with_calls (isResumable isResumable' : Bool) {c : Connection σ}
    {c' : Connection τ} {session : Session σ} {session' : Session τ}
    {calls : List (MethodRef × List Value)} {ws : List WireCall} {items : List Json}
    (hregistry : c'.registry = c.registry)
    (hids : session'.state.nextId = session.state.nextId)
    (hws : WireCalls c.registry calls ws)
    (hreply : Replies reply (numberedFrom session.state.nextId ws))
    (hperm : items.Perm ((numberedFrom session.state.nextId ws).map (reply ·.request)))
    (hbatch : calls ≠ [] → ∃ body answer,
      (Operation.batch calls).exchanges isResumable c session = [⟨body, .ok answer⟩] ∧
        Json.ofBytes answer = .ok (.list items))
    (hcalls : AnsweredBy reply (numberedFrom session.state.nextId ws)
      (Operation.turns isResumable' c' (oneByOne calls) session')) :
    let batch := (Operation.batch calls).turn isResumable c session
    let plain := Operation.turns isResumable' c' (oneByOne calls) session'
    let requests := (numberedFrom session.state.nextId ws).map (·.request)
    ∃ results, batch.result = .ok (.slots results) ∧
      plain.map (·.result) = results.map (·.map .value) ∧
      (∀ fault, .error fault ∈ results → fault.isClientError) ∧
      (calls ≠ [] → ∃ e, batch.exchanges = [e] ∧ Request.encodeBatch requests = .ok e.body) ∧
      Sends requests plain ∧
      requests.map (·.id) = (List.range' session.state.nextId calls.length).map
        (fun n : Nat => .int n) ∧
      batch.after.state.nextId = session.state.nextId + calls.length ∧
      (Operation.lastSession session' plain).state.nextId =
        session.state.nextId + calls.length := by
  intro batch plain requests
  rw [← hids] at hreply hcalls
  obtain ⟨hresults, hsends, hlast⟩ := Operation.turns_oneByOne (hregistry ▸ hws) hreply hcalls
  rw [hids] at hresults hsends hlast hreply
  rw [hws.length_eq] at hlast
  have hissued : requests.map (·.id) =
      (List.range' session.state.nextId calls.length).map fun n : Nat => .int n := by
    rw [List.map_map, ← hws.length_eq]
    exact ids_numberedFrom _ _
  obtain ⟨hslots, hnext, hsent⟩ :=
    Operation.run_batch_of_replies hws hreply hperm hbatch
  refine ⟨(numberedFrom session.state.nextId ws).map (replyResult reply), hslots, ?_, ?_, hsent,
    hsends, hissued, hnext, hlast⟩
  · rw [hresults, List.map_map]
    rfl
  · intro fault hfault
    obtain ⟨p, _, hp⟩ := List.mem_map.mp hfault
    exact isClientError_of_replyResult hp

/-- A response with the name of the method. -/
def echoMethod (r : Request) : Json :=
  .dict [("id", r.id.toJson), ("result", .str r.method)]

/-- Two calls get the names of their methods, also where the responses of the batch are swapped. -/
theorem batch_agrees_with_calls_swapped :
    ∃ results,
      ((Operation.batch twoCalls).turn true scripted
        (.answered [.list [echoMethod ⟨.int 2, "n", []⟩, echoMethod ⟨.int 1, "m", []⟩]])).result =
          .ok (.slots results) ∧
      (Operation.turns false scripted (oneByOne twoCalls)
        (.answered [echoMethod ⟨.int 1, "m", []⟩, echoMethod ⟨.int 2, "n", []⟩])).map (·.result) =
          results.map (·.map .value) := by
  let m : Request := ⟨.int 1, "m", []⟩
  let n : Request := ⟨.int 2, "n", []⟩
  have hreply : Replies echoMethod (numberedFrom 1 [⟨{ name := "m" }, []⟩, ⟨{ name := "n" }, []⟩]) := by
    exact List.forall_mem_cons.mpr ⟨⟨⟨some (.int 1), .str "m", none⟩, rfl, rfl⟩,
      List.forall_mem_cons.mpr ⟨⟨⟨some (.int 2), .str "n", none⟩, rfl, rfl⟩, nofun⟩⟩
  have hbatch : (Operation.batch twoCalls).exchanges true scripted
      (.answered [.list [echoMethod n, echoMethod m]]) =
        [⟨(Request.encodeBatch [m, n]).toOption.getD [],
          .ok (bodyOf (.list [echoMethod n, echoMethod m]))⟩] :=
    Exchange.eq_of_map_answered? [((Request.encodeBatch [m, n]).toOption.getD [],
      bodyOf (.list [echoMethod n, echoMethod m]))] (by decide +kernel)
  have hcalls : AnsweredBy echoMethod (numberedFrom 1 [⟨{ name := "m" }, []⟩, ⟨{ name := "n" }, []⟩])
      (Operation.turns false scripted (oneByOne twoCalls) (.answered [echoMethod m, echoMethod n])) := by
    refine .cons ⟨m.encode.toOption.getD [], bodyOf (echoMethod m), ?_, by decide +kernel⟩
      (.cons ⟨n.encode.toOption.getD [], bodyOf (echoMethod n), ?_, by decide +kernel⟩ .nil)
    · exact Exchange.eq_of_map_answered? [(_, _)] (by decide +kernel)
    · exact Exchange.eq_of_map_answered? [(_, _)] (by decide +kernel)
  have hids : (Session.answered [echoMethod m, echoMethod n]).state.nextId =
      (Session.answered [.list [echoMethod n, echoMethod m]]).state.nextId := rfl
  obtain ⟨results, hbatched, hplain, _⟩ := batch_agrees_with_calls true false rfl hids
    (wireCalls_twoCalls _) hreply (.swap _ _ _)
    (fun _ => ⟨_, _, hbatch, by decide +kernel⟩) hcalls
  exact ⟨results, hbatched, hplain⟩

end ChainRpc.Client
