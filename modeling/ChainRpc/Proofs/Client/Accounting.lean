import ChainRpc.Proofs.Client.History
import ChainRpc.Proofs.Client.Sending
import ChainRpc.Proofs.Signature
import Mathlib.Algebra.Ring.Nat

/-!
# Which identifiers are taken and which bodies are sent

Every operation takes the identifiers that its arguments determine, and sends one body or none. Whatever
happens to a request that is not refused, its body has been handed to the transport.
-/

namespace ChainRpc.Client

variable {σ α : Type} {registry : Registry} {call : MethodRef × List Value}
  {calls : List (MethodRef × List Value)}

/-! ### Turns -/

/-- The body holds a request, or a batch of requests, with these identifiers. -/
def Bears (body : Bytes) (ids : List Nat) : Prop :=
  ∃ requests : List Request, requests.map (·.id) = ids.map (fun n : Nat => .int n) ∧
    ((∃ r, requests = [r] ∧ r.encode = .ok body) ∨ Request.encodeBatch requests = .ok body)

/-- The identifier that is answered, if one is. -/
def answeredIds : Except Fault Operation.Result → List Nat
  | .ok (.id n) => [n]
  | _           => []

namespace Turn

/-- The identifiers that a turn answers or sends, in order. -/
def Mentions (t : Turn σ) (ids : List Nat) : Prop :=
  ∃ idss, List.Forall₂ (fun e ids => Bears e.body ids) t.exchanges idss ∧
    ids = answeredIds t.result ++ idss.flatten

/-- A rejected turn has sent nothing, unless the rejection is what the transport failed with. -/
def IsRejectedEarly (t : Turn σ) : Prop :=
  ∀ fault, t.result = .error fault → isRejection fault →
    t.exchanges = [] ∨ ∃ e, t.exchanges = [e] ∧ e.answer = .error fault

/-- A turn as a client means it. -/
structure IsOrderly (isResumable : Bool) (registry : Registry) (t : Turn σ) : Prop where
  due : t.after.state.nextId = t.before.state.nextId + t.op.due isResumable registry
  rejected : t.IsRejectedEarly
  silent : t.op.IsSilent → t.exchanges = []
  /-- Unless it is rejected, a turn sends a body with the identifiers that it takes. -/
  sent : ¬ t.op.IsSilent →
    (∃ fault, t.result = .error fault ∧ isRejection fault ∧ t.exchanges = []) ∨
    ∃ e, t.exchanges = [e] ∧
      Bears e.body (List.range' t.before.state.nextId (t.op.due isResumable registry))

/-- What a turn comes to. -/
structure IsAccounted (isResumable : Bool) (registry : Registry) (t : Turn σ) : Prop where
  cost : t.after.state.nextId = t.before.state.nextId + t.op.cost isResumable registry
  rejected : t.IsRejectedEarly
  silent : t.op.IsSilent → t.exchanges = []
  /-- A refused operation sends nothing. -/
  refused : ∀ fault, t.op.refusal? isResumable registry t.before.state.nextId = some fault →
    t.exchanges = [] ∧ t.result = .error fault
  /-- Any other operation sends one body with the identifiers that it takes. -/
  sent : ¬ t.op.IsSilent → t.op.refusal? isResumable registry t.before.state.nextId = none →
    ∃ e, t.exchanges = [e] ∧
      Bears e.body (List.range' t.before.state.nextId (t.op.cost isResumable registry))
  answered : answeredIds t.result = if t.op.isNextId then [t.before.state.nextId] else []

variable {isResumable : Bool} {t : Turn σ} {fault : Fault}

/-- A turn is as it is meant to be unless it is refused with anything but a rejection. -/
lemma IsAccounted.isOrderly_iff (h : t.IsAccounted isResumable registry) :
    t.IsOrderly isResumable registry ↔
      ∀ fault, t.op.refusal? isResumable registry t.before.state.nextId = some fault →
        isRejection fault := by
  constructor
  · intro horderly fault hfault
    obtain ⟨hsent, hresult⟩ := h.refused fault hfault
    have hsilent : ¬ t.op.IsSilent := fun hs =>
      nomatch hfault.symm.trans (Operation.refusal?_of_isSilent _ _ _ hs)
    rcases horderly.sent hsilent with ⟨found, hfound, hrejection, _⟩ | ⟨e, he, _⟩
    · cases hresult.symm.trans hfound
      exact hrejection
    · cases hsent.symm.trans he
  · intro hrefusals
    have hdue := Operation.cost_eq_due hrefusals
    refine ⟨hdue ▸ h.cost, h.rejected, h.silent, fun hsilent => ?_⟩
    cases hrefusal : t.op.refusal? isResumable registry t.before.state.nextId with
    | none => exact .inr (hdue ▸ h.sent hsilent hrefusal)
    | some fault =>
      obtain ⟨hsent, hresult⟩ := h.refused fault hrefusal
      exact .inl ⟨fault, hresult, hrefusals fault hrefusal, hsent⟩

end Turn

/-! ### Operations -/

namespace Operation

variable {isResumable : Bool} {c : Connection σ} {op : Operation} {session session' : Session σ}
  {fault : Fault}

/-- A silent operation answers without the transport. -/
lemma isAccounted_of_isSilent (h : op.IsSilent) (session : Session σ) :
    (op.turn isResumable c session).IsAccounted isResumable c.registry := by
  have hrefusal := refusal?_of_isSilent isResumable c.registry session.state.nextId h
  have hexchanges : (op.turn isResumable c session).exchanges = [] := by
    rcases h with rfl | rfl <;> rfl
  have hresult : answeredIds (op.turn isResumable c session).result =
      if op.isNextId then [session.state.nextId] else [] := by
    rcases h with rfl | rfl
    · rw [turn, run_nextId]
      rfl
    · rw [turn, run_batch]
      rfl
  refine ⟨?_, fun _ _ _ => .inl hexchanges, fun _ => hexchanges, ?_, fun hs => absurd h hs, hresult⟩
  · rcases h with rfl | rfl
    · rw [turn, run_nextId]
      rfl
    · rw [turn, run_batch]
      rfl
  · intro _ hsome
    cases hrefusal.symm.trans hsome

section Dialogue

variable {x : Resumable α} {wrap : α → Result}

lemma isAccounted_of_refused (hd : op.dialogue isResumable c.registry = x >>= fun a => pure (wrap a))
    (hid : op.isNextId = false)
    (hrefusal : op.refusal? isResumable c.registry session.state.nextId = some fault)
    (he : x.exchanges c session = []) (hr : x.run c session = (.error fault, session'))
    (hcost : session'.state.nextId = session.state.nextId + op.cost isResumable c.registry) :
    (op.turn isResumable c session).IsAccounted isResumable c.registry := by
  have hexchanges : (op.turn isResumable c session).exchanges = [] :=
    (exchanges_of_dialogue hd session).trans he
  have hrun : op.run isResumable c session = (.error fault, session') := by
    rw [run_of_dialogue hd, hr]
    rfl
  have hresult : (op.turn isResumable c session).result = .error fault := congrArg Prod.fst hrun
  refine ⟨?_, fun _ _ _ => .inl hexchanges, fun _ => hexchanges, ?_, ?_, ?_⟩
  · exact (congrArg (fun r => r.2.state.nextId) hrun).trans hcost
  · intro found hfound
    cases hrefusal.symm.trans hfound
    exact ⟨hexchanges, hresult⟩
  · intro _ hnone
    cases hrefusal.symm.trans hnone
  · rw [hresult, turn, hid]
    rfl

lemma isAccounted_of_sent {e : Exchange}
    (hd : op.dialogue isResumable c.registry = x >>= fun a => pure (wrap a))
    (hid : op.isNextId = false) (hsilent : ¬ op.IsSilent) (hwrap : ∀ a, answeredIds (.ok (wrap a)) = [])
    (hrefusal : op.refusal? isResumable c.registry session.state.nextId = none)
    (he : x.exchanges c session = [e])
    (hbears : Bears e.body (List.range' session.state.nextId (op.cost isResumable c.registry)))
    (hrejected : ∀ fault, (x.run c session).1 = .error fault → isRejection fault →
      e.answer = .error fault)
    (hcost : (x.run c session).2.state.nextId =
      session.state.nextId + op.cost isResumable c.registry) :
    (op.turn isResumable c session).IsAccounted isResumable c.registry := by
  have hexchanges : (op.turn isResumable c session).exchanges = [e] :=
    (exchanges_of_dialogue hd session).trans he
  have hrun := run_of_dialogue hd session
  have hresult : (op.turn isResumable c session).result = (x.run c session).1.map wrap :=
    congrArg Prod.fst hrun
  refine ⟨?_, ?_, fun hs => absurd hs hsilent, ?_, fun _ _ => ⟨e, hexchanges, hbears⟩, ?_⟩
  · exact (congrArg (fun r => r.2.state.nextId) hrun).trans hcost
  · intro fault hfault hrejection
    rw [hresult] at hfault
    cases hx : (x.run c session).1 with
    | ok a =>
      rw [hx] at hfault
      cases hfault
    | error found =>
      rw [hx] at hfault
      cases hfault
      exact .inr ⟨e, hexchanges, hrejected _ hx hrejection⟩
  · intro _ hsome
    cases hrefusal.symm.trans hsome
  · rw [hresult, turn, hid]
    cases (x.run c session).1 with
    | ok a => exact hwrap a
    | error _ => rfl

end Dialogue

lemma bears_of_encode {r : Request} {n : Nat} {body : Bytes} (hid : r.id = .int n)
    (hbody : r.encode = .ok body) : Bears body (List.range' n 1) :=
  ⟨[r], by rw [List.map_singleton, hid]; rfl, .inl ⟨r, rfl, hbody⟩⟩

lemma isAccounted_of_call? (hregistry : ∀ m ∈ c.registry.methods, m.hasWholeNames)
    (h : op.call? isResumable = some call) (hscope : Client.InScope call) (session : Session σ) :
    (op.turn isResumable c session).IsAccounted isResumable c.registry := by
  have hid : op.isNextId = false := by
    cases op <;> first | rfl | cases h
  have hd := dialogue_of_call? c.registry h
  have hrefusal := refusal?_of_call? c.registry session.state.nextId h
  have hcost := cost_of_call? c.registry h
  rcases Resumable.call_cases c c.registry call.1 call.2 session with
    ⟨fault, hw, he, hr⟩ | ⟨w, hw, hl, he, hr⟩ | ⟨w, message, hw, hl, he, hr⟩
  · rw [isFitting_of_error hw] at hcost
    exact isAccounted_of_refused hd hid (hrefusal.trans (refusal?_of_error hw)) he hr
      (by rw [hcost]; rfl)
  · rw [isFitting_of_ok hw] at hcost
    exact isAccounted_of_refused hd hid (hrefusal.trans (refusal?_of_not_isLegible hw hl)) he hr
      (by rw [hcost]; rfl)
  · rw [isFitting_of_ok hw] at hcost
    obtain ⟨e, hsent, hbody, hrejected⟩ :=
      Resumable.submit_sends (obstacle?_numbered hregistry hscope hw session.state.nextId) c
        ⟨(session.state.issued 1).logged [⟨.debug, message⟩], session.link⟩
    rw [← he] at hsent
    rw [← hr] at hrejected
    refine isAccounted_of_sent hd hid (not_isSilent_of_call? h) (fun _ => rfl)
      (hrefusal.trans (refusal?_of_isLegible hw hl)) hsent ?_ hrejected ?_
    · rw [hcost]
      exact bears_of_encode rfl hbody
    · rw [hcost, hr, Resumable.nextId_submit]
      rfl

lemma isAccounted_callRaw {name : Value} {items : List Value} (hname : name.Fits depthLimit)
    (hitems : ∀ v ∈ items, v.Fits depthLimit) (session : Session σ) :
    ((Operation.callRaw name (.list items)).turn isResumable c session).IsAccounted isResumable
      c.registry := by
  have hd : (Operation.callRaw name (.list items)).dialogue isResumable c.registry =
      Resumable.callRaw name (.list items) >>= fun v => pure (.value v) := rfl
  rcases Resumable.callRaw_cases c name (.list items) session with
    ⟨fault, hp, he, hr⟩ | ⟨p, hp, hl, he, hr⟩ | ⟨p, message, hp, hl, he, hr⟩
  · exact isAccounted_of_refused hd rfl (by rw [refusal?, hp]) he hr rfl
  · exact isAccounted_of_refused hd rfl (by rw [refusal?, hp]; exact if_neg hl) he hr rfl
  · have hid : p.request.id = .int session.state.nextId := by
      obtain ⟨_, _, _, _, _, _, rfl⟩ := rawRequest_eq_ok_iff.mp hp
      rfl
    obtain ⟨e, hsent, hbody, hrejected⟩ :=
      Resumable.submit_sends (obstacle?_raw hname hitems hp) c
        ⟨(session.state.issued 1).logged [⟨.debug, message⟩], session.link⟩
    rw [← he] at hsent
    rw [← hr] at hrejected
    refine isAccounted_of_sent hd rfl (by rintro (h | h) <;> cases h) (fun _ => rfl)
      (by rw [refusal?, hp]; exact if_pos hl) hsent (bears_of_encode hid hbody) hrejected ?_
    rw [hr, Resumable.nextId_submit]
    rfl

lemma obstacle?_numberedFrom {ws : List WireCall}
    (hregistry : ∀ m ∈ registry.methods, m.hasWholeNames) (hws : WireCalls registry calls ws)
    (hscope : ∀ call ∈ calls, Client.InScope call) (first : Nat) :
    ∀ p ∈ numberedFrom first ws, p.request.obstacle? = none := by
  induction hws generalizing first with
  | nil => exact nofun
  | cons hw _ ih =>
    obtain ⟨hcall, hrest⟩ := List.forall_mem_cons.mp hscope
    exact List.forall_mem_cons.mpr ⟨obstacle?_numbered hregistry hcall hw first, ih hrest _⟩

lemma isAccounted_batch (hregistry : ∀ m ∈ c.registry.methods, m.hasWholeNames)
    (hscope : ∀ call ∈ calls, Client.InScope call) (session : Session σ) :
    ((Operation.batch calls).turn isResumable c session).IsAccounted isResumable c.registry := by
  have hd : (Operation.batch calls).dialogue isResumable c.registry =
      Resumable.batch c.registry calls >>= fun results => pure (.slots results) := rfl
  by_cases hnil : calls = []
  · subst hnil
    exact isAccounted_of_isSilent (.inr rfl) session
  rcases Resumable.batch_cases c c.registry calls session with
    ⟨ws, records, hws, hls, _, he, hr⟩ |
      ⟨before, call, rest, ws, records, fault, rfl, hws, hls, hw, he, hr⟩ |
      ⟨before, call, rest, ws, records, w, rfl, hws, hls, hw, hl, he, hr⟩
  · have hne : numberedFrom session.state.nextId ws ≠ [] := by
      cases hws with
      | nil => exact absurd rfl hnil
      | cons _ _ => exact List.cons_ne_nil _ _
    have hcost := batchCost_of_wireCalls hws hls
    obtain ⟨e, hsent, hbody, hrejected⟩ :=
      Resumable.submitAll_sends hne (nodup_ids_numberedFrom _ ws)
        (obstacle?_numberedFrom hregistry hws hscope _) c
        ⟨(session.state.issued ws.length).logged records, session.link⟩
    rw [← he] at hsent
    rw [← hr] at hrejected
    refine isAccounted_of_sent hd rfl (by rintro (h | h) <;> cases h; exact hnil rfl) (fun _ => rfl)
      (findSome?_refusal?_eq_none hws hls) hsent ⟨_, ?_, .inr hbody⟩ hrejected ?_
    · rw [List.map_map, cost, hcost]
      exact ids_numberedFrom _ ws
    · rw [hr, Resumable.nextId_submitAll, cost, hcost]
      rfl
  · refine isAccounted_of_refused hd rfl ?_ he hr ?_
    · rw [refusal?, findSome?_refusal?_append hws hls, List.findSome?_cons, refusal?_of_error hw]
    · rw [cost, batchCost_append hws hls, batchCost_of_error hw]
      rfl
  · refine isAccounted_of_refused hd rfl ?_ he hr ?_
    · rw [refusal?, findSome?_refusal?_append hws hls, List.findSome?_cons,
        refusal?_of_not_isLegible hw hl]
    · rw [cost, batchCost_append hws hls, batchCost_of_not_isLegible hw hl]
      rfl

/-- The call of a typed method in scope is in scope, too. -/
lemma inScope_bound {name : Text} {args bound : List Value} {named : Entries Value} {m : Method}
    (hname : TypedName.find? name = some (.method m))
    (hbound : (m.signature (className isResumable)).bind args named = .ok bound)
    (hargs : ∀ v ∈ args, v.Fits depthLimit) (hnamed : ∀ e ∈ named, e.2.Fits depthLimit) :
    Client.InScope (.direct m, bound) := by
  have hm : m ∈ Registry.ckb.methods := by
    unfold TypedName.find? at hname
    split at hname
    · next hfound =>
      cases hname
      exact List.mem_of_find?_eq_some hfound
    · obtain ⟨h, _, hh⟩ := Option.map_eq_some_iff.mp hname
      cases hh
  refine ⟨fun found hfound => ?_, Signature.forall_of_bind hargs hnamed ?_ hbound⟩
  · cases hfound
    exact Registry.hasWholeNames_ckb m hm
  · intro p hp v hv
    obtain ⟨param, _, rfl⟩ := List.mem_map.mp hp
    dsimp only at hv
    split at hv <;> cases hv
    exact .null

lemma isAccounted (hregistry : ∀ m ∈ c.registry.methods, m.hasWholeNames)
    (hscope : op.InScope isResumable) (session : Session σ) :
    (op.turn isResumable c session).IsAccounted isResumable c.registry := by
  cases op with
  | nextId => exact isAccounted_of_isSilent (.inl rfl) session
  | call ref args => exact isAccounted_of_call? hregistry rfl hscope session
  | callRaw name params =>
    obtain ⟨hname, items, rfl, hitems⟩ := hscope
    exact isAccounted_callRaw hname hitems session
  | batch calls => exact isAccounted_batch hregistry hscope session
  | typed name args named =>
    obtain ⟨⟨m, bound, hname, hbound⟩, hargs, hnamed⟩ := hscope
    exact isAccounted_of_call? hregistry (call?_typed hname hbound)
      (inScope_bound hname hbound hargs hnamed) session
  | post body => exact hscope.elim

/-! ### Histories -/

/-- An accounted turn mentions identifiers that follow each other, all of which it takes. -/
lemma exists_mentions {t : Turn σ} (h : t.IsAccounted isResumable registry) :
    ∃ count, t.before.state.nextId + count ≤ t.after.state.nextId ∧
      t.Mentions (List.range' t.before.state.nextId count) := by
  have hanswered := h.answered
  by_cases hsilent : t.op.IsSilent
  · refine ⟨if t.op.isNextId then 1 else 0, ?_, [], ?_, ?_⟩
    · rw [h.cost]
      rcases hsilent with hop | hop <;> rw [hop] <;> exact Nat.le_refl _
    · rw [h.silent hsilent]
      exact .nil
    · rw [hanswered]
      cases t.op.isNextId <;> rfl
  · have hid : t.op.isNextId = false := by
      cases hop : t.op <;> first | rfl | exact absurd (.inl hop) hsilent
    rw [hid] at hanswered
    cases hrefusal : t.op.refusal? isResumable registry t.before.state.nextId with
    | some fault =>
      refine ⟨0, h.cost ▸ Nat.le_add_right _ _, [], ?_, ?_⟩
      · rw [(h.refused fault hrefusal).1]
        exact .nil
      · rw [hanswered]
        rfl
    | none =>
      obtain ⟨e, he, hbears⟩ := h.sent hsilent hrefusal
      let ids := List.range' t.before.state.nextId (t.op.cost isResumable registry)
      refine ⟨_, Nat.le_of_eq h.cost.symm, [ids], ?_, ?_⟩
      · rw [he]
        exact .cons hbears .nil
      · rw [hanswered, List.flatten_singleton]
        rfl

/-- The identifiers that a history mentions increase, from the first session on. -/
lemma exists_increasing (hregistry : ∀ m ∈ c.registry.methods, m.hasWholeNames)
    {ops : List Operation} (hops : ∀ op ∈ ops, op.InScope isResumable) (session : Session σ) :
    ∃ idss, List.Forall₂ Turn.Mentions (turns isResumable c ops session) idss ∧
      idss.flatten.Pairwise (· < ·) ∧ ∀ n ∈ idss.flatten, session.state.nextId ≤ n := by
  induction ops generalizing session with
  | nil => exact ⟨[], .nil, .nil, nofun⟩
  | cons op rest ih =>
    obtain ⟨hop, hrest⟩ := List.forall_mem_cons.mp hops
    let t := op.turn isResumable c session
    obtain ⟨count, hcount, hmentions⟩ := exists_mentions (isAccounted hregistry hop session)
    obtain ⟨idss, hidss, hincreasing, hlater⟩ := ih hrest t.after
    have hfirst : ∀ n ∈ List.range' session.state.nextId count,
        session.state.nextId ≤ n ∧ n < t.after.state.nextId := by
      intro n hn
      obtain ⟨hlo, hhi⟩ := List.mem_range'_1.mp hn
      exact ⟨hlo, Nat.lt_of_lt_of_le hhi hcount⟩
    refine ⟨List.range' session.state.nextId count :: idss, .cons hmentions hidss, ?_, ?_⟩
    · rw [List.flatten_cons, List.pairwise_append]
      exact ⟨List.pairwise_lt_range', hincreasing,
        fun m hm n hn => Nat.lt_of_lt_of_le (hfirst m hm).2 (hlater n hn)⟩
    · intro n hn
      rcases List.mem_append.mp hn with hn | hn
      · exact (hfirst n hn).1
      · exact Nat.le_trans (nextId_le_run isResumable c op session) (hlater n hn)

/-- A history takes the identifiers that its operations cost. -/
lemma nextId_lastSession (hregistry : ∀ m ∈ c.registry.methods, m.hasWholeNames)
    {ops : List Operation} (hops : ∀ op ∈ ops, op.InScope isResumable) (session : Session σ) :
    (lastSession session (turns isResumable c ops session)).state.nextId =
      session.state.nextId + (ops.map (·.cost isResumable c.registry)).sum := by
  induction ops generalizing session with
  | nil => rfl
  | cons op rest ih =>
    obtain ⟨hop, hrest⟩ := List.forall_mem_cons.mp hops
    have hcost : (op.turn isResumable c session).after.state.nextId =
        session.state.nextId + op.cost isResumable c.registry :=
      (isAccounted hregistry hop session).cost
    rw [turns, lastSession_cons, ih hrest, hcost, List.map_cons, List.sum_cons, Nat.add_assoc]

/-- Over any history of a client, the identifiers that are answered and sent increase from 1 on, every
operation takes the identifiers that it costs, and it sends one body or none. A turn is as it is meant to
be unless its operation is refused for another reason than an unknown method or arguments that do not
fit. -/
theorem identifiers_are_accounted_for (isResumable : Bool) (c : Connection σ)
    (hregistry : ∀ m ∈ c.registry.methods, m.hasWholeNames) (ops : List Operation)
    (hops : ∀ op ∈ ops, op.InScope isResumable) (link : Http.Link σ) :
    let history := turns isResumable c ops { link := link }
    (∃ idss, List.Forall₂ Turn.Mentions history idss ∧ idss.flatten.Pairwise (· < ·) ∧
      ∀ n ∈ idss.flatten, 0 < n) ∧
    (lastSession { link := link } history).state.nextId =
      1 + (ops.map (·.cost isResumable c.registry)).sum ∧
    ∀ t ∈ history, t.IsAccounted isResumable c.registry ∧
      (t.IsOrderly isResumable c.registry ↔
        ∀ fault, t.op.refusal? isResumable c.registry t.before.state.nextId = some fault →
          isRejection fault) := by
  refine ⟨exists_increasing hregistry hops _, nextId_lastSession hregistry hops _, fun t ht => ?_⟩
  have hop : t.op ∈ ops := by
    rw [← ops_turns isResumable c ops { link := link }]
    exact List.mem_map_of_mem ht
  have h := isAccounted hregistry (hops _ hop) t.before
  rw [← eq_turn_of_mem ht] at h
  exact ⟨h, h.isOrderly_iff⟩

/-- Operations that fail early, late and not at all. -/
def mixed : List Operation := [.nextId, .call (.named (.str "get_tip_block_number")) [],
  .call (.named (.str "m")) [], .callRaw (.str "m") (.list [.bytes []]),
  .batch [(.named (.str "get_tip_block_number"), []), (.named (.str "m"), [])],
  .typed "get_block_hash" [.int 5] []]

lemma inScope_named (name : Value) : Client.InScope (.named name, []) := by
  constructor
  · intro m h
    cases h
  · intro v h
    cases h

lemma inScope_mixed : ∀ op ∈ mixed, op.InScope false := by
  have hname : (Value.str "m").Fits depthLimit := .str (by decide)
  have hitems : ∀ v ∈ [Value.bytes []], v.Fits depthLimit := by
    simpa using .bytes []
  have hargs : ∀ v ∈ [Value.int 5], v.Fits depthLimit := by
    simpa using .int 5
  have hbatch (a b : Value) : (Operation.batch [(.named a, []), (.named b, [])]).InScope false := by
    simp only [InScope, List.forall_mem_cons]
    exact ⟨inScope_named a, inScope_named b, List.forall_mem_nil _⟩
  have htyped : (Operation.typed "get_block_hash" [.int 5] []).InScope false :=
    ⟨⟨.getBlockHash, [.int 5], rfl, rfl⟩, hargs, List.forall_mem_nil _⟩
  simp only [mixed, List.forall_mem_cons]
  exact ⟨trivial, inScope_named _, inScope_named _, ⟨hname, _, rfl, hitems⟩, hbatch _ _, htyped,
    List.forall_mem_nil _⟩

/-- Calls that are refused early take nothing, and requests that fail late keep their identifiers. -/
theorem identifiers_are_accounted_for_mixed :
    mixed.map (·.cost false .ckb) = [1, 1, 0, 1, 1, 1] ∧
      let history := turns false scripted mixed (.answered [])
      (lastSession (.answered []) history).state.nextId = 6 ∧
        ∀ t ∈ history, t.IsOrderly false .ckb := by
  have h := identifiers_are_accounted_for false scripted Registry.hasWholeNames_ckb mixed
    inScope_mixed (Session.answered []).link
  have hcosts : mixed.map (·.cost false .ckb) = [1, 1, 0, 1, 1, 1] := by decide +kernel
  have hrefusals : ∀ t ∈ turns false scripted mixed (.answered []),
      (t.op.refusal? false .ckb t.before.state.nextId).all isRejection := by decide +kernel
  refine ⟨hcosts, h.2.1.trans (by rw [show scripted.registry = .ckb from rfl, hcosts]; rfl),
    fun t ht => (h.2.2 t ht).2.mpr fun fault hfault => ?_⟩
  have hall := hrefusals t ht
  rw [show scripted.registry = .ckb from rfl] at hfault
  rw [hfault] at hall
  exact hall

/-- A method with an optional parameter the shape of which cannot be looked up. -/
def qualified : Method where
  name := "m"
  params := [{ name := "a", shape := .lenientInt, optional := true }]

/-- A call of the method with an integer is neither rejected nor sent. -/
theorem not_isOrderly_qualified :
    (Operation.call (.direct qualified) [.int 7]).InScope false ∧
      ¬ ((Operation.call (.direct qualified) [.int 7]).turn false scripted
        (.answered [.dict [("result", .int 5)]])).IsOrderly false .ckb := by
  have hscope : (Operation.call (.direct qualified) [.int 7]).InScope false := by
    refine ⟨fun m hm => ?_, by simpa using .int 7⟩
    cases hm
    decide
  refine ⟨hscope, fun horderly => ?_⟩
  have h := (isAccounted (c := scripted) Registry.hasWholeNames_ckb hscope _).isOrderly_iff.mp
    horderly (.registry (.unhashable "dict")) rfl
  cases h

end Operation

end ChainRpc.Client
