import ChainRpc.Node.Command
import ChainRpc.Proofs.Node.Bodies
import ChainRpc.Proofs.Node.Outcomes

/-!
# Runs of a node

A node that is given commands remembers just the requests among the items that were posted to it, and answers
by the handlers registered last. The items of an array are answered as each of them is by itself.
-/

namespace ChainRpc

/-- Whatever JSON values the handler is called with, what it ends with is answered. -/
def Handler.IsAnswering (h : Handler) : Prop :=
  ∀ params : List Json, (∀ j ∈ params, j.IsRegular) →
    ∃ outcome, (h.run (params.map .ofJson)).Gives outcome ∧ outcome.IsRegular

namespace Handler

lemma isAnswering_constant (name : Text) {j : Json} (hj : j.IsRegular) :
    (constant name (.ofJson j)).IsAnswering :=
  fun _ _ => ⟨_, .value j, .result hj⟩

/-- A fixed error is raised whatever the parameters, if it has a text. -/
lemma run_failing (name : Text) {e : NodeError} (htext : e.text?.isSome) (params : List Value) :
    (failing name e).run params = .error e := by
  have hbody : (failing name e).body = fun _ => .error (.nodeError e) := by
    rw [failing, Raised.ofNodeError, if_pos htext]
  rw [run, hbody]
  rfl

/-- An error that makes an error object is answered, or its text breaks the digit limit. -/
lemma isAnswering_failing (name : Text) {e : NodeError} {object : ErrorObject}
    (h : e.toErrorObject = .ok object) (hmessage : object.message.InRange)
    (hdata : object.data.IsRegular) : (failing name e).IsAnswering := by
  intro params _
  by_cases htext : e.text?.isSome
  · rw [run_failing name htext]
    exact ⟨_, .error h, .error hmessage hdata⟩
  · have hbody : (failing name e).body = fun _ => .error (.other tooLargeMessage) := by
      rw [failing, Raised.ofNodeError, if_neg htext]
    have hrun : (failing name e).run (params.map .ofJson) = .crashed tooLargeMessage := by
      rw [run, hbody]
      rfl
    have hserver : Text.InRange ("Server error" : Text) := by decide
    have hreason : tooLargeMessage.InRange := by decide +kernel
    rw [hrun]
    exact ⟨_, .crashed _, .error hserver (.str hreason)⟩

end Handler

/-- A body of a node carries the outcome, in which at most `room` containers are nested. -/
inductive Outcome.Sendable (room : Nat) : Outcome → Prop
  | result {j : Json} (h : j.Sendable room) : Sendable room (.result j)
  | error {e : ErrorObject} (hcode : IsShort e.code) (hmessage : e.message.IsScalar)
    (hdata : e.data.Sendable room) : Sendable room (.error e)

lemma Outcome.Sendable.mono {outcome : Outcome} {room room' : Nat} (h : outcome.Sendable room)
    (hroom : room ≤ room') : outcome.Sendable room' := by
  cases h with
  | result hj => exact .result (hj.mono hroom)
  | error hcode hmessage hdata => exact .error hcode hmessage (hdata.mono hroom)

namespace Node

/-! ### Commands -/

namespace Command

/-- The name and the handler that a command registers. -/
def registration? : Command → Option (Text × Handler)
  | .respond name result => some (name, .constant name result)
  | .fail name e => some (name, .failing name e)
  | .method (some (c :: cs)) h => some (c :: cs, h)
  | .method (some []) h | .method none h => some (h.name, h)
  | .post _ => none

/-- The items of the body that a command posts, if it is JSON. -/
def items : Command → List Json
  | .post raw =>
    match Json.ofBytes raw with
    | .ok payload => itemsOf payload
    | .error _    => []
  | _ => []

/-- What a command registers answers whatever it is called with. -/
def IsAnswering (c : Command) : Prop :=
  ∀ e, c.registration? = some e → e.2.IsAnswering

end Command

/-- The handler that commands register last under a name. -/
def latest (commands : List Command) (name : Text) : Option Handler :=
  ((commands.filterMap Command.registration?).reverse.find? (·.1 = name)).map (·.2)

/-- The handlers of the node answer whatever they are called with. -/
def IsAnswering (n : Node) : Prop :=
  ∀ e ∈ n.handlers, e.2.IsAnswering

variable {n : Node} {c : Command} {commands : List Command} {name : Text} {outcome : Outcome}
  {room : Nat} {item answer payload : Json} {items answers : List Json} {raw : Bytes}

/-! ### What is answered -/

lemma IsAnswering.exists_gives {r : Request} (hn : n.IsAnswering)
    (hparams : ∀ j ∈ r.params, j.IsRegular) :
    ∃ outcome, Gives n.handlers r outcome ∧ outcome.IsRegular := by
  cases hget : n.handlers.get? r.method with
  | none => exact ⟨_, .unknown hget, .error (by decide) .null⟩
  | some handler =>
    obtain ⟨outcome, hrun, hregular⟩ := hn _ (Entries.mem_of_get? hget) r.params hparams
    exact ⟨outcome, .handled hget hrun, hregular⟩

lemma IsAnswering.exists_answered (hn : n.IsAnswering) (hitem : item.IsRegular) :
    ∃ answer, Answered n.handlers item answer ∧ answer.IsRegular :=
  Node.exists_answered hitem fun _ hr => hn.exists_gives (Request.isRegular_of_ofValue hitem hr).2

lemma IsAnswering.exists_answeredBody (hn : n.IsAnswering) (hraw : Json.ofBytes raw = .ok payload) :
    ∃ answer, AnsweredBody n.handlers payload answer ∧ answer.IsRegular :=
  Node.exists_answeredBody fun _ hitem =>
    hn.exists_answered (isRegular_of_mem_itemsOf (Json.isRegular_of_ofBytes hraw) hitem)

/-! ### Steps -/

/-- A command registers a handler, or it posts a body. -/
lemma step_cases (n : Node) (c : Command) :
    (∃ e, c.registration? = some e ∧ c.items = [] ∧ (n.step c).2 = n.register e.1 e.2) ∨
      ∃ raw, c = .post raw := by
  cases c with
  | respond name result => exact .inl ⟨_, rfl, rfl, rfl⟩
  | fail name e => exact .inl ⟨_, rfl, rfl, rfl⟩
  | method name h =>
    match name with
    | none => exact .inl ⟨_, rfl, rfl, rfl⟩
    | some [] => exact .inl ⟨_, rfl, rfl, rfl⟩
    | some (c :: cs) => exact .inl ⟨_, rfl, rfl, rfl⟩
  | post raw => exact .inr ⟨raw, rfl⟩

lemma IsAnswering.step (hn : n.IsAnswering) (hc : c.IsAnswering) : (n.step c).2.IsAnswering := by
  rcases step_cases n c with ⟨e, hregistration, -, hstep⟩ | ⟨raw, rfl⟩
  · rw [hstep]
    exact Entries.forall_mem_put (hc e hregistration) hn
  · exact hn

lemma requests_answerBody (hn : n.IsAnswering) (raw : Bytes) :
    (answerBody n.handlers raw).requests = (Command.post raw).items.filterMap Request.ofItem? := by
  rw [Command.items]
  cases hraw : Json.ofBytes raw with
  | ok payload =>
    obtain ⟨answer, hanswered, -⟩ := hn.exists_answeredBody hraw
    exact (answerBody_of_answered hraw hanswered).2
  | error cause =>
    rw [answerBody]
    split
    · rfl
    · rw [hraw]
      cases cause <;> rfl

/-- A command adds the requests among the items that it posts. -/
lemma requests_step (hn : n.IsAnswering) (c : Command) :
    (n.step c).2.requests = n.requests ++ c.items.filterMap Request.ofItem? := by
  rcases step_cases n c with ⟨e, -, hitems, hstep⟩ | ⟨raw, rfl⟩
  · rw [hstep, hitems]
    exact (List.append_nil _).symm
  · exact congrArg (n.requests ++ ·) (requests_answerBody hn raw)

/-! ### Runs -/

lemma run_cons (n : Node) (c : Command) (commands : List Command) :
    (n.run (c :: commands)).2 = ((n.step c).2.run commands).2 :=
  rfl

lemma IsAnswering.run (hn : n.IsAnswering) (hc : ∀ c ∈ commands, c.IsAnswering) :
    (n.run commands).2.IsAnswering := by
  induction commands generalizing n with
  | nil => exact hn
  | cons c rest ih =>
    obtain ⟨hfirst, hrest⟩ := List.forall_mem_cons.mp hc
    exact ih (hn.step hfirst) hrest

lemma requests_run (hn : n.IsAnswering) (hc : ∀ c ∈ commands, c.IsAnswering) :
    (n.run commands).2.requests =
      n.requests ++ (commands.flatMap Command.items).filterMap Request.ofItem? := by
  induction commands generalizing n with
  | nil => exact (List.append_nil _).symm
  | cons c rest ih =>
    obtain ⟨hfirst, hrest⟩ := List.forall_mem_cons.mp hc
    rw [run_cons, ih (hn.step hfirst) hrest, requests_step hn, List.flatMap_cons,
      List.filterMap_append, List.append_assoc]

lemma latest_cons (c : Command) (commands : List Command) (name : Text) :
    latest (c :: commands) name = (latest commands name).or (latest [c] name) := by
  have hreverse : ((c :: commands).filterMap Command.registration?).reverse =
      (commands.filterMap Command.registration?).reverse ++
        ([c].filterMap Command.registration?).reverse := by
    rw [← List.reverse_append, ← List.filterMap_append, List.singleton_append]
  rw [latest, hreverse, List.find?_append, Option.map_or]
  rfl

lemma get?_handlers_step (n : Node) (c : Command) (name : Text) :
    (n.step c).2.handlers.get? name = (latest [c] name).or (n.handlers.get? name) := by
  rcases step_cases n c with ⟨e, hregistration, -, hstep⟩ | ⟨raw, rfl⟩
  · rw [hstep]
    by_cases hname : e.1 = name
    · subst hname
      simp [latest, hregistration, register]
    · simp [latest, hregistration, hname, register, Entries.get?_put_of_ne (Ne.symm hname)]
  · rfl

/-- The handler under a name is the one that was registered last. -/
lemma get?_handlers_run (n : Node) (commands : List Command) (name : Text) :
    (n.run commands).2.handlers.get? name = (latest commands name).or (n.handlers.get? name) := by
  induction commands generalizing n with
  | nil => rfl
  | cons c rest ih =>
    rw [run_cons, ih, get?_handlers_step, latest_cons c rest, Option.or_assoc]

/-! ### Bodies of answers -/

/-- A body comes back that is read as the answer, or the answer cannot be written and none comes back. -/
inductive Exchange.Carries (e : Exchange) (answer : Json) : Prop
  | sent {b : Bytes} (hsendable : answer.Sendable writerNesting) (hbody : e.body = .ok b)
    (hread : Json.ofBytes b = .ok answer)
  | unwritable {cause : Unwritable} (hsendable : ¬ answer.Sendable writerNesting)
    (hbody : e.body = .error (.unwritable cause))

lemma body_of_response {v : Value} (h : (answerBody n.handlers raw).response = .ok v) :
    (n.post raw).body = (writeBody v).mapError .unwritable := by
  rw [post, h]
  rfl

lemma carries_post (hraw : Json.ofBytes raw = .ok payload) (h : AnsweredBody n.handlers payload answer)
    (hanswer : answer.IsRegular) : (n.post raw).Carries answer := by
  have hbody := body_of_response (answerBody_of_answered hraw h).1
  cases hwrite : writeBody (.ofJson answer) with
  | ok b =>
    rw [hwrite] at hbody
    exact .sent ((writeBody_eq_ok_iff hanswer).mp hwrite).1 hbody (ofBytes_of_writeBody hanswer hwrite)
  | error cause =>
    rw [hwrite] at hbody
    refine .unwritable (fun hsendable => ?_) hbody
    rw [(writeBody_eq_ok_iff hanswer).mpr ⟨hsendable, rfl⟩] at hwrite
    cases hwrite

/-- An answer that can be sent comes back. -/
lemma body_post (hraw : Json.ofBytes raw = .ok payload) (h : AnsweredBody n.handlers payload answer)
    (hanswer : answer.Sendable writerNesting) :
    ∃ b, (n.post raw).body = .ok b ∧ Json.ofBytes b = .ok answer := by
  cases carries_post hraw h hanswer.isRegular with
  | sent _ hbody hread => exact ⟨_, hbody, hread⟩
  | unwritable hsendable => exact absurd hanswer hsendable

lemma sendable_withOutcome {id : Json} (hid : id.Sendable (room + 1)) (h : outcome.Sendable room) :
    (Response.withOutcome id outcome).Sendable (room + 2) := by
  have hversion : (Json.str Member.version).Sendable (room + 1) := .str (by decide)
  have hresult (j : Json) (hj : outcome = .result j) : j.Sendable (room + 1) := by
    subst hj
    cases h with
    | result h => exact h.mono (Nat.le_succ room)
  have herror (e : ErrorObject) (he : outcome = .error e) : e.toJson.Sendable (room + 1) := by
    subst he
    cases h with
    | error hcode hmessage hdata =>
      obtain ⟨entries, heq, hn, hnames, hvalues⟩ :=
        ErrorObject.toJson_eq_dict (.int hcode) (.str hmessage) hdata
      rw [heq]
      exact .dict hn hnames hvalues
  obtain ⟨entries, heq, hn, hnames, hvalues⟩ :=
    Response.withOutcome_eq_dict hversion hid hresult herror
  rw [heq]
  exact .dict hn hnames hvalues

lemma Sendable.of_get? {entries : Entries Json} {id : Json}
    (h : (Json.dict entries).Sendable (room + 1)) (hget : Entries.get? name entries = some id) :
    id.Sendable room := by
  cases h with
  | dict _ _ hvalues => exact hvalues _ (Entries.mem_of_get? hget)

lemma sendable_idOf (h : item.Sendable (room + 1)) : (idOf item).Sendable room := by
  cases item with
  | dict entries =>
    rw [idOf]
    cases hget : Entries.get? "id" entries with
    | none => exact .null
    | some id => exact Sendable.of_get? h hget
  | _ => exact .null

lemma sendable_id {r : Request} (hitem : item.Sendable (room + 1))
    (h : Request.ofValue (.ofJson item) = .ok r) : r.id.toJson.Sendable room := by
  obtain ⟨entries, id, rfl, hget, hofValue, -⟩ := Request.members_of_ofValue h
  rcases RequestId.of_ofValue_ofJson hofValue with rfl | ⟨n, hn, hshort, -⟩
  · exact Sendable.of_get? hitem hget
  · rw [hn]
    exact .int (isShort_of_lt (Nat.lt_trans hshort (by decide)))

lemma sendable_invalidRequest {reason : Text} (h : reason.IsScalar) :
    Outcome.Sendable room (.error ⟨ErrorCode.invalidRequest, "Invalid Request", .str reason⟩) := by
  have hcode : IsShort ErrorCode.invalidRequest := isShort_of_lt (by decide)
  have hmessage : Text.IsScalar ("Invalid Request" : Text) := by decide
  exact .error hcode hmessage (.str h)

/-- An answer to an item can be sent if the item can, and the outcome of the request that it is. -/
lemma sendable_of_answered (hitem : item.Sendable (room + 2)) (h : Answered n.handlers item answer)
    (houtcomes : ∀ r outcome, Request.ofItem? item = some r → Gives n.handlers r outcome →
      outcome.Sendable room) : answer.Sendable (room + 2) := by
  cases h with
  | @valid r outcome hvalid hgives =>
    refine sendable_withOutcome (sendable_id hitem hvalid) (houtcomes r outcome ?_ hgives)
    rw [Request.ofItem?, hvalid]
    rfl
  | @invalid issues hinvalid =>
    exact sendable_withOutcome (sendable_idOf hitem)
      (sendable_invalidRequest (isScalar_headline issues))

/-- An answer to a body can be sent if the body can, and the outcomes of the requests in it. -/
lemma sendable_of_answeredBody (hpayload : payload.Sendable (room + 3))
    (h : AnsweredBody n.handlers payload answer)
    (houtcomes : ∀ item ∈ itemsOf payload, ∀ r outcome, Request.ofItem? item = some r →
      Gives n.handlers r outcome → outcome.Sendable room) : answer.Sendable (room + 3) := by
  cases h with
  | @batch item items answers hanswered =>
    cases hpayload with
    | list hitems =>
      refine .list fun answer hanswer => ?_
      obtain ⟨i, hi, rfl⟩ := List.getElem_of_mem hanswer
      have hi' : i < (item :: items).length := hanswered.length_eq ▸ hi
      have hmem : (item :: items)[i] ∈ item :: items := List.getElem_mem hi'
      exact sendable_of_answered (hitems _ hmem) (hanswered.get hi' hi) (houtcomes _ hmem)
  | emptyBatch => exact sendable_withOutcome .null (sendable_invalidRequest (by decide))
  | single hitem hanswered =>
    rw [itemsOf_of_single hitem] at houtcomes
    exact sendable_of_answered hpayload hanswered fun r outcome hr hgives =>
      (houtcomes payload (List.mem_singleton_self payload) r outcome hr hgives).mono
        (Nat.le_succ room)

/-! ### Arrays -/

/-- The answer to an item in an array: it is the one to the item alone, and an array is refused. -/
structure IsEntry (n : Node) (item answer : Json) : Prop where
  answered : Answered n.handlers item answer
  alone : ∀ raw, Json.ofBytes raw = .ok item → (∀ items, item ≠ .list items) →
    (n.post raw).Carries answer
  refused : ∀ items, item = .list items → ∃ reason, answer = Response.withOutcome .null
    (.error ⟨ErrorCode.invalidRequest, "Invalid Request", .str reason⟩)

lemma isEntry_of_answered (h : Answered n.handlers item answer) (hanswer : answer.IsRegular) :
    n.IsEntry item answer where
  answered := h
  alone _ hraw hitem := carries_post hraw (.single hitem h) hanswer
  refused := by
    rintro items rfl
    cases h with
    | valid h => cases h
    | invalid => exact ⟨_, rfl⟩

/-- The items that are no arrays. -/
def noArrays (items : List Json) : List Json :=
  items.filter fun
    | .list _ => false
    | _       => true

lemma filterMap_ofItem?_noArrays (items : List Json) :
    (noArrays items).filterMap Request.ofItem? = items.filterMap Request.ofItem? := by
  rw [noArrays, List.filterMap_filter]
  refine List.filterMap_congr fun item _ => ?_
  cases item <;> rfl

lemma items_post (hraw : Json.ofBytes raw = .ok payload) :
    (Command.post raw).items = itemsOf payload := by
  rw [Command.items, hraw]

/-- Bodies that are posted one after the other add the requests among their items. -/
lemma run_posts (hn : n.IsAnswering) (raws : List Bytes) :
    (n.run (raws.map .post)).2 = { n with
      requests := n.requests ++
        (raws.flatMap fun raw => (Command.post raw).items).filterMap Request.ofItem? } := by
  have hhandlers (n : Node) : (n.run (raws.map .post)).2.handlers = n.handlers := by
    induction raws generalizing n with
    | nil => rfl
    | cons raw rest ih => exact ih _
  have hposts : ∀ c ∈ raws.map Command.post, c.IsAnswering :=
    List.forall_mem_map.mpr fun _ _ => nofun
  have hrequests := requests_run hn hposts
  rw [List.flatMap_map] at hrequests
  rw [← hrequests, ← hhandlers n]

/-- An array leaves the node as its items leave it that are no arrays, posted one by one. -/
lemma run_alone {alone : List Bytes} (hn : n.IsAnswering) (hraw : Json.ofBytes raw = .ok (.list items))
    (halone : List.Forall₂ (fun raw item => Json.ofBytes raw = .ok item) alone (noArrays items)) :
    (n.run (alone.map .post)).2 = (n.post raw).node := by
  have hitems : (alone.flatMap fun raw => (Command.post raw).items) = noArrays items := by
    have hsingle : ∀ item ∈ noArrays items, itemsOf item = [item] := by
      intro item hitem
      cases item with
      | list items => simp [noArrays] at hitem
      | _ => rfl
    generalize noArrays items = singles at halone hsingle
    induction halone with
    | nil => rfl
    | cons hfirst _ ih =>
      obtain ⟨hitem, hrest⟩ := List.forall_mem_cons.mp hsingle
      rw [List.flatMap_cons, items_post hfirst, hitem, ih hrest, List.singleton_append]
  rw [run_posts hn, hitems, filterMap_ofItem?_noArrays, post, requests_answerBody hn, items_post hraw]
  rfl

/-! ### The law of a run -/

/-- The requests in a body have outcomes that can be sent, be they in an array or not. -/
def HasSendableOutcomes (n : Node) (payload : Json) : Prop :=
  ∀ item ∈ itemsOf payload, ∀ r outcome, Request.ofItem? item = some r →
    Gives n.handlers r outcome → outcome.Sendable (writerNesting - 3)

/-- After any commands whose handlers end in what can be answered, a new node remembers just the requests
among the items that were posted, in order, and has under each name the handler that was registered last. A
body of JSON is answered by what its items are, and the answer comes back if it can be sent, which it can if
the body can and the outcomes. The items of an array are answered as each of them is by itself, and they leave
the node as they do one by one. -/
theorem requests_and_answers_of_run (commands : List Command) (h : ∀ c ∈ commands, c.IsAnswering) :
    let n := (({} : Node).run commands).2
    n.requests = (commands.flatMap Command.items).filterMap Request.ofItem? ∧
    (∀ name, n.handlers.get? name = latest commands name) ∧
    (∀ raw payload, Json.ofBytes raw = .ok payload →
      ∃ answer, AnsweredBody n.handlers payload answer ∧ (n.post raw).Carries answer ∧
        (payload.Sendable writerNesting → n.HasSendableOutcomes payload →
          answer.Sendable writerNesting)) ∧
    ∀ raw items, items ≠ [] → Json.ofBytes raw = .ok (.list items) →
      (∃ answers, (n.post raw).Carries (.list answers) ∧ List.Forall₂ n.IsEntry items answers) ∧
      ∀ alone, List.Forall₂ (fun raw item => Json.ofBytes raw = .ok item) alone (noArrays items) →
        (n.run (alone.map .post)).2 = (n.post raw).node := by
  intro n
  have hempty : ({} : Node).IsAnswering := List.forall_mem_nil _
  have hn : n.IsAnswering := hempty.run h
  refine ⟨requests_run hempty h, fun name => ?_, ?_, ?_⟩
  · exact (get?_handlers_run {} commands name).trans (Option.or_none)
  · intro raw payload hraw
    obtain ⟨answer, hanswered, hregular⟩ := hn.exists_answeredBody hraw
    exact ⟨answer, hanswered, carries_post hraw hanswered hregular,
      fun hpayload houtcomes => sendable_of_answeredBody hpayload hanswered houtcomes⟩
  · intro raw items hne hraw
    refine ⟨?_, fun alone halone => run_alone hn hraw halone⟩
    obtain ⟨item, rest, rfl⟩ := List.exists_cons_of_ne_nil hne
    obtain ⟨answer, hanswered, hregular⟩ := hn.exists_answeredBody hraw
    have hcarries := carries_post hraw hanswered hregular
    cases hanswered with
    | @batch _ _ answers hanswers =>
      cases hregular with
      | list hregulars =>
        have hentries (i : Nat) (hi : i < (item :: rest).length) (hi' : i < answers.length) :
            n.IsEntry ((item :: rest).get ⟨i, hi⟩) (answers.get ⟨i, hi'⟩) :=
          isEntry_of_answered (hanswers.get hi hi') (hregulars _ (List.get_mem _ _))
        exact ⟨answers, hcarries, List.forall₂_iff_get.mpr ⟨hanswers.length_eq, hentries⟩⟩
    | single hitem => exact absurd rfl (hitem _)

/-- The body that spells a value. -/
def spelled (j : Json) : Bytes :=
  Utf8.encodeAll (j.write writeFloat)

/-- A request for a method without parameters. -/
def bareRequest (id : Int) (method : Text) : Json :=
  .dict [("jsonrpc", .str "2.0"), ("id", .int id), ("method", .str method)]

/-- A result, an error and another result in place of the first one. -/
def registrations : List Command :=
  [.respond "m" (.int 5), .fail "f" ⟨.int 1, .str "x", .null⟩, .respond "m" (.int 6)]

/-- Two requests, an array and a request for no method. -/
def mixedItems : List Json :=
  [bareRequest 1 "m", .list [], bareRequest 2 "f", .dict [("id", .int 3)]]

/-- The two requests are remembered, the second result counts, and each item has its answer. -/
theorem requests_and_answers_of_run_mixed :
    let commands := registrations ++ [.post (spelled (.list mixedItems))]
    let n := (({} : Node).run commands).2
    (∀ c ∈ commands, c.IsAnswering) ∧
      n.requests = [⟨.int 1, "m", []⟩, ⟨.int 2, "f", []⟩] ∧
      n.handlers.get? "m" = some (.constant "m" (.int 6)) ∧
      ∃ answers, (n.post (spelled (.list mixedItems))).Carries (.list answers) ∧
        List.Forall₂ n.IsEntry mixedItems answers := by
  intro commands n
  have hanswering : ∀ c ∈ commands, c.IsAnswering := by
    simp only [commands, registrations, List.cons_append, List.nil_append, List.forall_mem_cons]
    refine ⟨?_, ?_, ?_, nofun, List.forall_mem_nil _⟩
    · rintro _ ⟨⟩
      exact Handler.isAnswering_constant _ (.int 5)
    · rintro _ ⟨⟩
      have hobject : NodeError.toErrorObject ⟨.int 1, .str "x", .null⟩ = .ok ⟨1, "x", .null⟩ := rfl
      exact Handler.isAnswering_failing _ hobject (by decide) .null
    · rintro _ ⟨⟩
      exact Handler.isAnswering_constant _ (.int 6)
  have hraw : Json.ofBytes (spelled (.list mixedItems)) = .ok (.list mixedItems) :=
    Checked.eq_ok_of_toOption (by decide +kernel)
  obtain ⟨hrequests, hhandlers, -, harray⟩ := requests_and_answers_of_run commands hanswering
  refine ⟨hanswering, hrequests.trans (by decide +kernel), (hhandlers "m").trans rfl, ?_⟩
  exact (harray _ mixedItems (List.cons_ne_nil _ _) hraw).1

/-- An error is registered whose data are a tuple, and an array of two requests for it is posted. -/
def tupleCommands : List Command :=
  [.fail "f" ⟨.int 1, .str "m", .tuple [.int 1, .int 2]⟩,
    .post (spelled (.list [bareRequest 1 "f", bareRequest 2 "f"]))]

/-- An integer one digit longer than the digit limit. -/
def longInteger : Json := .int (10 ^ digitLimit)

lemma not_sendable_longInteger : ¬ longInteger.Sendable room := by
  have hpow (k : Nat) : ((10 : Int) ^ k).natAbs = 10 ^ k := Int.natAbs_pow 10 k
  rintro ⟨⟩
  next h =>
    rw [IsShort, hpow digitLimit] at h
    exact Nat.lt_irrefl _ h

/-- An error with a tuple makes no error object: it ends the post, and the second request is forgotten. No
answer comes back either with a result that cannot be written. -/
theorem not_all_posts_are_answered :
    ((tupleCommands.flatMap Command.items).filterMap Request.ofItem? =
        [⟨.int 1, "f", []⟩, ⟨.int 2, "f", []⟩] ∧
      (({} : Node).run tupleCommands).2.requests = [⟨.int 1, "f", []⟩]) ∧
    ∀ b, ((({} : Node).respond "m" (.ofJson longInteger)).post (spelled (bareRequest 1 "m"))).body ≠
      .ok b := by
  refine ⟨by decide +kernel, fun b hb => ?_⟩
  have hraw : Json.ofBytes (spelled (bareRequest 1 "m")) = .ok (bareRequest 1 "m") :=
    Checked.eq_ok_of_toOption (by decide +kernel)
  have hanswered : Answered (({} : Node).respond "m" (.ofJson longInteger)).handlers
      (bareRequest 1 "m") (Response.withOutcome (.int 1) (.result longInteger)) :=
    .valid (r := ⟨.int 1, "m", []⟩) rfl (.handled rfl (.value longInteger))
  have hregular : (Response.withOutcome (.int 1) (.result longInteger)).IsRegular :=
    isRegular_withOutcome (.int 1) (.result (.int _))
  cases carries_post hraw (.single nofun hanswered) hregular with
  | sent hsendable =>
    have hresult : Entries.get? "result" [("jsonrpc", .str Member.version), ("id", .int 1),
        ("result", longInteger)] = some longInteger := rfl
    exact not_sendable_longInteger (Sendable.of_get? hsendable hresult)
  | unwritable _ hbody =>
    rw [hbody] at hb
    cases hb

end Node

end ChainRpc
