import ChainRpc.Proofs.Client.Attribution
import ChainRpc.Proofs.Json.Carried
import ChainRpc.Proofs.Node.Bodies
import ChainRpc.Proofs.Node.Outcomes

/-!
# Which answers of a node a client accepts

A response is framed for the item that it answers if a client takes it for a response and it carries the
identifier due: the item's own if that is an integer or a text, and null otherwise. An item with another
identifier is answered under that identifier, or under the integer that it is taken for, and a result that is
nested too deep is no result to a client. All other responses are framed.
-/

namespace ChainRpc

/-! ### Handlers that deal in JSON -/

/-- What a handler ends with is a JSON value, an error of an integer code, a text and JSON data, or the text
of another fault. -/
inductive Handler.Result.IsOrdinary : Handler.Result → Prop
  | value {j : Json} (h : j.IsRegular) : IsOrdinary (.value (.ofJson j))
  | error {code : Int} {message : Text} {data : Json} (hmessage : message.InRange)
    (hdata : data.IsRegular) : IsOrdinary (.error ⟨.int code, .str message, .ofJson data⟩)
  | crashed {text : Text} (h : text.InRange) : IsOrdinary (.crashed text)

/-- Whatever JSON values the handler is called with, it ends with JSON. -/
def Handler.IsOrdinary (h : Handler) : Prop :=
  ∀ params : List Json, (∀ j ∈ params, j.IsRegular) → (h.run (params.map .ofJson)).IsOrdinary

namespace NodeError

variable {code : Int} {message : Text} {data : Json} {object : ErrorObject}

/-- An error of an integer, a text and JSON data has these in its error object. -/
lemma eq_of_toErrorObject
    (h : toErrorObject ⟨.int code, .str message, .ofJson data⟩ = .ok object) :
    object = ⟨code, message, data⟩ := by
  obtain ⟨_, ⟨_, _⟩, hcode, hmembers, rfl⟩ := Checked.map_both_eq_ok_iff.mp h
  obtain ⟨hmessage, hdata⟩ := Checked.both_eq_ok_iff.mp hmembers
  cases hcode
  cases hmessage
  rw [Value.eq_of_toJson_ofJson (Checked.under_eq_ok_iff.mp hdata)]

end NodeError

namespace Node

variable {handlers : Entries Handler} {n : Node} {r : Request} {outcome : Outcome} {v : Value}
  {item answer payload : Json} {items answers : List Json} {raw b : Bytes}

/-- Handlers that deal in JSON answer a request with JSON, if they let it be answered at all. -/
lemma gives_of_response (hhandlers : ∀ e ∈ handlers, e.2.IsOrdinary)
    (hparams : ∀ j ∈ r.params, j.IsRegular) (h : (answerRequest handlers r).response = .ok v) :
    ∃ outcome, Gives handlers r outcome ∧ outcome.IsRegular := by
  cases hget : handlers.get? r.method with
  | none => exact ⟨_, .unknown hget, .error (by decide) .null⟩
  | some handler =>
    have hordinary := hhandlers _ (Entries.mem_of_get? hget) r.params hparams
    simp only [answerRequest, hget] at h
    suffices ∃ outcome, (handler.run (r.params.map .ofJson)).Gives outcome ∧ outcome.IsRegular by
      obtain ⟨outcome, hrun, hregular⟩ := this
      exact ⟨outcome, .handled hget hrun, hregular⟩
    revert h hordinary
    generalize handler.run (r.params.map Value.ofJson) = result
    intro hordinary h
    cases hordinary with
    | @value j hj => exact ⟨_, .value j, .result hj⟩
    | @error code message data hmessage hdata =>
      obtain ⟨_, hjson, -⟩ := Checked.map_eq_ok_iff.mp h
      rw [NodeError.toJson] at hjson
      split at hjson
      · cases hjson
      · next object hobject =>
        obtain rfl := NodeError.eq_of_toErrorObject hobject
        exact ⟨_, .error hobject, .error hmessage hdata⟩
    | @crashed text htext =>
      have hmessage : Text.InRange ("Server error" : Text) := by decide
      exact ⟨_, .crashed text, .error hmessage (.str htext)⟩

/-- What is answered to a body, if it is answered at all. -/
lemma answeredBody_of_response (hhandlers : ∀ e ∈ handlers, e.2.IsOrdinary)
    (hraw : Json.ofBytes raw = .ok payload) (h : (answerBody handlers raw).response = .ok v) :
    ∃ answer, AnsweredBody handlers payload answer ∧ answer.IsRegular ∧ v = .ofJson answer := by
  have hitems : ∀ item ∈ itemsOf payload, ∃ answer, Answered handlers item answer ∧
      answer.IsRegular := by
    intro item hitem
    have hregular := isRegular_of_mem_itemsOf (Json.isRegular_of_ofBytes hraw) hitem
    obtain ⟨w, hw⟩ := response_of_answerBody hraw h hitem
    refine exists_answered hregular fun r hr => ?_
    rw [answerItem, hr] at hw
    exact gives_of_response hhandlers (Request.isRegular_of_ofValue hregular hr).2 hw
  obtain ⟨answer, hanswered, hregular⟩ := exists_answeredBody hitems
  have hresponse := (answerBody_of_answered hraw hanswered).1
  exact ⟨answer, hanswered, hregular, Except.ok.inj (h.symm.trans hresponse)⟩

end Node

/-! ### Results that are nested too deep -/

namespace Value

variable {room room' : Nat} {j : Json} {items : List Json} {entries : List (Text × Json)}

lemma forall_of_jsonItems?_ofJsonItems (h : jsonItems? room (ofJsonItems items) = some items) :
    ∀ j ∈ items, json? room (ofJson j) = some j := by
  induction items with
  | nil => exact List.forall_mem_nil _
  | cons j rest ih =>
    simp only [ofJsonItems, jsonItems?, bind, pure, Option.bind_eq_some_iff] at h
    obtain ⟨found, hfound, others, hothers, heq⟩ := h
    cases heq
    exact List.forall_mem_cons.mpr ⟨hfound, ih hothers⟩

lemma forall_of_jsonEntries?_ofJsonEntries
    (h : jsonEntries? room (ofJsonEntries entries) = some entries) :
    ∀ e ∈ entries, json? room (ofJson e.2) = some e.2 := by
  induction entries with
  | nil => exact List.forall_mem_nil _
  | cons e rest ih =>
    obtain ⟨name, value⟩ := e
    simp only [ofJsonEntries, jsonEntries?, bind, pure, Option.bind_eq_some_iff] at h
    obtain ⟨found, hfound, others, hothers, heq⟩ := h
    cases heq
    exact List.forall_mem_cons.mpr ⟨hfound, ih hothers⟩

/-- Of what a body carries, a client takes for JSON what stands in few enough containers. -/
lemma json?_ofJson_iff (hj : j.Sendable room') :
    json? room (ofJson j) = some j ↔ j.Writable room := by
  constructor
  · intro h
    induction room generalizing j room' with
    | zero => cases j <;> cases h
    | succ room ih =>
      cases hj with
      | null => exact .null
      | bool b => exact .bool b
      | int hn => exact .int _
      | float hx => exact .float _
      | str ht => exact .str ht.isWhole
      | @list room' items hitems =>
        obtain ⟨found, hfound, heq⟩ := Option.map_eq_some_iff.mp h
        cases heq
        exact .list fun j hj => ih (hitems j hj) (forall_of_jsonItems?_ofJsonItems hfound j hj)
      | @dict room' entries hn hnames hentries =>
        obtain ⟨found, hfound, heq⟩ := Option.map_eq_some_iff.mp h
        cases heq
        exact .dict (fun e he => (hnames e he).isWhole) fun e he =>
          ih (hentries e he) (forall_of_jsonEntries?_ofJsonEntries hfound e he)
  · intro h
    clear hj
    induction h with
    | null | bool | int | float | str => rfl
    | list h ih =>
      rw [ofJson, json?, jsonItems?_ofJsonItems ih]
      rfl
    | dict hnames h ih =>
      rw [ofJson, json?, jsonEntries?_ofJsonEntries ih]
      rfl

lemma toJson_ofJson_iff (hj : j.Sendable room) :
    toJson (ofJson j) = .ok j ↔ j.Writable jsonRoom := by
  rw [← json?_ofJson_iff hj, toJson]
  cases hjson : json? jsonRoom (ofJson j) with
  | none => simp
  | some found => simp

end Value

/-! ### Framing -/

namespace Node

/-- The identifier that the answer to an item has to carry. -/
def dueId (item : Json) : Json :=
  match idOf item with
  | .int n => .int n
  | .str t => .str t
  | _      => .null

/-- A client takes the answer for a response, and it carries the identifier due to the item. -/
structure IsFramed (item answer : Json) : Prop where
  accepted : ∃ response, Client.parse answer = .ok response
  id : ∃ entries, answer = .dict entries ∧ Entries.get? "id" entries = some (dueId item)

/-- The result in an answer, if there is one, stands in few enough containers. -/
def HasShallowResult (answer : Json) : Prop :=
  ∀ entries j, answer = .dict entries → Entries.get? "result" entries = some j →
    j.Writable Value.jsonRoom

variable {handlers : Entries Handler} {n : Node} {outcome : Outcome} {room : Nat}
  {item answer payload : Json} {items answers : List Json} {raw b : Bytes}

lemma dueId_eq_idOf_iff : dueId item = idOf item ↔ Client.HasPlainId item := by
  rw [dueId]
  cases item with
  | dict entries =>
    rw [idOf]
    cases hget : Entries.get? "id" entries with
    | none =>
      refine iff_of_true rfl ?_
      rintro _ id ⟨⟩ hid
      rw [hget] at hid
      cases hid
    | some id =>
      have hplain : Client.HasPlainId (.dict entries) ↔
          id = .null ∨ (∃ n, id = .int n) ∨ ∃ t, id = .str t := by
        refine ⟨fun h => h entries id rfl hget, ?_⟩
        rintro h _ other ⟨⟩ hother
        rw [hget] at hother
        cases hother
        exact h
      rw [hplain]
      cases id <;> simp
  | _ => exact iff_of_true rfl (by rintro _ _ ⟨⟩)

lemma nullable_dueId (item : Json) :
    ∃ found, Member.nullable RequestId.ofValue (.ofJson (dueId item)) = .ok found := by
  unfold dueId
  split
  · exact ⟨_, rfl⟩
  · exact ⟨_, rfl⟩
  · exact ⟨_, rfl⟩

lemma isFramed_withOutcome_iff {id : Json}
    (hdata : ∀ e, outcome = .error e → Value.toJson (.ofJson e.data) = .ok e.data)
    (hsendable : (Response.withOutcome id outcome).Sendable room) :
    IsFramed item (Response.withOutcome id outcome) ↔
      dueId item = id ∧ HasShallowResult (Response.withOutcome id outcome) := by
  have hdue (entries : Entries Json) (h : Response.withOutcome id outcome = .dict entries) :
      Entries.get? "id" entries = some id := by
    cases outcome <;> cases h <;> rfl
  have hresult (j : Json) (h : outcome = .result j) : j.Sendable room := by
    subst h
    cases hsendable with
    | dict _ _ hentries =>
      exact (hentries ("result", j) (by simp)).mono (Nat.le_succ _)
  constructor
  · rintro ⟨⟨response, hparse⟩, entries, hentries, hget⟩
    rw [hdue entries hentries] at hget
    refine ⟨(Option.some.inj hget).symm, ?_⟩
    intro entries' j hentries' hj
    cases outcome with
    | result found =>
      cases hentries'
      obtain rfl : found = j := Option.some.inj hj
      exact (Value.toJson_ofJson_iff (hresult found rfl)).mp (Response.toJson_of_parse hparse)
    | error e =>
      cases hentries'
      cases hj
  · rintro ⟨rfl, hshallow⟩
    obtain ⟨found, hfound⟩ := nullable_dueId item
    cases outcome with
    | result j =>
      have hj := (Value.toJson_ofJson_iff (hresult j rfl)).mpr (hshallow _ j rfl rfl)
      exact ⟨⟨_, Response.parse_withResult hfound hj⟩, _, rfl, rfl⟩
    | error e => exact ⟨⟨_, Response.parse_withError hfound (hdata e rfl)⟩, _, rfl, rfl⟩

/-- An answer is framed unless another identifier than the item's is due, or its result is nested too
deep. -/
lemma isFramed_iff (h : Answered handlers item answer) (hsendable : answer.Sendable room) :
    IsFramed item answer ↔ Client.HasPlainId item ∧ HasShallowResult answer := by
  cases h with
  | @valid r outcome hvalid hgives =>
    rw [isFramed_withOutcome_iff (fun e he => (he ▸ hgives).toJson_data) hsendable]
    refine and_congr_left fun _ => ?_
    obtain ⟨entries, id, rfl, hid, hofValue, -⟩ := Request.members_of_ofValue hvalid
    have hidOf : idOf (.dict entries) = id := by rw [idOf, hid]; rfl
    rw [← dueId_eq_idOf_iff, hidOf]
    rcases RequestId.of_ofValue_ofJson hofValue with rfl | ⟨n, hn, -, hother⟩
    · rfl
    · -- Null is due, which is neither the identifier of the item nor what it is taken for.
      have hnull : dueId (.dict entries) = .null := by
        rw [dueId, hidOf]
        rcases hother with ⟨b, rfl⟩ | ⟨x, rfl⟩ <;> rfl
      rw [hnull, hn]
      rcases hother with ⟨b, rfl⟩ | ⟨x, rfl⟩ <;> simp [RequestId.toJson]
  | invalid =>
    rw [isFramed_withOutcome_iff (by rintro _ ⟨⟩; rfl) hsendable, dueId_eq_idOf_iff]

/-- An empty batch is answered under no identifier, which is the one due. -/
lemma isFramed_emptyBatch {object : ErrorObject}
    (hdata : Value.toJson (.ofJson object.data) = .ok object.data) :
    IsFramed (.list []) (Response.withOutcome .null (.error object)) :=
  ⟨⟨_, Response.parse_withError rfl hdata⟩, _, rfl, rfl⟩

/-- A body and its answer, item by item: the items of an array with those of an array, and anything else
by itself. -/
inductive ItemByItem (R : Json → Json → Prop) : Json → Json → Prop
  | batch {item : Json} {items answers : List Json} (h : List.Forall₂ R (item :: items) answers) :
    ItemByItem R (.list (item :: items)) (.list answers)
  | single {item answer : Json} (hitem : ∀ first rest, item ≠ .list (first :: rest)) (h : R item answer) :
    ItemByItem R item answer

/-- What a node whose handlers deal in JSON sends back for a body of JSON is read item by item, and a
response in it is one that a client accepts, under the identifier due, exactly if the item has no identifier
of a wrong type and no result is nested too deep. -/
theorem answers_are_framed_iff (hhandlers : ∀ e ∈ n.handlers, e.2.IsOrdinary)
    (hraw : Json.ofBytes raw = .ok payload) (hbody : (n.post raw).body = .ok b) :
    ∃ answer, Json.ofBytes b = .ok answer ∧
      ItemByItem (fun item response => IsFramed item response ↔
        Client.HasPlainId item ∧ HasShallowResult response) payload answer := by
  obtain ⟨v, hv, hwrite⟩ := Checked.bind_eq_ok_iff.mp hbody
  obtain ⟨answer, hanswered, hregular, rfl⟩ := answeredBody_of_response hhandlers hraw hv
  have hwrite := Checked.mapError_eq_ok_iff.mp hwrite
  refine ⟨answer, ofBytes_of_writeBody hregular hwrite, ?_⟩
  have hsendable := ((writeBody_eq_ok_iff hregular).mp hwrite).1
  cases hanswered with
  | @batch item items answers hitems =>
    cases hsendable with
    | list hanswers =>
      refine .batch (List.forall₂_iff_get.mpr ⟨hitems.length_eq, fun i hi hi' => ?_⟩)
      exact isFramed_iff (hitems.get hi hi') (hanswers _ (List.get_mem _ _))
  | emptyBatch =>
    refine .single (by rintro _ _ ⟨⟩) (iff_of_true (isFramed_emptyBatch rfl) ⟨?_, ?_⟩)
    · rintro _ _ ⟨⟩
    · rintro _ _ ⟨⟩ hresult
      cases hresult
  | single hitem h => exact .single (fun first rest => hitem (first :: rest)) (isFramed_iff h hsendable)

/-- A request for a method, but under an array in place of an identifier. -/
def stray : Json :=
  .dict [("jsonrpc", .str "2.0"), ("id", .list [.int 1]), ("method", .str "m")]

/-- The answer to it, under the same array. -/
def strayAnswer : Json :=
  Response.withOutcome (.list [.int 1]) (.error ⟨ErrorCode.invalidRequest, "Invalid Request",
    .str "2 validation errors for RPCRequest"⟩)

/-- A node answers an array with two responses, one of them under no identifier of a request. -/
theorem answers_are_framed_iff_mixed :
    let n : Node := ({} : Node).respond "m" (.int 5)
    let request : Json := .dict [("id", .int 7), ("method", .str "m")]
    let response : Json := Response.withOutcome (.int 7) (.result (.int 5))
    (n.post (Client.bodyOf (.list [stray, request]))).body =
        .ok (Client.bodyOf (.list [strayAnswer, response])) ∧
      ItemByItem (fun item response => IsFramed item response ↔
          Client.HasPlainId item ∧ HasShallowResult response)
        (.list [stray, request]) (.list [strayAnswer, response]) := by
  intro n request response
  have hhandlers : ∀ e ∈ n.handlers, e.2.IsOrdinary :=
    List.forall_mem_singleton.mpr fun _ _ => .value (.int 5)
  have hraw : Json.ofBytes (Client.bodyOf (.list [stray, request])) = .ok (.list [stray, request]) :=
    Checked.eq_ok_of_toOption (by decide +kernel)
  have hbody : (n.post (Client.bodyOf (.list [stray, request]))).body =
      .ok (Client.bodyOf (.list [strayAnswer, response])) :=
    Checked.eq_ok_of_toOption (by decide +kernel)
  have hread : Json.ofBytes (Client.bodyOf (.list [strayAnswer, response])) =
      .ok (.list [strayAnswer, response]) := Checked.eq_ok_of_toOption (by decide +kernel)
  obtain ⟨answer, hanswer, hframed⟩ := answers_are_framed_iff hhandlers hraw hbody
  cases hread.symm.trans hanswer
  exact ⟨hbody, hframed⟩

/-- The array is sent back where null is due, and a client refuses the response for it. -/
theorem not_isFramed_stray :
    (({} : Node).post (Client.bodyOf stray)).body = .ok (Client.bodyOf strayAnswer) ∧
      Json.ofBytes (Client.bodyOf strayAnswer) = .ok strayAnswer ∧ dueId stray = .null ∧
      (Client.parse strayAnswer).toOption = none ∧ ¬ IsFramed stray strayAnswer := by
  have hparse : (Client.parse strayAnswer).toOption = none := by decide +kernel
  refine ⟨Checked.eq_ok_of_toOption (by decide +kernel),
    Checked.eq_ok_of_toOption (by decide +kernel), rfl, hparse, fun h => ?_⟩
  obtain ⟨response, hresponse⟩ := h.accepted
  rw [hresponse] at hparse
  cases hparse

end Node

end ChainRpc
