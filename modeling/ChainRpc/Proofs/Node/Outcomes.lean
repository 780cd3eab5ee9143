import ChainRpc.Proofs.Envelope
import ChainRpc.Proofs.Json.Received
import ChainRpc.Proofs.Node.Answers
import ChainRpc.Proofs.Responses

/-!
# What an item of a body is answered

A request is answered with a result or with an error object: what its handler ends with, or that there is no
handler for it. What is no request is answered with an error object. Only a valid request is remembered, and
it is so whatever it is answered.
-/

namespace ChainRpc

/-- The texts of the outcome are within the range of Unicode, and its objects have distinct names. -/
inductive Outcome.IsRegular : Outcome → Prop
  | result {j : Json} (h : j.IsRegular) : IsRegular (.result j)
  | error {e : ErrorObject} (hmessage : e.message.InRange) (hdata : e.data.IsRegular) :
    IsRegular (.error e)

/-- The request that an item is, if it is a valid one. -/
def Request.ofItem? (item : Json) : Option Request :=
  (ofValue (.ofJson item)).toOption

/-- What a handler ends with is answered: a JSON value as it is, an error as its error object, and whatever
else goes wrong as a fault of the server. -/
inductive Handler.Result.Gives : Handler.Result → Outcome → Prop
  | value (j : Json) : Gives (.value (.ofJson j)) (.result j)
  | error {e : NodeError} {object : ErrorObject} (h : e.toErrorObject = .ok object) :
    Gives (.error e) (.error object)
  | crashed (text : Text) :
    Gives (.crashed text) (.error ⟨ErrorCode.serverError, "Server error", .str text⟩)

namespace Node

variable {handlers : Entries Handler} {r : Request} {outcome : Outcome} {item answer payload : Json}
  {items answers : List Json} {raw : Bytes}

/-- What handlers answer a request with. -/
inductive Gives (handlers : Entries Handler) (r : Request) : Outcome → Prop
  | unknown (h : handlers.get? r.method = none) :
    Gives handlers r (.error ⟨ErrorCode.methodNotFound, "Method not found", .null⟩)
  | handled {handler : Handler} {outcome : Outcome} (h : handlers.get? r.method = some handler)
    (hrun : (handler.run (r.params.map .ofJson)).Gives outcome) : Gives handlers r outcome

/-- What an item is answered. -/
inductive Answered (handlers : Entries Handler) (item : Json) : Json → Prop
  | valid {r : Request} {outcome : Outcome} (h : Request.ofValue (.ofJson item) = .ok r)
    (hgives : Gives handlers r outcome) :
    Answered handlers item (Response.withOutcome r.id.toJson outcome)
  | invalid {issues : List Issue} (h : Request.ofValue (.ofJson item) = .error issues) :
    Answered handlers item
      (Response.withOutcome (idOf item) (.error ⟨ErrorCode.invalidRequest, "Invalid Request",
        .str (Issue.headline issues Request.className)⟩))

/-- The items that a body holds: those of an array, or the body by itself. -/
def itemsOf : Json → List Json
  | .list items => items
  | item        => [item]

/-- What a body is answered. -/
inductive AnsweredBody (handlers : Entries Handler) : Json → Json → Prop
  | batch {item : Json} {items answers : List Json}
    (h : List.Forall₂ (Answered handlers) (item :: items) answers) :
    AnsweredBody handlers (.list (item :: items)) (.list answers)
  | emptyBatch : AnsweredBody handlers (.list [])
      (Response.withOutcome .null (.error ⟨ErrorCode.invalidRequest, "Invalid Request",
        .str "empty batch"⟩))
  | single {item answer : Json} (hitem : ∀ items, item ≠ .list items)
    (h : Answered handlers item answer) : AnsweredBody handlers item answer

lemma AnsweredBody.of_ne_nil (hne : items ≠ []) (h : List.Forall₂ (Answered handlers) items answers) :
    AnsweredBody handlers (.list items) (.list answers) := by
  obtain ⟨item, rest, rfl⟩ := List.exists_cons_of_ne_nil hne
  exact .batch h

/-! ### Single items -/

lemma errorResponse_of_toErrorObject {e : NodeError} {object : ErrorObject}
    (h : e.toErrorObject = .ok object) (id : Json) :
    errorResponse id e = .ok (.ofJson (Response.withOutcome id (.error object))) := by
  rw [errorResponse, NodeError.toJson, h]
  rfl

lemma response_answerRequest (h : Gives handlers r outcome) :
    (answerRequest handlers r).response =
      .ok (.ofJson (Response.withOutcome r.id.toJson outcome)) := by
  cases h with
  | unknown h =>
    simp only [answerRequest, h]
    rfl
  | @handled handler outcome h hrun =>
    simp only [answerRequest, h]
    revert hrun
    generalize handler.run (r.params.map Value.ofJson) = result
    intro hrun
    cases hrun with
    | value j => rfl
    | error he => exact errorResponse_of_toErrorObject he _
    | crashed text => rfl

/-- The data of an error object that is answered are such as a client accepts. -/
lemma Gives.toJson_data {e : ErrorObject} (h : Gives handlers r (.error e)) :
    Value.toJson (.ofJson e.data) = .ok e.data := by
  cases h with
  | unknown h => rfl
  | @handled handler _ h hrun =>
    revert hrun
    generalize handler.run (r.params.map Value.ofJson) = result
    intro hrun
    cases hrun with
    | error he => exact ErrorObject.toJson_data_of_ofEntries he
    | crashed text => rfl

lemma response_answerItem (h : Answered handlers item answer) :
    (answerItem handlers item).response = .ok (.ofJson answer) := by
  cases h with
  | valid hr hgives =>
    rw [answerItem, hr]
    exact response_answerRequest hgives
  | invalid hr =>
    rw [answerItem, hr]
    rfl

/-- The request that an item is, if it is one, is remembered whatever it is answered. -/
lemma request_answerItem (handlers : Entries Handler) (item : Json) :
    (answerItem handlers item).request = Request.ofItem? item := by
  rw [answerItem, Request.ofItem?]
  split
  · next r hr =>
    rw [hr, answerRequest]
    split
    · rfl
    · split <;> rfl
  · next issues hissues =>
    rw [hissues]
    rfl

/-! ### Batches -/

lemma answerItems_of_answered (h : List.Forall₂ (Answered handlers) items answers) :
    (answerItems handlers items).response = .ok (answers.map .ofJson) ∧
      (answerItems handlers items).requests = items.filterMap Request.ofItem? := by
  induction h with
  | nil => exact ⟨rfl, rfl⟩
  | @cons item answer items answers hfirst _ ih =>
    obtain ⟨hresponses, hrequests⟩ := ih
    have hresponse := response_answerItem hfirst
    have hrequest := request_answerItem handlers item
    simp only [answerItems, Answer.cons, Reply.toAnswer, hresponse, hresponses, hrequests, hrequest]
    refine ⟨rfl, ?_⟩
    cases hitem : Request.ofItem? item <;> simp [hitem]

/-- A batch has an answer only if each of its items has. -/
lemma forall_of_answerItems {vs : List Value} (h : (answerItems handlers items).response = .ok vs) :
    ∀ item ∈ items, ∃ v, (answerItem handlers item).response = .ok v := by
  induction items generalizing vs with
  | nil => exact List.forall_mem_nil _
  | cons item rest ih =>
    rw [answerItems, Answer.cons] at h
    split at h
    · cases h
    · next v hv =>
      obtain ⟨others, hothers, rfl⟩ := Checked.map_eq_ok_iff.mp h
      exact List.forall_mem_cons.mpr ⟨⟨v, hv⟩, ih hothers⟩

/-! ### Bodies -/

lemma answerBody_of_single (hraw : Json.ofBytes raw = .ok item) (hitem : ∀ items, item ≠ .list items) :
    answerBody handlers raw = (answerItem handlers item).toAnswer := by
  rw [answerBody, if_neg (ne_nil_of_ofBytes hraw), hraw]
  cases item with
  | list items => exact absurd rfl (hitem items)
  | _ => rfl

lemma answerBody_of_batch (hraw : Json.ofBytes raw = .ok (.list (item :: items))) :
    answerBody handlers raw = (answerItems handlers (item :: items)).toArray := by
  rw [answerBody, if_neg (ne_nil_of_ofBytes hraw), hraw]

lemma answerBody_of_emptyBatch (hraw : Json.ofBytes raw = .ok (.list [])) :
    answerBody handlers raw = refusal ErrorCode.invalidRequest "Invalid Request" "empty batch" := by
  rw [answerBody, if_neg (ne_nil_of_ofBytes hraw), hraw]

lemma itemsOf_of_single (hitem : ∀ items, item ≠ .list items) : itemsOf item = [item] := by
  cases item with
  | list items => exact absurd rfl (hitem items)
  | _ => rfl

/-- A body has an answer only if each of its items has. -/
lemma response_of_answerBody {v : Value} (hraw : Json.ofBytes raw = .ok payload)
    (h : (answerBody handlers raw).response = .ok v) (hitem : item ∈ itemsOf payload) :
    ∃ w, (answerItem handlers item).response = .ok w := by
  by_cases hlist : ∃ items, payload = .list items
  · obtain ⟨items, rfl⟩ := hlist
    cases items with
    | nil => cases hitem
    | cons first rest =>
      rw [answerBody_of_batch hraw] at h
      obtain ⟨vs, hvs, -⟩ := Checked.map_eq_ok_iff.mp h
      exact forall_of_answerItems hvs item hitem
  · have hsingle (items : List Json) : payload ≠ .list items := fun heq => hlist ⟨items, heq⟩
    rw [itemsOf_of_single hsingle] at hitem
    obtain rfl := List.mem_singleton.mp hitem
    rw [answerBody_of_single hraw hsingle] at h
    exact ⟨v, h⟩

/-- A body is answered by what its items are, and the requests among them are remembered. -/
lemma answerBody_of_answered (hraw : Json.ofBytes raw = .ok payload)
    (h : AnsweredBody handlers payload answer) :
    (answerBody handlers raw).response = .ok (.ofJson answer) ∧
      (answerBody handlers raw).requests = (itemsOf payload).filterMap Request.ofItem? := by
  cases h with
  | batch hitems =>
    obtain ⟨hresponse, hrequests⟩ := answerItems_of_answered hitems
    rw [answerBody_of_batch hraw]
    refine ⟨?_, hrequests⟩
    rw [Answer.toArray, hresponse, Value.ofJson, Value.ofJsonItems_eq_map]
    rfl
  | emptyBatch =>
    rw [answerBody_of_emptyBatch hraw]
    exact ⟨rfl, rfl⟩
  | single hitem hanswered =>
    rw [answerBody_of_single hraw hitem, itemsOf_of_single hitem]
    refine ⟨response_answerItem hanswered, ?_⟩
    rw [Reply.toAnswer, request_answerItem]
    cases hrequest : Request.ofItem? payload <;> simp [hrequest]

end Node

/-! ### Members of requests -/

namespace Request

variable {r : Request} {item : Json}

/-- What an item that is a request has under its names. -/
lemma members_of_ofValue (h : ofValue (.ofJson item) = .ok r) :
    ∃ entries id, item = .dict entries ∧ Entries.get? "id" entries = some id ∧
      RequestId.ofValue (.ofJson id) = .ok r.id ∧
      (r.params = [] ∨ Entries.get? "params" entries = some (.list r.params)) := by
  cases item with
  | dict entries =>
    obtain ⟨version, ⟨id, method, params⟩, -, hmembers, rfl⟩ := Checked.map_both_eq_ok_iff.mp
      (show ofEntries (Value.ofJsonEntries entries) = .ok r from h)
    obtain ⟨hid, hmembers⟩ := Checked.both_eq_ok_iff.mp hmembers
    obtain ⟨-, hparams⟩ := Checked.both_eq_ok_iff.mp hmembers
    obtain ⟨id, hget, hid⟩ := Member.required_eq_ok_iff.mp hid
    refine ⟨entries, id, rfl, hget, hid, ?_⟩
    rw [Member.withDefault, Value.get?_ofJsonEntries] at hparams
    cases hget : Entries.get? "params" entries with
    | none =>
      rw [hget] at hparams
      cases hparams
      exact .inl rfl
    | some found =>
      rw [hget] at hparams
      have hfound := Checked.under_eq_ok_iff.mp hparams
      cases found with
      | list items =>
        rw [Value.eq_of_toJsonItems_ofJsonItems hfound]
        exact .inr rfl
      | _ => cases hfound
  | _ => cases h

end Request

/-! ### Regular answers -/

lemma Json.IsRegular.of_get? {entries : Entries Json} {name : Text} {j : Json}
    (h : (Json.dict entries).IsRegular) (hget : Entries.get? name entries = some j) :
    j.IsRegular := by
  cases h with
  | dict _ _ hvalues => exact hvalues _ (Entries.mem_of_get? hget)

lemma Request.isRegular_of_ofValue {r : Request} {item : Json} (hitem : item.IsRegular)
    (h : ofValue (.ofJson item) = .ok r) :
    r.id.toJson.IsRegular ∧ ∀ j ∈ r.params, j.IsRegular := by
  obtain ⟨entries, id, rfl, hid, hofValue, hparams⟩ := members_of_ofValue h
  constructor
  · rcases RequestId.of_ofValue_ofJson hofValue with rfl | ⟨n, hn, -, -⟩
    · exact hitem.of_get? hid
    · rw [hn]
      exact .int n
  · rcases hparams with hnil | hparams
    · rw [hnil]
      exact List.forall_mem_nil _
    · cases hitem.of_get? hparams with
      | list hitems => exact hitems

namespace Node

variable {handlers : Entries Handler} {outcome : Outcome} {item answer payload : Json}
  {items : List Json}

lemma isRegular_idOf (h : item.IsRegular) : (idOf item).IsRegular := by
  cases item with
  | dict entries =>
    rw [idOf]
    cases hget : Entries.get? "id" entries with
    | none => exact .null
    | some id => exact h.of_get? hget
  | _ => exact .null

lemma isScalar_headline (issues : List Issue) :
    (Issue.headline issues Request.className).IsScalar := by
  have hword : (Text.plural issues.length "validation error").IsScalar := by
    unfold Text.plural
    split <;> decide
  rw [Issue.headline]
  apply Text.isScalar_concat
  simp only [List.forall_mem_cons]
  exact ⟨Text.isScalar_ofNat _, by decide, hword, by decide, by decide, List.forall_mem_nil _⟩

lemma isRegular_errorObject {e : ErrorObject} (hmessage : e.message.InRange)
    (hdata : e.data.IsRegular) : e.toJson.IsRegular := by
  obtain ⟨entries, heq, hn, hnames, hvalues⟩ :=
    ErrorObject.toJson_eq_dict (.int e.code) (.str hmessage) hdata
  rw [heq]
  exact .dict hn (fun m hm => (hnames m hm).inRange) hvalues

lemma isRegular_withOutcome {id : Json} (hid : id.IsRegular) (h : outcome.IsRegular) :
    (Response.withOutcome id outcome).IsRegular := by
  have hversion : (Json.str Member.version).IsRegular := .str (by decide)
  have hresult (j : Json) (hj : outcome = .result j) : j.IsRegular := by
    subst hj
    cases h with
    | result h => exact h
  have herror (e : ErrorObject) (he : outcome = .error e) : e.toJson.IsRegular := by
    subst he
    cases h with
    | error hmessage hdata => exact isRegular_errorObject hmessage hdata
  obtain ⟨entries, heq, hn, hnames, hvalues⟩ :=
    Response.withOutcome_eq_dict hversion hid hresult herror
  rw [heq]
  exact .dict hn (fun m hm => (hnames m hm).inRange) hvalues

lemma isRegular_invalidRequest {reason : Text} (h : reason.InRange) :
    Outcome.IsRegular (.error ⟨ErrorCode.invalidRequest, "Invalid Request", .str reason⟩) := by
  have hmessage : Text.InRange ("Invalid Request" : Text) := by decide
  exact .error hmessage (.str h)

/-- An item is answered if the request that it is, if it is one, has an outcome. -/
lemma exists_answered (hitem : item.IsRegular)
    (h : ∀ r, Request.ofValue (.ofJson item) = .ok r → ∃ outcome, Gives handlers r outcome ∧
      outcome.IsRegular) :
    ∃ answer, Answered handlers item answer ∧ answer.IsRegular := by
  cases hvalid : Request.ofValue (.ofJson item) with
  | ok r =>
    obtain ⟨outcome, hgives, hregular⟩ := h r hvalid
    have hid := (Request.isRegular_of_ofValue hitem hvalid).1
    exact ⟨_, .valid hvalid hgives, isRegular_withOutcome hid hregular⟩
  | error issues =>
    have hregular := isRegular_invalidRequest (isScalar_headline issues).inRange
    exact ⟨_, .invalid hvalid, isRegular_withOutcome (isRegular_idOf hitem) hregular⟩

lemma isRegular_of_mem_itemsOf (h : payload.IsRegular) (hitem : item ∈ itemsOf payload) :
    item.IsRegular := by
  cases h with
  | list hitems => exact hitems item hitem
  | _ =>
    obtain rfl := List.mem_singleton.mp hitem
    constructor <;> assumption

/-- The items of a batch are answered if each of them is. -/
lemma exists_answers (h : ∀ item ∈ items, ∃ answer, Answered handlers item answer ∧ answer.IsRegular) :
    ∃ answers, List.Forall₂ (Answered handlers) items answers ∧
      ∀ answer ∈ answers, answer.IsRegular := by
  induction items with
  | nil => exact ⟨[], .nil, List.forall_mem_nil _⟩
  | cons item rest ih =>
    obtain ⟨⟨answer, hanswered, hregular⟩, hrest⟩ := List.forall_mem_cons.mp h
    obtain ⟨answers, hanswers, hregulars⟩ := ih hrest
    exact ⟨answer :: answers, .cons hanswered hanswers,
      List.forall_mem_cons.mpr ⟨hregular, hregulars⟩⟩

/-- A body is answered if all its items are. -/
lemma exists_answeredBody (h : ∀ item ∈ itemsOf payload, ∃ answer, Answered handlers item answer ∧
      answer.IsRegular) :
    ∃ answer, AnsweredBody handlers payload answer ∧ answer.IsRegular := by
  by_cases hlist : ∃ items, payload = .list items
  · obtain ⟨items, rfl⟩ := hlist
    cases items with
    | nil =>
      exact ⟨_, .emptyBatch, isRegular_withOutcome .null (isRegular_invalidRequest (by decide))⟩
    | cons item items =>
      obtain ⟨answers, hanswers, hregulars⟩ := exists_answers h
      exact ⟨.list answers, .batch hanswers, .list hregulars⟩
  · have hitem (items : List Json) : payload ≠ .list items := fun heq => hlist ⟨items, heq⟩
    rw [itemsOf_of_single hitem] at h
    obtain ⟨answer, hanswered, hregular⟩ := h payload (List.mem_singleton_self payload)
    exact ⟨answer, .single hitem hanswered, hregular⟩

end Node

end ChainRpc
