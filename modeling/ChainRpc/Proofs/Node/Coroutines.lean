import ChainRpc.Proofs.Node.Runs

/-!
# Functions and coroutines as handlers

A handler is a plain function or a coroutine. Both are answered alike: by the value that they return, by the
error that they raise, by a fault of the server if anything else goes wrong in the body, and by an error of
another code if the parameters do not fit. Only a plain function whose body meets a value of a wrong type is
answered as if the parameters did not fit. But for that, a node gives the same answers with plain functions in
place of its coroutines, and remembers the same requests.
-/

namespace ChainRpc

namespace Handler

/-- The handler as a plain function. -/
def plain (h : Handler) : Handler := { h with isCoroutine := false }

/-- The handler as a coroutine. -/
def coroutine (h : Handler) : Handler := { h with isCoroutine := true }

/-- The handler takes the parameters, and its body ends in this. -/
def Ends (h : Handler) (params : List Value) (ending : Except Raised Value) : Prop :=
  ∃ args, h.signature.bind params [] = .ok args ∧ h.body args = ending

/-- The handler takes the parameters, and its body meets a value of a wrong type. -/
def MeetsWrongType (h : Handler) (params : List Value) : Prop :=
  ∃ text, h.Ends params (.error (.typeError text))

variable {h : Handler} {params : List Value} {result : Result} {ending other : Except Raised Value}
  {fault : CallFault} {id : Json}

lemma Ends.unique (hends : h.Ends params ending) (hother : h.Ends params other) : ending = other := by
  obtain ⟨args, hbind, rfl⟩ := hends
  obtain ⟨args', hbind', rfl⟩ := hother
  cases hbind.symm.trans hbind'
  rfl

lemma Ends.not_misfit (hends : h.Ends params ending) : h.signature.bind params [] ≠ .error fault := by
  obtain ⟨args, hbind, -⟩ := hends
  rw [hbind]
  exact nofun

/-! ### Calls -/

/-- What a handler makes of a call. The two kinds of handlers differ over a value of a wrong type only. -/
inductive Runs (h : Handler) (params : List Value) : Result → Prop
  | misfit {fault : CallFault} (hbind : h.signature.bind params [] = .error fault) :
    Runs h params (rejected fault.message)
  | value {v : Value} (hends : h.Ends params (.ok v)) : Runs h params (.value v)
  | nodeError {e : NodeError} (hends : h.Ends params (.error (.nodeError e))) :
    Runs h params (.error e)
  | wrongType {text : Text} (hends : h.Ends params (.error (.typeError text))) :
    Runs h params (if h.isCoroutine then .crashed text else rejected text)
  | crashed {text : Text} (hends : h.Ends params (.error (.other text))) :
    Runs h params (.crashed text)

lemma runs_run (h : Handler) (params : List Value) : h.Runs params (h.run params) := by
  rw [run]
  split
  · next fault hbind => exact .misfit hbind
  · next args hbind =>
    split
    · next v hbody => exact .value ⟨args, hbind, hbody⟩
    · next e hbody => exact .nodeError ⟨args, hbind, hbody⟩
    · next text hbody => exact .wrongType ⟨args, hbind, hbody⟩
    · next text hbody => exact .crashed ⟨args, hbind, hbody⟩

lemma Runs.run_eq (hruns : h.Runs params result) : h.run params = result := by
  cases hruns with
  | misfit hbind => rw [run, hbind]
  | value hends | nodeError hends | wrongType hends | crashed hends =>
    obtain ⟨args, hbind, hbody⟩ := hends
    simp only [run, hbind, hbody]

/-- As a plain function a handler makes the same of a call, unless its body meets a value of a wrong type. -/
lemma run_plain (hno : ¬ h.MeetsWrongType params) : h.plain.run params = h.run params := by
  have hruns := h.runs_run params
  generalize h.run params = result at hruns ⊢
  apply Runs.run_eq
  cases hruns with
  | misfit hbind => exact .misfit hbind
  | value hends => exact .value hends
  | nodeError hends => exact .nodeError hends
  | wrongType hends => exact absurd ⟨_, hends⟩ hno
  | crashed hends => exact .crashed hends

lemma run_coroutine (hno : ¬ h.MeetsWrongType params) : h.coroutine.run params = h.plain.run params :=
  (run_plain (h := h.coroutine) hno).symm

/-- As a plain function a handler whose body meets a value of a wrong type does not take the parameters. -/
lemma run_plain_of_wrongType {text : Text} (hends : h.Ends params (.error (.typeError text))) :
    h.plain.run params = rejected text :=
  (Runs.wrongType (h := h.plain) hends).run_eq

/-! ### Responses -/

/-- The response that says why the parameters do not fit. -/
def misfitResponse (id : Json) (reason : Text) : Value :=
  .ofJson (Response.withOutcome id
    (.error ⟨-32602, "Invalid params", .dict [("reason", .str reason)]⟩))

/-- The response that says what went wrong in the body. -/
def crashResponse (id : Json) (text : Text) : Value :=
  .ofJson (Response.withOutcome id (.error ⟨-32000, "Server error", .str text⟩))

/-- The response that is due to a call, whichever kind the handler is of: the value; the error's own object,
if its parts make one; or why the parameters do not fit, or what went wrong in the body. -/
inductive Due (h : Handler) (params : List Value) (id : Json) : Except Fault Value → Prop
  | misfit {fault : CallFault} (hbind : h.signature.bind params [] = .error fault) :
    Due h params id (.ok (misfitResponse id fault.message))
  | value {v : Value} (hends : h.Ends params (.ok v)) :
    Due h params id (.ok (.dict [("jsonrpc", .str "2.0"), ("id", .ofJson id), ("result", v)]))
  | nodeError {e : NodeError} (hends : h.Ends params (.error (.nodeError e))) :
    Due h params id ((e.toErrorObject.mapError .invalid).map fun object =>
      .ofJson (Response.withOutcome id (.error object)))
  | wrongType {text : Text} (hends : h.Ends params (.error (.typeError text))) :
    Due h params id (.ok (crashResponse id text))
  | crashed {text : Text} (hends : h.Ends params (.error (.other text))) :
    Due h params id (.ok (crashResponse id text))

/-- The parameters do not fit, or the body raises an error of its own under the code for that. -/
def Refuses (h : Handler) (params : List Value) : Prop :=
  (∃ fault, h.signature.bind params [] = .error fault) ∨
    ∃ e object, h.Ends params (.error (.nodeError e)) ∧ e.toErrorObject = .ok object ∧
      object.code = -32602

lemma Ends.not_refuses (hends : h.Ends params ending) (hown : ∀ e, ending ≠ .error (.nodeError e)) :
    ¬ h.Refuses params := by
  rintro (⟨fault, hbind⟩ | ⟨e, object, hother, -⟩)
  · exact hends.not_misfit hbind
  · exact hown e (hends.unique hother)

end Handler

namespace Node

/-- The code of the error in a response, if there is one. -/
def errorCode? : Value → Option Value
  | .dict entries =>
    match Entries.get? "error" entries with
    | some (.dict error) => Entries.get? "code" error
    | _                  => none
  | _ => none

variable {handlers handlers' : Entries Handler} {n : Node} {c : Command} {commands : List Command}
  {h h' : Handler} {r : Request} {params : List Value} {id item : Json} {text : Text} {v : Value}

lemma errorCode?_withOutcome (id : Json) (e : ErrorObject) :
    errorCode? (.ofJson (Response.withOutcome id (.error e))) = some (.int e.code) := by
  obtain ⟨code, message, data⟩ := e
  cases data <;> rfl

lemma errorResponse_eq (id : Json) (e : NodeError) :
    errorResponse id e = (e.toErrorObject.mapError .invalid).map fun object =>
      .ofJson (Response.withOutcome id (.error object)) := by
  rw [errorResponse, NodeError.toJson]
  cases e.toErrorObject <;> rfl

/-- A due response has the code of invalid parameters just where the call is refused. -/
lemma errorCode?_of_due (hdue : h.Due params id (.ok v)) :
    errorCode? v = some (.int (-32602)) ↔ h.Refuses params := by
  generalize hresponse : (Except.ok v : Except Fault Value) = response at hdue
  cases hdue with
  | misfit hbind =>
    cases hresponse
    exact iff_of_true (errorCode?_withOutcome _ _) (.inl ⟨_, hbind⟩)
  | value hends =>
    cases hresponse
    exact iff_of_false nofun (hends.not_refuses nofun)
  | @nodeError e hends =>
    obtain ⟨object, hobject, rfl⟩ := Checked.map_eq_ok_iff.mp hresponse.symm
    have hobject := Checked.mapError_eq_ok_iff.mp hobject
    rw [errorCode?_withOutcome]
    constructor
    · intro hcode
      exact .inr ⟨e, object, hends, hobject, Value.int.inj (Option.some.inj hcode)⟩
    · rintro (⟨fault, hbind⟩ | ⟨e', object', hother, hobject', hcode⟩)
      · exact absurd hbind hends.not_misfit
      · cases hends.unique hother
        cases hobject.symm.trans hobject'
        rw [hcode]
  | wrongType hends | crashed hends =>
    cases hresponse
    rw [Handler.crashResponse, errorCode?_withOutcome]
    exact iff_of_false (by simp) (hends.not_refuses nofun)

lemma answerRequest_congr (hget : handlers.get? r.method = some h)
    (hget' : handlers'.get? r.method = some h')
    (hrun : h.run (r.params.map .ofJson) = h'.run (r.params.map .ofJson)) :
    answerRequest handlers r = answerRequest handlers' r := by
  simp only [answerRequest, hget, hget', hrun]

lemma answerItem_of_ofItem? (hr : Request.ofItem? item = some r) (handlers : Entries Handler) :
    answerItem handlers item = answerRequest handlers r := by
  rw [answerItem, Checked.eq_ok_of_toOption hr]

lemma due_coroutine (hget : handlers.get? r.method = some h.coroutine) :
    h.Due (r.params.map .ofJson) r.id.toJson (answerRequest handlers r).response := by
  have hruns := h.coroutine.runs_run (r.params.map .ofJson)
  simp only [answerRequest, hget]
  generalize h.coroutine.run (r.params.map Value.ofJson) = result at hruns ⊢
  cases hruns with
  | misfit hbind => exact .misfit hbind
  | value hends => exact .value hends
  | nodeError hends =>
    show h.Due _ _ (errorResponse _ _)
    rw [errorResponse_eq]
    exact .nodeError hends
  | wrongType hends => exact .wrongType hends
  | crashed hends => exact .crashed hends

lemma response_plain_of_wrongType (hget : handlers.get? r.method = some h.plain)
    (hends : h.Ends (r.params.map .ofJson) (.error (.typeError text))) :
    (answerRequest handlers r).response = .ok (Handler.misfitResponse r.id.toJson text) := by
  simp only [answerRequest, hget, Handler.run_plain_of_wrongType hends]
  rfl

lemma not_due_plain (hget : handlers.get? r.method = some h.plain)
    (hwrong : h.MeetsWrongType (r.params.map .ofJson)) :
    ¬ h.Due (r.params.map .ofJson) r.id.toJson (answerRequest handlers r).response := by
  obtain ⟨text, hends⟩ := hwrong
  rw [response_plain_of_wrongType hget hends]
  intro hdue
  -- The code is that of a refusal, and the call is none.
  exact hends.not_refuses nofun ((errorCode?_of_due hdue).mp (errorCode?_withOutcome _ _))

/-! ### Nodes without coroutines -/

/-- The handlers as plain functions, under their names. -/
def plainHandlers (handlers : Entries Handler) : Entries Handler :=
  handlers.map fun e => (e.1, e.2.plain)

/-- The node with its handlers as plain functions. -/
def plain (n : Node) : Node := { n with handlers := plainHandlers n.handlers }

/-- The command, which registers a handler as a plain function. -/
def Command.plain : Command → Command
  | .method name h => .method name h.plain
  | c              => c

/-- The item is a request with which the body of its handler meets a value of a wrong type. -/
def MeetsWrongType (handlers : Entries Handler) (item : Json) : Prop :=
  ∃ r h, Request.ofItem? item = some r ∧ handlers.get? r.method = some h ∧
    h.MeetsWrongType (r.params.map .ofJson)

/-- No request that the commands post makes the body of its handler meet a value of a wrong type. -/
def MeetsNoWrongType (n : Node) : List Command → Prop
  | []        => True
  | c :: rest =>
    (∀ item ∈ c.items, ¬ MeetsWrongType n.handlers item) ∧ (n.step c).2.MeetsNoWrongType rest

variable {items : List Json} {raw : Bytes}

lemma plain_register (n : Node) (name : Text) (h : Handler) :
    (n.register name h).plain = n.plain.register name h.plain := by
  simp only [register, plain, plainHandlers, Entries.put_map Handler.plain]

lemma answerItem_plain (hno : ¬ MeetsWrongType handlers item) :
    answerItem (plainHandlers handlers) item = answerItem handlers item := by
  cases hvalid : Request.ofValue (.ofJson item) with
  | error issues => rw [answerItem, answerItem, hvalid]
  | ok r =>
    have hr : Request.ofItem? item = some r := by rw [Request.ofItem?, hvalid]; rfl
    have hplain := Entries.get?_map Handler.plain r.method handlers
    rw [answerItem_of_ofItem? hr, answerItem_of_ofItem? hr]
    cases hget : handlers.get? r.method with
    | none =>
      rw [hget] at hplain
      simp only [answerRequest, plainHandlers, hplain, hget, Option.map_none]
    | some h =>
      rw [hget] at hplain
      exact answerRequest_congr hplain hget (h.run_plain fun hwrong => hno ⟨r, h, hr, hget, hwrong⟩)

lemma answerItems_plain (hno : ∀ item ∈ items, ¬ MeetsWrongType handlers item) :
    answerItems (plainHandlers handlers) items = answerItems handlers items := by
  induction items with
  | nil => rfl
  | cons item rest ih =>
    obtain ⟨hitem, hrest⟩ := List.forall_mem_cons.mp hno
    rw [answerItems, answerItems, answerItem_plain hitem, ih hrest]

lemma answerBody_plain (hno : ∀ item ∈ (Command.post raw).items, ¬ MeetsWrongType handlers item) :
    answerBody (plainHandlers handlers) raw = answerBody handlers raw := by
  cases hraw : Json.ofBytes raw with
  | error cause =>
    rw [answerBody, answerBody, hraw]
    cases cause <;> rfl
  | ok payload =>
    rw [items_post hraw] at hno
    by_cases hlist : ∃ items, payload = .list items
    · obtain ⟨items, rfl⟩ := hlist
      cases items with
      | nil => rw [answerBody_of_emptyBatch hraw, answerBody_of_emptyBatch hraw]
      | cons item rest =>
        have hitems : ∀ found ∈ item :: rest, ¬ MeetsWrongType handlers found := hno
        rw [answerBody_of_batch hraw, answerBody_of_batch hraw, answerItems_plain hitems]
    · have hitem (items : List Json) : payload ≠ .list items := fun heq => hlist ⟨items, heq⟩
      rw [itemsOf_of_single hitem] at hno
      rw [answerBody_of_single hraw hitem, answerBody_of_single hraw hitem,
        answerItem_plain (hno payload (List.mem_singleton_self payload))]

/-- A command has the same result with plain functions, and leaves the same node but for them. -/
lemma step_plain (hno : ∀ item ∈ c.items, ¬ MeetsWrongType n.handlers item) :
    n.plain.step c.plain = ((n.step c).1, (n.step c).2.plain) := by
  cases c with
  | respond name result => exact Prod.ext rfl (plain_register n name (.constant name result)).symm
  | fail name e => exact Prod.ext rfl (plain_register n name (.failing name e)).symm
  | method name h =>
    refine Prod.ext rfl (Eq.symm ?_)
    match name with
    | none => exact plain_register n _ h
    | some [] => exact plain_register n _ h
    | some (c :: cs) => exact plain_register n _ h
  | post raw =>
    have hanswer : answerBody n.plain.handlers raw = answerBody n.handlers raw := answerBody_plain hno
    simp only [Command.plain, step, post, hanswer]
    rfl

/-- Commands have the same results with plain functions, and leave the same node but for them. -/
lemma run_plain (hno : n.MeetsNoWrongType commands) :
    n.plain.run (commands.map Command.plain) = ((n.run commands).1, (n.run commands).2.plain) := by
  induction commands generalizing n with
  | nil => rfl
  | cons c rest ih =>
    obtain ⟨hfirst, hrest⟩ := hno
    simp only [List.map_cons, run, step_plain hfirst, ih hrest]

/-! ### Either kind of handler -/

/-- A coroutine is answered as is due, with the code of invalid parameters just where the call is refused. A
plain function is answered so exactly if its body meets no value of a wrong type; otherwise it is answered as if
the parameters did not fit. Commands that never make a body meet such a value have the same results with plain
functions in place of coroutines. -/
theorem handlers_are_answered_alike_iff (n : Node) :
    (∀ (h : Handler) (item : Json) (r : Request), Request.ofItem? item = some r →
      let params := r.params.map Value.ofJson
      let plain := (answerItem (n.register r.method h.plain).handlers item).response
      let coroutine := (answerItem (n.register r.method h.coroutine).handlers item).response
      h.Due params r.id.toJson coroutine ∧
      (h.Due params r.id.toJson plain ↔ ¬ h.MeetsWrongType params) ∧
      (plain = coroutine ↔ ¬ h.MeetsWrongType params) ∧
      (∀ text, h.Ends params (.error (.typeError text)) →
        plain = .ok (Handler.misfitResponse r.id.toJson text)) ∧
      ∀ v, coroutine = .ok v → (errorCode? v = some (.int (-32602)) ↔ h.Refuses params)) ∧
    ∀ commands, n.MeetsNoWrongType commands →
      (n.plain.run (commands.map Command.plain)).1 = (n.run commands).1 ∧
      (n.plain.run (commands.map Command.plain)).2.requests = (n.run commands).2.requests := by
  constructor
  · intro h item r hr
    rw [answerItem_of_ofItem? hr, answerItem_of_ofItem? hr]
    have hplain : (n.register r.method h.plain).handlers.get? r.method = some h.plain :=
      Entries.get?_put_self _ _ _
    have hcoroutine : (n.register r.method h.coroutine).handlers.get? r.method = some h.coroutine :=
      Entries.get?_put_self _ _ _
    have hdue := due_coroutine hcoroutine
    have hsame (hno : ¬ h.MeetsWrongType (r.params.map .ofJson)) :=
      congrArg Reply.response (answerRequest_congr hplain hcoroutine (Handler.run_coroutine hno).symm)
    have hdue_iff : h.Due (r.params.map .ofJson) r.id.toJson
          (answerRequest (n.register r.method h.plain).handlers r).response ↔
        ¬ h.MeetsWrongType (r.params.map .ofJson) :=
      ⟨fun hdue hwrong => not_due_plain hplain hwrong hdue, fun hno => (hsame hno).symm ▸ hdue⟩
    refine ⟨hdue, hdue_iff, ⟨fun heq => hdue_iff.mp (heq ▸ hdue), hsame⟩, ?_, ?_⟩
    · exact fun text hends => response_plain_of_wrongType hplain hends
    · exact fun v hv => errorCode?_of_due (hv ▸ hdue)
  · intro commands hno
    rw [run_plain hno]
    exact ⟨rfl, rfl⟩

/-- A request for the values, each plus one, under the name of the handler for one. -/
def successorRequest (id : Int) (xs : List Json) : Json :=
  .dict [("jsonrpc", .str "2.0"), ("id", .int id), ("method", .str "add_one"), ("params", .list xs)]

/-- Numbers meet no wrong type, and neither do parameters that do not fit: the coroutine is answered as the
function is, by itself and in an array. -/
theorem handlers_are_answered_alike_iff_number :
    let fitting := successorRequest 1 [.int 5]
    let misfit := successorRequest 2 []
    let commands := [Command.method none Handler.addOne.coroutine,
      .post (spelled (.list [fitting, misfit]))]
    Request.ofItem? fitting = some ⟨.int 1, "add_one", [.int 5]⟩ ∧
      (answerItem (({} : Node).register "add_one" Handler.addOne.plain).handlers fitting).response =
        (answerItem (({} : Node).register "add_one" Handler.addOne.coroutine).handlers fitting).response ∧
      ({} : Node).MeetsNoWrongType commands ∧
      (({} : Node).plain.run (commands.map Command.plain)).1 = (({} : Node).run commands).1 := by
  intro fitting misfit commands
  have hfitting : Request.ofItem? fitting = some ⟨.int 1, "add_one", [.int 5]⟩ := rfl
  have hmisfit : Request.ofItem? misfit = some ⟨.int 2, "add_one", []⟩ := rfl
  have hnumber : ¬ Handler.addOne.MeetsWrongType [.int 5] := by
    rintro ⟨text, args, hbind, hbody⟩
    have hargs : Handler.addOne.signature.bind [.int 5] [] = .ok [.int 5] := rfl
    cases hargs.symm.trans hbind
    cases hbody
  have hnone : ¬ Handler.addOne.MeetsWrongType [] := by
    rintro ⟨text, args, hbind, -⟩
    cases hbind
  have hraw : Json.ofBytes (spelled (.list [fitting, misfit])) = .ok (.list [fitting, misfit]) :=
    Checked.eq_ok_of_toOption (by decide +kernel)
  have hcommands : ({} : Node).MeetsNoWrongType commands := by
    refine ⟨List.forall_mem_nil _, ?_, trivial⟩
    rw [items_post hraw]
    refine List.forall_mem_cons.mpr ⟨?_, List.forall_mem_singleton.mpr ?_⟩
    · rintro ⟨r, h, hr, hget, hwrong⟩
      cases hfitting.symm.trans hr
      cases hget
      exact hnumber hwrong
    · rintro ⟨r, h, hr, hget, hwrong⟩
      cases hmisfit.symm.trans hr
      cases hget
      exact hnone hwrong
  obtain ⟨hrequest, hrun⟩ := handlers_are_answered_alike_iff {}
  obtain ⟨-, -, hsame, -, -⟩ := hrequest Handler.addOne fitting _ hfitting
  exact ⟨hfitting, hsame.mpr hnumber, hcommands, (hrun commands hcommands).1⟩

/-- The answer to the request for a text plus one, under a code and with a message and data. -/
def textAnswer (code : Int) (message : Text) (data : Json) : Json :=
  Response.withOutcome (.int 1) (.error ⟨code, message, data⟩)

/-- A text fits the parameter and cannot be added to: as a function the handler is answered as if it did not
fit, and as a coroutine by a fault of the server. -/
theorem not_due_text :
    let request := successorRequest 1 [.str "a"]
    let reason : Json := .str "can only concatenate str (not \"int\") to str"
    let plain := ({} : Node).method none Handler.addOne.plain
    let coroutine := ({} : Node).method none Handler.addOne.coroutine
    Handler.addOne.signature.bind [.str "a"] [] = .ok [.str "a"] ∧
      (plain.post (spelled request)).body =
        .ok (spelled (textAnswer (-32602) "Invalid params" (.dict [("reason", reason)]))) ∧
      (coroutine.post (spelled request)).body =
        .ok (spelled (textAnswer (-32000) "Server error" reason)) ∧
      ¬ Handler.addOne.Due [.str "a"] (.int 1) (answerItem plain.handlers request).response := by
  intro request reason plain coroutine
  have hends : Handler.addOne.Ends [.str "a"] (.error (.typeError
      "can only concatenate str (not \"int\") to str")) := ⟨_, rfl, rfl⟩
  refine ⟨rfl, Checked.eq_ok_of_toOption (by decide +kernel),
    Checked.eq_ok_of_toOption (by decide +kernel), ?_⟩
  let r : Request := ⟨.int 1, "add_one", [.str "a"]⟩
  have hr : Request.ofItem? request = some r := rfl
  have hget : plain.handlers.get? r.method = some Handler.addOne.plain := rfl
  rw [answerItem_of_ofItem? hr]
  exact not_due_plain hget ⟨_, hends⟩

end Node

end ChainRpc
