import ChainRpc.Proofs.Client.Sending
import ChainRpc.Proofs.Client.TypedCalls

/-!
# Values that come back

A handler that returns its argument shows what becomes of a value on its way: a client that calls it by
name alone gets the value that it sent. The value is written and read twice, in the request and in the
response, and what the node remembers of it is the value too.
-/

namespace ChainRpc

/-! ### Handlers that return their argument -/

/-- The handler takes any one parameter and returns it. -/
def Handler.ReturnsArgument (h : Handler) : Prop := ∀ v, h.run [v] = .value v

/-- The function of one parameter that returns it. -/
def Handler.identity : Handler where
  name := "identity"
  signature := { label := "identity", params := [("x", none)] }
  body params := .ok (params.headD .null)

lemma Handler.returnsArgument_identity : identity.ReturnsArgument := fun _ => rfl

lemma Handler.returnsArgument_suspended : identity.suspended.ReturnsArgument := fun _ => rfl

namespace Node

variable {name : Text} {h : Handler} {r : Request} {x : Json}

/-- A handler is found under the name that it is registered under, whatever its own name is. -/
lemma get?_method (n : Node) (hne : name ≠ []) (h : Handler) :
    (n.method (some name) h).handlers.get? name = some h := by
  obtain ⟨c, cs, rfl⟩ := List.exists_cons_of_ne_nil hne
  exact Entries.get?_put_self _ _ _

@[simp] lemma requests_method (n : Node) (name : Option Text) (h : Handler) :
    (n.method name h).requests = n.requests := by
  unfold method
  split <;> rfl

/-- A handler that returns its argument answers a request with its only parameter. -/
lemma answers_method (n : Node) (hne : name ≠ []) (hh : h.ReturnsArgument) (hr : r.method = name)
    (hparams : r.params = [x]) : Answers (n.method (some name) h).handlers r x := by
  subst hr
  exact ⟨h, n.get?_method hne h, by rw [hparams]; exact hh (.ofJson x)⟩

end Node

namespace Client

variable {session : Session Node} {name : Text} {h : Handler} {x : Json} {n : Nat}

/-! ### Requests with one value -/

/-- The request of a call by name alone with one value. -/
def prepareOne (name : Text) (x : Json) (n : Nat) : Prepared := ⟨{ name := name }, ⟨.int n, name, [x]⟩⟩

lemma rawRequest_one (hx : x.Fits depthLimit) :
    rawRequest (.str name) (.list [.ofJson x]) n = .ok (prepareOne name x n) := by
  refine rawRequest_eq_ok_iff.mpr ⟨[.ofJson x], name, [x], rfl, rfl, ?_, rfl⟩
  exact Value.toJsonItems_ofJsonItems (List.forall_mem_singleton.mpr hx) (by decide)

lemma portable_prepareOne (hn : n < 10 ^ digitLimit) (hname : name.IsScalar)
    (hx : x.Portable depthLimit) : (prepareOne name x n).request.Portable depthLimit where
  id := .int hn
  method := hname
  params := List.forall_mem_singleton.mpr hx

/-- The verdict on a result is the result itself. -/
lemma verdict_prepareOne (hx : x.Fits depthLimit) (id : RequestId) :
    verdict (prepareOne name x n) ⟨some id, x, none⟩ = .ok (.ofJson x) := by
  show (((Value.toJson (.ofJson x)).map Value.ofJson).mapError _ : Except Fault Value) = _
  rw [Value.toJson_ofJson hx (by decide)]
  rfl

/-! ### Calls by name alone -/

/-- The session after a handler is registered with the node under a name. -/
def Session.handling (session : Session Node) (name : Text) (h : Handler) : Session Node :=
  { session with link := { session.link with peer := session.link.peer.method (some name) h } }

/-- A value sent to a handler that returns its argument comes back as it was. The node has taken one
request, with the name and the value as they were given. -/
theorem callRaw_returns_value (isResumable : Bool) (hopen : session.link.closed = false)
    (hid : session.state.nextId < 10 ^ digitLimit) (hname : name.IsScalar) (hne : name ≠ [])
    (hh : h.ReturnsArgument) (hx : x.Portable depthLimit) :
    let finished := (Operation.callRaw (.str name) (.list [.ofJson x])).run isResumable
      Node.connection (session.handling name h)
    finished.1 = .ok (.value (.ofJson x)) ∧
      finished.2.link.peer.requests =
        session.link.peer.requests ++ [⟨.int session.state.nextId, name, [x]⟩] := by
  let p := prepareOne name x session.state.nextId
  have hraw : rawRequest (.str name) (.list [.ofJson x]) (session.handling name h).state.nextId =
      .ok p := rawRequest_one hx.fits
  intro finished
  have hrun : finished = _ := Operation.run_callRaw isResumable _ _ _ _
  rcases Resumable.callRaw_cases Node.connection (.str name) (.list [.ofJson x])
      (session.handling name h) with
    ⟨fault, hf, _⟩ | ⟨p', hp', hl, _⟩ | ⟨p', message, hp', _, _, hr⟩
  · cases hf.symm.trans hraw
  · cases hp'.symm.trans hraw
    exact absurd (List.forall_mem_singleton.mpr hx.isLegible) hl
  · cases hp'.symm.trans hraw
    have hanswers := session.link.peer.answers_method (r := p.request) hne hh rfl rfl
    have hlink : (session.handling name h).link.closed = false := hopen
    obtain ⟨records, hsubmit⟩ := run_submit_of_answers (p := p) hlink
      (portable_prepareOne hid hname hx) hx (by decide) hanswers _
    rw [hrun, hr, hsubmit, verdict_prepareOne hx.fits]
    exact ⟨rfl, by simp [linkAfter, Session.handling, p, prepareOne]⟩

/-- A value with a leaf of every kind. Its text holds a quote, a backslash, the null character, a control
character and one beyond the basic plane. -/
def leaves : Json :=
  .list [.dict [("", .null), ("none", .list [])], .bool true, .int 1, .int (-5),
    .str [0x22, 0x5C, 0, 0x1F, 0x1F600]]

lemma portable_leaves : leaves.Portable depthLimit := by
  have hshort : (5 : Nat) < 10 ^ digitLimit :=
    Nat.lt_of_lt_of_le (by decide) (Nat.pow_le_pow_right (by decide) (by decide : 1 ≤ digitLimit))
  refine .list ?_
  simp only [List.forall_mem_cons]
  refine ⟨.dict (by decide) (by decide) ?_, .bool true, .int ?_, .int hshort, .str (by decide),
    List.forall_mem_nil _⟩
  · simp only [List.forall_mem_cons]
    exact ⟨.null, .list (List.forall_mem_nil _), List.forall_mem_nil _⟩
  · exact Nat.lt_trans (by decide) hshort

/-- The value comes back from a function and from a coroutine. -/
theorem callRaw_returns_value_leaves :
    ((Operation.callRaw (.str "echo") (.list [.ofJson leaves])).run true Node.connection
      (freshSession.handling "echo" .identity)).1 = .ok (.value (.ofJson leaves)) ∧
    ((Operation.callRaw (.str "echo") (.list [.ofJson leaves])).run false Node.connection
      (freshSession.handling "echo" Handler.identity.suspended)).1 =
        .ok (.value (.ofJson leaves)) := by
  have hid : freshSession.state.nextId < 10 ^ digitLimit :=
    Nat.lt_of_lt_of_le (by decide : 1 < 10 ^ 1) (Nat.pow_le_pow_right (by decide) (by decide))
  exact ⟨(callRaw_returns_value true rfl hid (by decide) (by decide) Handler.returnsArgument_identity
      portable_leaves).1,
    (callRaw_returns_value false rfl hid (by decide) (by decide) Handler.returnsArgument_suspended
      portable_leaves).1⟩

end Client

end ChainRpc
