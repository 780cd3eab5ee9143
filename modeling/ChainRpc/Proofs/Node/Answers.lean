import ChainRpc.Method
import ChainRpc.Node
import ChainRpc.Proofs.Json.RoundTrip
import ChainRpc.Proofs.Messages

/-!
# What a node answers

A node takes the requests in a body that carries them for what they are, remembers them in order, and
answers each with what its handler gives. The body of the answer carries the results under the identifiers
of their requests.
-/

namespace ChainRpc.Node

variable {float : Binary64 → Text} {room depth : Nat} {j : Json} {n : Node} {r : Request}
  {handlers : Entries Handler}

/-! ### Writing answers -/

lemma writeItems_ofJsonItems {items : List Json}
    (h : ∀ j ∈ items, writeValue depth (.ofJson j) = .ok (j.write float)) :
    writeItems depth (Value.ofJsonItems items) = .ok (items.map (Json.write float)) := by
  induction items with
  | nil => rfl
  | cons j rest ih =>
    obtain ⟨hj, hrest⟩ := List.forall_mem_cons.mp h
    rw [Value.ofJsonItems, writeItems, hj, ih hrest]
    rfl

lemma writeEntries_ofJsonEntries {entries : List (Text × Json)}
    (h : ∀ e ∈ entries, writeValue depth (.ofJson e.2) = .ok (e.2.write float)) :
    writeEntries depth (Value.ofJsonEntries entries) =
      .ok (entries.map fun e => Json.writeString e.1 ++ .colon :: e.2.write float) := by
  induction entries with
  | nil => rfl
  | cons e rest ih =>
    obtain ⟨hj, hrest⟩ := List.forall_mem_cons.mp h
    rw [Value.ofJsonEntries, writeEntries, hj, ih hrest]
    rfl

/-- A JSON value that is carried is written, and so are floating-point numbers of a kind. -/
lemma writeValue_of_portableWith {floats : Binary64 → Prop}
    (hfloats : ∀ depth x, floats x → writeValue depth (.float x) = .ok (float x))
    (h : j.PortableWith floats room) (hroom : room ≤ depth) :
    writeValue depth (.ofJson j) = .ok (j.write float) := by
  induction h generalizing depth with
  | null => rfl
  | bool b => cases b <;> cases depth <;> rfl
  | int hn =>
    -- The equation lemmas would unfold the digit limit.
    rw [Value.ofJson, writeValue.eq_def]
    dsimp only
    rw [decimal?_of_isShort hn]
    rfl
  | float hx => exact hfloats depth _ hx
  | str ht => rfl
  | list h ih =>
    obtain ⟨depth, rfl⟩ : ∃ d, depth = d + 1 := ⟨depth - 1, by omega⟩
    show (writeItems depth (Value.ofJsonItems _)).map inBrackets = _
    rw [writeItems_ofJsonItems fun j hj => ih j hj (by omega), Json.write_list]
    simp [Except.map, inBrackets, Text.concat]
  | dict hn hnames h ih =>
    obtain ⟨depth, rfl⟩ : ∃ d, depth = d + 1 := ⟨depth - 1, by omega⟩
    show (writeEntries depth (Value.ofJsonEntries _)).map _ = _
    rw [writeEntries_ofJsonEntries fun e he => ih e he (by omega), Json.write_dict]
    simp [Except.map, Text.concat]

/-- A node writes a JSON value as a client does. -/
lemma writeValue_ofJson (float : Binary64 → Text) (h : j.Portable room) (hroom : room ≤ depth) :
    writeValue depth (.ofJson j) = .ok (j.write float) :=
  writeValue_of_portableWith (fun _ _ => False.elim) h.with_floats hroom

lemma writeBody_ofJson (float : Binary64 → Text) (h : j.Portable room) (hroom : room ≤ writerNesting) :
    writeBody (.ofJson j) = .ok (Utf8.encodeAll (j.write float)) := by
  have hscalar : (j.write float).IsScalar := fun c hc => (h.isClean_write float c hc).1
  rw [writeBody, writeValue_ofJson float h hroom]
  show (Utf8.encode (j.write float)).mapError _ = _
  rw [Utf8.encode_eq_ok hscalar]
  rfl

/-! ### Single requests -/

/-- The handlers answer the request with the result. -/
def Answers (handlers : Entries Handler) (r : Request) (j : Json) : Prop :=
  ∃ h : Handler, handlers.get? r.method = some h ∧ h.run (r.params.map .ofJson) = .value (.ofJson j)

/-- A request that a handler answers is remembered, and the response has its identifier. -/
lemma answerItem_toJson (hr : r.Portable room) (hroom : room < Value.jsonRoom)
    (h : Answers handlers r j) :
    answerItem handlers r.toJson =
      { response := .ok (.ofJson (Response.ofResult r.id j)), request := some r } := by
  obtain ⟨handler, hhandler, hrun⟩ := h
  rw [answerItem, Request.ofValue_toJson hr hroom]
  simp only [answerRequest, hhandler, hrun]
  rfl

/-! ### Batches -/

lemma answerItems_toJson {answered : List (Request × Json)}
    (h : ∀ e ∈ answered, e.1.Portable room ∧ Answers handlers e.1 e.2)
    (hroom : room < Value.jsonRoom) :
    answerItems handlers (answered.map (·.1.toJson)) =
      { response := .ok (answered.map fun e => .ofJson (Response.ofResult e.1.id e.2))
        requests := answered.map (·.1) } := by
  induction answered with
  | nil => rfl
  | cons e rest ih =>
    obtain ⟨⟨hport, hanswers⟩, hrest⟩ := List.forall_mem_cons.mp h
    rw [List.map_cons, answerItems, answerItem_toJson hport hroom hanswers, ih hrest]
    rfl

/-! ### Bodies -/

lemma ne_nil_of_ofBytes {raw : Bytes} (h : Json.ofBytes raw = .ok j) : raw ≠ [] := by
  rintro rfl
  cases h

/-- What a post with an answer comes to. -/
lemma post_of_answerBody (float : Binary64 → Text) {raw : Bytes} {rs : List Request} (hj : j.Portable room)
    (hroom : room ≤ writerNesting)
    (h : answerBody n.handlers raw = { response := .ok (.ofJson j), requests := rs }) :
    n.post raw =
      { body := .ok (Utf8.encodeAll (j.write float)), log := [],
        node := { n with requests := n.requests ++ rs } } := by
  have hbody := writeBody_ofJson float hj hroom
  simp only [post, h, Except.bind, hbody, Except.mapError]

/-- A request that a handler answers is remembered and answered. -/
theorem post_request (float : Binary64 → Text) (hr : r.Portable room) (hj : j.Portable room)
    (hroom : room < Json.writeRoom) (h : Answers n.handlers r j) :
    n.post (Utf8.encodeAll (r.toJson.write float)) =
      { body := .ok (Utf8.encodeAll ((Response.ofResult r.id j).write float)), log := [],
        node := { n with requests := n.requests ++ [r] } } := by
  have hlimit : room < 254 := hroom
  have hread := Json.ofBytes_write float (Request.portable_toJson hr)
    (show room + 2 ≤ 990 by omega)
  refine post_of_answerBody float (Response.portable_ofResult hr.id hj)
    (show room + 1 ≤ 990 by omega) ?_
  rw [answerBody, if_neg (ne_nil_of_ofBytes hread), hread]
  show (answerItem n.handlers r.toJson).toAnswer = _
  rw [answerItem_toJson hr (show room < 255 by omega) h]
  rfl

/-- A batch of requests that handlers answer is remembered and answered, item by item. -/
theorem post_batch (float : Binary64 → Text) {answered : List (Request × Json)} (hne : answered ≠ [])
    (hr : ∀ e ∈ answered, e.1.Portable room) (hj : ∀ e ∈ answered, e.2.Portable room)
    (hroom : room < Json.writeRoom) (h : ∀ e ∈ answered, Answers n.handlers e.1 e.2) :
    n.post (Utf8.encodeAll ((Json.list (answered.map (·.1.toJson))).write float)) =
      { body := .ok (Utf8.encodeAll
          ((Json.list (answered.map fun e => Response.ofResult e.1.id e.2)).write float)),
        log := [], node := { n with requests := n.requests ++ answered.map (·.1) } } := by
  have hlimit : room < 254 := hroom
  have hbatch : (Json.list (answered.map (·.1.toJson))).Portable (room + 3) :=
    .list (List.forall_mem_map.mpr fun e he => Request.portable_toJson (hr e he))
  have hread := Json.ofBytes_write float hbatch (show room + 3 ≤ 990 by omega)
  have hresponses : (Json.list (answered.map fun e => Response.ofResult e.1.id e.2)).Portable
      (room + 2) :=
    .list (List.forall_mem_map.mpr fun e he => Response.portable_ofResult (hr e he).id (hj e he))
  refine post_of_answerBody float hresponses (show room + 2 ≤ 990 by omega) ?_
  have hitems := answerItems_toJson (fun e he => ⟨hr e he, h e he⟩) (show room < 255 by omega)
  obtain ⟨first, rest, rfl⟩ := List.exists_cons_of_ne_nil hne
  rw [answerBody, if_neg (ne_nil_of_ofBytes hread), hread]
  show (answerItems n.handlers ((first :: rest).map (·.1.toJson))).toArray = _
  rw [hitems, Answer.toArray, Value.ofJson, Value.ofJsonItems_eq_map, List.map_map]
  rfl

/-! ### Links -/

lemma prepare_endpoint (raw : Bytes) :
    ∃ post, endpoint.prepare raw = .ok post ∧ post.url.isAbsolute ∧ post.body = raw :=
  ⟨_, rfl, rfl, rfl⟩

/-- Bodies are carried to a node and back over an open link. -/
lemma send_of_body {link : Http.Link Node} {raw answer : Bytes} (hopen : link.closed = false)
    (h : (link.peer.post raw).body = .ok answer) :
    endpoint.send peer raw link =
      (⟨.ok answer, (link.peer.post raw).log⟩, { link with peer := (link.peer.post raw).node }) := by
  obtain ⟨post, hpost, habsolute, rfl⟩ := prepare_endpoint raw
  simp [Http.Endpoint.send, hpost, hopen, peer, h, Http.Outcome.through, habsolute,
    Http.Outcome.delivery, Http.Delivery.body]

lemma send_of_post {link : Http.Link Node} {raw answer : Bytes} {next : Node}
    (hopen : link.closed = false)
    (h : link.peer.post raw = { body := .ok answer, log := [], node := next }) :
    endpoint.send peer raw link = (.body answer, { link with peer := next }) := by
  have hbody : (link.peer.post raw).body = .ok answer := congrArg Exchange.body h
  rw [send_of_body hopen hbody, h]
  rfl

/-! ### Fixed results -/

/-- The node answers the method with the wire form of the value. -/
def RespondsWith (n : Node) (m : Method) (v : Value) : Prop :=
  n.handlers.get? m.name = some (.constant m.name (.ofJson (m.encodeResult v)))

variable {m : Method} {v : Value}

lemma respondsWith_respond (n : Node) (m : Method) (v : Value) :
    (n.respond m.name (.ofJson (m.encodeResult v))).RespondsWith m v :=
  Entries.get?_put_self _ _ _

/-- What is registered under other names changes nothing. -/
lemma RespondsWith.register (h : n.RespondsWith m v) {name : Text} (hne : m.name ≠ name)
    (handler : Handler) : (n.register name handler).RespondsWith m v :=
  (Entries.get?_put_of_ne hne _ _).trans h

lemma RespondsWith.answers (h : n.RespondsWith m v) (hr : r.method = m.name) :
    Answers n.handlers r (m.encodeResult v) := by
  unfold Answers
  rw [hr]
  exact ⟨_, h, rfl⟩

end ChainRpc.Node
