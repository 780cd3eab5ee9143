import ChainRpc.Client.Core
import ChainRpc.Proofs.Json.Portable
import ChainRpc.Proofs.Request

/-!
# Messages that are carried

A request of parts that are carried by their texts is carried by its body, alone and in a batch, and is
taken for the same request by whoever reads it. So is a response with a result.
-/

namespace ChainRpc

/-! ### Requests -/

namespace Request

variable {room : Nat} {r : Request} {requests : List Request}

/-- The parts of the request are carried by their texts, and at most `room` containers are nested in a
parameter. -/
structure Portable (room : Nat) (r : Request) : Prop where
  id : r.id.toJson.Portable 0
  method : r.method.IsScalar
  params : ∀ j ∈ r.params, j.Portable room

lemma portable_toJson (h : r.Portable room) : r.toJson.Portable (room + 2) := by
  refine .dict (by simp [Entries.names]; decide) ?_ ?_
  · simp only [List.forall_mem_cons]
    exact ⟨by decide, by decide, by decide, by decide, List.forall_mem_nil _⟩
  · simp only [List.forall_mem_cons]
    exact ⟨.str (by decide), h.id.mono (Nat.zero_le _), .str h.method, .list h.params,
      List.forall_mem_nil _⟩

lemma obstacle?_of_portable (h : r.Portable room) (hroom : room < Json.writeRoom) :
    r.obstacle? = none := by
  refine List.findSome?_eq_none_iff.mpr fun j hj => ?_
  have hfits : j.Portable room := by
    rcases List.mem_append.mp hj with hj | hj
    · simp only [List.mem_cons, List.not_mem_nil, or_false] at hj
      rcases hj with rfl | rfl
      · exact h.id.mono (Nat.zero_le _)
      · exact .str h.method
    · exact h.params j hj
  exact hfits.fits.obstacleWithin_eq_none hroom

/-- The body of a request carries it. -/
lemma encode_of_portable (h : r.Portable room) (hroom : room < Json.writeRoom) :
    r.encode = .ok (Utf8.encodeAll (r.toJson.write writeFloat)) := by
  rw [encode, text_of_obstacle? (obstacle?_of_portable h hroom)]
  rfl

/-- The body of a batch carries its requests as an array. -/
lemma encodeBatch_of_portable (h : ∀ r ∈ requests, r.Portable room) (hroom : room < Json.writeRoom) :
    encodeBatch requests =
      .ok (Utf8.encodeAll ((Json.list (requests.map toJson)).write writeFloat)) := by
  have htexts := texts_of_obstacle? fun r hr => obstacle?_of_portable (h r hr) hroom
  rw [encodeBatch, batchText, htexts, Json.write_list, List.map_map]
  rfl

/-- A request is taken for itself. -/
lemma ofValue_toJson (h : r.Portable room) (hroom : room < Value.jsonRoom) :
    ofValue (.ofJson r.toJson) = .ok r := by
  let entries : Entries Value := [("jsonrpc", .str Member.version), ("id", .ofJson r.id.toJson),
    ("method", .str r.method), ("params", .list (Value.ofJsonItems r.params))]
  have hversion : Member.checkVersion entries = .ok Member.version := rfl
  have hid : Member.required entries "id" RequestId.ofValue = .ok r.id := by
    show (RequestId.ofValue (.ofJson r.id.toJson)).under (.name "id") = _
    rw [RequestId.ofValue_toJson]
    rfl
  have hmethod : Member.required entries "method" Member.checkText = .ok r.method := rfl
  have hparams : Member.withDefault entries "params" [] checkParams = .ok r.params := by
    show (Value.toJsonItems (Value.ofJsonItems r.params)).under (.name "params") = _
    rw [Value.toJsonItems_ofJsonItems (fun j hj => (h.params j hj).fits) hroom]
    rfl
  show ofEntries entries = _
  simp only [ofEntries, hversion, hid, hmethod, hparams]
  rfl

end Request

/-! ### Responses -/

namespace Response

/-- A response with a result as JSON. -/
def ofResult (id : RequestId) (result : Json) : Json :=
  .dict [("jsonrpc", .str Member.version), ("id", id.toJson), ("result", result)]

variable {room : Nat} {id : RequestId} {j : Json}

lemma portable_ofResult (hid : id.toJson.Portable 0) (h : j.Portable room) :
    (ofResult id j).Portable (room + 1) := by
  refine .dict (by simp [Entries.names]; decide) ?_ ?_
  · simp only [List.forall_mem_cons]
    exact ⟨by decide, by decide, by decide, List.forall_mem_nil _⟩
  · simp only [List.forall_mem_cons]
    exact ⟨.str (by decide), hid.mono (Nat.zero_le _), h, List.forall_mem_nil _⟩

lemma parse_ofResult (h : j.Fits room) (hroom : room < Value.jsonRoom) :
    Client.parse (ofResult id j) = .ok ⟨some id, j, none⟩ := by
  let entries : Entries Value := [("jsonrpc", .str Member.version), ("id", .ofJson id.toJson),
    ("result", .ofJson j)]
  have hversion : Member.checkVersion entries = .ok Member.version := rfl
  have hid : Member.withDefault entries "id" none (Member.nullable RequestId.ofValue) =
      .ok (some id) := by
    cases id <;> rfl
  have hresult : Member.withDefault entries "result" Json.null Value.toJson = .ok j := by
    show (Value.toJson (.ofJson j)).under (.name "result") = _
    rw [Value.toJson_ofJson h hroom]
    rfl
  have herror : Member.withDefault entries "error" none (Member.nullable ErrorObject.ofValue) =
      .ok none := rfl
  have hmembers : ofMembers entries = .ok ⟨some id, j, none⟩ := by
    simp only [ofMembers, hversion, hid, hresult, herror]
    rfl
  show (ofMembers entries).mapError _ = _
  rw [hmembers]
  rfl

end Response

end ChainRpc
