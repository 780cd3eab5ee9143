import ChainRpc.Proofs.Json.RoundTrip
import ChainRpc.Proofs.Messages
import Mathlib.Data.List.Forall2

/-!
# Bodies of requests that are read again

The body of a batch is put together from the texts of its requests. Whoever reads it finds the objects of
just these requests, in their order, and takes each of them for the request that it was written for.
-/

namespace ChainRpc.Request

variable {room : Nat} {r : Request} {j : Json} {requests : List Request}

/-- The JSON value is the object of the members of the request, it is taken for the request, and it is what
the body of the request alone carries. -/
structure IsCarriedBy (r : Request) (j : Json) : Prop where
  eq_dict : j = .dict [("jsonrpc", .str "2.0"), ("id", r.id.toJson), ("method", .str r.method),
    ("params", .list r.params)]
  ofValue_eq : ofValue (.ofJson j) = .ok r
  alone : ∃ body, r.encode = .ok body ∧ Json.ofBytes body = .ok j

lemma isCarriedBy_toJson (h : r.Portable room) (hroom : room < Json.writeRoom) :
    r.IsCarriedBy r.toJson where
  eq_dict := rfl
  ofValue_eq := by
    have hnesting : Json.writeRoom ≤ Value.jsonRoom := by decide
    exact ofValue_toJson h (Nat.lt_of_lt_of_le hroom hnesting)
  alone := by
    have hnesting : Json.writeRoom + 2 ≤ Json.Limits.standard.nesting := by decide
    exact ⟨_, encode_of_portable h hroom, Json.ofBytes_write _ (portable_toJson h) (by omega)⟩

/-- The body of a batch is read as the array of the objects of its requests. -/
lemma ofBytes_encodeBatch (h : ∀ r ∈ requests, r.Portable room) (hroom : room < Json.writeRoom) :
    ∃ body, encodeBatch requests = .ok body ∧ Json.ofBytes body = .ok (.list (requests.map toJson)) := by
  have hnesting : Json.writeRoom + 3 ≤ Json.Limits.standard.nesting := by decide
  have hportable : (Json.list (requests.map toJson)).Portable (room + 3) := by
    refine .list ?_
    rw [List.forall_mem_map]
    intro r hr
    exact portable_toJson (h r hr)
  exact ⟨_, encodeBatch_of_portable h hroom, Json.ofBytes_write _ hportable (by omega)⟩

/-- The body of a batch of requests is read as an array with an object for each of them, in their order. The
object is made of the members of the request, it is taken for the request again, and it is what the body of
the request alone is read as. -/
theorem batch_body_carries_requests (h : ∀ r ∈ requests, r.Portable room) (hroom : room < Json.writeRoom) :
    ∃ body objects, encodeBatch requests = .ok body ∧ Json.ofBytes body = .ok (.list objects) ∧
      List.Forall₂ IsCarriedBy requests objects := by
  obtain ⟨body, hencode, hread⟩ := ofBytes_encodeBatch h hroom
  refine ⟨body, requests.map toJson, hencode, hread, ?_⟩
  rw [List.forall₂_map_right_iff, List.forall₂_same]
  intro r hr
  exact isCarriedBy_toJson (h r hr) hroom

/-- Requests that could be taken for more or fewer than they are: texts with marks, brackets, commas and
control characters, an identifier of characters beyond the first plane, and no parameters at all. -/
def quarrelsome : List Request := [
  ⟨.str "\"],[\\😀", "m\",", [.dict [("\x7d", .list [.null, .bool true]), ("\u0000", .str "\n\"")]]⟩,
  ⟨.int (-12), "", []⟩]

lemma portable_quarrelsome : ∀ r ∈ quarrelsome, r.Portable 2 := by
  have hitems : ∀ j ∈ [Json.null, .bool true], j.Portable 0 := by
    simp only [List.forall_mem_cons]
    exact ⟨.null, .bool true, List.forall_mem_nil _⟩
  have hmembers : ∀ e ∈ ([("\x7d", .list [.null, .bool true]), ("\u0000", .str "\n\"")] : Entries Json),
      e.2.Portable 1 := by
    simp only [List.forall_mem_cons]
    exact ⟨.list hitems, .str (by decide), List.forall_mem_nil _⟩
  have hshort : IsShort (-12) :=
    Nat.lt_of_lt_of_le (by decide : 12 < 10 ^ 2) (Nat.pow_le_pow_right (by decide) (by decide))
  simp only [quarrelsome, List.forall_mem_cons]
  refine ⟨⟨.str (by decide), by decide, ?_⟩, ⟨.int hshort, by decide, List.forall_mem_nil _⟩,
    List.forall_mem_nil _⟩
  exact List.forall_mem_singleton.mpr (.dict (by decide) (by decide) hmembers)

/-- The body of such requests is read as two objects, and those are theirs. -/
theorem batch_body_carries_requests_quarrelsome :
    (∀ r ∈ quarrelsome, r.Portable 2) ∧ 2 < Json.writeRoom ∧
      ∃ body first second, encodeBatch quarrelsome = .ok body ∧
        Json.ofBytes body = .ok (.list [first, second]) ∧
        List.Forall₂ IsCarriedBy quarrelsome [first, second] := by
  refine ⟨portable_quarrelsome, by decide, ?_⟩
  obtain ⟨body, objects, hencode, hread, hcarried⟩ :=
    batch_body_carries_requests portable_quarrelsome (by decide)
  have hlength := hcarried.length_eq
  match objects, hlength with
  | [first, second], _ => exact ⟨body, first, second, hencode, hread, hcarried⟩

end ChainRpc.Request
