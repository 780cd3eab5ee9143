import ChainRpc.Proofs.Value.Fits
import ChainRpc.Request

/-!
# Requests that have bodies

A request whose method has a whole name and whose parameters are not nested too deep has a body, and so
has a batch of such requests.
-/

namespace ChainRpc.Request

variable {r : Request} {requests : List Request}

lemma obstacle?_eq_none {n : Int} {room : Nat} (hid : r.id = .int n) (hmethod : r.method.IsWhole)
    (hparams : ∀ j ∈ r.params, j.Fits room) (hroom : room < Json.writeRoom) :
    r.obstacle? = none := by
  have hfits : ∀ j ∈ [r.id.toJson, .str r.method] ++ r.params, j.Fits room := by
    intro j hj
    rcases List.mem_append.mp hj with hj | hj
    · rw [hid] at hj
      rcases List.mem_cons.mp hj with rfl | hj
      · exact .int n
      · obtain rfl := List.mem_singleton.mp hj
        exact .str hmethod
    · exact hparams j hj
  exact List.findSome?_eq_none_iff.mpr fun j hj => (hfits j hj).obstacleWithin_eq_none hroom

lemma text_of_obstacle? (h : r.obstacle? = none) : r.text = .ok r.write := by
  rw [text, h]

/-- A request that nothing stands in the way of has a body. -/
lemma encode_of_obstacle? (h : r.obstacle? = none) : ∃ body, r.encode = .ok body :=
  ⟨_, by rw [encode, text_of_obstacle? h]; rfl⟩

lemma obstacle?_of_encode {body : Bytes} (h : r.encode = .ok body) : r.obstacle? = none := by
  unfold encode text at h
  split at h
  · cases h
  · assumption

lemma texts_of_obstacle? (h : ∀ r ∈ requests, r.obstacle? = none) :
    texts requests = .ok (requests.map write) := by
  induction requests with
  | nil => rfl
  | cons r rest ih =>
    obtain ⟨hr, hrest⟩ := List.forall_mem_cons.mp h
    rw [texts, text_of_obstacle? hr, ih hrest]
    rfl

/-- A batch of requests that nothing stands in the way of has a body. -/
lemma encodeBatch_of_obstacle? (h : ∀ r ∈ requests, r.obstacle? = none) :
    ∃ body, encodeBatch requests = .ok body :=
  ⟨_, by rw [encodeBatch, batchText, texts_of_obstacle? h]; rfl⟩

end ChainRpc.Request
