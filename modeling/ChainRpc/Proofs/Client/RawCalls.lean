import ChainRpc.Proofs.Json.Carried
import ChainRpc.Proofs.Client.Operations
import ChainRpc.Proofs.Request
import ChainRpc.Proofs.Value.Plain

/-!
# What calls by name alone send

The parameters of a call by name alone are accepted if they are JSON. What is accepted is sent just as it is
only where its numbers are finite, its integers are within the digit limit, its texts are whole and its
parts stand in few enough containers. Otherwise the call fails after it was accepted, or it sends null in
place of a number.
-/

namespace ChainRpc

/-! ### Bodies of requests -/

namespace Request

variable {n : Nat} {name : Text} {js : List Json} {body : Bytes}

/-- A request has a body just where its name is whole and its parameters can be written. -/
lemma obstacle?_eq_none_iff {r : Request} (hid : r.id = .int n) :
    r.obstacle? = none ↔ r.method.IsWhole ∧ ∀ j ∈ r.params, j.Writable Json.writeRoom := by
  have hmethod : (Json.str r.method).bodyObstacle? = none ↔ r.method.IsWhole :=
    Json.surrogatesOf_eq_none_iff
  have hparam (j : Json) : j.bodyObstacle? = none ↔ j.Writable Json.writeRoom :=
    Json.obstacleWithin_eq_none_iff
  have hint : (r.id.toJson).bodyObstacle? = none := by
    rw [hid]
    rfl
  rw [obstacle?, List.findSome?_eq_none_iff, List.forall_mem_append, List.forall_mem_cons,
    List.forall_mem_singleton, hmethod, and_iff_right hint]
  simp only [hparam]

/-- The body of a request is read as the request with what it carries of its parameters. -/
lemma ofBytes_of_encode (hn : n < 10 ^ digitLimit) (hrange : ∀ c ∈ name, c < 0x110000)
    (hregular : ∀ j ∈ js, (Value.ofJson j).IsRegular) (hl : ∀ j ∈ js, j.IsLegible)
    (hbody : encode ⟨.int n, name, js⟩ = .ok body) :
    Json.ofBytes body = .ok (toJson ⟨.int n, name, js.map Json.carried⟩) := by
  have hobstacle := obstacle?_of_encode hbody
  obtain ⟨hname, hw⟩ := (obstacle?_eq_none_iff rfl).mp hobstacle
  rw [encode, text_of_obstacle? hobstacle] at hbody
  obtain rfl := Except.ok.inj hbody
  have hcarried : (toJson ⟨.int n, name, js⟩).carried = toJson ⟨.int n, name, js.map Json.carried⟩ := by
    simp [toJson, RequestId.toJson, Json.carried, Json.carriedEntries, Json.carriedItems_eq_map]
  have hportable : (toJson ⟨.int n, name, js.map Json.carried⟩).PortableWith
      (fun x => x.isFinite = true) (Json.writeRoom + 2) := by
    refine .dict (by simp [Entries.names]; decide) ?_ ?_
    · simp only [List.forall_mem_cons]
      exact ⟨by decide, by decide, by decide, by decide, List.forall_mem_nil _⟩
    · simp only [List.forall_mem_cons]
      refine ⟨.str (by decide), .int hn, .str (Json.isScalar_of_isWhole hname hrange), .list ?_,
        List.forall_mem_nil _⟩
      exact List.forall_mem_map.mpr fun j hj => (hw j hj).portableWith_carried (hregular j hj) (hl j hj)
  rw [write, ← Json.write_carried, hcarried]
  exact Json.ofBytes_write_floats Json.carriesFloats_writeFloat hportable (by decide)

end Request

/-- A request carries the value just as it is: it is within the limits, and its numbers are finite. -/
structure Json.IsCarried (j : Json) : Prop where
  isLegible : j.IsLegible
  writable : j.Writable Json.writeRoom
  isFinite : ∀ x ∈ j.floats, x.isFinite

namespace Client

variable {σ α : Type} {name : Text} {items : List Value} {js : List Json} {n : Nat}
  {exchanges : List Exchange} {result : Except Fault α}

/-! ### Outcomes -/

/-- What a call by name alone under an identifier comes to: it is refused because a parameter is no JSON; or
it is accepted and fails before anything is sent; or it sends one body. -/
inductive RawOutcome (name : Text) (items : List Value) (n : Nat) :
    List Exchange → Except Fault α → Prop
  | refused {issues : List Issue} (h : Value.toJsonItems items = .error issues) :
    RawOutcome name items n []
      (.error (.invalidParams (.notJson (.str name) (Issue.under (.name "params") issues))))
  | unshown {js : List Json} (h : Value.toJsonItems items = .ok js) (hl : ¬ ∀ j ∈ js, j.IsLegible) :
    RawOutcome name items n [] (.error .tooLarge)
  | unwritten {js : List Json} {cause : Uncarried} (h : Value.toJsonItems items = .ok js)
    (hl : ∀ j ∈ js, j.IsLegible) (hw : ¬ (name.IsWhole ∧ ∀ j ∈ js, j.Writable Json.writeRoom)) :
    RawOutcome name items n [] (.error (.unserializable cause))
  | sent {js : List Json} {e : Exchange} {result : Except Fault α}
    (h : Value.toJsonItems items = .ok js) (hl : ∀ j ∈ js, j.IsLegible)
    (hw : name.IsWhole ∧ ∀ j ∈ js, j.Writable Json.writeRoom)
    (hread : Json.ofBytes e.body = .ok (Request.toJson ⟨.int n, name, js.map Json.carried⟩)) :
    RawOutcome name items n [e] result

/-- The parameters are refused and nothing is sent, or one body is sent, which is read as a request with
the name and with just these parameters. -/
def IsFaithful (name : Text) (items : List Value) (n : Nat) (exchanges : List Exchange)
    (result : Except Fault α) : Prop :=
  (exchanges = [] ∧ ∃ cause, result = .error (.invalidParams cause)) ∨
    ∃ e js, exchanges = [e] ∧ js.map Value.ofJson = items ∧
      Json.ofBytes e.body = .ok (Request.toJson ⟨.int n, name, js⟩)

lemma rawRequest_of_error {issues : List Issue} (name : Text) (n : Nat)
    (h : Value.toJsonItems items = .error issues) :
    rawRequest (.str name) (.list items) n =
      .error (.invalidParams (.notJson (.str name) (Issue.under (.name "params") issues))) := by
  have hvalue := ofValue_raw n (.str name) items
  rw [h] at hvalue
  dsimp only [rawRequest, Client.items, Value.items?, bind, Except.bind]
  rw [hvalue]
  rfl

/-- A call that is accepted is faithful just where the request carries all that it is given. -/
lemma RawOutcome.isFaithful_iff (h : RawOutcome name items n exchanges result) :
    IsFaithful name items n exchanges result ↔
      ∀ js, Value.toJsonItems items = .ok js → name.IsWhole ∧ ∀ j ∈ js, j.IsCarried := by
  cases h with
  | refused h =>
    refine iff_of_true (.inl ⟨rfl, _, rfl⟩) fun js hjs => ?_
    cases h.symm.trans hjs
  | unshown h hl =>
    refine iff_of_false ?_ fun hall => hl fun j hj => ((hall _ h).2 j hj).isLegible
    rintro (⟨-, cause, hcause⟩ | ⟨e, js, he, -⟩)
    · cases hcause
    · cases he
  | unwritten h hl hw =>
    refine iff_of_false ?_ fun hall => hw ⟨(hall _ h).1, fun j hj => ((hall _ h).2 j hj).writable⟩
    rintro (⟨-, cause, hcause⟩ | ⟨e, js, he, -⟩)
    · cases hcause
    · cases he
  | @sent js e _ h hl hw hread =>
    have hitems := Value.ofJson_of_toJsonItems h
    have hself : js.map Json.carried = js ↔ ∀ j ∈ js, ∀ x ∈ j.floats, x.isFinite := by
      conv_lhs => rw [← List.map_id js, List.map_map, List.map_eq_map_iff]
      exact forall₂_congr fun j _ => Json.carried_eq_self_iff j
    constructor
    · rintro (⟨hnil, -⟩ | ⟨e', js', he, hjs, hfound⟩) found hok
      · cases hnil
      · cases he
        cases h.symm.trans hok
        obtain rfl : js' = js := Value.eq_of_map_ofJson_eq js' (hjs.trans hitems.symm)
        have heq := Except.ok.inj (hread.symm.trans hfound)
        have hfinite := hself.mp (by simpa [Request.toJson] using heq)
        exact ⟨hw.1, fun j hj => ⟨hl j hj, hw.2 j hj, hfinite j hj⟩⟩
    · intro hall
      have hfinite := hself.mpr fun j hj => ((hall js h).2 j hj).isFinite
      rw [hfinite] at hread
      exact .inr ⟨e, js, rfl, hitems, hread⟩

/-- A request that is accepted and shown has no body, or its body is sent. -/
lemma rawOutcome_submit {p : Prepared} (hp : p.request = ⟨.int n, name, js⟩) (c : Connection σ)
    (session : Session σ) (hn : n < 10 ^ digitLimit) (hrange : ∀ c ∈ name, c < 0x110000)
    (hregular : ∀ v ∈ items, v.IsRegular) (hjs : Value.toJsonItems items = .ok js)
    (hl : ∀ j ∈ js, j.IsLegible) :
    RawOutcome name items n ((Resumable.submit p).exchanges c session)
      ((Resumable.submit p).run c session).1 := by
  have hwritable : p.request.obstacle? = none ↔
      name.IsWhole ∧ ∀ j ∈ js, j.Writable Json.writeRoom := by
    rw [hp]
    exact Request.obstacle?_eq_none_iff rfl
  have hitems : ∀ j ∈ js, (Value.ofJson j).IsRegular := by
    rw [← Value.ofJson_of_toJsonItems hjs] at hregular
    exact List.forall_mem_map.mp hregular
  have hsent {body : Bytes} (hbody : p.request.encode = .ok body) (answer : Except Fault Bytes)
      (result : Except Fault Value) : RawOutcome name items n [⟨body, answer⟩] result := by
    refine .sent hjs hl (hwritable.mp (Request.obstacle?_of_encode hbody)) ?_
    rw [hp] at hbody
    exact Request.ofBytes_of_encode hn hrange hitems hl hbody
  rcases Resumable.roundTrip_cases c p.request.encode (finish p) session with
    ⟨cause, hbody, he, hr⟩ | ⟨body, fault, _, _, hbody, he, hr⟩ | ⟨body, answer, _, _, hbody, he, hr⟩
  · rw [Resumable.submit, he, hr]
    refine .unwritten hjs hl fun hw => ?_
    obtain ⟨body, hok⟩ := Request.encode_of_obstacle? (hwritable.mpr hw)
    cases hbody.symm.trans hok
  · rw [Resumable.submit, he]
    exact hsent hbody _ _
  · rw [Resumable.submit, he]
    exact hsent hbody _ _

lemma RawOutcome.map {β : Type} (f : α → β) (h : RawOutcome name items n exchanges result) :
    RawOutcome name items n exchanges (result.map f) := by
  cases h with
  | refused h => exact .refused h
  | unshown h hl => exact .unshown h hl
  | unwritten h hl hw => exact .unwritten h hl hw
  | sent h hl hw hread => exact .sent h hl hw hread

/-- A call by name alone has one of the outcomes. -/
lemma rawOutcome_callRaw (isResumable : Bool) (c : Connection σ) (session : Session σ)
    (hid : session.state.nextId < 10 ^ digitLimit) (hrange : ∀ c ∈ name, c < 0x110000)
    (hregular : ∀ v ∈ items, v.IsRegular) :
    RawOutcome name items session.state.nextId
      ((Operation.callRaw (.str name) (.list items)).exchanges isResumable c session)
      ((Operation.callRaw (.str name) (.list items)).run isResumable c session).1 := by
  rw [Operation.exchanges_callRaw, Operation.run_callRaw]
  refine .map _ ?_
  cases hjs : Value.toJsonItems items with
  | error issues =>
    have hraw := rawRequest_of_error name session.state.nextId hjs
    rcases Resumable.callRaw_cases c (.str name) (.list items) session with
      ⟨fault, hf, he, hr⟩ | ⟨p, hp, _⟩ | ⟨p, message, hp, _⟩
    · cases hf.symm.trans hraw
      rw [he, hr]
      exact .refused hjs
    · cases hp.symm.trans hraw
    · cases hp.symm.trans hraw
  | ok js =>
    let p : Prepared := ⟨{ name := name }, ⟨.int session.state.nextId, name, js⟩⟩
    have hraw : rawRequest (.str name) (.list items) session.state.nextId = .ok p :=
      rawRequest_eq_ok_iff.mpr ⟨items, name, js, rfl, rfl, hjs, rfl⟩
    rcases Resumable.callRaw_cases c (.str name) (.list items) session with
      ⟨fault, hf, _⟩ | ⟨p', hp', hl, he, hr⟩ | ⟨p', message, hp', hl, he, hr⟩
    · cases hf.symm.trans hraw
    · cases hp'.symm.trans hraw
      rw [he, hr]
      exact .unshown hjs hl
    · cases hp'.symm.trans hraw
      rw [he, hr]
      exact rawOutcome_submit rfl c _ hid hrange hregular hjs hl

/-- A call by name alone has one of four outcomes: its parameters are refused; an integer cannot be shown; a
text or a nesting cannot be written; or one body is sent, in which null stands for the numbers that are not
finite. So what is accepted is sent just as it is exactly if none of the last three limits is met. -/
theorem callRaw_is_faithful_iff (isResumable : Bool) (c : Connection σ) (session : Session σ)
    (hid : session.state.nextId < 10 ^ digitLimit) (hrange : ∀ c ∈ name, c < 0x110000)
    (hregular : ∀ v ∈ items, v.IsRegular) :
    let op := Operation.callRaw (.str name) (.list items)
    let exchanges := op.exchanges isResumable c session
    let result := (op.run isResumable c session).1
    RawOutcome name items session.state.nextId exchanges result ∧
      (IsFaithful name items session.state.nextId exchanges result ↔
        ∀ js, Value.toJsonItems items = .ok js → name.IsWhole ∧ ∀ j ∈ js, j.IsCarried) := by
  have h := rawOutcome_callRaw isResumable c session hid hrange hregular
  exact ⟨h, h.isFaithful_iff⟩

/-- Values with numbers of every layout: minus zero, a tenth, ten quadrillion and the least number above
zero. -/
def assorted : List Json :=
  [.float (Binary64.ofDecimal true 0 0),
    .dict [("k", .list [.float (Binary64.ofDecimal false 1 (-1)), .int 7])],
    .float (Binary64.ofDecimal false 1 16),
    .list [.str "é", .float (Binary64.ofDecimal false 5 (-324)), .null]]

lemma isRegular_assorted : ∀ v ∈ assorted.map Value.ofJson, v.IsRegular := by
  have hinner : ∀ v ∈ [Value.float (Binary64.ofDecimal false 1 (-1)), .int 7], v.IsRegular := by
    simp only [List.forall_mem_cons]
    exact ⟨.float _, .int 7, List.forall_mem_nil _⟩
  simp only [assorted, List.map_cons, List.map_nil, Value.ofJson, Value.ofJsonItems, Value.ofJsonEntries,
    List.forall_mem_cons]
  refine ⟨.float _, .dict (by decide) (by decide) (List.forall_mem_singleton.mpr (.list hinner)),
    .float _, .list ?_, List.forall_mem_nil _⟩
  simp only [List.forall_mem_cons]
  exact ⟨.str (by decide), .float _, .null, List.forall_mem_nil _⟩

lemma isCarried_assorted : ∀ j ∈ assorted, j.IsCarried := by
  have hlegible : ∀ j ∈ assorted, j.IsLegible := by
    have hshort : IsShort 7 :=
      Nat.lt_of_lt_of_le (by decide : 7 < 10 ^ 1) (Nat.pow_le_pow_right (by decide) (by decide))
    simp only [assorted, List.forall_mem_cons]
    refine ⟨nofun, ?_, nofun, nofun, List.forall_mem_nil _⟩
    exact List.forall_mem_singleton.mpr hshort
  have hwritable : ∀ j ∈ assorted, j.bodyObstacle? = none := by decide +kernel
  have hfinite : ∀ j ∈ assorted, ∀ x ∈ j.floats, x.isFinite := by decide +kernel
  exact fun j hj => ⟨hlegible j hj, Json.obstacleWithin_eq_none_iff.mp (hwritable j hj), hfinite j hj⟩

/-- All of these values are sent just as they are. -/
theorem callRaw_is_faithful_iff_assorted :
    let op := Operation.callRaw (.str "m") (.list (assorted.map Value.ofJson))
    IsFaithful "m" (assorted.map Value.ofJson) 1 (op.exchanges false scripted (.answered []))
      (op.run false scripted (.answered [])).1 := by
  have hid : 1 < 10 ^ digitLimit :=
    Nat.lt_of_lt_of_le (by decide : 1 < 10 ^ 1) (Nat.pow_le_pow_right (by decide) (by decide))
  refine (callRaw_is_faithful_iff false scripted (.answered []) hid (by decide)
    isRegular_assorted).2.mpr fun js hjs => ?_
  cases hjs
  exact ⟨by decide, isCarried_assorted⟩

/-- What is no number is accepted, and null is sent in its place. -/
theorem not_isFaithful_nan :
    let op := Operation.callRaw (.str "m") (.list [.float .nan])
    (∀ v ∈ [Value.float .nan], v.IsRegular) ∧
      ¬ IsFaithful "m" [.float .nan] 1 (op.exchanges false scripted (.answered []))
        (op.run false scripted (.answered [])).1 := by
  have hid : 1 < 10 ^ digitLimit :=
    Nat.lt_of_lt_of_le (by decide : 1 < 10 ^ 1) (Nat.pow_le_pow_right (by decide) (by decide))
  have hregular : ∀ v ∈ [Value.float .nan], v.IsRegular := List.forall_mem_singleton.mpr (.float .nan)
  refine ⟨hregular, fun h => ?_⟩
  have hrange : ∀ c ∈ ("m" : Text), c < 0x110000 := by decide
  have houtcome := rawOutcome_callRaw false scripted (.answered []) hid hrange hregular
  have hcarried := (houtcome.isFaithful_iff.mp h [.float .nan] rfl).2 _ (List.mem_singleton_self _)
  exact absurd (hcarried.isFinite _ (List.mem_singleton_self _)) (by decide)

end Client

end ChainRpc
