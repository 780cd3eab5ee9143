import ChainRpc.Proofs.Client.Attribution
import ChainRpc.Proofs.Client.Faults
import ChainRpc.Proofs.Client.Kinds
import ChainRpc.Proofs.Client.Sending
import ChainRpc.Proofs.Method.Params
import ChainRpc.Proofs.Shape.Typed

/-!
# What helpers ask for

A helper looks something up under a key, as a typed method does, or under the number of the tip, which it
asks for first. It ends as the last typed method does, except that null is a missing result. The detail of a
missing result is a text for every key that can be sent.
-/

namespace ChainRpc.Client

variable {σ α : Type} {isResumable : Bool} {c : Connection σ} {session session' : Session σ}

/-! ### Keys -/

namespace Helper

/-- The helper looks a block up by its number. -/
def byNumber : Helper → Bool
  | .blockByHash | .transaction => false
  | _ => true

/-- The key under which a helper looks up, from its bound arguments. Without one it follows the tip. -/
def key? : Helper → (bound : List Value) → Option Value
  | .blockHash, bound | .blockByNumber, bound =>
    if bound.headD .null = .null then none else some (bound.headD .null)
  | .tipBlockHash, _ | .lastBlock, _ => none
  | .genesisHash, _ | .genesisBlock, _ => some (.int 0)
  | .blockByHash, bound | .transaction, bound => some (bound.headD .null)

/-- What the detail of a missing result says of a key. -/
inductive Details (h : Helper) : Value → Text → Prop
  | number (hh : h.byNumber) (n : Int) : Details h (.int n) ("block " ++ Text.ofInt n)
  | numeral (hh : h.byNumber) (t : Text) : Details h (.str t) ("block " ++ t)
  | text (hh : ¬ h.byNumber) (t : Text) : Details h (.str t) t
  | bytes (hh : ¬ h.byNumber) (b : Bytes) : Details h (.bytes b) (ByteString.encode b)
  | buffer (hh : ¬ h.byNumber) (b : Bytes) : Details h (.buffer b) (ByteString.encode b)

/-- How a helper ends where the typed method ends in a way: a fault is the same fault, null is a missing
result, and any other value is the same value. -/
inductive Requires (h : Helper) (key : Value) :
    Except Fault Operation.Result → Except Fault Operation.Result → Prop
  | failed (fault : Fault) : Requires h key (.error fault) (.error fault)
  | missing {detail : Text} (hdetail : h.Details key detail) :
    Requires h key (.ok (.value .null)) (.error (.notFound h.descriptor.name detail))
  | found {v : Value} (hv : v ≠ .null) : Requires h key (.ok (.value v)) (.ok (.value v))

/-- The detail of a missing result under a key. -/
def detail (h : Helper) (key : Value) : Text :=
  if h.byNumber then numberDetail key else hashDetail key

end Helper

/-- The result is the complaint about a missing one. -/
def IsMissing (result : Except Fault α) : Prop :=
  ∃ method detail, result = .error (.notFound method detail)

/-- The peer does not break down with the complaint about a missing result. -/
def Connection.NeverMisses (c : Connection σ) : Prop :=
  ∀ post s method detail, (c.peer post s).outcome ≠ .broke (.notFound method detail)

/-- The turn of a typed method that is called with arguments. -/
def typedTurn (isResumable : Bool) (c : Connection σ) (m : Method) (args : List Value)
    (session : Session σ) : Turn σ :=
  (Operation.typed m.name args []).turn isResumable c session

/-- The turn has a single exchange, with the body of the request. -/
def Turn.Posts (t : Turn σ) (r : Request) : Prop :=
  ∃ body answer, r.encode = .ok body ∧ t.exchanges = [⟨body, answer⟩]

/-- After some exchanges a helper goes on and ends as the typed method does that looks the key up. The result
is missing just where the typed method answers null. -/
structure Turn.EndsAs (c : Connection σ) (t found : Turn σ) (h : Helper) (key : Value)
    (before : List Exchange) : Prop where
  exchanges : t.exchanges = before ++ found.exchanges
  after : t.after = found.after
  result : h.Requires key found.result t.result
  isMissing_iff : c.NeverMisses → (IsMissing t.result ↔ found.result = .ok (.value .null))

/-- A helper comes no further than the typed method, which fails. -/
structure Turn.FailsAs (c : Connection σ) (t first : Turn σ) : Prop where
  fault : ∃ fault, first.result = .error fault
  exchanges : t.exchanges = first.exchanges
  after : t.after = first.after
  result : t.result = first.result
  not_isMissing : c.NeverMisses → ¬ IsMissing t.result

/-! ### Arguments that have wire forms -/

/-- The wire form of a single argument is that of its typed value. -/
lemma encodeParams_singleton_iff {m : Method} {p : Param} {v : Value} {params : List Json}
    (hparams : m.params = [p]) (hrequired : p.optional = false) :
    m.encodeParams [v] = .ok params ↔
      ∃ typed, p.shape.decode .caller v = .ok typed ∧ params = [p.shape.encode typed] := by
  have hargument : p.argument = p.shape := by simp [Param.argument, hrequired]
  rw [Method.encodeParams, hparams, if_neg (by simp), Method.encodeAll, Method.encodeArgument, hargument]
  cases p.shape.decode .caller v with
  | error issues => simp [hrequired, bind, Except.bind, Except.map]
  | ok typed =>
    have htrimmed : Method.trimmed [(p, p.shape.encode typed)] = [p.shape.encode typed] := by
      simp [Method.trimmed, hrequired]
    simp only [hrequired, Bool.false_eq_true, false_and, if_false, Method.encodeAll, bind, Except.bind, pure,
      Except.pure, Except.map, htrimmed]
    constructor
    · rintro ⟨⟩
      exact ⟨typed, rfl, rfl⟩
    · rintro ⟨_, ⟨⟩, rfl⟩
      rfl

namespace Helper

variable {h : Helper} {key : Value} {params : List Json}

lemma exists_param (h : Helper) :
    ∃ p, h.descriptor.params = [p] ∧ p.optional = false ∧
      p.shape = if h.byNumber then .uint 64 else .fixed 32 := by
  cases h <;> exact ⟨_, rfl, rfl, rfl⟩

lemma details_number (hh : h.byNumber) {n : Nat} (hn : Quantity.decode 64 key = .ok n) :
    h.Details key (numberDetail key) := by
  cases key with
  | int m =>
    have hchecked : Quantity.checked 64 (.int m) m = .ok n := hn
    unfold Quantity.checked at hchecked
    split at hchecked
    · next hrange =>
      have hlt : m.natAbs < 2 ^ (64 : Nat) := by omega
      have hspoken : (Value.int m).spoken? = some (Text.ofInt m) := by
        rw [Value.spoken?, Value.shown?, decimal?_of_isShort (isShort_of_lt hlt)]
        all_goals nofun
      rw [numberDetail, hspoken]
      exact .number hh m
    · cases hchecked
  | str t => exact .numeral hh t
  | _ => cases hn

lemma details_hash (hh : ¬ h.byNumber) {b : Bytes} (hb : ByteString.decodeFixed 32 key = .ok b) :
    h.Details key (hashDetail key) := by
  obtain ⟨found, hfound, -⟩ := Checked.bind_eq_ok_iff.mp hb
  cases key with
  | bytes b => exact .bytes hh b
  | buffer b => exact .buffer hh b
  | str t => exact .text hh t
  | _ => cases hfound

/-- A key that can be sent is spoken of in the detail. -/
lemma details_of_encodeParams (hparams : h.descriptor.encodeParams [key] = .ok params) :
    h.Details key (h.detail key) := by
  obtain ⟨p, hp, hrequired, hshape⟩ := h.exists_param
  obtain ⟨typed, htyped, -⟩ := (encodeParams_singleton_iff hp hrequired).mp hparams
  rw [hshape] at htyped
  unfold detail
  split
  · next hh =>
    rw [if_pos hh] at htyped
    obtain ⟨_, hlifted, -⟩ := Checked.map_eq_ok_iff.mp htyped
    obtain ⟨n, hn, -⟩ := Checked.bind_eq_ok_iff.mp hlifted
    exact details_number hh (Shape.primitive_eq_ok hn)
  · next hh =>
    rw [if_neg hh] at htyped
    obtain ⟨b, hb, -⟩ := Checked.map_eq_ok_iff.mp htyped
    exact details_hash hh (Shape.primitive_eq_ok hb)

lemma decode_caller_uint {bits n : Nat} (hn : n < 2 ^ bits) :
    Shape.decode .caller (.uint bits) (.int n) = .ok (.int n) := by
  have hchecked : Quantity.decode bits (.int n) = .ok n := if_pos ⟨Int.natCast_nonneg n, by exact_mod_cast hn⟩
  rw [Shape.decode, Shape.primitive, hchecked]
  rfl

/-- A number of 64 bits is sent as a quantity. -/
lemma encodeParams_number (hh : h.byNumber) {n : Nat} (hn : n < 2 ^ (64 : Nat)) :
    h.descriptor.encodeParams [.int n] = .ok [.str (Quantity.encode n)] := by
  obtain ⟨p, hp, hrequired, hshape⟩ := h.exists_param
  rw [encodeParams_singleton_iff hp hrequired, hshape, if_pos hh]
  exact ⟨_, decode_caller_uint hn, rfl⟩

/-- A key is sent as a text of characters. -/
lemma exists_text_of_encodeParams (hparams : h.descriptor.encodeParams [key] = .ok params) :
    ∃ t : Text, t.IsWhole ∧ params = [.str t] := by
  obtain ⟨p, hp, hrequired, hshape⟩ := h.exists_param
  obtain ⟨typed, htyped, rfl⟩ := (encodeParams_singleton_iff hp hrequired).mp hparams
  by_cases hh : h.byNumber
  · rw [hshape, if_pos hh] at htyped ⊢
    have hnumber := Shape.hasShape_of_decode_leaf rfl htyped
    cases hnumber
    exact ⟨_, Shape.isWhole_encodeInt _, rfl⟩
  · rw [hshape, if_neg hh] at htyped ⊢
    have hhash := Shape.hasShape_of_decode_leaf rfl htyped
    cases hhash
    exact ⟨_, (ByteString.isScalar_encode _).isWhole, rfl⟩

end Helper

/-! ### Posts -/

lemma hostField_ne_notFound (url : Http.Url) (method detail : Text) :
    Http.Post.hostField url ≠ .error (.notFound method detail) := by
  intro h
  have hascii : (Http.Headers.asciiBytes url.authority).mapError
      (fun run => Fault.header (.notAscii run)) ≠ .error (.notFound method detail) := by
    intro hfault
    obtain ⟨_, _, ⟨⟩⟩ := Checked.mapError_eq_error_iff.mp hfault
  unfold Http.Post.hostField at h
  dsimp only at h
  split at h
  · rcases Checked.bind_eq_error_iff.mp h with hcheck | ⟨_, _, hfault⟩
    · obtain ⟨_, _, ⟨⟩⟩ := Checked.mapError_eq_error_iff.mp hcheck
    · exact hascii hfault
  · exact hascii h

lemma prepare_ne_notFound (e : Http.Endpoint) (body : Bytes) (method detail : Text) :
    e.prepare body ≠ .error (.broke (.notFound method detail)) := by
  intro h
  unfold Http.Endpoint.prepare at h
  split at h
  case h_4 url _ =>
    split at h
    · cases h
    · obtain ⟨fault, hbuild, ⟨⟩⟩ := Checked.mapError_eq_error_iff.mp h
      rcases Checked.bind_eq_error_iff.mp hbuild with hhost | ⟨_, _, hdone⟩
      · unfold Http.Post.withHost at hhost
        split at hhost
        · cases hhost
        · exact hostField_ne_notFound url _ _ (Checked.map_eq_error_iff.mp hhost)
      · cases hdone
  case h_3 => split at h <;> cases h
  all_goals cases h

/-- A post does not come to a missing result unless the peer breaks down with one. -/
lemma not_isMissing_send (hpeer : c.NeverMisses) (body : Bytes) (link : Http.Link σ) :
    ¬ IsMissing (c.endpoint.send c.peer body link).1.result := by
  rintro ⟨method, detail, h⟩
  rw [Http.Endpoint.result_send] at h
  have houtcome : c.endpoint.outcome c.peer body link = .broke (.notFound method detail) := by
    cases hout : c.endpoint.outcome c.peer body link with
    | broke fault =>
      rw [hout] at h
      cases h
      rfl
    | answered status raw =>
      rw [hout, Http.Outcome.delivery] at h
      split at h <;> cases h
    | timedOut reason | failed reason =>
      rw [hout] at h
      cases h
  unfold Http.Endpoint.outcome at houtcome
  split at houtcome
  · next hprepare => exact prepare_ne_notFound _ _ _ _ (houtcome ▸ hprepare)
  · next post _ =>
    split at houtcome
    · cases houtcome
    · unfold Http.Outcome.through at houtcome
      split at houtcome
      · split at houtcome <;> cases houtcome
      · exact hpeer _ _ _ _ houtcome

/-! ### Calls of methods -/

namespace Resumable

variable {m : Method} {args : List Value} {params : List Json} {v : Value}

lemma wireCall_direct (registry : Registry) (m : Method) (args : List Value) :
    wireCall registry (.direct m) args =
      ((m.encodeParams args).mapError .ofParams).map fun params => ⟨m, params⟩ := by
  cases hparams : m.encodeParams args <;>
    simp [wireCall, MethodRef.find, hparams, bind, Except.bind, Except.map, Except.mapError, pure, Except.pure]

/-- Only arguments with wire forms get a value. -/
lemma exists_params_of_call (h : (call c.registry (.direct m) args).run c session = (.ok v, session')) :
    ∃ params, m.encodeParams args = .ok params := by
  rcases call_cases c c.registry (.direct m) args session with
    ⟨_, _, _, hr⟩ | ⟨_, _, _, _, hr⟩ | ⟨w, _, hw, _⟩
  · cases h.symm.trans hr
  · cases h.symm.trans hr
  · rw [wireCall_direct, Checked.map_eq_ok_iff] at hw
    obtain ⟨params, hparams, -⟩ := hw
    exact ⟨params, Checked.mapError_eq_ok_iff.mp hparams⟩

/-- A call with wire forms that can be written posts its request. -/
lemma posts_call (hname : m.name.IsWhole) (hparams : m.encodeParams args = .ok params)
    (hfits : ∀ j ∈ params, j.Fits depthLimit) (hlegible : ∀ j ∈ params, j.IsLegible)
    (session : Session σ) :
    ∃ body answer, (⟨.int session.state.nextId, m.name, params⟩ : Request).encode = .ok body ∧
      (call c.registry (.direct m) args).exchanges c session = [⟨body, answer⟩] := by
  have hwire : wireCall c.registry (.direct m) args = .ok ⟨m, params⟩ := by
    rw [wireCall_direct, hparams]
    rfl
  rcases call_cases c c.registry (.direct m) args session with
    ⟨_, hw, _, _⟩ | ⟨_, hw, hl, _, _⟩ | ⟨_, message, hw, _, he, _⟩
  · cases hw.symm.trans hwire
  · cases hw.symm.trans hwire
    exact absurd hlegible hl
  · cases hw.symm.trans hwire
    have hobstacle := Request.obstacle?_eq_none (r := ⟨.int session.state.nextId, m.name, params⟩) rfl hname
      hfits (by decide)
    obtain ⟨⟨body, answer⟩, hexchanges, hbody, -⟩ := submit_sends
      (p := (⟨m, params⟩ : WireCall).numbered session.state.nextId) hobstacle c _
    exact ⟨body, answer, hbody, he.trans hexchanges⟩

lemma not_isMissing_finish (p : Prepared) (answer : Bytes) (s : State) :
    ¬ IsMissing (finish p answer s).1 := by
  rintro ⟨method, detail, h⟩
  have hfault := failsOnly_finish p answer s _ _ (Prod.ext h rfl)
  generalize hfound : Fault.notFound method detail = fault at hfault
  cases hfault with
  | @document cause _ => cases cause <;> cases hfound
  | protocol _ | undecodable _ _ => cases hfound

lemma not_isMissing_submit (hpeer : c.NeverMisses) (p : Prepared) (session : Session σ) :
    ¬ IsMissing ((submit p).run c session).1 := by
  rw [submit]
  cases p.request.encode with
  | error cause => rintro ⟨_, _, ⟨⟩⟩
  | ok body =>
    cases hsent : (c.endpoint.send c.peer body session.link).1.result with
    | error fault =>
      rw [run_roundTrip_of_failed _ hsent]
      have hmisses := not_isMissing_send hpeer body session.link
      rw [hsent] at hmisses
      rintro ⟨method, detail, ⟨⟩⟩
      exact hmisses ⟨method, detail, rfl⟩
    | ok answer =>
      rw [run_roundTrip_of_answered _ hsent]
      exact not_isMissing_finish p answer _

/-- A call does not find a result missing. -/
lemma not_isMissing_call (hpeer : c.NeverMisses) (m : Method) (args : List Value) (session : Session σ) :
    ¬ IsMissing ((call c.registry (.direct m) args).run c session).1 := by
  rcases call_cases c c.registry (.direct m) args session with
    ⟨fault, hw, _, hr⟩ | ⟨_, _, _, _, hr⟩ | ⟨w, message, _, _, _, hr⟩
  · rw [hr]
    rintro ⟨method, detail, ⟨⟩⟩
    rw [wireCall_direct] at hw
    cases hparams : m.encodeParams args with
    | ok params =>
      rw [hparams] at hw
      cases hw
    | error cause =>
      rw [hparams] at hw
      cases cause <;> cases hw
  · rw [hr]
    rintro ⟨_, _, ⟨⟩⟩
  · rw [hr]
    exact not_isMissing_submit hpeer _ _

/-- The value of a call is decoded by its method. -/
lemma exists_decodeResult_of_call (h : (call c.registry (.direct m) args).run c session = (.ok v, session')) :
    ∃ result, m.decodeResult result = .ok v := by
  obtain ⟨p, -, -, answer, s, s', hmethod, -, -, -, -, -, -, hfinish⟩ :=
    Reads.call c.registry (.direct m) args session v session' h
  cases hmethod
  obtain ⟨-, response, -, -, -, -, hverdict⟩ := finish_eq_ok hfinish
  unfold verdict at hverdict
  split at hverdict
  · cases hverdict
  · exact ⟨_, Checked.mapError_eq_ok_iff.mp hverdict⟩

/-- The tip is a number of 64 bits. -/
lemma exists_number_of_call
    (h : (call c.registry (.direct .getTipBlockNumber) []).run c session = (.ok v, session')) :
    ∃ n : Nat, n < 2 ^ (64 : Nat) ∧ v = .int n := by
  obtain ⟨result, hdecode⟩ := exists_decodeResult_of_call h
  have hnumber : HasShape (.uint 64) v := Shape.hasShape_of_decode_leaf rfl hdecode
  cases hnumber with
  | uint hn => exact ⟨_, hn, rfl⟩

/-! ### Looking up -/

lemma run_fetch (c : Connection σ) (m : Method) (method detail : Text) (arg : Value) (session : Session σ) :
    (fetch c.registry m method detail arg).run c session =
      (((call c.registry (.direct m) [arg]).run c session).1.bind (required method detail),
        ((call c.registry (.direct m) [arg]).run c session).2) := by
  rw [fetch, run_bind, bind_apply]
  rcases (call c.registry (.direct m) [arg]).run c session with ⟨_ | v, after⟩
  · rfl
  · change (require method detail v).run c after = (required method detail v, after)
    rw [run_require, Blocking.ofAct, ofExcept_apply]
    cases required method detail v <;> rfl

lemma exchanges_fetch (c : Connection σ) (m : Method) (method detail : Text) (arg : Value)
    (session : Session σ) :
    (fetch c.registry m method detail arg).exchanges c session =
      (call c.registry (.direct m) [arg]).exchanges c session := by
  rcases hcall : (call c.registry (.direct m) [arg]).run c session with ⟨_ | v, after⟩
  · exact exchanges_bind_of_error hcall _
  · exact (exchanges_bind_of_ok hcall _).trans (List.append_nil _)

/-- Looks a key up for a helper. -/
def lookUp (registry : Registry) (h : Helper) (key : Value) : Resumable Value :=
  fetch registry h.descriptor h.descriptor.name (h.detail key) key

/-- A helper looks its key up, or asks for the tip and looks its number up. -/
lemma helper_eq (registry : Registry) (h : Helper) (bound : List Value) :
    helper registry h bound = match h.key? bound with
      | some key => lookUp registry h key
      | none     => call registry (.direct .getTipBlockNumber) [] >>= lookUp registry h := by
  cases h with
  | blockHash | blockByNumber =>
    by_cases hnull : bound.headD .null = .null
    · simp only [Helper.key?, helper, blockHash, blockByNumber, hnull]
      rfl
    · simp only [Helper.key?, if_neg hnull, helper, blockHash, blockByNumber]
      rfl
  | _ => rfl

end Resumable

/-! ### Turns -/

/-- The turn is that of an operation under way. -/
structure Turn.Runs (t : Turn σ) (c : Connection σ) (x : Resumable Value) (session : Session σ) : Prop where
  exchanges : t.exchanges = x.exchanges c session
  after : t.after = (x.run c session).2
  result : t.result = (x.run c session).1.map .value

lemma runs_of_dialogue {op : Operation} {x : Resumable Value}
    (h : op.dialogue isResumable c.registry = x >>= fun v => pure (.value v)) (session : Session σ) :
    (op.turn isResumable c session).Runs c x session :=
  ⟨Operation.exchanges_of_dialogue h session, congrArg Prod.snd (Operation.run_of_dialogue h session),
    congrArg Prod.fst (Operation.run_of_dialogue h session)⟩

lemma runs_typedTurn {m : Method} {args : List Value} (hm : m ∈ Method.table)
    (hlength : m.params.length = args.length) (session : Session σ) :
    (typedTurn isResumable c m args session).Runs c (Resumable.call c.registry (.direct m) args) session := by
  have hbind : (m.signature (Operation.className isResumable)).bind args [] = .ok args := by
    rw [Method.bind_signature_eq_ok_iff (Method.nodup_paramNames_table m hm), hlength]
    simp [← hlength]
  exact runs_of_dialogue (Operation.dialogue_of_call? c.registry
    (Operation.call?_typed (find?_typedName hm) hbind)) session

namespace Helper

variable (h : Helper) {key : Value} {bound args : List Value} {named : Entries Value} {className : Text}

lemma find?_name : TypedName.find? h.name = some (.helper h) := by
  cases h <;> rfl

lemma descriptor_mem_table : h.descriptor ∈ Method.table := by
  cases h <;> exact mem_table_of_find? rfl

lemma dialogue_typed (hbound : (h.signature className).bind args named = .ok bound) (registry : Registry) :
    (Operation.typed h.name args named).dialogue isResumable registry =
      Resumable.helper registry h bound >>= fun v => pure (.value v) := by
  have hnamed : ((TypedName.helper h).signature className).bind args named = .ok bound := hbound
  have hbind := Operation.bind_className hnamed (Operation.className isResumable)
  rw [Operation.dialogue, Resumable.typedAs, h.find?_name]
  dsimp only
  rw [hbind]
  rfl

/-- The lookup of a key as a typed method. -/
lemma runs_lookUp (isResumable : Bool) (c : Connection σ) (key : Value) (session : Session σ) :
    (typedTurn isResumable c h.descriptor [key] session).Runs c
      (Resumable.call c.registry (.direct h.descriptor) [key]) session := by
  refine runs_typedTurn h.descriptor_mem_table ?_ session
  obtain ⟨p, hp, -⟩ := h.exists_param
  rw [hp]
  rfl

lemma required_of_ne_null {method detail : Text} {v : Value} (hv : v ≠ .null) :
    required method detail v = .ok v := by
  cases v <;> first | rfl | exact absurd rfl hv

/-- What is made of the value of a call is what the helper requires. -/
lemma requires_of_call {result : Except Fault Value}
    (hcall : (Resumable.call c.registry (.direct h.descriptor) [key]).run c session = (result, session')) :
    h.Requires key (result.map .value)
      ((result.bind (required h.descriptor.name (h.detail key))).map .value) := by
  cases result with
  | error fault => exact .failed fault
  | ok v =>
    by_cases hv : v = .null
    · subst hv
      obtain ⟨params, hparams⟩ := Resumable.exists_params_of_call hcall
      exact .missing (details_of_encodeParams hparams)
    · have hrequired : (Except.ok v).bind (required h.descriptor.name (h.detail key)) = .ok v :=
        required_of_ne_null hv
      rw [hrequired]
      exact .found hv

variable {h}

/-- A missing result is that of a null, if it was no fault before. -/
lemma Requires.isMissing_iff {found result : Except Fault Operation.Result}
    (hrequires : h.Requires key found result) (hfound : ¬ IsMissing found) :
    IsMissing result ↔ found = .ok (.value .null) := by
  cases hrequires with
  | failed fault => exact iff_of_false hfound nofun
  | missing hdetail => exact iff_of_true ⟨_, _, rfl⟩ rfl
  | found hv =>
    refine iff_of_false (by rintro ⟨_, _, ⟨⟩⟩) ?_
    rintro ⟨⟩
    exact hv rfl

/-- A turn of a method does not find a result missing. -/
lemma not_isMissing_of_runs {t : Turn σ} {m : Method} {ms : List Value} {session : Session σ}
    (hpeer : c.NeverMisses) (ht : t.Runs c (Resumable.call c.registry (.direct m) ms) session) :
    ¬ IsMissing t.result := by
  rintro ⟨method, detail, heq⟩
  rw [ht.result] at heq
  cases hcall : ((Resumable.call c.registry (.direct m) ms).run c session).1 with
  | ok v =>
    rw [hcall] at heq
    cases heq
  | error fault =>
    rw [hcall] at heq
    cases heq
    exact Resumable.not_isMissing_call hpeer m ms session ⟨method, detail, hcall⟩

/-- A turn that goes on by looking a key up ends as the typed method does. -/
lemma endsAs_lookUp {t : Turn σ} {before : List Exchange} {session : Session σ}
    (hexchanges : t.exchanges = before ++ (Resumable.lookUp c.registry h key).exchanges c session)
    (hafter : t.after = ((Resumable.lookUp c.registry h key).run c session).2)
    (hresult : t.result = ((Resumable.lookUp c.registry h key).run c session).1.map .value) :
    t.EndsAs c (typedTurn isResumable c h.descriptor [key] session) h key before := by
  have hfound := h.runs_lookUp isResumable c key session
  rw [Resumable.lookUp, Resumable.exchanges_fetch, ← hfound.exchanges] at hexchanges
  rw [Resumable.lookUp, Resumable.run_fetch] at hafter hresult
  have hrequires : h.Requires key (typedTurn isResumable c h.descriptor [key] session).result t.result := by
    rw [hresult, hfound.result]
    exact requires_of_call h rfl
  exact ⟨hexchanges, by rw [hafter, hfound.after], hrequires,
    fun hpeer => hrequires.isMissing_iff (not_isMissing_of_runs hpeer hfound)⟩

/-- A helper that is given a key ends as the typed method does that looks it up. -/
lemma endsAs_of_key? (hbound : (h.signature className).bind args named = .ok bound)
    (hkey : h.key? bound = some key) (session : Session σ) :
    ((Operation.typed h.name args named).turn isResumable c session).EndsAs c
      (typedTurn isResumable c h.descriptor [key] session) h key [] := by
  have hturn : ((Operation.typed h.name args named).turn isResumable c session).Runs c _ session :=
    runs_of_dialogue (h.dialogue_typed hbound c.registry) session
  rw [Resumable.helper_eq, hkey] at hturn
  exact endsAs_lookUp hturn.exchanges hturn.after hturn.result

/-- A helper that is given no key asks for the tip. Without it, that is all; with it, the helper goes on and
looks its number up. -/
lemma cases_of_tip (hbound : (h.signature className).bind args named = .ok bound)
    (hkey : h.key? bound = none) (session : Session σ) :
    let t := (Operation.typed h.name args named).turn isResumable c session
    let tip := typedTurn isResumable c .getTipBlockNumber [] session
    t.FailsAs c tip ∨ ∃ n < 2 ^ (64 : Nat), tip.result = .ok (.value (.int (n : Nat))) ∧
      t.EndsAs c (typedTurn isResumable c h.descriptor [.int n] tip.after) h (.int n) tip.exchanges := by
  intro t tip
  have hturn : t.Runs c _ session := runs_of_dialogue (h.dialogue_typed hbound c.registry) session
  rw [Resumable.helper_eq, hkey] at hturn
  have htip : tip.Runs c _ session :=
    runs_typedTurn (mem_table_of_find? rfl) rfl session
  rcases hcall : (Resumable.call c.registry (.direct .getTipBlockNumber) []).run c session with
    ⟨fault | v, after⟩
  · left
    have hrun : (Resumable.call c.registry (.direct .getTipBlockNumber) [] >>=
        Resumable.lookUp c.registry h).run c session = (.error fault, after) := by
      rw [Resumable.run_bind]
      exact bind_of_error hcall _
    have hfault : tip.result = .error fault := by rw [htip.result, hcall]; rfl
    have hresult : t.result = .error fault := by rw [hturn.result, hrun]; rfl
    refine ⟨⟨fault, hfault⟩, ?_, ?_, hresult.trans hfault.symm, fun hpeer => ?_⟩
    · rw [hturn.exchanges, htip.exchanges]
      exact Resumable.exchanges_bind_of_error hcall _
    · rw [hturn.after, htip.after, hrun, hcall]
    · rw [hresult, ← hfault]
      exact not_isMissing_of_runs hpeer htip
  · right
    obtain ⟨n, hn, rfl⟩ := Resumable.exists_number_of_call hcall
    have hafter : tip.after = after := by rw [htip.after, hcall]
    have hrun : (Resumable.call c.registry (.direct .getTipBlockNumber) [] >>=
        Resumable.lookUp c.registry h).run c session =
          (Resumable.lookUp c.registry h (.int n)).run c tip.after := by
      rw [Resumable.run_bind, hafter]
      exact bind_of_ok hcall _
    refine ⟨n, hn, by rw [htip.result, hcall]; rfl, endsAs_lookUp ?_ ?_ ?_⟩
    · rw [hturn.exchanges, htip.exchanges, hafter]
      exact Resumable.exchanges_bind_of_ok hcall _
    · rw [hturn.after, hrun]
    · rw [hturn.result, hrun]

variable (isResumable c)

/-- A key that can be sent is sent in a single request. -/
lemma posts_lookUp {js : List Json} (hjs : h.descriptor.encodeParams [key] = .ok js) (session : Session σ) :
    (typedTurn isResumable c h.descriptor [key] session).Posts
      ⟨.int session.state.nextId, h.descriptor.name, js⟩ := by
  obtain ⟨t, ht, rfl⟩ := exists_text_of_encodeParams hjs
  have hname : h.descriptor.name.IsWhole := by cases h <;> decide
  rw [Turn.Posts, (h.runs_lookUp isResumable c key session).exchanges]
  refine Resumable.posts_call hname hjs ?_ ?_ session
  · exact List.forall_mem_singleton.mpr (.str ht)
  · exact List.forall_mem_singleton.mpr (List.forall_mem_nil _)

lemma posts_tip (session : Session σ) :
    (typedTurn isResumable c .getTipBlockNumber [] session).Posts
      ⟨.int session.state.nextId, "get_tip_block_number", []⟩ := by
  have htip : (typedTurn isResumable c .getTipBlockNumber [] session).Runs c _ session :=
    runs_typedTurn (mem_table_of_find? rfl) rfl session
  rw [Turn.Posts, htip.exchanges]
  exact Resumable.posts_call (m := .getTipBlockNumber) (by decide) rfl (List.forall_mem_nil _)
    (List.forall_mem_nil _) session

lemma byNumber_of_key? (hkey : h.key? bound = none) : h.byNumber := by
  cases h <;> first | rfl | cases hkey

end Helper

/-- Helpers that have no arguments are helpers by number with the tip, or with the number zero. -/
lemma behavesAs_fixed (isResumable : Bool) (c : Connection σ) :
    Operation.BehavesAs c (isResumable, .typed "tip_block_hash" [] [])
      (isResumable, .typed "block_hash" [] []) ∧
    Operation.BehavesAs c (isResumable, .typed "genesis_hash" [] [])
      (isResumable, .typed "block_hash" [.int 0] []) ∧
    Operation.BehavesAs c (isResumable, .typed "last_block" [] [])
      (isResumable, .typed "block_by_number" [] []) ∧
    Operation.BehavesAs c (isResumable, .typed "genesis_block" [] [])
      (isResumable, .typed "block_by_number" [.int 0] []) := by
  have hsame (h h' : Helper) {args bound : List Value}
      (hbind : (h.signature Blocking.className).bind [] [] = .ok [])
      (hbind' : (h'.signature Blocking.className).bind args [] = .ok bound)
      (heq : ∀ registry, Resumable.helper registry h [] = Resumable.helper registry h' bound) :
      Operation.BehavesAs c (isResumable, .typed h.name [] []) (isResumable, .typed h'.name args []) := by
    apply Operation.behavesAs_of_dialogue
    rw [h.dialogue_typed hbind, h'.dialogue_typed hbind', heq]
  refine ⟨?_, ?_, ?_, ?_⟩
  · exact hsame .tipBlockHash .blockHash rfl rfl fun _ => rfl
  · exact hsame .genesisHash .blockHash rfl rfl fun _ => rfl
  · exact hsame .lastBlock .blockByNumber rfl rfl fun _ => rfl
  · exact hsame .genesisBlock .blockByNumber rfl rfl fun _ => rfl

/-- A helper that is given a key, zero among others, sends what the typed method sends that looks it up, and
ends as that does. One that is given none first asks for the tip and sends nothing more unless that is a
number; then it looks this number up. Just where the last typed method answers null, the result is missing. A
key that has a wire form is sent in one request and spoken of in the detail of a missing result. -/
theorem helpers_follow_the_tip (isResumable : Bool) (c : Connection σ) (session : Session σ) (h : Helper)
    {className : Text} {args bound : List Value} {named : Entries Value}
    (hbound : (h.signature className).bind args named = .ok bound) :
    let t := (Operation.typed h.name args named).turn isResumable c session
    let tip := typedTurn isResumable c .getTipBlockNumber [] session
    let lookUp (key : Value) (before : Session σ) := typedTurn isResumable c h.descriptor [key] before
    (∀ key, h.key? bound = some key → t.EndsAs c (lookUp key session) h key []) ∧
    (h.key? bound = none →
      tip.Posts ⟨.int session.state.nextId, "get_tip_block_number", []⟩ ∧
      (t.FailsAs c tip ∨ ∃ n < 2 ^ (64 : Nat), tip.result = .ok (.value (.int (n : Nat))) ∧
        t.EndsAs c (lookUp (.int n) tip.after) h (.int n) tip.exchanges ∧
        (lookUp (.int n) tip.after).Posts
          ⟨.int tip.after.state.nextId, h.descriptor.name, [.str (Quantity.encode n)]⟩)) ∧
    (∀ key params before, h.descriptor.encodeParams [key] = .ok params →
      (∃ detail, h.Details key detail) ∧
      (lookUp key before).Posts ⟨.int before.state.nextId, h.descriptor.name, params⟩) ∧
    Operation.BehavesAs c (isResumable, .typed "tip_block_hash" [] [])
      (isResumable, .typed "block_hash" [] []) ∧
    Operation.BehavesAs c (isResumable, .typed "genesis_hash" [] [])
      (isResumable, .typed "block_hash" [.int 0] []) ∧
    Operation.BehavesAs c (isResumable, .typed "last_block" [] [])
      (isResumable, .typed "block_by_number" [] []) ∧
    Operation.BehavesAs c (isResumable, .typed "genesis_block" [] [])
      (isResumable, .typed "block_by_number" [.int 0] []) := by
  intro t tip lookUp
  refine ⟨fun key hkey => Helper.endsAs_of_key? hbound hkey session,
    fun hkey => ⟨Helper.posts_tip isResumable c session, ?_⟩, fun key params before hparams => ?_,
    behavesAs_fixed isResumable c⟩
  · refine (Helper.cases_of_tip hbound hkey session).imp_right ?_
    rintro ⟨n, hn, hresult, hends⟩
    have hparams := Helper.encodeParams_number (Helper.byNumber_of_key? hkey) hn
    exact ⟨n, hn, hresult, hends, Helper.posts_lookUp isResumable c hparams tip.after⟩
  · exact ⟨⟨_, Helper.details_of_encodeParams hparams⟩, Helper.posts_lookUp isResumable c hparams before⟩

/-- The answers of a peer that has the number of the tip, but not its hash. -/
def tipThenNull : List Json :=
  [.dict [("id", .int 1), ("result", .str "0x7")], .dict [("id", .int 2), ("result", .null)]]

/-- The hash of a tip that the peer does not have is a missing result, which takes two requests. -/
theorem helpers_follow_the_tip_null :
    let t := (Operation.typed "block_hash" [] []).turn true scripted (.answered tipThenNull)
    t.result = .error (.notFound "get_block_hash" "block 7") ∧ t.exchanges.length = 2 := by
  intro t
  let tip := typedTurn true scripted .getTipBlockNumber [] (.answered tipThenNull)
  let lookUp := typedTurn true scripted .getBlockHash [.int 7] tip.after
  have htip : tip.delivered? 0 = some (.int 7) := by decide +kernel
  have hlookUp : lookUp.delivered? 0 = some .null := by decide +kernel
  have hbound : (Helper.blockHash.signature Resumable.className).bind [] [] = .ok [.null] := rfl
  have hhelper := helpers_follow_the_tip true scripted (.answered tipThenNull) .blockHash hbound
  obtain ⟨⟨_, _, _, hfirst⟩, hfails | ⟨n, _, hnumber, hends, _, _, _, hsecond⟩⟩ := hhelper.2.1 rfl
  · obtain ⟨fault, hfault⟩ := hfails.fault
    rw [Turn.delivered?, hfault] at htip
    cases htip
  · rw [Turn.delivered?, hnumber] at htip
    have hn : (n : Int) = 7 := by simpa using htip
    obtain rfl : n = 7 := by omega
    constructor
    · have hresult : Helper.blockHash.Requires (.int 7) lookUp.result t.result := hends.result
      rw [Turn.delivered?] at hlookUp
      generalize lookUp.result = found at hresult hlookUp
      generalize t.result = result at hresult ⊢
      cases hresult with
      | failed fault => cases hlookUp
      | missing hdetail =>
        cases hdetail
        rfl
      | found hv => exact absurd (by simpa using hlookUp) hv
    · have hexchanges : t.exchanges = tip.exchanges ++ lookUp.exchanges := hends.exchanges
      rw [hexchanges, List.length_append, show tip.exchanges = _ from hfirst,
        show lookUp.exchanges = _ from hsecond]
      rfl

end ChainRpc.Client
