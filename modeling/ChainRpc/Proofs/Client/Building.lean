import ChainRpc.Proofs.Checked
import ChainRpc.Proofs.Client.Steps
import ChainRpc.Proofs.Value.Legible

/-!
# Building requests

A call becomes a request in two parts: a part without effects, which finds the method and writes the
arguments, and the identifier, which is taken only where the first part succeeds. Before a request is
sent it is logged, which fails where it holds an integer that cannot be shown; the identifier is lost
then.
-/

namespace ChainRpc.Client

variable {registry : Registry} {ref : MethodRef} {args : List Value} {s s' : State}
  {calls : List (MethodRef × List Value)} {fault : Fault}

/-! ### Wire forms of calls -/

/-- The method that a caller refers to, if there is one. -/
def MethodRef.find (registry : Registry) : MethodRef → Except Fault Method
  | .named name    => (registry.get name).mapError .registry
  | .direct method => .ok method

lemma resolve_apply (registry : Registry) (ref : MethodRef) :
    resolve registry ref s = (ref.find registry, s) := by
  cases ref with
  | named name => exact ofExcept_apply _ _
  | direct method => rfl

/-- A method with the wire form of arguments for it. -/
structure WireCall where
  method : Method
  params : List Json

/-- The wire form of a call: its method is known and its arguments fit. -/
def wireCall (registry : Registry) (ref : MethodRef) (args : List Value) :
    Except Fault WireCall := do
  let method ← ref.find registry
  let params ← (method.encodeParams args).mapError .ofParams
  return ⟨method, params⟩

/-- All integers in the parameters have a decimal text. -/
def WireCall.IsLegible (w : WireCall) : Prop := ∀ j ∈ w.params, j.IsLegible

/-- The request of a call under an identifier. -/
def WireCall.numbered (w : WireCall) (n : Nat) : Prepared :=
  ⟨w.method, ⟨.int n, w.method.name, w.params⟩⟩

@[simp] lemma WireCall.id_numbered (w : WireCall) (n : Nat) :
    (w.numbered n).request.id = .int n := rfl

lemma wireCall_eq_ok_iff {w : WireCall} :
    wireCall registry ref args = .ok w ↔
      ref.find registry = .ok w.method ∧ w.method.encodeParams args = .ok w.params := by
  unfold wireCall
  cases hf : ref.find registry with
  | error fault => exact iff_of_false nofun (fun h => nomatch h.1)
  | ok method =>
    cases hp : method.encodeParams args with
    | error cause =>
      refine iff_of_false (fun h => ?_) (fun ⟨hm, hw⟩ => ?_)
      · simp [bind, Except.bind, Except.mapError, hp] at h
      · obtain rfl := Except.ok.inj hm
        rw [hp] at hw
        cases hw
    | ok params =>
      obtain ⟨m, ps⟩ := w
      simp only [bind, Except.bind, Except.mapError, hp, pure, Except.pure, Except.ok.injEq,
        WireCall.mk.injEq]
      constructor
      · rintro ⟨rfl, rfl⟩
        exact ⟨rfl, hp⟩
      · rintro ⟨rfl, h⟩
        exact ⟨rfl, Except.ok.inj (hp.symm.trans h)⟩

/-! ### Single requests -/

/-- All integers in the parameters have a decimal text. -/
def Prepared.IsLegible (p : Prepared) : Prop := ∀ j ∈ p.request.params, j.IsLegible

lemma isLegible_numbered (w : WireCall) (n : Nat) : (w.numbered n).IsLegible ↔ w.IsLegible := Iff.rfl

lemma isSome_shown?_params (params : List Json) :
    (Value.ofJson (.list params)).shown?.isSome ↔ ∀ j ∈ params, j.IsLegible := by
  rw [Value.isSome_shown?_ofJson, Json.isLegible_list_iff]

/-- A request is logged where it can be shown. -/
lemma noteRequest_cases (r : Request) :
    ((∀ j ∈ r.params, j.IsLegible) ∧
      ∃ message, noteRequest r s = (.ok (), s.logged [⟨.debug, message⟩])) ∨
    ((¬ ∀ j ∈ r.params, j.IsLegible) ∧ noteRequest r s = (.error .tooLarge, s)) := by
  rw [← isSome_shown?_params, noteRequest]
  cases (Value.ofJson (.list r.params)).shown? with
  | none => exact .inr ⟨nofun, rfl⟩
  | some shown => exact .inl ⟨rfl, _, rfl⟩

lemma build_apply (registry : Registry) (ref : MethodRef) (args : List Value) (s : State) :
    build registry ref args s = match wireCall registry ref args with
      | .error fault => (.error fault, s)
      | .ok w => (do noteRequest (w.numbered s.nextId).request; return w.numbered s.nextId : Act _)
          (s.issued 1) := by
  unfold build wireCall
  rw [bind_apply, resolve_apply]
  cases ref.find registry with
  | error fault => rfl
  | ok method =>
    dsimp only
    rw [bind_apply, ofExcept_apply]
    cases hp : method.encodeParams args with
    | error cause => simp [bind, Except.bind, Except.mapError, hp]
    | ok params =>
      simp only [bind, Except.bind, Except.mapError, hp, pure, Except.pure]
      rfl

/-- What building the request of a call can come to. -/
lemma build_cases (registry : Registry) (ref : MethodRef) (args : List Value) (s : State) :
    (∃ fault, wireCall registry ref args = .error fault ∧
      build registry ref args s = (.error fault, s)) ∨
    (∃ w, wireCall registry ref args = .ok w ∧ ¬ w.IsLegible ∧
      build registry ref args s = (.error .tooLarge, s.issued 1)) ∨
    (∃ w message, wireCall registry ref args = .ok w ∧ w.IsLegible ∧
      build registry ref args s =
        (.ok (w.numbered s.nextId), (s.issued 1).logged [⟨.debug, message⟩])) := by
  rw [build_apply]
  cases wireCall registry ref args with
  | error fault => exact .inl ⟨fault, rfl, rfl⟩
  | ok w =>
    rcases noteRequest_cases (s := s.issued 1) (w.numbered s.nextId).request with
      ⟨hl, message, hn⟩ | ⟨hl, hn⟩
    · exact .inr (.inr ⟨w, message, rfl, hl, bind_of_ok hn _⟩)
    · exact .inr (.inl ⟨w, rfl, hl, bind_of_error hn _⟩)

/-! ### Requests by name alone -/

/-- The request of a call by name alone, if its parameters are JSON. -/
def rawRequest (name params : Value) (n : Nat) : Except Fault Prepared := do
  let params ← items params
  match Request.ofValue (.dict [("id", .int n), ("method", name), ("params", .list params)]) with
  | .error issues => .error (.invalidParams (.notJson name issues))
  | .ok request   => .ok ⟨{ name := name.spoken?.getD [] }, request⟩

/-- The request of an identifier with a method and parameters. -/
def requestOf (n : Nat) (members : Text × List Json) : Request :=
  ⟨.int n, members.1, members.2⟩

/-- The members of a request by name alone are checked, the identifier apart. -/
lemma ofValue_raw (n : Nat) (name : Value) (params : List Value) :
    Request.ofValue (.dict [("id", .int n), ("method", name), ("params", .list params)]) =
      (((Member.checkText name).under (.name "method")).both
        ((Value.toJsonItems params).under (.name "params"))).map (requestOf n) := by
  have hid : Member.required (α := RequestId)
      [("id", .int n), ("method", name), ("params", .list params)] "id" RequestId.ofValue =
        .ok (.int n) := rfl
  have hmethod : Member.required (α := Text)
      [("id", .int n), ("method", name), ("params", .list params)] "method" Member.checkText =
        (Member.checkText name).under (.name "method") := rfl
  have hparams : Member.withDefault (α := List Json)
      [("id", .int n), ("method", name), ("params", .list params)] "params" []
        Request.checkParams = (Value.toJsonItems params).under (.name "params") := rfl
  have hversion : Member.checkVersion
      [("id", .int n), ("method", name), ("params", .list params)] = .ok Member.version := rfl
  simp only [Request.ofValue, Request.ofEntries, hid, hmethod, hparams, hversion]
  cases (Member.checkText name).under (.name "method") <;>
    cases (Value.toJsonItems params).under (.name "params") <;> rfl

/-- A request by name alone has the text of the name, its items as JSON, and the identifier. -/
lemma rawRequest_eq_ok_iff {name params : Value} {n : Nat} {p : Prepared} :
    rawRequest name params n = .ok p ↔
      ∃ is t js, items params = .ok is ∧ Lenient.text name = .ok t ∧ Value.toJsonItems is = .ok js ∧
        p = ⟨{ name := name.spoken?.getD [] }, ⟨.int n, t, js⟩⟩ := by
  unfold rawRequest
  simp only [Checked.bind_eq_ok_iff, ofValue_raw]
  simp only [exists_and_left]
  refine exists_congr fun is => and_congr_right fun _ => ?_
  have h (r : Request) := Checked.map_both_eq_ok_iff (c := r)
    (x := (Member.checkText name).under (.name "method"))
    (y := (Value.toJsonItems is).under (.name "params")) (f := requestOf n)
  simp only [Checked.under_eq_ok_iff, Member.checkText, Checked.mapError_eq_ok_iff] at h
  split
  · next issues hi =>
    constructor
    · intro hp
      cases hp
    · rintro ⟨t, ht, js, hj, _⟩
      cases hi.symm.trans ((h _).mpr ⟨t, js, ht, hj, rfl⟩)
  · next request hr =>
    obtain ⟨t, js, ht, hj, rfl⟩ := (h _).mp hr
    rw [ht, hj]
    simp [eq_comm, requestOf]

lemma buildRaw_apply (name params : Value) (s : State) :
    buildRaw name params s = match rawRequest name params s.nextId with
      | .error fault => (.error fault, s.issued 1)
      | .ok p => (do noteRequest p.request; return p : Act _) (s.issued 1) := by
  unfold buildRaw rawRequest
  rw [bind_of_ok takeId_apply, bind_apply, ofExcept_apply]
  cases items params with
  | error fault => rfl
  | ok is =>
    simp only [Except.mapError, bind, Except.bind]
    cases Request.ofValue
      (.dict [("id", .int s.nextId), ("method", name), ("params", .list is)]) <;> rfl

/-- What building a request by name alone can come to. An identifier is taken in every case. -/
lemma buildRaw_cases (name params : Value) (s : State) :
    (∃ fault, rawRequest name params s.nextId = .error fault ∧
      buildRaw name params s = (.error fault, s.issued 1)) ∨
    (∃ p, rawRequest name params s.nextId = .ok p ∧ ¬ p.IsLegible ∧
      buildRaw name params s = (.error .tooLarge, s.issued 1)) ∨
    (∃ p message, rawRequest name params s.nextId = .ok p ∧ p.IsLegible ∧
      buildRaw name params s = (.ok p, (s.issued 1).logged [⟨.debug, message⟩])) := by
  rw [buildRaw_apply]
  cases rawRequest name params s.nextId with
  | error fault => exact .inl ⟨fault, rfl, rfl⟩
  | ok p =>
    rcases noteRequest_cases (s := s.issued 1) p.request with ⟨hl, message, hn⟩ | ⟨hl, hn⟩
    · exact .inr (.inr ⟨p, message, rfl, hl, bind_of_ok hn _⟩)
    · exact .inr (.inl ⟨p, rfl, hl, bind_of_error hn _⟩)

/-! ### Batches -/

/-- The wire forms of calls, each with its identifier, the first of which is given. -/
def numberedFrom : (first : Nat) → List WireCall → List Prepared
  | _, []            => []
  | first, w :: rest => w.numbered first :: numberedFrom (first + 1) rest

@[simp] lemma length_numberedFrom (first : Nat) (ws : List WireCall) :
    (numberedFrom first ws).length = ws.length := by
  induction ws generalizing first with
  | nil => rfl
  | cons w rest ih => simp [numberedFrom, ih]

lemma getElem?_numberedFrom (first : Nat) (ws : List WireCall) (i : Nat) :
    (numberedFrom first ws)[i]? = ws[i]?.map (·.numbered (first + i)) := by
  induction ws generalizing first i with
  | nil => rfl
  | cons w rest ih =>
    cases i with
    | zero => rfl
    | succ i =>
      simp only [numberedFrom, List.getElem?_cons_succ, ih]
      rw [Nat.add_right_comm, Nat.add_assoc]

/-- The identifiers of a batch follow each other. -/
lemma ids_numberedFrom (first : Nat) (ws : List WireCall) :
    (numberedFrom first ws).map (·.request.id) =
      (List.range' first ws.length).map fun n : Nat => .int n := by
  induction ws generalizing first with
  | nil => rfl
  | cons w rest ih => simp [numberedFrom, List.range'_succ, ih]

lemma nodup_ids_numberedFrom (first : Nat) (ws : List WireCall) :
    ((numberedFrom first ws).map (·.request.id)).Nodup := by
  rw [ids_numberedFrom]
  refine List.Pairwise.map _ (fun m n hmn heq => hmn ?_) List.nodup_range'
  exact Int.ofNat_inj.mp (RequestId.int.inj heq)

/-- The calls have these wire forms, in the same order. -/
abbrev WireCalls (registry : Registry) (calls : List (MethodRef × List Value))
    (ws : List WireCall) : Prop :=
  List.Forall₂ (fun call w => wireCall registry call.1 call.2 = .ok w) calls ws

/-- A wire form of a batch is that of the call in the same place. -/
lemma WireCalls.getElem? {ws : List WireCall} {w : WireCall} {i : Nat}
    (h : WireCalls registry calls ws) (hw : ws[i]? = some w) :
    ∃ call, calls[i]? = some call ∧ wireCall registry call.1 call.2 = .ok w := by
  induction h generalizing i with
  | nil => cases hw
  | cons hfirst _ ih =>
    cases i with
    | zero =>
      cases hw
      exact ⟨_, rfl, hfirst⟩
    | succ i => exact ih hw

/-- What building the requests of a batch can come to: all are built; or some are and the next call
has no wire form; or some are and the next one cannot be shown. -/
lemma buildBatch_cases (registry : Registry) (calls : List (MethodRef × List Value)) (s : State) :
    (∃ ws records, WireCalls registry calls ws ∧ (∀ w ∈ ws, w.IsLegible) ∧
      (∀ r ∈ records, r.level = .debug) ∧
      buildBatch registry calls s =
        (.ok (numberedFrom s.nextId ws), (s.issued ws.length).logged records)) ∨
    (∃ before call rest ws records fault, calls = before ++ call :: rest ∧
      WireCalls registry before ws ∧ (∀ w ∈ ws, w.IsLegible) ∧
      wireCall registry call.1 call.2 = .error fault ∧
      buildBatch registry calls s = (.error fault, (s.issued ws.length).logged records)) ∨
    (∃ before call rest ws records w, calls = before ++ call :: rest ∧
      WireCalls registry before ws ∧ (∀ w ∈ ws, w.IsLegible) ∧
      wireCall registry call.1 call.2 = .ok w ∧ ¬ w.IsLegible ∧
      buildBatch registry calls s =
        (.error .tooLarge, (s.issued (ws.length + 1)).logged records)) := by
  induction calls generalizing s with
  | nil => exact .inl ⟨[], [], .nil, nofun, nofun, by simp [buildBatch, numberedFrom, pure_apply]⟩
  | cons call rest ih =>
    obtain ⟨ref, args⟩ := call
    unfold buildBatch
    rcases build_cases registry ref args s with
      ⟨fault, hw, hb⟩ | ⟨w, hw, hl, hb⟩ | ⟨w, message, hw, hl, hb⟩
    · exact .inr (.inl ⟨[], (ref, args), rest, [], [], fault, rfl, .nil, nofun, hw,
        by simp [bind_of_error hb]⟩)
    · exact .inr (.inr ⟨[], (ref, args), rest, [], [], w, rfl, .nil, nofun, hw, hl,
        by simp [bind_of_error hb]⟩)
    · rw [bind_of_ok hb]
      rcases ih ((s.issued 1).logged [⟨.debug, message⟩]) with
        ⟨ws, records, hws, hls, hd, hr⟩ | ⟨before, call, after, ws, records, fault, rfl, hws, hls, hc, hr⟩ |
          ⟨before, call, after, ws, records, v, rfl, hws, hls, hc, hv, hr⟩
      · refine .inl ⟨w :: ws, ⟨.debug, message⟩ :: records, .cons hw hws, ?_, ?_, ?_⟩
        · simpa using ⟨hl, hls⟩
        · simpa using hd
        · rw [bind_of_ok hr]
          simp [pure_apply, numberedFrom, Nat.add_comm 1]
      · refine .inr (.inl ⟨(ref, args) :: before, call, after, w :: ws, ⟨.debug, message⟩ :: records,
          fault, rfl, .cons hw hws, ?_, hc, ?_⟩)
        · simpa using ⟨hl, hls⟩
        · rw [bind_of_error hr]
          simp [Nat.add_comm 1]
      · refine .inr (.inr ⟨(ref, args) :: before, call, after, w :: ws, ⟨.debug, message⟩ :: records,
          v, rfl, .cons hw hws, ?_, hc, hv, ?_⟩)
        · simpa using ⟨hl, hls⟩
        · rw [bind_of_error hr]
          simp [Nat.add_comm 1, Nat.add_assoc]

end ChainRpc.Client
