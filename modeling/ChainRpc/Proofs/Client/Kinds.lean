import ChainRpc.Proofs.Client.History
import ChainRpc.Proofs.Client.Refusals
import ChainRpc.Proofs.Client.TypedCalls
import ChainRpc.Proofs.Method.Params
import ChainRpc.Proofs.Signature

/-!
# Ways of asking for the same

Blocking and resumable clients do the same for the same operations, as long as typed methods and helpers are
called with arguments within their signatures; the complaint about others names the class of the client.
A typed method does what a call by its name does, and nulls for optional parameters at the end may be given
or left out.
-/

namespace ChainRpc

/-! ### Signatures of typed methods -/

namespace Method

variable {m : Method} {className : Text} {args bound : List Value}

lemma nodup_paramNames_table : ∀ m ∈ table, (m.params.map (·.name)).Nodup := by decide +kernel

/-- Optional parameters without arguments are null. -/
lemma defaults_eq_nulls {ps : List Param} (h : ∀ p ∈ ps, p.optional) :
    (ps.map fun p => (p.name, if p.optional then some Value.null else none)).filterMap (·.2) =
      List.replicate ps.length .null := by
  induction ps with
  | nil => rfl
  | cons p rest ih =>
    obtain ⟨hp, hrest⟩ := List.forall_mem_cons.mp h
    simp [hp, ih hrest, List.replicate_succ]

/-- Positional arguments fit a method if there are not too many and further parameters are optional. -/
lemma bind_signature_eq_ok_iff (hn : (m.params.map (·.name)).Nodup) :
    (m.signature className).bind args [] = .ok bound ↔
      args.length ≤ m.params.length ∧ (∀ p ∈ m.params.drop args.length, p.optional) ∧
        bound = args ++ List.replicate (m.params.length - args.length) .null := by
  have hnames : (m.signature className).params.map (·.1) = m.params.map (·.name) := by
    simp [signature]
  have hsome : (∀ p ∈ (m.signature className).params.drop args.length, p.2.isSome) ↔
      ∀ p ∈ m.params.drop args.length, p.optional := by
    simp only [signature, ← List.map_drop, List.forall_mem_map]
    refine forall₂_congr fun p _ => ?_
    cases p.optional <;> decide
  rw [Signature.bind_positional_eq_ok_iff rfl (hnames ▸ hn), hsome]
  refine and_congr (by simp [signature]) (and_congr_right fun hoptional => ?_)
  rw [signature, ← List.map_drop, defaults_eq_nulls hoptional, List.length_drop]

/-- Arguments that are written fit the signature. -/
lemma bind_signature_of_encodeParams {params : List Json} (hn : (m.params.map (·.name)).Nodup)
    (h : m.encodeParams args = .ok params) :
    (m.signature className).bind args [] =
      .ok (args ++ List.replicate (m.params.length - args.length) .null) :=
  (bind_signature_eq_ok_iff hn).mpr
    ⟨(encodeParams_eq_ok_iff.mp h).1, optional_of_encodeParams h, rfl⟩

end Method

namespace Client

variable {σ : Type} {c : Connection σ} {registry registry' : Registry} {ref ref' : MethodRef}
  {args args' bound : List Value} {name : Text} {named : Entries Value} {m : Method}

/-! ### Calls with the same wire form -/

/-- A call depends on its wire form only. -/
lemma Resumable.call_congr (h : wireCall registry ref args = wireCall registry' ref' args') :
    call registry ref args = call registry' ref' args' := by
  have hbuild : build registry ref args = build registry' ref' args' := by
    funext s
    rw [build_apply, build_apply, h]
  rw [call_eq, call_eq, hbuild]

lemma wireCall_congr (hfind : ref.find registry = ref'.find registry')
    (hparams : ∀ m, ref'.find registry' = .ok m → m.encodeParams args = m.encodeParams args') :
    wireCall registry ref args = wireCall registry' ref' args' := by
  rw [wireCall, wireCall, hfind]
  cases hm : ref'.find registry' with
  | error fault => rfl
  | ok m =>
    simp only [bind, Except.bind]
    rw [hparams m hm]

lemma find_of_get (h : registry.get (.str name) = .ok m) :
    (MethodRef.named (.str name)).find registry = .ok m := by
  rw [MethodRef.find, h]
  rfl

/-- A call without a wire form does nothing. -/
lemma Resumable.run_call_of_error {fault : Fault} {session : Session σ}
    (h : wireCall registry ref args = .error fault) :
    (call registry ref args).run c session = (.error fault, session) := by
  rcases call_cases c registry ref args session with
    ⟨found, hf, _, hr⟩ | ⟨w, hw, _⟩ | ⟨w, _, hw, _⟩
  · cases hf.symm.trans h
    exact hr
  · cases hw.symm.trans h
  · cases hw.symm.trans h

lemma find?_typedName (hm : m ∈ Method.table) : TypedName.find? m.name = some (.method m) := by
  have hfind : Registry.ckb.find? m.name = some m := find?_of_nodup_map nodup_names_table hm
  rw [TypedName.find?, hfind]

namespace Operation

/-! ### Arguments within signatures -/

/-- A typed method or helper is called with arguments within its signature. -/
def IsWithinSignature : Operation → Prop
  | .typed name args named => ∃ found className bound,
      TypedName.find? name = some found ∧ (found.signature className).bind args named = .ok bound
  | _ => True

/-- What is bound does not depend on the class of the client. -/
lemma bind_className {found : TypedName} {className : Text}
    (h : (found.signature className).bind args named = .ok bound) (className' : Text) :
    (found.signature className').bind args named = .ok bound := by
  cases found with
  | method m => exact Signature.bind_relabeled (Text.concat [className', ".", m.name]) h
  | helper helper => exact Signature.bind_relabeled (Text.concat [className', ".", helper.name]) h

/-- Both kinds of clients have the same dialogue with the peer. -/
lemma dialogue_eq {op : Operation} (h : op.IsWithinSignature) (isResumable isResumable' : Bool)
    (registry : Registry) : op.dialogue isResumable registry = op.dialogue isResumable' registry := by
  cases op with
  | typed name args named =>
    obtain ⟨found, _, bound, hfound, hbound⟩ := h
    rw [dialogue, dialogue, Resumable.typedAs, Resumable.typedAs, hfound]
    dsimp only
    rw [bind_className hbound, bind_className hbound]
  | _ => rfl

/-- In the one way of carrying out an operation the result, the exchanges with the peer and the session
afterwards are those of the other way, whatever session there is before. -/
def BehavesAs (c : Connection σ) (op op' : Bool × Operation) : Prop :=
  ∀ session : Session σ, op.2.run op.1 c session = op'.2.run op'.1 c session ∧
    op.2.exchanges op.1 c session = op'.2.exchanges op'.1 c session

lemma behavesAs_of_dialogue {op op' : Operation} {isResumable isResumable' : Bool}
    (h : op.dialogue isResumable c.registry = op'.dialogue isResumable' c.registry) :
    BehavesAs c (isResumable, op) (isResumable', op') := by
  intro session
  rw [← run_dialogue, ← run_dialogue, exchanges, exchanges, h]
  exact ⟨rfl, rfl⟩

lemma turn_eq {op : Operation} (h : op.IsWithinSignature) (isResumable isResumable' : Bool)
    (c : Connection σ) (session : Session σ) :
    op.turn isResumable c session = op.turn isResumable' c session := by
  obtain ⟨hrun, hexchanges⟩ := behavesAs_of_dialogue (dialogue_eq h isResumable isResumable' c.registry)
    session
  rw [turn, turn, hrun, hexchanges]

lemma turns_eq {ops : List Operation} (h : ∀ op ∈ ops, op.IsWithinSignature)
    (isResumable isResumable' : Bool) (c : Connection σ) (session : Session σ) :
    turns isResumable c ops session = turns isResumable' c ops session := by
  induction ops generalizing session with
  | nil => rfl
  | cons op rest ih =>
    obtain ⟨hop, hrest⟩ := List.forall_mem_cons.mp h
    rw [turns, turns, turn_eq hop isResumable isResumable', ih hrest]

/-! ### Typed methods and calls by name -/

/-- Positional arguments are within the signature of a typed method if there are not too many and all
further parameters are optional. -/
lemma isWithinSignature_typed_iff (hm : m ∈ Method.table) :
    (typed m.name args []).IsWithinSignature ↔
      args.length ≤ m.params.length ∧ ∀ p ∈ m.params.drop args.length, p.optional := by
  have hn := Method.nodup_paramNames_table m hm
  constructor
  · rintro ⟨found, className, bound, hfound, hbound⟩
    cases hfound.symm.trans (find?_typedName hm)
    obtain ⟨hlength, hoptional, _⟩ := (Method.bind_signature_eq_ok_iff hn).mp hbound
    exact ⟨hlength, hoptional⟩
  · rintro ⟨hlength, hoptional⟩
    exact ⟨_, Resumable.className, _, find?_typedName hm,
      (Method.bind_signature_eq_ok_iff hn).mpr ⟨hlength, hoptional, rfl⟩⟩

section Methods

variable (hm : m ∈ Method.table) (hregistry : c.registry.get (.str m.name) = .ok m)
  (isResumable isResumable' : Bool)
include hm hregistry

/-- A typed method is a call by its name, with what its parameters are bound to. -/
lemma typed_behavesAs_call {className : Text}
    (hbound : ((TypedName.method m).signature className).bind args named = .ok bound)
    (hparams : m.encodeParams bound = m.encodeParams args') :
    BehavesAs c (isResumable, .typed m.name args named)
      (isResumable', .call (.named (.str m.name)) args') := by
  apply behavesAs_of_dialogue
  have hname := find?_typedName hm
  have hbound' := bind_className hbound (Operation.className isResumable)
  have hfind := find_of_get hregistry
  have hwire : wireCall c.registry (.direct m) bound =
      wireCall c.registry (.named (.str m.name)) args' :=
    wireCall_congr hfind.symm fun m' hm' => by
      cases hfind.symm.trans hm'
      exact hparams
  rw [dialogue, typedAs_of_bind hname hbound', Resumable.call_congr hwire]
  rfl

/-- Optional arguments at the end may be null or left out, for the typed method and for the call. -/
lemma typed_behavesAs_call_of_nulls {given sent : Nat}
    (hfits : (typed m.name args []).IsWithinSignature)
    (hgiven : args.length + given ≤ m.params.length) (hsent : args.length + sent ≤ m.params.length) :
    BehavesAs c (isResumable, .typed m.name (args ++ List.replicate given .null) [])
      (isResumable', .call (.named (.str m.name)) (args ++ List.replicate sent .null)) := by
  obtain ⟨_, hoptional⟩ := (isWithinSignature_typed_iff hm).mp hfits
  have hnulls {k : Nat} (hk : args.length + k ≤ m.params.length) :
      m.encodeParams (args ++ List.replicate k .null) = m.encodeParams args :=
    Method.encodeParams_append_nulls hk hoptional (Method.isQualified_table m hm)
  have hlength : (args ++ List.replicate given Value.null).length = args.length + given := by simp
  have hrest : ∀ p ∈ m.params.drop (args ++ List.replicate given Value.null).length, p.optional := by
    intro p hp
    rw [hlength, ← List.drop_drop] at hp
    exact hoptional p (List.mem_of_mem_drop hp)
  have hbound : (m.signature Resumable.className).bind _ [] = _ :=
    (Method.bind_signature_eq_ok_iff (Method.nodup_paramNames_table m hm)).mpr
      ⟨by omega, hrest, rfl⟩
  refine typed_behavesAs_call hm hregistry isResumable isResumable' hbound ?_
  rw [List.append_assoc, List.replicate_append_replicate, hlength, hnulls hsent, hnulls (by omega)]

/-- Positional arguments outside the signature of a typed method are refused by it, and by the call too.
Neither has done anything. -/
lemma run_outside_signature (hfits : ¬ (typed m.name args []).IsWithinSignature) (session : Session σ) :
    (∃ fault, (typed m.name args []).run isResumable c session = (.error (.call fault), session)) ∧
    ∃ cause, (call (.named (.str m.name)) args).run isResumable' c session =
      (.error (.invalidParams cause), session) := by
  have hname := find?_typedName hm
  constructor
  · cases hbind : (m.signature (className isResumable)).bind args [] with
    | ok bound => exact absurd ⟨_, _, _, hname, hbind⟩ hfits
    | error fault =>
      refine ⟨fault, ?_⟩
      have hrun : (Resumable.typedAs (className isResumable) c.registry m.name args []).run c session =
          (.error (.call fault), session) := by
        rw [Resumable.typedAs, hname]
        dsimp only [TypedName.signature]
        rw [hbind]
        rfl
      rw [run_of_dialogue rfl session, hrun]
      rfl
  · cases hparams : m.encodeParams args with
    | ok params =>
      have hbind : (m.signature Resumable.className).bind args [] = _ :=
        Method.bind_signature_of_encodeParams (Method.nodup_paramNames_table m hm) hparams
      exact absurd ⟨_, _, _, hname, hbind⟩ hfits
    | error fault =>
      obtain ⟨cause, rfl⟩ :=
        Method.exists_invalid_of_encodeParams (Method.isQualified_table m hm) hparams
      have hwire : wireCall c.registry (.named (.str m.name)) args = .error (.invalidParams cause) := by
        rw [wireCall, find_of_get hregistry]
        simp only [bind, Except.bind, hparams, Except.mapError]
        rfl
      refine ⟨cause, ?_⟩
      rw [run_call, Resumable.run_call_of_error hwire]
      rfl

end Methods

/-! ### Agreement -/

/-- Blocking and resumable clients on the same connection agree on every sequence of operations within the
signatures: on every result, on what is exchanged with the peer, on the log, and so on. The typed method of
a method that the registry has is the same as a call by its name. Optional arguments at the end may be null
or left out, and arguments that the typed method does not accept are refused by the call too. -/
theorem clients_agree (c : Connection σ) :
    (∀ ops : List Operation, (∀ op ∈ ops, op.IsWithinSignature) → ∀ session : Session σ,
      runAll false c ops session = runAll true c ops session ∧
      turns false c ops session = turns true c ops session) ∧
    ∀ m ∈ Method.table, c.registry.get (.str m.name) = .ok m →
      ∀ (isResumable isResumable' : Bool) (args : List Value),
        (∀ className named bound,
          ((TypedName.method m).signature className).bind args named = .ok bound →
          BehavesAs c (isResumable, .typed m.name args named)
            (isResumable', .call (.named (.str m.name)) bound)) ∧
        ((typed m.name args []).IsWithinSignature → ∀ given sent : Nat,
          args.length + given ≤ m.params.length → args.length + sent ≤ m.params.length →
          BehavesAs c (isResumable, .typed m.name (args ++ List.replicate given .null) [])
            (isResumable', .call (.named (.str m.name)) (args ++ List.replicate sent .null))) ∧
        (¬ (typed m.name args []).IsWithinSignature → ∀ session : Session σ,
          (∃ fault,
            (typed m.name args []).run isResumable c session = (.error (.call fault), session)) ∧
          ∃ cause, (call (.named (.str m.name)) args).run isResumable' c session =
            (.error (.invalidParams cause), session)) := by
  constructor
  · intro ops hops session
    have hturns := turns_eq hops false true c session
    exact ⟨by rw [runAll_eq_turns, runAll_eq_turns, hturns], hturns⟩
  · intro m hm hregistry isResumable isResumable' args
    refine ⟨fun className named bound hbound => ?_, fun hfits given sent hgiven hsent => ?_,
      fun hfits session => ?_⟩
    · exact typed_behavesAs_call hm hregistry isResumable isResumable' hbound rfl
    · exact typed_behavesAs_call_of_nulls hm hregistry isResumable isResumable' hfits hgiven hsent
    · exact run_outside_signature hm hregistry isResumable isResumable' hfits session

/-- The required arguments of a ban. -/
def banAddress : List Value := [.str "192.0.2.1", .str "insert"]

/-- The number of the tip, and the hash of a block that the peer does not have. -/
def tipAndHash : List Operation := [.typed "get_tip_block_number" [] [], .typed "block_hash" [.int 7] []]

/-- A typed method and a helper; a ban by names, in another order; one with the optional arguments given as
null, and left out; and one that lacks an argument. -/
theorem clients_agree_ban :
    let answers : List Json := [.dict [("id", .int 1), ("result", .str "0x7")],
      .dict [("id", .int 2), ("result", .null)]]
    runAll false scripted tipAndHash (.answered answers) =
      runAll true scripted tipAndHash (.answered answers) ∧
    BehavesAs scripted
      (true, .typed "set_ban" [.str "192.0.2.1"] [("reason", .str "spam"), ("command", .str "insert")])
      (false, .call (.named (.str "set_ban")) (banAddress ++ [.null, .null, .str "spam"])) ∧
    BehavesAs scripted (false, .typed "set_ban" (banAddress ++ [.null, .null, .null]) [])
      (true, .call (.named (.str "set_ban")) banAddress) ∧
    ∃ cause, (call (.named (.str "set_ban")) [.str "192.0.2.1"]).run false scripted (.answered []) =
      (.error (.invalidParams cause), .answered []) := by
  have hm : Method.setBan ∈ Method.table := mem_table_of_find? rfl
  have hget : scripted.registry.get (.str Method.setBan.name) = .ok Method.setBan := rfl
  have hfits : (typed Method.setBan.name banAddress []).IsWithinSignature :=
    ⟨_, Resumable.className, _, find?_typedName hm, rfl⟩
  have hlacks : ¬ (typed Method.setBan.name [.str "192.0.2.1"] []).IsWithinSignature :=
    fun h => absurd ((isWithinSignature_typed_iff hm).mp h).2 (by decide)
  have hagree := (clients_agree scripted).2 _ hm hget
  intro answers
  refine ⟨((clients_agree scripted).1 _ ?_ _).1, ?_, ?_, ?_⟩
  · refine List.forall_mem_cons.mpr ⟨⟨.method .getTipBlockNumber, "", [], rfl, rfl⟩, ?_⟩
    exact List.forall_mem_singleton.mpr ⟨.helper .blockHash, "", [.int 7], rfl, rfl⟩
  · exact (hagree true false [.str "192.0.2.1"]).1 Blocking.className _ _ rfl
  · exact (hagree false true banAddress).2.1 hfits 3 0 (by decide) (by decide)
  · exact ((hagree false false [.str "192.0.2.1"]).2.2 hlacks _).2

end Operation

end Client

end ChainRpc
