import ChainRpc.Proofs.Client.Operations

/-!
# Histories of clients

The history of a client lists its turns: each operation with the session before and after it, its result
and its exchanges with the peer. No operation gives an identifier back, so the identifiers of a later turn
lie beyond those of an earlier one.
-/

namespace ChainRpc.Client

variable {σ α β : Type}

/-! ### Operations that advance -/

namespace Resumable

/-- The next identifier never goes back. -/
def Advances (c : Connection σ) (x : Resumable α) : Prop :=
  ∀ session, session.state.nextId ≤ (x.run c session).2.state.nextId

namespace Advances

variable {c : Connection σ}

lemma pure (a : α) : Advances c (Pure.pure a) := fun _ => Nat.le_refl _

lemma fail (fault : Fault) : Advances c (fail fault : Resumable α) := fun _ => Nat.le_refl _

lemma ofAct {act : Act α} (h : KeepsIds act) : Advances c (ofAct act) := fun session =>
  Nat.le_of_eq (h session.state).symm

lemma post (body : Bytes) : Advances c (post body) := fun _ => Nat.le_refl _

lemma bind {x : Resumable α} {f : α → Resumable β} (hx : Advances c x)
    (hf : ∀ a, Advances c (f a)) : Advances c (x >>= f) := by
  intro session
  have h := hx session
  rw [run_bind, bind_apply]
  rcases hr : x.run c session with ⟨fault | a, session'⟩
  · rw [hr] at h
    exact h
  · rw [hr] at h
    exact Nat.le_trans h (hf a session')

lemma call (registry : Registry) (ref : MethodRef) (args : List Value) :
    Advances c (call registry ref args) := by
  intro session
  rcases call_cases c registry ref args session with
    ⟨_, _, _, hr⟩ | ⟨_, _, _, _, hr⟩ | ⟨w, message, _, _, _, hr⟩
  · refine Nat.le_of_eq ?_
    rw [hr]
  · rw [hr]
    exact Nat.le_succ _
  · rw [hr, nextId_submit]
    exact Nat.le_succ _

lemma callRaw (name params : Value) : Advances c (callRaw name params) := by
  intro session
  rcases callRaw_cases c name params session with
    ⟨_, _, _, hr⟩ | ⟨_, _, _, _, hr⟩ | ⟨p, message, _, _, _, hr⟩
  · rw [hr]
    exact Nat.le_succ _
  · rw [hr]
    exact Nat.le_succ _
  · rw [hr, nextId_submit]
    exact Nat.le_succ _

lemma batch (registry : Registry) (calls : List (MethodRef × List Value)) :
    Advances c (batch registry calls) := by
  intro session
  rcases batch_cases c registry calls session with
    ⟨ws, records, _, _, _, _, hr⟩ | ⟨_, _, _, _, _, _, _, _, _, _, _, hr⟩ |
      ⟨_, _, _, _, _, _, _, _, _, _, _, _, hr⟩
  · rw [hr, nextId_submitAll]
    exact Nat.le_add_right _ _
  · rw [hr]
    exact Nat.le_add_right _ _
  · rw [hr]
    exact Nat.le_add_right _ _

lemma require (method detail : Text) (v : Value) : Advances c (require method detail v) :=
  .ofAct (.ofExcept _ _)

lemma fetch (registry : Registry) (m : Method) (method detail : Text) (arg : Value) :
    Advances c (fetch registry m method detail arg) :=
  .bind (.call _ _ _) fun _ => .require _ _ _

lemma withNumber (registry : Registry) (number : Value) {f : Value → Resumable Value}
    (hf : ∀ number, Advances c (f number)) : Advances c (withNumber registry number f) := by
  unfold Resumable.withNumber
  split
  · exact .bind (.call _ _ _) hf
  · exact hf number

lemma blockHash (registry : Registry) (number : Value) : Advances c (blockHash registry number) :=
  .withNumber registry number fun _ => .fetch _ _ _ _ _

lemma blockByNumber (registry : Registry) (number : Value) :
    Advances c (blockByNumber registry number) :=
  .withNumber registry number fun _ => .fetch _ _ _ _ _

lemma helper (registry : Registry) (h : Helper) (args : List Value) :
    Advances c (helper registry h args) := by
  cases h with
  | blockHash => exact .blockHash registry _
  | tipBlockHash => exact .blockHash registry .null
  | genesisHash => exact .blockHash registry (.int 0)
  | blockByNumber => exact .blockByNumber registry _
  | lastBlock => exact .blockByNumber registry .null
  | genesisBlock => exact .blockByNumber registry (.int 0)
  | blockByHash | transaction => exact .fetch _ _ _ _ _

lemma typedAs (className : Text) (registry : Registry) (name : Text) (args : List Value)
    (named : Entries Value) : Advances c (typedAs className registry name args named) := by
  unfold Resumable.typedAs
  split
  · exact .fail _
  · refine .bind (.ofAct (.ofExcept _ _)) fun bound => ?_
    split
    · exact .call _ _ _
    · exact .helper _ _ _

end Advances

end Resumable

/-! ### Turns -/

/-- An operation that was carried out. -/
structure Turn (σ : Type) where
  op : Operation
  before : Session σ
  after : Session σ
  result : Except Fault Operation.Result
  exchanges : List Exchange

namespace Operation

variable (isResumable : Bool) (c : Connection σ)

lemma advances_dialogue (registry : Registry) (op : Operation) :
    (op.dialogue isResumable registry).Advances c := by
  cases op with
  | nextId => exact fun _ => Nat.le_succ _
  | call ref args => exact .bind (.call _ _ _) fun _ => .pure _
  | callRaw name params => exact .bind (.callRaw _ _) fun _ => .pure _
  | batch calls => exact .bind (.batch _ _) fun _ => .pure _
  | typed name args named => exact .bind (.typedAs _ _ _ _ _) fun _ => .pure _
  | post body => exact .bind (.post _) fun _ => .pure _

lemma nextId_le_run (op : Operation) (session : Session σ) :
    session.state.nextId ≤ (op.run isResumable c session).2.state.nextId := by
  rw [← run_dialogue]
  exact advances_dialogue isResumable c c.registry op session

/-- The turn in which a client carries an operation out. -/
def turn (op : Operation) (session : Session σ) : Turn σ where
  op := op
  before := session
  after := (op.run isResumable c session).2
  result := (op.run isResumable c session).1
  exchanges := op.exchanges isResumable c session

/-- The turns in which a client carries operations out one after the other. -/
def turns : List Operation → Session σ → List (Turn σ)
  | [], _ => []
  | op :: rest, session =>
    op.turn isResumable c session :: turns rest (op.turn isResumable c session).after

/-- The session after a history that began in a session. -/
def lastSession (session : Session σ) (history : List (Turn σ)) : Session σ :=
  (history.getLast?.map (·.after)).getD session

lemma lastSession_cons (session : Session σ) (t : Turn σ) (rest : List (Turn σ)) :
    lastSession session (t :: rest) = lastSession t.after rest := by
  rw [lastSession, lastSession, List.getLast?_cons]
  cases rest.getLast? <;> rfl

/-- A history tells what running its operations comes to. -/
lemma runAll_eq_turns (ops : List Operation) (session : Session σ) :
    runAll isResumable c ops session =
      ((turns isResumable c ops session).map (·.result),
        lastSession session (turns isResumable c ops session)) := by
  induction ops generalizing session with
  | nil => rfl
  | cons op rest ih =>
    rw [runAll, turns, lastSession_cons, List.map_cons]
    exact congrArg (fun r : List _ × Session σ => (_ :: r.1, r.2)) (ih _)

lemma ops_turns (ops : List Operation) (session : Session σ) :
    (turns isResumable c ops session).map (·.op) = ops := by
  induction ops generalizing session with
  | nil => rfl
  | cons op rest ih => simp [turns, turn, ih]

variable {isResumable c}

lemma eq_turn_of_mem {ops : List Operation} {session : Session σ} {t : Turn σ}
    (h : t ∈ turns isResumable c ops session) : t = t.op.turn isResumable c t.before := by
  induction ops generalizing session with
  | nil => cases h
  | cons op rest ih =>
    rcases List.mem_cons.mp h with rfl | h
    · rfl
    · exact ih h

lemma nextId_le_before {ops : List Operation} {session : Session σ} {t : Turn σ}
    (h : t ∈ turns isResumable c ops session) :
    session.state.nextId ≤ t.before.state.nextId := by
  induction ops generalizing session with
  | nil => cases h
  | cons op rest ih =>
    rcases List.mem_cons.mp h with rfl | h
    · exact Nat.le_refl _
    · exact Nat.le_trans (nextId_le_run isResumable c op session) (ih h)

/-- The turns of a history take identifiers one after the other. -/
lemma pairwise_turns (ops : List Operation) (session : Session σ) :
    (turns isResumable c ops session).Pairwise fun t u =>
      t.after.state.nextId ≤ u.before.state.nextId := by
  induction ops generalizing session with
  | nil => exact .nil
  | cons op rest ih => exact .cons (fun u hu => nextId_le_before hu) (ih _)

end Operation

end ChainRpc.Client
