import ChainRpc.Proofs.Client.Building
import ChainRpc.Proofs.Client.Dialogue

/-!
# Refusals and costs

A call is refused before anything is sent if its method is unknown, if its arguments have no wire form, or
if one of its integers cannot be shown. The arguments of an operation determine how many identifiers it
takes. A call that cannot be shown has taken its identifier before it is refused, and a batch does not
look at the calls behind it.
-/

namespace ChainRpc.Client

variable {registry : Registry} {call : MethodRef × List Value} {w : WireCall} {ws : List WireCall}
  {calls before rest : List (MethodRef × List Value)} {fault : Fault}

/-! ### Refusals -/

instance (j : Json) : Decidable j.IsLegible :=
  inferInstanceAs (Decidable (∀ n ∈ j.integers, n.natAbs < 10 ^ digitLimit))

instance (w : WireCall) : Decidable w.IsLegible :=
  inferInstanceAs (Decidable (∀ j ∈ w.params, j.IsLegible))

instance (p : Prepared) : Decidable p.IsLegible :=
  inferInstanceAs (Decidable (∀ j ∈ p.request.params, j.IsLegible))

/-- The fault of a call whose method is unknown or whose arguments do not fit. -/
def isRejection : Fault → Bool
  | .registry (.unknown _) | .invalidParams _ => true
  | _ => false

/-- The method of the call is known and its arguments have a wire form. -/
def isFitting (registry : Registry) (call : MethodRef × List Value) : Bool :=
  (wireCall registry call.1 call.2).isOk

/-- The fault with which a call is refused before anything is sent. -/
def refusal? (registry : Registry) (call : MethodRef × List Value) : Option Fault :=
  match wireCall registry call.1 call.2 with
  | .error fault => some fault
  | .ok w        => if w.IsLegible then none else some .tooLarge

lemma isFitting_of_ok (h : wireCall registry call.1 call.2 = .ok w) :
    isFitting registry call = true := by
  rw [isFitting, h]
  rfl

lemma isFitting_of_error (h : wireCall registry call.1 call.2 = .error fault) :
    isFitting registry call = false := by
  rw [isFitting, h]
  rfl

lemma refusal?_of_error (h : wireCall registry call.1 call.2 = .error fault) :
    refusal? registry call = some fault := by
  rw [refusal?, h]

lemma refusal?_of_isLegible (h : wireCall registry call.1 call.2 = .ok w) (hl : w.IsLegible) :
    refusal? registry call = none := by
  rw [refusal?, h]
  exact if_pos hl

lemma refusal?_of_not_isLegible (h : wireCall registry call.1 call.2 = .ok w)
    (hl : ¬ w.IsLegible) : refusal? registry call = some .tooLarge := by
  rw [refusal?, h]
  exact if_neg hl

/-- Calls that can be sent do not count for the refusal of a batch. -/
lemma findSome?_refusal?_append (h : WireCalls registry before ws) (hl : ∀ w ∈ ws, w.IsLegible) :
    (before ++ rest).findSome? (refusal? registry) = rest.findSome? (refusal? registry) := by
  induction h with
  | nil => rfl
  | cons hw _ ih =>
    obtain ⟨hfirst, hrest⟩ := List.forall_mem_cons.mp hl
    rw [List.cons_append, List.findSome?_cons, refusal?_of_isLegible hw hfirst]
    exact ih hrest

/-- A batch of calls that can be sent is not refused. -/
lemma findSome?_refusal?_eq_none (h : WireCalls registry calls ws) (hl : ∀ w ∈ ws, w.IsLegible) :
    calls.findSome? (refusal? registry) = none := by
  rw [← List.append_nil calls, findSome?_refusal?_append h hl]
  rfl

/-! ### Costs of batches -/

/-- How many identifiers a batch takes: one for every fitting call it begins with, but none behind the
first call that cannot be shown. -/
def batchCost (registry : Registry) : List (MethodRef × List Value) → Nat
  | [] => 0
  | call :: rest =>
    match wireCall registry call.1 call.2 with
    | .error _ => 0
    | .ok w    => if w.IsLegible then 1 + batchCost registry rest else 1

lemma batchCost_of_error (h : wireCall registry call.1 call.2 = .error fault) :
    batchCost registry (call :: rest) = 0 := by
  rw [batchCost, h]

lemma batchCost_of_isLegible (h : wireCall registry call.1 call.2 = .ok w) (hl : w.IsLegible) :
    batchCost registry (call :: rest) = 1 + batchCost registry rest := by
  rw [batchCost, h]
  exact if_pos hl

lemma batchCost_of_not_isLegible (h : wireCall registry call.1 call.2 = .ok w)
    (hl : ¬ w.IsLegible) : batchCost registry (call :: rest) = 1 := by
  rw [batchCost, h]
  exact if_neg hl

lemma batchCost_append (h : WireCalls registry before ws) (hl : ∀ w ∈ ws, w.IsLegible) :
    batchCost registry (before ++ rest) = ws.length + batchCost registry rest := by
  induction h with
  | nil => exact (Nat.zero_add _).symm
  | cons hw _ ih =>
    obtain ⟨hfirst, hrest⟩ := List.forall_mem_cons.mp hl
    rw [List.cons_append, batchCost_of_isLegible hw hfirst, ih hrest, List.length_cons]
    omega

lemma batchCost_of_wireCalls (h : WireCalls registry calls ws) (hl : ∀ w ∈ ws, w.IsLegible) :
    batchCost registry calls = ws.length := by
  rw [← List.append_nil calls, batchCost_append h hl]
  rfl

/-- A batch takes one identifier for every fitting call it begins with, unless it is refused for an
integer. -/
lemma batchCost_eq_length
    (h : ∀ fault, calls.findSome? (refusal? registry) = some fault → isRejection fault) :
    batchCost registry calls = (calls.takeWhile (isFitting registry)).length := by
  induction calls with
  | nil => rfl
  | cons call rest ih =>
    cases hw : wireCall registry call.1 call.2 with
    | error fault =>
      rw [batchCost_of_error hw, List.takeWhile_cons, isFitting_of_error hw]
      rfl
    | ok w =>
      rw [List.takeWhile_cons, isFitting_of_ok hw]
      rw [List.findSome?_cons] at h
      by_cases hl : w.IsLegible
      · rw [refusal?_of_isLegible hw hl] at h
        rw [batchCost_of_isLegible hw hl, ih h]
        exact Nat.add_comm _ _
      · rw [refusal?_of_not_isLegible hw hl] at h
        cases h _ rfl

/-! ### Costs of operations -/

namespace Operation

/-- The call that an operation makes, other than a batch; a typed method makes one if its arguments fit
its signature. -/
def call? (isResumable : Bool) : Operation → Option (MethodRef × List Value)
  | .call ref args => some (ref, args)
  | .typed name args named =>
    match TypedName.find? name with
    | some (.method m) =>
      ((m.signature (className isResumable)).bind args named).toOption.map (.direct m, ·)
    | _ => none
  | _ => none

/-- How many identifiers an operation is to take: a batch, one for every fitting call it begins with. -/
def due (isResumable : Bool) (registry : Registry) : Operation → Nat
  | .nextId | .callRaw _ _ => 1
  | .batch calls => (calls.takeWhile (isFitting registry)).length
  | op =>
    match op.call? isResumable with
    | some call => if isFitting registry call then 1 else 0
    | none      => 0

/-- How many identifiers an operation takes. -/
def cost (isResumable : Bool) (registry : Registry) : Operation → Nat
  | .batch calls => batchCost registry calls
  | op           => op.due isResumable registry

/-- The fault with which an operation is refused before anything is sent, the next identifier being
given. -/
def refusal? (isResumable : Bool) (registry : Registry) (next : Nat) : Operation → Option Fault
  | .callRaw name params =>
    match rawRequest name params next with
    | .error fault => some fault
    | .ok p        => if p.IsLegible then none else some .tooLarge
  | .batch calls => calls.findSome? (Client.refusal? registry)
  | op           => (op.call? isResumable).bind (Client.refusal? registry)

/-- The operation takes an identifier for the caller. -/
def isNextId : Operation → Bool
  | .nextId => true
  | _       => false

/-- An operation that has nothing to send. -/
def IsSilent (op : Operation) : Prop :=
  op = .nextId ∨ op = .batch []

variable {isResumable : Bool} {op : Operation}

lemma cost_of_call? (registry : Registry) (h : op.call? isResumable = some call) :
    op.cost isResumable registry = if isFitting registry call then 1 else 0 := by
  cases op with
  | call ref args | typed name args named => simp only [cost, due, h]
  | _ => cases h

lemma refusal?_of_call? (registry : Registry) (next : Nat)
    (h : op.call? isResumable = some call) :
    op.refusal? isResumable registry next = Client.refusal? registry call := by
  cases op with
  | call ref args | typed name args named => simp only [refusal?, h, Option.bind_some]
  | _ => cases h

lemma not_isSilent_of_call? (h : op.call? isResumable = some call) : ¬ op.IsSilent := by
  rintro (rfl | rfl) <;> cases h

lemma refusal?_of_isSilent (isResumable : Bool) (registry : Registry) (next : Nat)
    (h : op.IsSilent) :
    op.refusal? isResumable registry next = none := by
  rcases h with rfl | rfl <;> rfl

/-- An operation takes the identifiers that it is to take, unless it is refused for an integer. -/
lemma cost_eq_due {next : Nat}
    (h : ∀ fault, op.refusal? isResumable registry next = some fault → isRejection fault) :
    op.cost isResumable registry = op.due isResumable registry := by
  cases op with
  | batch calls => exact batchCost_eq_length h
  | _ => rfl

/-! ### Calls that typed methods make -/

/-- A typed method is a call with the bound arguments. -/
lemma typedAs_of_bind {name : Text} {args bound : List Value} {named : Entries Value} {m : Method}
    (hname : TypedName.find? name = some (.method m))
    (hbound : (m.signature (className isResumable)).bind args named = .ok bound) :
    Resumable.typedAs (className isResumable) registry name args named =
      Resumable.call registry (.direct m) bound := by
  unfold Resumable.typedAs
  rw [hname]
  dsimp only [TypedName.signature]
  rw [hbound]
  rfl

lemma call?_typed {name : Text} {args bound : List Value} {named : Entries Value} {m : Method}
    (hname : TypedName.find? name = some (.method m))
    (hbound : (m.signature (className isResumable)).bind args named = .ok bound) :
    (Operation.typed name args named).call? isResumable = some (.direct m, bound) := by
  simp only [call?, hname, hbound]
  rfl

lemma dialogue_of_call? (registry : Registry) (h : op.call? isResumable = some call) :
    op.dialogue isResumable registry =
      Resumable.call registry call.1 call.2 >>= fun v => pure (.value v) := by
  cases op with
  | call ref args =>
    cases h
    rfl
  | typed name args named =>
    simp only [call?] at h
    split at h
    · next m hname =>
      obtain ⟨bound, hbound, rfl⟩ := Option.map_eq_some_iff.mp h
      cases hb : (m.signature (className isResumable)).bind args named with
      | error fault =>
        rw [hb] at hbound
        cases hbound
      | ok found =>
        rw [hb] at hbound
        cases hbound
        rw [dialogue, typedAs_of_bind hname hb]
    · cases h
  | _ => cases h

end Operation

end ChainRpc.Client
