import ChainRpc.Client.Core
import Mathlib.Tactic.Common

/-!
# Steps of a client

A step is run from a state and leaves one, also where it fails. The lemmas say what the elementary
steps answer and leave behind, so that no proof about a larger step has to open the monad.
-/

namespace ChainRpc.Client

/-! ### Sequences of steps -/

section Sequence

variable {ε S α β : Type} {s s' : S}

lemma pure_apply (a : α) : (pure a : ExceptT ε (StateM S) α) s = (.ok a, s) := rfl

/-- The second of two steps runs from where the first one has left off, unless that failed. -/
lemma bind_apply (x : ExceptT ε (StateM S) α) (f : α → ExceptT ε (StateM S) β) :
    (x >>= f) s = match x s with
      | (.ok a, s')    => f a s'
      | (.error e, s') => (.error e, s') := by
  show (ExceptT.bind x f) s = _
  simp only [ExceptT.bind, ExceptT.mk, bind, StateT.bind]
  cases x s with
  | mk result s' => cases result <;> rfl

lemma bind_of_ok {x : ExceptT ε (StateM S) α} {a : α} (h : x s = (.ok a, s'))
    (f : α → ExceptT ε (StateM S) β) : (x >>= f) s = f a s' := by
  rw [bind_apply, h]

lemma bind_of_error {x : ExceptT ε (StateM S) α} {e : ε} (h : x s = (.error e, s'))
    (f : α → ExceptT ε (StateM S) β) : (x >>= f) s = (.error e, s') := by
  rw [bind_apply, h]

/-- A failure is handled in the state that it leaves. -/
lemma tryCatch_apply (x : ExceptT ε (StateM S) α) (handle : ε → ExceptT ε (StateM S) α) :
    (tryCatch x handle) s = match x s with
      | (.ok a, s')    => (.ok a, s')
      | (.error e, s') => handle e s' := by
  show (ExceptT.tryCatch x handle) s = _
  simp only [ExceptT.tryCatch, ExceptT.mk, bind, StateT.bind]
  cases x s with
  | mk result s' => cases result <;> rfl

end Sequence

/-! ### Elementary steps -/

variable {α β ε : Type} {s : State}

/-- The state with more records behind those of the log. -/
def State.logged (s : State) (records : List Log.Record) : State :=
  { s with log := s.log ++ records }

/-- The state after some identifiers are taken. -/
def State.issued (s : State) (count : Nat) : State :=
  { s with nextId := s.nextId + count }

@[simp] lemma State.logged_nil (s : State) : s.logged [] = s := by
  simp [State.logged]

@[simp] lemma State.logged_logged (s : State) (first second : List Log.Record) :
    (s.logged first).logged second = s.logged (first ++ second) := by
  simp [State.logged]

@[simp] lemma State.nextId_logged (s : State) (records : List Log.Record) :
    (s.logged records).nextId = s.nextId := rfl

@[simp] lemma State.log_logged (s : State) (records : List Log.Record) :
    (s.logged records).log = s.log ++ records := rfl

@[simp] lemma State.issued_zero (s : State) : s.issued 0 = s := rfl

@[simp] lemma State.issued_issued (s : State) (first second : Nat) :
    (s.issued first).issued second = s.issued (first + second) := by
  simp [State.issued, Nat.add_assoc]

@[simp] lemma State.issued_logged (s : State) (records : List Log.Record) (count : Nat) :
    (s.logged records).issued count = (s.issued count).logged records := rfl

@[simp] lemma State.nextId_issued (s : State) (count : Nat) :
    (s.issued count).nextId = s.nextId + count := rfl

@[simp] lemma State.log_issued (s : State) (count : Nat) : (s.issued count).log = s.log := rfl

lemma note_apply (level : Log.Level) (message : Text) :
    note level message s = (.ok (), s.logged [⟨level, message⟩]) := rfl

lemma takeId_apply : takeId s = (.ok s.nextId, s.issued 1) := rfl

lemma ofExcept_ok (toFault : ε → Fault) (a : α) :
    ofExcept toFault (.ok a) s = (.ok a, s) := rfl

lemma ofExcept_apply (toFault : ε → Fault) (x : Except ε α) :
    ofExcept toFault x s = (x.mapError toFault, s) := by
  cases x <;> rfl

/-- Keeping faults as results leaves alone what the step itself does. -/
lemma keepClientErrors_apply (x : Act Value) :
    keepClientErrors x s = match x s with
      | (.ok v, s')        => (.ok (.ok v), s')
      | (.error fault, s') =>
        if fault.isClientError then (.ok (.error fault), s') else (.error fault, s') := by
  rw [keepClientErrors, tryCatch_apply, bind_apply]
  cases x s with
  | mk result s' =>
    cases result with
    | ok v => rfl
    | error fault =>
      dsimp only
      split <;> rfl

/-! ### Steps that take no identifier -/

/-- The step leaves the next identifier as it was, whatever comes of it. -/
def KeepsIds (x : Act α) : Prop := ∀ s, (x s).2.nextId = s.nextId

namespace KeepsIds

lemma pure (a : α) : KeepsIds (Pure.pure a : Act α) := fun _ => rfl

lemma throw (fault : Fault) : KeepsIds (MonadExcept.throw fault : Act α) := fun _ => rfl

lemma note (level : Log.Level) (message : Text) : KeepsIds (note level message) := fun _ => rfl

lemma ofExcept (toFault : ε → Fault) (x : Except ε α) : KeepsIds (ofExcept toFault x) := by
  intro s
  rw [ofExcept_apply]

lemma bind {x : Act α} {f : α → Act β} (hx : KeepsIds x) (hf : ∀ a, KeepsIds (f a)) :
    KeepsIds (x >>= f) := by
  intro s
  have h := hx s
  rw [bind_apply]
  cases hs : x s with
  | mk result s' =>
    rw [hs] at h
    cases result with
    | ok a => exact (hf a s').trans h
    | error fault => exact h

lemma keepClientErrors {x : Act Value} (hx : KeepsIds x) : KeepsIds (keepClientErrors x) := by
  intro s
  have h := hx s
  rw [keepClientErrors_apply]
  cases hs : x s with
  | mk result s' =>
    rw [hs] at h
    cases result with
    | ok v => exact h
    | error fault =>
      dsimp only
      split <;> exact h

end KeepsIds

end ChainRpc.Client
