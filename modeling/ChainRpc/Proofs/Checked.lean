import ChainRpc.Issue
import Mathlib.Tactic.Common

/-!
# When checks succeed

A check made of other checks succeeds just where those do. These equivalences take a successful check
apart, from the outside to the inside.
-/

namespace ChainRpc.Checked

variable {ε ε' α β γ : Type}

@[simp] lemma map_eq_ok_iff {x : Except ε α} {f : α → β} {b : β} :
    x.map f = .ok b ↔ ∃ a, x = .ok a ∧ f a = b := by
  cases x <;> simp [Except.map]

@[simp] lemma mapError_eq_ok_iff {x : Except ε α} {f : ε → ε'} {a : α} :
    x.mapError f = .ok a ↔ x = .ok a := by
  cases x <;> simp [Except.mapError]

lemma mapError_eq_error_iff {x : Except ε α} {f : ε → ε'} {e : ε'} :
    x.mapError f = .error e ↔ ∃ cause, x = .error cause ∧ f cause = e := by
  cases x <;> simp [Except.mapError]

lemma bind_eq_ok_iff {x : Except ε α} {f : α → Except ε β} {b : β} :
    x >>= f = .ok b ↔ ∃ a, x = .ok a ∧ f a = .ok b := by
  cases x <;> simp [bind, Except.bind]

lemma bind_eq_error_iff {x : Except ε α} {f : α → Except ε β} {e : ε} :
    x >>= f = .error e ↔ x = .error e ∨ ∃ a, x = .ok a ∧ f a = .error e := by
  cases x <;> simp [bind, Except.bind]

lemma map_eq_error_iff {x : Except ε α} {f : α → β} {e : ε} : x.map f = .error e ↔ x = .error e := by
  cases x <;> simp [Except.map]

@[simp] lemma under_eq_ok_iff {step : Step} {c : Checked α} {a : α} :
    c.under step = .ok a ↔ c = .ok a := mapError_eq_ok_iff

/-- Two checks of which a function makes one value succeed just where each does. -/
lemma map_both_eq_ok_iff {x : Checked α} {y : Checked β} {f : α × β → γ} {c : γ} :
    (both x y).map f = .ok c ↔ ∃ a b, x = .ok a ∧ y = .ok b ∧ f (a, b) = c := by
  cases x <;> cases y <;> simp [both, Except.map]

lemma eq_ok_of_toOption {x : Except ε α} {a : α} (h : x.toOption = some a) : x = .ok a := by
  cases x with
  | ok found => simpa [Except.toOption] using h
  | error e => cases h

end ChainRpc.Checked
