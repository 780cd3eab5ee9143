import ChainRpc.Text
import Mathlib.Data.List.TakeWhile
import Mathlib.Tactic.Ring

/-!
# Digits of numbers

A number is written with digits of its base only. The first one is no zero unless the number is zero, and
the number is below the power of the base for as many digits. Digits one after the other stand for a sum,
zeros at the end for a power of ten.
-/

namespace ChainRpc.Text

variable {base n : Nat} {c : CodePoint}

lemma toNat_digitChar_ne_zero : ∀ v < 16, 0 < v → (Nat.digitChar v).toNat ≠ CodePoint.zero := by
  decide

/-- Only zero starts with a zero. -/
lemma head?_toDigits (hbase : 1 < base) (hbase' : base ≤ 16) (hn : 0 < n) :
    ((Nat.toDigits base n).map Char.toNat).head? ≠ some CodePoint.zero := by
  induction n using Nat.strongRecOn with
  | ind n ih =>
    by_cases h : n < base
    · rw [Nat.toDigits_of_lt_base h, List.map_singleton, List.head?_singleton]
      intro hzero
      exact toNat_digitChar_ne_zero n (by omega) hn (Option.some.inj hzero)
    · have hquotient : 0 < n / base := Nat.div_pos (by omega) (by omega)
      have hsplit : Nat.toDigits base n =
          Nat.toDigits base (n / base) ++ Nat.toDigits base (n % base) := by
        rw [Nat.toDigits_append_toDigits hbase hquotient (Nat.mod_lt _ (by omega)), Nat.div_add_mod]
      rw [hsplit, List.map_append, List.head?_append, Option.or_of_isSome]
      · exact ih _ (Nat.div_lt_self hn hbase) hquotient
      · simp

lemma head?_ofNat (hn : 0 < n) : (ofNat n).head? ≠ some CodePoint.zero :=
  head?_toDigits (by decide) (by decide) hn

lemma ofNat_ne_nil (n : Nat) : ofNat n ≠ [] := by
  simp [ofNat]

lemma isDigit_of_mem_ofNat (h : c ∈ ofNat n) : c.IsDigit := by
  obtain ⟨d, hd, rfl⟩ := List.mem_map.mp h
  have hdigit := Nat.isDigit_of_mem_toDigits (by decide) (by decide) hd
  simp only [Char.isDigit, Bool.and_eq_true, decide_eq_true_eq, UInt32.le_iff_toNat_le] at hdigit
  exact hdigit

lemma length_ofNat_le_iff {count : Nat} (hcount : 0 < count) :
    (ofNat n).length ≤ count ↔ n < 10 ^ count := by
  rw [ofNat, List.length_map, Nat.length_toDigits_le_iff (by decide) hcount]

/-! ### Values of digits -/

lemma foldl_digits (t : Text) (n : Nat) :
    t.foldl (fun n c => n * 10 + (c - 48)) n = n * 10 ^ t.length + digitsValue t := by
  induction t generalizing n with
  | nil => simp [digitsValue]
  | cons c rest ih =>
    simp only [digitsValue, List.foldl_cons, List.length_cons]
    rw [ih, ih (0 * 10 + (c - 48)), Nat.pow_succ]
    ring

lemma digitsValue_append (t u : Text) :
    digitsValue (t ++ u) = digitsValue t * 10 ^ u.length + digitsValue u := by
  rw [digitsValue, List.foldl_append, foldl_digits]
  rfl

lemma digitsValue_zeros (k : Nat) : digitsValue (List.replicate k CodePoint.zero) = 0 := by
  induction k with
  | zero => rfl
  | succ k ih =>
    rw [List.replicate_succ', digitsValue_append, ih]
    rfl

/-- Zeros at the end multiply a number by a power of ten. -/
lemma digitsValue_append_zeros (t : Text) (k : Nat) :
    digitsValue (t ++ List.replicate k CodePoint.zero) = digitsValue t * 10 ^ k := by
  rw [digitsValue_append, digitsValue_zeros, List.length_replicate, Nat.add_zero]

/-- Zeros in front do not count. -/
lemma digitsValue_zeros_append (k : Nat) (t : Text) :
    digitsValue (List.replicate k CodePoint.zero ++ t) = digitsValue t := by
  rw [digitsValue_append, digitsValue_zeros, Nat.zero_mul, Nat.zero_add]

/-- Only zeros are dropped from the end. -/
lemma exists_eq_append_zeros (t : Text) :
    ∃ k, t = (t.reverse.dropWhile (· == CodePoint.zero)).reverse ++ List.replicate k CodePoint.zero := by
  have hsplit := congrArg List.reverse (List.takeWhile_append_dropWhile
    (p := (· == CodePoint.zero)) (l := t.reverse))
  rw [List.reverse_append, List.reverse_reverse] at hsplit
  have hzeros : ∀ c ∈ (t.reverse.takeWhile (· == CodePoint.zero)).reverse, c = CodePoint.zero :=
    fun c hc => beq_iff_eq.mp (List.mem_takeWhile_imp (List.mem_reverse.mp hc) :)
  exact ⟨_, by rw [← List.eq_replicate_of_mem hzeros, hsplit]⟩

end ChainRpc.Text
