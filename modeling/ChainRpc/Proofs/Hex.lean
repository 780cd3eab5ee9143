import ChainRpc.ByteString
import ChainRpc.Proofs.Checked
import ChainRpc.Proofs.Text.Digits
import ChainRpc.Quantity
import Mathlib.Data.List.Basic

/-!
# Hexadecimal text and what it stands for

Numbers and byte strings come back from their wire forms. The other way round a wire form may have digits
in upper case, and nothing else gets lost: what is read and written again is the text in lower case.
-/

namespace ChainRpc

variable {c : CodePoint} {t : Text} {v : Nat}

/-! ### Lower case -/

/-- A hexadecimal digit in lower case; other code points stay. -/
def CodePoint.lowerHex (c : CodePoint) : CodePoint :=
  if c.Between 65 70 then c + 32 else c

/-- The text with its hexadecimal digits in lower case. -/
def Hex.lower (t : Text) : Text :=
  t.map CodePoint.lowerHex

namespace Hex

@[simp] lemma lower_nil : lower [] = [] := rfl

@[simp] lemma lower_cons (c : CodePoint) (t : Text) : lower (c :: t) = c.lowerHex :: lower t := rfl

@[simp] lemma lower_mark_append (t : Text) : lower (mark ++ t) = mark ++ lower t := rfl

lemma unmarked?_eq_some_iff {digits : Text} : unmarked? t = some digits ↔ t = mark ++ digits := by
  rw [unmarked?, List.isPrefixOf?_eq_some_iff_append_eq]
  exact eq_comm

lemma hexValue?_cases (h : c.hexValue? = some v) :
    v < 10 ∧ c = 48 + v ∨ (10 ≤ v ∧ v < 16) ∧ c = 87 + v ∨ (10 ≤ v ∧ v < 16) ∧ c = 55 + v := by
  unfold CodePoint.hexValue? at h
  split at h
  · cases h
    exact .inl (by lia)
  · split at h
    · cases h
      exact .inr (.inl (by lia))
    · split at h
      · cases h
        exact .inr (.inr (by lia))
      · cases h

lemma isScalar_of_isDigits (h : IsDigits t) : t.IsScalar := by
  intro c hc
  obtain ⟨v, hv⟩ := Option.isSome_iff_exists.mp (h c hc)
  rcases hexValue?_cases hv with ⟨hv, rfl⟩ | ⟨hv, rfl⟩ | ⟨hv, rfl⟩ <;> lia

/-- A digit is written as it was read, but in lower case. -/
lemma digit_of_hexValue? (h : c.hexValue? = some v) : v < 16 ∧ digit v = c.lowerHex := by
  unfold digit CodePoint.lowerHex
  rcases hexValue?_cases h with ⟨hv, rfl⟩ | ⟨hv, rfl⟩ | ⟨hv, rfl⟩ <;> split <;> split <;> lia

/-! ### Digits of numbers -/

lemma toNat_digitChar : ∀ v < 16, (Nat.digitChar v).toNat = digit v := by
  decide

lemma hexOfNat_of_lt (hv : v < 16) : Text.hexOfNat v = [digit v] := by
  rw [Text.hexOfNat, Nat.toDigits_of_lt_base hv]
  simp [toNat_digitChar v hv]

lemma hexOfNat_append {n : Nat} (hn : 0 < n) (hv : v < 16) :
    Text.hexOfNat (n * 16 + v) = Text.hexOfNat n ++ [digit v] := by
  rw [← hexOfNat_of_lt hv, Nat.mul_comm]
  simp only [Text.hexOfNat]
  rw [← List.map_append, Nat.toDigits_append_toDigits (by decide) hn hv]

/-- A number has one digit, or a last digit behind those of a smaller number. -/
@[elab_as_elim]
lemma digits_induction {P : Nat → Prop} (single : ∀ v < 16, P v)
    (append : ∀ n v, 0 < n → v < 16 → P n → P (n * 16 + v)) (n : Nat) : P n := by
  induction n using Nat.strongRecOn with
  | ind n ih =>
    by_cases hn : n < 16
    · exact single n hn
    · have h := append (n / 16) (n % 16) (by omega) (by omega) (ih _ (by omega))
      rwa [Nat.div_add_mod' n 16] at h

lemma value_append_digit (t : Text) (hv : v < 16) : value (t ++ [digit v]) = value t * 16 + v := by
  simp [value, hexValue?_digit hv]

@[simp] lemma value_hexOfNat (n : Nat) : value (Text.hexOfNat n) = n := by
  induction n using digits_induction with
  | single v hv => simp [hexOfNat_of_lt hv, value, hexValue?_digit hv]
  | append n v hn hv ih => rw [hexOfNat_append hn hv, value_append_digit _ hv, ih]

lemma isDigits_hexOfNat (n : Nat) : IsDigits (Text.hexOfNat n) := by
  induction n using digits_induction with
  | single v hv => simp [IsDigits, hexOfNat_of_lt hv, hexValue?_digit hv]
  | append n v hn hv ih =>
    rw [hexOfNat_append hn hv, IsDigits, List.forall_mem_append]
    exact ⟨ih, by simp [hexValue?_digit hv]⟩

lemma hexOfNat_ne_nil (n : Nat) : Text.hexOfNat n ≠ [] := by
  induction n using digits_induction with
  | single v hv => simp [hexOfNat_of_lt hv]
  | append n v hn hv ih => simp [hexOfNat_append hn hv]

lemma head?_hexOfNat {n : Nat} (hn : 0 < n) : (Text.hexOfNat n).head? ≠ some CodePoint.zero :=
  Text.head?_toDigits (by decide) (by decide) hn

/-- Digits behind those of a number make up a greater number. -/
lemma hexOfNat_foldl {n : Nat} (hn : 0 < n) (ht : IsDigits t) :
    Text.hexOfNat (t.foldl (fun n c => n * 16 + c.hexValue?.getD 0) n) =
      Text.hexOfNat n ++ lower t := by
  induction t generalizing n with
  | nil => simp
  | cons c rest ih =>
    obtain ⟨hc, hrest⟩ := List.forall_mem_cons.mp ht
    obtain ⟨v, hv⟩ := Option.isSome_iff_exists.mp hc
    obtain ⟨hlt, hdigit⟩ := digit_of_hexValue? hv
    rw [List.foldl_cons, hv, Option.getD_some, ih (by omega) hrest, hexOfNat_append hn hlt, hdigit]
    simp

lemma hexOfNat_value (hne : t ≠ []) (ht : IsDigits t)
    (hzero : ¬ (1 < t.length ∧ t.head? = some CodePoint.zero)) :
    Text.hexOfNat (value t) = lower t := by
  cases t with
  | nil => exact absurd rfl hne
  | cons c rest =>
    obtain ⟨hc, hrest⟩ := List.forall_mem_cons.mp ht
    obtain ⟨v, hv⟩ := Option.isSome_iff_exists.mp hc
    obtain ⟨hlt, hdigit⟩ := digit_of_hexValue? hv
    have hfold : value (c :: rest) = rest.foldl (fun n c => n * 16 + c.hexValue?.getD 0) v := by
      simp [value, hv]
    rw [hfold, lower_cons, ← hdigit]
    by_cases hpos : 0 < v
    · rw [hexOfNat_foldl hpos hrest, hexOfNat_of_lt hlt]
      rfl
    · -- A zero stands alone.
      have hv0 : v = 0 := by omega
      have hrest : rest = [] := by
        by_contra hne
        apply hzero
        constructor
        · simpa using List.length_pos_iff.mpr hne
        · rw [List.head?_cons]
          rcases hexValue?_cases hv with ⟨_, rfl⟩ | ⟨hv, _⟩ | ⟨hv, _⟩
          · rw [hv0]
          · omega
          · omega
      subst hv0 hrest
      rfl

/-! ### Digits of byte strings -/

lemma length_encode (b : Bytes) : (encode b).length = 2 * b.length := by
  induction b with
  | nil => rfl
  | cons x rest ih => simp only [encode, List.length_cons, ih]; omega

lemma isDigits_encode (b : Bytes) : IsDigits (encode b) := by
  induction b with
  | nil => exact nofun
  | cons x rest ih =>
    have hx := x.toNat_lt
    have hdigit {v : Nat} (hv : v < 16) : (CodePoint.hexValue? (digit v)).isSome := by
      simp [hexValue?_digit hv]
    rw [encode, IsDigits, List.forall_mem_cons, List.forall_mem_cons]
    exact ⟨hdigit (by omega), hdigit (by omega), ih⟩

lemma encode_of_decode? {b : Bytes} (h : decode? t = some b) : encode b = lower t := by
  induction t using decode?.induct generalizing b with
  | case1 =>
    cases h
    rfl
  | case2 => cases h
  | case3 high low rest ih =>
    simp only [decode?, Option.bind_eq_bind, Option.bind_eq_some_iff, Option.pure_def,
      Option.some.injEq] at h
    obtain ⟨x, hx, y, hy, tail, htail, rfl⟩ := h
    obtain ⟨hxlt, hxdigit⟩ := digit_of_hexValue? hx
    obtain ⟨hylt, hydigit⟩ := digit_of_hexValue? hy
    have hbyte : (UInt8.ofNat (x * 16 + y)).toNat = x * 16 + y := by
      rw [UInt8.toNat_ofNat']
      omega
    rw [encode, hbyte, ih htail, lower_cons, lower_cons, ← hxdigit, ← hydigit]
    congr 2
    · omega
    · congr 1
      omega

end Hex

/-! ### Wire forms -/

namespace Quantity

variable {kind : PrimitiveKind} {n : Nat}

lemma isScalar_encode (n : Nat) : (encode n).IsScalar :=
  List.forall_mem_append.mpr
    ⟨by decide, Hex.isScalar_of_isDigits (Hex.isDigits_hexOfNat n)⟩

lemma spelled_encode (kind : PrimitiveKind) (n : Nat) : spelled kind (encode n) = .ok n := by
  have hzero : ¬ (1 < (Text.hexOfNat n).length ∧ (Text.hexOfNat n).head? = some CodePoint.zero) := by
    rintro ⟨hlength, hhead⟩
    by_cases hn : 0 < n
    · exact Hex.head?_hexOfNat hn hhead
    · obtain rfl : n = 0 := by omega
      exact absurd hlength (by decide)
  have hdigits : ¬ (Text.hexOfNat n = [] ∨ ¬ Hex.IsDigits (Text.hexOfNat n)) :=
    not_or.mpr ⟨Hex.hexOfNat_ne_nil n, not_not.mpr (Hex.isDigits_hexOfNat n)⟩
  simp only [spelled, encode, Hex.unmarked?_append]
  rw [if_neg hdigits, if_neg hzero, Hex.value_hexOfNat]

lemma encode_of_spelled (h : spelled kind t = .ok n) : encode n = Hex.lower t := by
  unfold spelled at h
  split at h
  · cases h
  · next digits hmark =>
    obtain rfl := Hex.unmarked?_eq_some_iff.mp hmark
    split at h
    · cases h
    · next hdigits =>
      obtain ⟨hne, hall⟩ := not_or.mp hdigits
      split at h
      · cases h
      · next hzero =>
        cases h
        rw [encode, Hex.lower_mark_append, Hex.hexOfNat_value hne (not_not.mp hall) hzero]

end Quantity

namespace ByteString

lemma isScalar_encode (b : Bytes) : (encode b).IsScalar :=
  List.forall_mem_append.mpr ⟨by decide, Hex.isScalar_of_isDigits (Hex.isDigits_encode b)⟩

lemma decodeText_encode (b : Bytes) : decodeText (encode b) = .ok b := by
  have heven : ¬ (Hex.encode b).length % 2 = 1 := by
    rw [Hex.length_encode]
    omega
  simp only [decodeText, encode, Hex.unmarked?_append]
  rw [if_neg heven, Hex.decode?_encode]

lemma encode_of_decodeText {b : Bytes} (h : decodeText t = .ok b) : encode b = Hex.lower t := by
  unfold decodeText at h
  split at h
  · cases h
  · next digits hmark =>
    obtain rfl := Hex.unmarked?_eq_some_iff.mp hmark
    split at h
    · cases h
    · split at h
      · cases h
      · next found hfound =>
        cases h
        rw [encode, Hex.lower_mark_append, Hex.encode_of_decode? hfound]

end ByteString

end ChainRpc
