import Mathlib.Algebra.Order.Field.Power
import Mathlib.Data.Rat.Cast.Order
import Mathlib.Tactic.FieldSimp
import Mathlib.Tactic.Linarith
import Mathlib.Tactic.NormNum
import Mathlib.Tactic.Positivity
import Mathlib.Tactic.Ring
import ChainRpc.Binary64

/-!
# Rounding to the nearest number

A quotient of natural numbers is rounded in three steps: the power of two is found that leaves a mantissa
of 53 bits, the quotient is counted in units of that power, and the count is rounded. Each step depends on
the quotient only, not on how it is written. So a quotient that differs from a number by less than one part
in `2 ^ 54` is rounded to that number, also where it lies below a power of two and the number on it, and
the same holds of a decimal.
-/

namespace ChainRpc.Binary64

variable {num den n d k : Nat} {t t' : Int} {v : ℚ} {negative : Bool} {e : Fin 2047}
  {f : Fin (2 ^ 52)}

/-! ### Powers -/

/-- A power with an exponent of either sign is a quotient of powers of which one is one. -/
lemma pow_toNat_div (b : ℚ) (t : Int) : b ^ t.toNat / b ^ (-t).toNat = b ^ t := by
  rcases le_total 0 t with h | h
  · rw [Int.toNat_of_nonpos (by lia : -t ≤ 0), pow_zero, div_one, ← zpow_natCast, Int.toNat_of_nonneg h]
  · rw [Int.toNat_of_nonpos h, pow_zero, one_div, ← zpow_natCast, Int.toNat_of_nonneg (by lia),
      zpow_neg, inv_inv]

lemma two_zpow_pos (t : Int) : (0 : ℚ) < 2 ^ t := zpow_pos (by norm_num) t

lemma lt_of_two_zpow_lt (h : (2 : ℚ) ^ t < 2 ^ t') : t < t' :=
  (zpow_lt_zpow_iff_right₀ (by norm_num)).mp h

/-- The quotient of two natural numbers. -/
def ratio (num den : Nat) : ℚ := num / den

/-- Natural numbers are enough to divide a quotient by a power. -/
lemma ratio_mul_pow (num den : Nat) {b : Nat} (hb : 0 < b) (t : Int) :
    ratio (num * b ^ (-t).toNat) (den * b ^ t.toNat) = ratio num den / b ^ t := by
  have hb' : (b : ℚ) ≠ 0 := by exact_mod_cast hb.ne'
  rw [← pow_toNat_div b t, ratio, ratio]
  push_cast
  field_simp

lemma ratio_rescaled (num den : Nat) (t : Int) :
    ratio (rescaled num den t).1 (rescaled num den t).2 = ratio num den / 2 ^ t :=
  ratio_mul_pow num den (by decide) t

lemma rescaled_den_pos (hd : 0 < den) : 0 < (rescaled num den t).2 :=
  Nat.mul_pos hd (Nat.two_pow_pos _)

/-! ### The nearest whole number -/

lemma nearestEven_bounds (hd : 0 < d) :
    2 * (nearestEven n d * d) ≤ 2 * n + d ∧ 2 * n ≤ 2 * (nearestEven n d * d) + d := by
  have hsum := Nat.div_add_mod' n d
  have hmod := Nat.mod_lt n hd
  have hnext := Nat.add_one_mul (n / d) d
  unfold nearestEven
  dsimp only
  split
  · omega
  · split
    · omega
    · split <;> omega

/-- Rounding moves a quotient by one half at most. -/
lemma abs_nearestEven_sub_le (hd : 0 < d) : |(nearestEven n d : ℚ) - ratio n d| ≤ 1 / 2 := by
  obtain ⟨hlow, hhigh⟩ := nearestEven_bounds (n := n) hd
  have hlow : (2 * (nearestEven n d * d) : ℚ) ≤ 2 * n + d := by exact_mod_cast hlow
  have hhigh : (2 * n : ℚ) ≤ 2 * (nearestEven n d * d) + d := by exact_mod_cast hhigh
  have hd' : (0 : ℚ) < d := by exact_mod_cast hd
  have hratio : (nearestEven n d : ℚ) - ratio n d = (nearestEven n d * d - n) / d := by
    rw [ratio]
    field_simp
  rw [hratio, abs_le, le_div_iff₀ hd', div_le_iff₀ hd']
  constructor <;> linarith

/-- A whole number nearer to a quotient than one half is the nearest one. -/
lemma nearestEven_eq (hd : 0 < d) (h : |(k : ℚ) - ratio n d| < 1 / 2) : nearestEven n d = k := by
  have hnear := abs_nearestEven_sub_le (n := n) hd
  have hdistance : |((nearestEven n d - k : Int) : ℚ)| < 1 := by
    push_cast
    rw [abs_lt] at h ⊢
    rw [abs_le] at hnear
    constructor <;> linarith
  have hzero : (nearestEven n d - k : Int) = 0 := Int.abs_lt_one_iff.mp (by exact_mod_cast hdistance)
  lia

lemma nearestEven_mul_right (hk : 0 < k) : nearestEven (n * k) (d * k) = nearestEven n d := by
  unfold nearestEven
  simp only [Nat.mul_div_mul_right _ _ hk, Nat.mul_mod_mul_right, ← Nat.mul_assoc,
    Nat.mul_lt_mul_right hk]

/-! ### The power of two of a quotient -/

/-- A quotient has a mantissa of 53 bits at the power of two, or a shorter one at the least power. -/
structure IsPower (v : ℚ) (t : Int) : Prop where
  least : -1074 ≤ t
  lt : v < 2 ^ (t + 53)
  le : t = -1074 ∨ 2 ^ (t + 52) ≤ v

lemma IsPower.unique (h : IsPower v t) (h' : IsPower v t') : t = t' := by
  have hle {t t' : Int} (h : IsPower v t) (h' : IsPower v t') : t ≤ t' := by
    rcases h.le with heq | hlow
    · exact heq ▸ h'.least
    · have := lt_of_two_zpow_lt (hlow.trans_lt h'.lt)
      lia
  exact le_antisymm (hle h h') (hle h' h)

/-- Counting bits places a quotient between two powers of two. -/
lemma ratio_bounds (hn : 0 < num) (hd : 0 < den) :
    2 ^ ((num.log2 : Int) - den.log2 - 1) < ratio num den ∧
      ratio num den < 2 ^ ((num.log2 : Int) - den.log2 + 1) := by
  have hnum : (2 ^ num.log2 : ℚ) ≤ num := by exact_mod_cast Nat.log2_self_le (by lia)
  have hnum' : (num : ℚ) < 2 ^ (num.log2 + 1) := by exact_mod_cast Nat.lt_log2_self
  have hden : (2 ^ den.log2 : ℚ) ≤ den := by exact_mod_cast Nat.log2_self_le (by lia)
  have hden' : (den : ℚ) < 2 ^ (den.log2 + 1) := by exact_mod_cast Nat.lt_log2_self
  have hd' : (0 : ℚ) < den := by exact_mod_cast hd
  constructor
  · have hpower : (2 : ℚ) ^ ((num.log2 : Int) - den.log2 - 1) = 2 ^ num.log2 / 2 ^ (den.log2 + 1) := by
      rw [← zpow_natCast, ← zpow_natCast, ← zpow_sub₀ (by norm_num)]
      congr 1
      push_cast
      ring
    rw [hpower]
    exact div_lt_div₀' hnum hden' (by positivity) hd'
  · have hpower : (2 : ℚ) ^ ((num.log2 : Int) - den.log2 + 1) = 2 ^ (num.log2 + 1) / 2 ^ den.log2 := by
      rw [← zpow_natCast, ← zpow_natCast, ← zpow_sub₀ (by norm_num)]
      congr 1
      push_cast
      ring
    rw [hpower]
    exact div_lt_div₀ hnum' hden (by positivity) (by positivity)

lemma ratio_lt_iff (hd : 0 < den) : ratio num den < k ↔ num < k * den := by
  rw [ratio, div_lt_iff₀ (by exact_mod_cast hd)]
  exact_mod_cast Iff.rfl

lemma rescaled_lt_iff (hd : 0 < den) :
    (rescaled num den t).1 < 2 ^ 52 * (rescaled num den t).2 ↔ ratio num den < 2 ^ (t + 52) := by
  rw [← ratio_lt_iff (rescaled_den_pos hd), ratio_rescaled, div_lt_iff₀ (two_zpow_pos t), mul_comm,
    zpow_add₀ (by norm_num) t 52]
  norm_num

lemma isPower_powerOf (hn : 0 < num) (hd : 0 < den) :
    IsPower (ratio num den) (powerOf num den) := by
  obtain ⟨hlow, hhigh⟩ := ratio_bounds hn hd
  unfold powerOf
  dsimp only
  generalize hE : (num.log2 : Int) - den.log2 - 52 = estimate
  have hlow : 2 ^ (estimate - 1 + 52) < ratio num den := by
    convert hlow using 2
    lia
  have hhigh : ratio num den < 2 ^ (estimate + 53) := by
    convert hhigh using 2
    lia
  have hmono {s s' : Int} (h : s ≤ s') : (2 : ℚ) ^ s ≤ 2 ^ s' := zpow_le_zpow_right₀ (by norm_num) h
  -- the power without the bound from below
  obtain ⟨power, hpower, hle, hlt⟩ : ∃ power,
      (if (rescaled num den estimate).1 < 2 ^ 52 * (rescaled num den estimate).2 then estimate - 1
        else estimate) = power ∧
      2 ^ (power + 52) ≤ ratio num den ∧ ratio num den < 2 ^ (power + 53) := by
    by_cases h : ratio num den < 2 ^ (estimate + 52)
    · exact ⟨estimate - 1, if_pos ((rescaled_lt_iff hd).mpr h), hlow.le, by convert h using 2; lia⟩
    · exact ⟨estimate, if_neg (h ∘ (rescaled_lt_iff hd).mp), not_lt.mp h, hhigh⟩
  rw [hpower]
  refine ⟨le_max_left _ _, hlt.trans_le (hmono (by lia)), ?_⟩
  rcases le_total (-1074) power with h | h
  · rw [max_eq_right h]
    exact .inr hle
  · exact .inl (max_eq_left h)

/-- The power of two depends on the quotient only. -/
lemma powerOf_eq (hn : 0 < num) (hd : 0 < den) (h : IsPower (ratio num den) t) :
    powerOf num den = t :=
  (isPower_powerOf hn hd).unique h

/-! ### The nearest number -/

lemma ratio_mul_right (hk : 0 < k) : ratio (num * k) (den * k) = ratio num den := by
  have hk' : (k : ℚ) ≠ 0 := by exact_mod_cast hk.ne'
  rw [ratio, ratio]
  push_cast
  exact mul_div_mul_right _ _ hk'

/-- The number nearest to a quotient depends on the quotient only. -/
lemma ofRatio_mul_right (hd : 0 < den) (hk : 0 < k) :
    ofRatio negative (num * k) (den * k) = ofRatio negative num den := by
  rcases Nat.eq_zero_or_pos num with rfl | hn
  · simp [ofRatio]
  · have hpower : powerOf (num * k) (den * k) = powerOf num den := by
      refine powerOf_eq (Nat.mul_pos hn hk) (Nat.mul_pos hd hk) ?_
      rw [ratio_mul_right hk]
      exact isPower_powerOf hn hd
    have hrescaled (t : Int) : rescaled (num * k) (den * k) t =
        ((rescaled num den t).1 * k, (rescaled num den t).2 * k) := by
      simp only [rescaled, Nat.mul_right_comm]
    unfold ofRatio
    rw [if_neg hn.ne', if_neg (Nat.mul_pos hn hk).ne']
    simp only [hpower, hrescaled, nearestEven_mul_right hk]

/-- The absolute value of a finite number. -/
def value (e : Fin 2047) (f : Fin (2 ^ 52)) : ℚ := mantissa e f * 2 ^ scale e

lemma mantissa_lt (e : Fin 2047) (f : Fin (2 ^ 52)) : mantissa e f < 2 ^ 53 := by
  unfold mantissa
  lia

lemma scale_bounds (e : Fin 2047) : -1074 ≤ scale e ∧ scale e ≤ 971 := by
  unfold scale
  lia

lemma ofMantissa_mantissa (negative : Bool) (e : Fin 2047) (f : Fin (2 ^ 52)) :
    ofMantissa negative (mantissa e f) (scale e) = .finite negative e f := by
  obtain ⟨e, he⟩ := e
  unfold ofMantissa mantissa scale
  by_cases hzero : e = 0
  · subst hzero
    simp
  · have hexponent : (max (e : Int) 1).toNat = e := by lia
    simp [hzero, hexponent, he]

/-- The mantissa is short only at the least power. -/
lemma le_mantissa (h : scale e ≠ -1074) : 2 ^ 52 ≤ mantissa e f := by
  unfold scale at h
  unfold mantissa
  rw [if_neg (by lia)]
  exact Nat.le_add_right _ _

/-- A quotient in units of its power of two is rounded to the whole number next to it. -/
lemma ofRatio_of_units {x : ℚ} (hn : 0 < num) (hd : 0 < den) (hx : ratio num den = x * 2 ^ t)
    (hleast : -1074 ≤ t) (hlt : x < 2 ^ 53) (hle : t = -1074 ∨ 2 ^ 52 ≤ x)
    (hnear : |(k : ℚ) - x| < 1 / 2) :
    ofRatio negative num den =
      if k = 2 ^ 53 then ofMantissa negative (2 ^ 52) (t + 1) else ofMantissa negative k t := by
  have hpow (k : Int) : (2 : ℚ) ^ (t + k) = 2 ^ k * 2 ^ t := by
    rw [zpow_add₀ (by norm_num), mul_comm]
  have hpower : powerOf num den = t := by
    refine powerOf_eq hn hd ⟨hleast, ?_, hle.imp_right fun h => ?_⟩
    · rw [hx, hpow 53]
      exact mul_lt_mul_of_pos_right hlt (two_zpow_pos t)
    · rw [hx, hpow 52]
      exact mul_le_mul_of_nonneg_right h (two_zpow_pos t).le
  have hnearest : nearestEven (rescaled num den t).1 (rescaled num den t).2 = k := by
    refine nearestEven_eq (rescaled_den_pos hd) ?_
    rw [ratio_rescaled, hx, mul_div_cancel_right₀ _ (two_zpow_pos t).ne']
    exact hnear
  unfold ofRatio
  rw [if_neg hn.ne']
  simp only [hpower, hnearest]

/-- A quotient that differs from a number by less than one part in `2 ^ 54` is rounded to it. -/
lemma ofRatio_of_near (hn : 0 < num) (hd : 0 < den)
    (hnear : |ratio num den - value e f| * 2 ^ 54 < value e f) :
    ofRatio negative num den = .finite negative e f := by
  obtain ⟨x, hx⟩ : ∃ x, ratio num den = x * 2 ^ scale e :=
    ⟨ratio num den / 2 ^ scale e, (div_mul_cancel₀ _ (two_zpow_pos _).ne').symm⟩
  -- in units of the last place of the number
  have hunit : |x - mantissa e f| * 2 ^ 54 < mantissa e f := by
    rw [hx, value, ← sub_mul, abs_mul, abs_of_pos (two_zpow_pos _), mul_right_comm] at hnear
    exact lt_of_mul_lt_mul_right hnear (two_zpow_pos _).le
  have hmantissa : (mantissa e f : ℚ) ≤ 2 ^ 53 - 1 := by
    have hlt : mantissa e f + 1 ≤ 2 ^ 53 := mantissa_lt e f
    have hlt : (mantissa e f + 1 : ℚ) ≤ 2 ^ 53 := by exact_mod_cast hlt
    linarith
  have hhalf : |x - mantissa e f| < 1 / 2 := by linarith
  obtain ⟨habove, hbelow⟩ := abs_lt.mp hhalf
  by_cases hcase : scale e = -1074 ∨ 2 ^ 52 ≤ x
  · rw [ofRatio_of_units hn hd hx (scale_bounds e).1 (by linarith) hcase (abs_sub_comm x _ ▸ hhalf),
      if_neg (mantissa_lt e f).ne, ofMantissa_mantissa]
  · -- the number is a power of two and the quotient lies below it, where the places are half as wide
    obtain ⟨hscale, hshort⟩ := not_or.mp hcase
    have hleast : mantissa e f = 2 ^ 52 := by
      refine le_antisymm ?_ (le_mantissa hscale)
      have hlt : (mantissa e f : ℚ) < 2 ^ 52 + 1 := by linarith
      exact Nat.lt_succ_iff.mp (by exact_mod_cast hlt)
    rw [hleast] at hunit
    push_cast at hunit
    have hquarter : |x - 2 ^ 52| < 1 / 4 := by linarith
    obtain ⟨habove, hbelow⟩ := abs_lt.mp hquarter
    have hdouble : ratio num den = x * 2 * 2 ^ (scale e - 1) := by
      rw [hx, mul_assoc, ← zpow_one_add₀ (by norm_num), add_sub_cancel]
    have hbottom : -1074 ≤ scale e - 1 := by
      have := (scale_bounds e).1
      lia
    have hnear : |((2 ^ 53 : Nat) : ℚ) - x * 2| < 1 / 2 := by
      push_cast
      rw [abs_lt]
      constructor <;> linarith
    rw [ofRatio_of_units hn hd hdouble hbottom (by linarith) (.inr (by linarith)) hnear, if_pos rfl,
      sub_add_cancel, ← hleast, ofMantissa_mantissa]

/-! ### Signs -/

/-- The number with another sign. -/
def withSign (negative : Bool) : Binary64 → Binary64
  | .nan          => .nan
  | .infinite _   => .infinite negative
  | .finite _ e f => .finite negative e f

lemma withSign_ofMantissa (negative : Bool) (m : Nat) (t : Int) :
    (ofMantissa false m t).withSign negative = ofMantissa negative m t := by
  unfold ofMantissa
  split
  · rfl
  · dsimp only
    split <;> rfl

lemma withSign_ofRatio (negative : Bool) (num den : Nat) :
    (ofRatio false num den).withSign negative = ofRatio negative num den := by
  unfold ofRatio
  split
  · rfl
  · dsimp only
    split <;> exact withSign_ofMantissa _ _ _

/-- The sign of a decimal is that of the number. -/
lemma withSign_ofDecimal (negative : Bool) (digits : Nat) (power : Int) :
    (ofDecimal false digits power).withSign negative = ofDecimal negative digits power := by
  unfold ofDecimal
  dsimp only
  split
  · rfl
  · split
    · rfl
    · exact withSign_ofRatio _ _ _

/-! ### Decimals -/

variable {digits count : Nat} {power : Int}

/-- The value of a decimal. -/
def decimal (digits : Nat) (power : Int) : ℚ := digits * 10 ^ power

/-- The decimal is one quotient of natural numbers. -/
lemma ratio_decimal (digits : Nat) (power : Int) :
    ratio (digits * 10 ^ power.toNat) (10 ^ (-power).toNat) = decimal digits power := by
  rw [decimal, ← pow_toNat_div 10 power, ratio]
  push_cast
  rw [mul_div_assoc]

lemma length_toDigits_le_iff (hcount : 0 < count) :
    (Nat.toDigits 10 digits).length ≤ count ↔ digits < 10 ^ count :=
  Nat.length_toDigits_le_iff (by decide) hcount

lemma length_toDigits_mul_pow (hdigits : 0 < digits) (k : Nat) :
    (Nat.toDigits 10 (digits * 10 ^ k)).length = (Nat.toDigits 10 digits).length + k := by
  have hbound (n : Nat) : n < 10 ^ (Nat.toDigits 10 n).length :=
    (length_toDigits_le_iff Nat.length_toDigits_pos).mp le_rfl
  apply le_antisymm
  · rw [length_toDigits_le_iff (Nat.add_pos_left Nat.length_toDigits_pos k), pow_add]
    exact Nat.mul_lt_mul_of_pos_right (hbound digits) (by positivity)
  · have hlong := hbound (digits * 10 ^ k)
    generalize (Nat.toDigits 10 (digits * 10 ^ k)).length = count at hlong
    have hk : k < count :=
      (Nat.pow_lt_pow_iff_right (by decide)).mp ((Nat.le_mul_of_pos_left _ hdigits).trans_lt hlong)
    obtain ⟨more, rfl⟩ := Nat.exists_eq_add_of_lt hk
    rw [(by lia : k + more + 1 = more + 1 + k), pow_add] at hlong
    have hshort := Nat.lt_of_mul_lt_mul_right hlong
    have := (length_toDigits_le_iff (Nat.succ_pos more)).mpr hshort
    lia

/-- Zeros at the end of the digits may be counted in the power. -/
lemma ofDecimal_mul_pow (negative : Bool) (digits k : Nat) (power : Int) :
    ofDecimal negative (digits * 10 ^ k) power = ofDecimal negative digits (power + k) := by
  rcases Nat.eq_zero_or_pos digits with rfl | hdigits
  · simp [ofDecimal]
  · have hten : 0 < 10 ^ k := Nat.pow_pos (by decide)
    have hsize : power + (Nat.toDigits 10 (digits * 10 ^ k)).length =
        power + k + (Nat.toDigits 10 digits).length := by
      rw [length_toDigits_mul_pow hdigits]
      lia
    obtain ⟨i, hnum, hden⟩ : ∃ i, k + power.toNat = (power + k).toNat + i ∧
        (-power).toNat = (-(power + k)).toNat + i :=
      ⟨k + power.toNat - (power + k).toNat, by lia, by lia⟩
    have hratio : ofRatio negative (digits * 10 ^ k * 10 ^ power.toNat) (10 ^ (-power).toNat) =
        ofRatio negative (digits * 10 ^ (power + k).toNat) (10 ^ (-(power + k)).toNat) := by
      rw [Nat.mul_assoc, ← pow_add, hnum, hden, pow_add, pow_add, ← Nat.mul_assoc]
      exact ofRatio_mul_right (Nat.pow_pos (by decide)) (Nat.pow_pos (by decide))
    unfold ofDecimal
    simp only [hsize, hratio, Nat.mul_eq_zero, hten.ne', or_false]

lemma decimal_bounds (hdigits : 0 < digits) (power : Int) :
    10 ^ (power + (Nat.toDigits 10 digits).length - 1) ≤ decimal digits power ∧
      decimal digits power < 10 ^ (power + (Nat.toDigits 10 digits).length) := by
  have hten : (0 : ℚ) < 10 ^ power := zpow_pos (by norm_num) power
  have hlength := Nat.length_toDigits_pos (b := 10) (n := digits)
  have hiff {count : Nat} (hcount : 0 < count) :
      (Nat.toDigits 10 digits).length ≤ count ↔ digits < 10 ^ count := length_toDigits_le_iff hcount
  generalize (Nat.toDigits 10 digits).length = count at hlength hiff ⊢
  obtain ⟨count, rfl⟩ := Nat.exists_eq_succ_of_ne_zero hlength.ne'
  have hhigh : digits < 10 ^ (count + 1) := (hiff hlength).mp le_rfl
  have hlow : 10 ^ count ≤ digits := by
    rcases Nat.eq_zero_or_pos count with rfl | hcount
    · exact hdigits
    · exact Nat.not_lt.mp fun h => absurd ((hiff hcount).mpr h) (by lia)
  have hlow : (10 ^ count : ℚ) ≤ digits := by exact_mod_cast hlow
  have hhigh : (digits : ℚ) < 10 ^ (count + 1) := by exact_mod_cast hhigh
  rw [decimal, Nat.cast_succ, ← add_assoc, add_sub_cancel_right, add_assoc, ← Nat.cast_succ,
    zpow_add₀ (by norm_num), zpow_add₀ (by norm_num), zpow_natCast, zpow_natCast,
    mul_comm (digits : ℚ)]
  exact ⟨mul_le_mul_of_nonneg_left hlow hten.le, mul_lt_mul_of_pos_left hhigh hten⟩

/-- Three bits make less than one decimal digit. -/
lemma two_pow_le_ten_pow (k : Nat) : (2 : ℚ) ^ (3 * k : Int) ≤ 10 ^ (k : Int) := by
  rw [zpow_mul, zpow_natCast, zpow_natCast]
  exact pow_le_pow_left₀ (by norm_num) (by norm_num) k

lemma value_bounds (hpos : 0 < value e f) :
    2 ^ (-1074 : Int) ≤ value e f ∧ value e f < 2 ^ (1024 : Int) := by
  obtain ⟨hlow, hhigh⟩ := scale_bounds e
  have hmantissa : 1 ≤ mantissa e f := by
    refine Nat.one_le_iff_ne_zero.mpr fun hzero => ?_
    rw [value, hzero, Nat.cast_zero, zero_mul] at hpos
    exact lt_irrefl _ hpos
  have hone : (1 : ℚ) ≤ mantissa e f := by exact_mod_cast hmantissa
  have hlt : (mantissa e f : ℚ) < 2 ^ (53 : Int) := by exact_mod_cast mantissa_lt e f
  constructor
  · calc (2 : ℚ) ^ (-1074 : Int) ≤ 2 ^ scale e := zpow_le_zpow_right₀ (by norm_num) hlow
      _ ≤ value e f := le_mul_of_one_le_left (two_zpow_pos _).le hone
  · calc value e f < 2 ^ (53 : Int) * 2 ^ scale e := mul_lt_mul_of_pos_right hlt (two_zpow_pos _)
      _ = 2 ^ (53 + scale e) := (zpow_add₀ (by norm_num) _ _).symm
      _ ≤ 2 ^ (1024 : Int) := zpow_le_zpow_right₀ (by norm_num) (by lia)

/-- A decimal that differs from a number by less than one part in `2 ^ 54` is rounded to it. -/
lemma ofDecimal_of_near (hnear : |decimal digits power - value e f| * 2 ^ 54 < value e f) :
    ofDecimal negative digits power = .finite negative e f := by
  have hpos : 0 < value e f := lt_of_le_of_lt (by positivity) hnear
  have hhalf : |decimal digits power - value e f| < value e f / 2 := by linarith
  obtain ⟨habove, hbelow⟩ := abs_lt.mp hhalf
  have hdigits : 0 < digits := by
    refine Nat.pos_of_ne_zero ?_
    rintro rfl
    simp only [decimal, Nat.cast_zero, zero_mul] at habove
    linarith
  obtain ⟨hvlow, hvhigh⟩ := value_bounds hpos
  obtain ⟨hlow, hhigh⟩ := decimal_bounds hdigits power
  have hmono {s s' : Int} : (10 : ℚ) ^ s < 10 ^ s' → s < s' :=
    (zpow_lt_zpow_iff_right₀ (by norm_num)).mp
  unfold ofDecimal
  dsimp only
  generalize power + ((Nat.toDigits 10 digits).length : Int) = size at hlow hhigh ⊢
  have hleast : -401 < size := by
    refine hmono (lt_trans ?_ hhigh)
    calc (10 : ℚ) ^ (-401 : Int) = ((10 : ℚ) ^ ((401 : Nat) : Int))⁻¹ := zpow_neg _ _
      _ ≤ ((2 : ℚ) ^ (3 * (401 : Nat) : Int))⁻¹ := inv_anti₀ (two_zpow_pos _) (two_pow_le_ten_pow 401)
      _ = 2 ^ (-1203 : Int) := (zpow_neg _ _).symm
      _ ≤ 2 ^ (-1074 - 1 : Int) := zpow_le_zpow_right₀ (by norm_num) (by norm_num)
      _ = 2 ^ (-1074 : Int) * 2⁻¹ := zpow_sub_one₀ (by norm_num) _
      _ ≤ value e f * 2⁻¹ := mul_le_mul_of_nonneg_right hvlow (by norm_num)
      _ < decimal digits power := by linarith only [habove]
  have hgreatest : size - 1 < 400 := by
    refine hmono (lt_of_le_of_lt hlow ?_)
    calc decimal digits power < 2 * value e f := by linarith only [hbelow, hpos]
      _ < 2 * 2 ^ (1024 : Int) := mul_lt_mul_of_pos_left hvhigh (by norm_num)
      _ = 2 ^ (1 + 1024 : Int) := (zpow_one_add₀ (by norm_num) _).symm
      _ ≤ 2 ^ (3 * (400 : Nat) : Int) := zpow_le_zpow_right₀ (by norm_num) (by norm_num)
      _ ≤ 10 ^ (400 : Int) := two_pow_le_ten_pow 400
  rw [if_neg (by lia), if_neg (by lia)]
  refine ofRatio_of_near (Nat.mul_pos hdigits (Nat.pow_pos (by decide))) (Nat.pow_pos (by decide)) ?_
  rw [ratio_decimal]
  exact hnear

end ChainRpc.Binary64
