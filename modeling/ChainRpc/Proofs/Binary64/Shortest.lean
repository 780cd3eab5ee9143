import ChainRpc.Proofs.Binary64.Rounding
import ChainRpc.Binary64.Shortest
import ChainRpc.Proofs.Text.Digits

/-!
# The shortest decimal is found

The search for the shortest decimal of a number never runs out: the decimal point is placed so that
seventeen digits form a grid on which the decimal next to the number is rounded to it. So what is found
reads back as the number, and still does without the zeros at its end.
-/

namespace ChainRpc.Binary64

variable {num den fuel count last : Nat} {x : Binary64} {point grid : Int} {e : Fin 2047}
  {f : Fin (2 ^ 52)}

/-! ### The decimal point -/

lemma mul_lt_mul_iff_ratio (hd : 0 < den) (p : Int) :
    num * 10 ^ (-p).toNat < den * 10 ^ p.toNat ↔ ratio num den < 10 ^ p := by
  have hten : (0 : ℚ) < 10 ^ p := zpow_pos (by norm_num) p
  have hpos : 0 < den * 10 ^ p.toNat := Nat.mul_pos hd (Nat.pow_pos (by decide))
  rw [← Nat.one_mul (den * _), ← ratio_lt_iff hpos, ratio_mul_pow num den (by decide), Nat.cast_one,
    Nat.cast_ofNat, div_lt_one hten]

/-- The search ends where it starts, or behind a power that the quotient reaches. -/
lemma pointFrom_cases (num : Nat) (hd : 0 < den) (fuel : Nat) (p : Int) :
    pointFrom fuel num den p = p ∨ 10 ^ (pointFrom fuel num den p - 1) ≤ ratio num den := by
  induction fuel generalizing p with
  | zero => exact .inl rfl
  | succ fuel ih =>
    rw [pointFrom]
    split
    · exact .inl rfl
    · next h =>
      have hreached := not_lt.mp (h ∘ (mul_lt_mul_iff_ratio hd p).mpr)
      rcases ih (p + 1) with heq | hle
      · rw [heq, add_sub_cancel_right]
        exact .inr hreached
      · exact .inr hle

lemma ten_zpow_le_two_zpow {p q : Nat} {k b : Int} (hq : q ≠ 0)
    (hpow : ((10 : ℚ) ^ p) ^ b ≤ (2 ^ q) ^ b) (hk : k * q ≤ p * b) : (10 : ℚ) ^ k ≤ 2 ^ b := by
  refine (pow_le_pow_iff_left₀ (zpow_pos (by norm_num) k).le (two_zpow_pos b).le hq).mp ?_
  calc ((10 : ℚ) ^ k) ^ q = 10 ^ (k * q) := by rw [zpow_mul, zpow_natCast]
    _ ≤ 10 ^ (p * b) := zpow_le_zpow_right₀ (by norm_num) hk
    _ = ((10 : ℚ) ^ p) ^ b := by rw [zpow_mul, zpow_natCast]
    _ ≤ (2 ^ q) ^ b := hpow
    _ = ((2 : ℚ) ^ b) ^ q := by rw [← zpow_natCast, ← zpow_mul, mul_comm, zpow_mul, zpow_natCast]

/-- The estimate of the decimal digits from the bits is two digits low at most. -/
lemma ten_zpow_estimate_le {b : Int} (hlow : -1100 ≤ b) (hhigh : b ≤ 1100) :
    (10 : ℚ) ^ (Int.fdiv (b * 30103) 100000 - 2) ≤ 2 ^ b := by
  rcases le_total 0 b with hb | hb
  · refine ten_zpow_le_two_zpow (p := 3) (q := 10) (by decide) ?_ ?_
    · exact zpow_le_zpow_left₀ hb (by norm_num) (by norm_num)
    · rw [Int.fdiv_eq_ediv_of_nonneg _ (by decide)]
      lia
  · refine ten_zpow_le_two_zpow (p := 28) (q := 93) (by decide) ?_ ?_
    · have hinv : ((2 : ℚ) ^ 93) ^ (-b) ≤ (10 ^ 28) ^ (-b) :=
        zpow_le_zpow_left₀ (by lia) (by norm_num) (by norm_num)
      rwa [zpow_neg, zpow_neg, inv_le_inv₀ (by positivity) (by positivity)] at hinv
    · rw [Int.fdiv_eq_ediv_of_nonneg _ (by decide)]
      lia

lemma ratio_magnitude (e : Fin 2047) (f : Fin (2 ^ 52)) :
    ratio (magnitude e f).1 (magnitude e f).2 = value e f := by
  rw [value, ← pow_toNat_div 2 (scale e), magnitude, ratio]
  push_cast
  rw [mul_div_assoc]

lemma magnitude_den_pos (e : Fin 2047) (f : Fin (2 ^ 52)) : 0 < (magnitude e f).2 :=
  Nat.two_pow_pos _

lemma value_pos (h : mantissa e f ≠ 0) : 0 < value e f :=
  mul_pos (by exact_mod_cast Nat.pos_of_ne_zero h) (two_zpow_pos _)

/-- The digit in front of the decimal point is not too far to the left. -/
lemma ten_zpow_pointOf_le (h : mantissa e f ≠ 0) :
    10 ^ (pointOf (magnitude e f).1 (magnitude e f).2 - 1) ≤ value e f := by
  have hvalue := value_bounds (value_pos h)
  have hd := magnitude_den_pos e f
  have hn : 0 < (magnitude e f).1 := Nat.mul_pos (Nat.pos_of_ne_zero h) (Nat.two_pow_pos _)
  have hbits := ratio_bounds hn hd
  unfold pointOf
  rw [← ratio_magnitude] at hvalue ⊢
  generalize (magnitude e f).1 = num at *
  generalize (magnitude e f).2 = den at *
  generalize (num.log2 : Int) - den.log2 = bits at *
  have hlow : bits - 1 < 1024 := lt_of_two_zpow_lt (hbits.1.trans hvalue.2)
  have hhigh : -1074 < bits + 1 := lt_of_two_zpow_lt (hvalue.1.trans_lt hbits.2)
  rcases pointFrom_cases num hd 4 (Int.fdiv ((bits - 1) * 30103) 100000 - 1) with heq | hle
  · rw [heq, sub_sub]
    exact (ten_zpow_estimate_le (by lia) (by lia)).trans hbits.1.le
  · exact hle

/-! ### Digits that read back -/

lemma ofDecimal_of_mem_candidates {c : Nat} (h : c ∈ candidates x num den grid) :
    ofDecimal false c grid = x :=
  of_decide_eq_true (List.mem_filter.mp h).2

/-- On a grid of a tenth of a quadrillionth, the decimal next to a number is rounded to it. -/
lemma candidates_ne_nil (hgrid : 10 ^ (grid + 16) ≤ value e f) :
    candidates (.finite false e f) (magnitude e f).1 (magnitude e f).2 grid ≠ [] := by
  have hten : (0 : ℚ) < 10 ^ grid := zpow_pos (by norm_num) grid
  have hnear := abs_nearestEven_sub_le (n := (magnitude e f).1 * 10 ^ (-grid).toNat)
    (Nat.mul_pos (magnitude_den_pos e f) (Nat.pow_pos (n := grid.toNat) (by decide : 0 < 10)))
  rw [ratio_mul_pow _ _ (by decide), ratio_magnitude, Nat.cast_ofNat] at hnear
  have hread : ofDecimal false (nearestEven ((magnitude e f).1 * 10 ^ (-grid).toNat)
      ((magnitude e f).2 * 10 ^ grid.toNat)) grid = .finite false e f := by
    apply ofDecimal_of_near
    unfold decimal
    generalize nearestEven _ _ = near at hnear ⊢
    have hscaled : (near : ℚ) * 10 ^ grid - value e f = (near - value e f / 10 ^ grid) * 10 ^ grid := by
      field_simp
    rw [zpow_add₀ (by norm_num)] at hgrid
    rw [hscaled, abs_mul, abs_of_pos hten]
    calc |near - value e f / 10 ^ grid| * 10 ^ grid * 2 ^ 54
        ≤ 1 / 2 * 10 ^ grid * 2 ^ 54 := by gcongr
      _ < 10 ^ grid * 10 ^ (16 : Int) := by linarith
      _ ≤ value e f := hgrid
  exact List.ne_nil_of_mem (List.mem_filter.mpr ⟨List.mem_cons_self, decide_eq_true hread⟩)

lemma ofDecimal_shortestFrom (hle : count ≤ last) (hfuel : last < count + fuel)
    (hlast : candidates x num den (point - last) ≠ []) :
    ofDecimal false (shortestFrom x num den point fuel count).1
      (shortestFrom x num den point fuel count).2 = x := by
  induction fuel generalizing count with
  | zero => lia
  | succ fuel ih =>
    rw [shortestFrom]
    cases hc : candidates x num den (point - count) with
    | cons c more => exact ofDecimal_of_mem_candidates (hc ▸ List.mem_cons_self)
    | nil =>
      have hne : count ≠ last := by
        rintro rfl
        exact hlast hc
      exact ih (by lia) (by lia)

/-- Digits with a decimal point at a position stand for a number, and the first one is no zero. -/
structure StandFor (digits : Text) (point : Int) (x : Binary64) : Prop where
  isDigit : ∀ c ∈ digits, c.IsDigit
  ne_nil : digits ≠ []
  head : digits.head? ≠ some CodePoint.zero
  reads : ofDecimal false (Text.digitsValue digits) (point - digits.length) = x

/-- The shortest digits of a number stand for it. -/
lemma standFor_shortest (h : mantissa e f ≠ 0) :
    StandFor (shortest e f).1 (shortest e f).2 (.finite false e f) := by
  have hlast : candidates (.finite false e f) (magnitude e f).1 (magnitude e f).2
      (pointOf (magnitude e f).1 (magnitude e f).2 - (17 : Nat)) ≠ [] := by
    apply candidates_ne_nil
    convert ten_zpow_pointOf_le h using 2
    lia
  have hreads := ofDecimal_shortestFrom (by decide : 1 ≤ 17) (by decide : 17 < 1 + 17) hlast
  unfold shortest
  dsimp only
  generalize shortestFrom _ _ _ _ _ _ = found at hreads ⊢
  obtain ⟨c, grid⟩ := found
  dsimp only at hreads ⊢
  have hc : 0 < c := by
    refine Nat.pos_of_ne_zero ?_
    rintro rfl
    obtain ⟨rfl, rfl⟩ : 0 = e ∧ 0 = f := by simpa [ofDecimal] using hreads
    exact h rfl
  obtain ⟨k, hzeros⟩ := Text.exists_eq_append_zeros (Text.ofNat c)
  generalize (((Text.ofNat c).reverse.dropWhile _).reverse) = digits at hzeros ⊢
  have hhead := Text.head?_ofNat hc
  have hne : digits ≠ [] := by
    rintro rfl
    cases k with
    | zero => exact Text.ofNat_ne_nil c hzeros
    | succ k => exact hhead (by rw [hzeros]; rfl)
  refine ⟨fun d hd => ?_, hne, ?_, ?_⟩
  · exact Text.isDigit_of_mem_ofNat (hzeros ▸ List.mem_append_left _ hd)
  · rwa [hzeros, List.head?_append_of_ne_nil _ hne] at hhead
  · have hvalue := congrArg Text.digitsValue hzeros
    rw [Text.digitsValue_ofNat, Text.digitsValue_append_zeros] at hvalue
    rw [hzeros, List.length_append, List.length_replicate]
    rw [hvalue, ofDecimal_mul_pow] at hreads
    convert hreads using 2
    push_cast
    ring

end ChainRpc.Binary64
