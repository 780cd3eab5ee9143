import ChainRpc.Proofs.Checked
import ChainRpc.Proofs.Text.Whole
import ChainRpc.Text.Detect

/-!
# What bytes decode to

Whatever encoding a body turns out to have, the numbers that its bytes encode are within the range of
Unicode, halves of surrogate pairs among them.
-/

namespace ChainRpc

/-- The code points of the text are within the range of Unicode. -/
abbrev Text.InRange (t : Text) : Prop := ∀ c ∈ t, c < 0x110000

namespace Text.InRange

variable {c : CodePoint} {t u : Text}

lemma cons (hc : c < 0x110000) (ht : t.InRange) : InRange (c :: t) :=
  List.forall_mem_cons.mpr ⟨hc, ht⟩

lemma reverse (h : t.InRange) : InRange t.reverse :=
  fun c hc => h c (List.mem_reverse.mp hc)

lemma of_subset (h : t.InRange) (hsub : u ⊆ t) : u.InRange :=
  fun c hc => h c (hsub hc)

lemma drop (h : t.InRange) (n : Nat) : InRange (t.drop n) :=
  h.of_subset (List.drop_subset n t)

lemma tail (h : InRange (c :: t)) : t.InRange :=
  h.drop 1

end Text.InRange

lemma Text.IsScalar.inRange {t : Text} (h : t.IsScalar) : t.InRange :=
  fun c hc => (h c hc).1

lemma CodePoint.ofPair_lt {high low : CodePoint} (hhigh : high.IsHighSurrogate)
    (hlow : low.IsLowSurrogate) : ofPair high low < 0x110000 := by
  unfold ofPair
  lia

/-! ### UTF-8 -/

namespace Utf8

/-- Whatever bytes follow within their bounds, a code point within the range of Unicode comes of the bits
read so far. -/
def Bounded : (later low high value : Nat) → Prop
  | 0, low, high, value => ∀ b, low ≤ b → b ≤ high → value * 0x40 + b % 0x40 < 0x110000
  | later + 1, low, high, value =>
    ∀ b, low ≤ b → b ≤ high → Bounded later 0x80 0xBF (value * 0x40 + b % 0x40)

lemma bounded_ofFirst? {b : UInt8} {p : Pending} (h : Pending.ofFirst? true b = some p) :
    Bounded p.later p.low p.high p.value := by
  have hb := b.toNat_lt
  simp only [Pending.ofFirst?, Bool.true_eq_false, and_false, if_false] at h
  split at h
  · cases h
  split at h
  · cases h
    simp only [Bounded]
    omega
  split at h
  · cases h
    simp only [Bounded]
    omega
  split at h
  · cases h
    simp only [Bounded]
    omega
  split at h
  · cases h
    simp only [Bounded]
    omega
  split at h
  · cases h
    simp only [Bounded]
    omega
  split at h
  · cases h
    simp only [Bounded]
    omega
  · cases h

/-- The machine adds nothing beyond the range of Unicode to what it has read. -/
lemma inRange_of_decodeFrom {state : Option Pending} {position : Nat} {read : Text} {raw : Bytes}
    {t : Text} (hstate : ∀ p, state = some p → Bounded p.later p.low p.high p.value)
    (hread : read.InRange) (h : decodeFrom true state position read raw = .ok t) : t.InRange := by
  induction raw generalizing state position read with
  | nil =>
    cases state with
    | none =>
      cases h
      exact hread.reverse
    | some p => cases h
  | cons b rest ih =>
    cases state with
    | none =>
      rw [decodeFrom] at h
      split at h
      · next hb =>
        have hb' : b.toNat < 0x80 := UInt8.lt_iff_toNat_lt.mp hb
        exact ih (by rintro _ ⟨⟩) (.cons (by lia) hread) h
      · split at h
        · cases h
        · next p hp =>
          refine ih (fun q hq => ?_) hread h
          cases hq
          exact bounded_ofFirst? hp
    | some p =>
      have hp := hstate p rfl
      rw [decodeFrom] at h
      split at h
      · next hbounds =>
        obtain ⟨first, seen, later, low, high, value⟩ := p
        dsimp only at h hp hbounds
        cases later with
        | zero => exact ih (by rintro _ ⟨⟩) (.cons (hp b.toNat hbounds.1 hbounds.2) hread) h
        | succ later =>
          refine ih (fun q hq => ?_) hread h
          cases hq
          exact hp b.toNat hbounds.1 hbounds.2
      · cases h

lemma inRange_of_decodeAll {raw : Bytes} {t : Text} (h : decodeAll raw = .ok t) : t.InRange :=
  inRange_of_decodeFrom (by rintro _ ⟨⟩) (by rintro _ ⟨⟩) h

end Utf8

/-! ### Wider units -/

namespace Utf16

lemma unit_lt (order : ByteOrder) (a b : UInt8) : unit order a b < 0x10000 := by
  have ha := a.toNat_lt
  have hb := b.toNat_lt
  cases order <;> rw [unit] <;> omega

lemma lt_of_mem_units {order : ByteOrder} {position : Nat} {raw : Bytes} {us : List Nat}
    (h : units order position raw = .ok us) : ∀ u ∈ us, u < 0x10000 := by
  induction position, raw using units.induct generalizing us with
  | case1 position =>
    cases h
    exact List.forall_mem_nil _
  | case2 position a => cases h
  | case3 position a b rest ih =>
    rw [units] at h
    obtain ⟨vs, hvs, heq⟩ := Checked.bind_eq_ok_iff.mp h
    cases heq
    exact List.forall_mem_cons.mpr ⟨unit_lt order a b, ih hvs⟩

lemma inRange_pair {us : List Nat} (h : ∀ u ∈ us, u < 0x10000) : (pair us).InRange := by
  induction us using pair.induct with
  | case1 => exact List.forall_mem_nil _
  | case2 u => exact fun c hc => Nat.lt_trans (h c hc) (by decide)
  | case3 u v rest hpair ih =>
    rw [pair, if_pos hpair]
    have hrest : ∀ u ∈ rest, u < 0x10000 := fun w hw => h w (by simp [hw])
    exact .cons (CodePoint.ofPair_lt hpair.1 hpair.2) (ih hrest)
  | case4 u v rest hpair ih =>
    obtain ⟨hu, hrest⟩ := List.forall_mem_cons.mp h
    rw [pair, if_neg hpair]
    exact .cons (Nat.lt_trans hu (by decide)) (ih hrest)

lemma inRange_of_decode {order : ByteOrder} {position : Nat} {raw : Bytes} {t : Text}
    (h : decode order position raw = .ok t) : t.InRange := by
  obtain ⟨us, hus, heq⟩ := Checked.bind_eq_ok_iff.mp h
  cases heq
  exact inRange_pair (lt_of_mem_units hus)

end Utf16

lemma Utf32.inRange_of_decode {order : ByteOrder} {position : Nat} {raw : Bytes} {t : Text}
    (h : decode order position raw = .ok t) : t.InRange := by
  induction position, raw using decode.induct order generalizing t with
  | case1 position a b c d rest hunit ih =>
    rw [decode, if_pos hunit] at h
    obtain ⟨u, hu, heq⟩ := Checked.bind_eq_ok_iff.mp h
    cases heq
    exact .cons hunit (ih hu)
  | case2 position a b c d rest hunit =>
    rw [decode, if_neg hunit] at h
    cases h
  | case3 position =>
    cases h
    exact List.forall_mem_nil _
  | case4 position a rest hshort =>
    rw [decode] at h
    · cases h
    · exact hshort

/-! ### Bodies -/

/-- What a body decodes to is within the range of Unicode. -/
lemma Encoded.inRange_of_decode {raw : Bytes} {t : Text} (h : decode raw = .ok t) : t.InRange := by
  have hdecodeAs {position : Nat} {codec : Codec} {raw : Bytes}
      (h : decodeAs position codec raw = .ok t) : t.InRange := by
    cases codec with
    | utf8 => exact Utf8.inRange_of_decodeAll h
    | utf16le => exact Utf16.inRange_of_decode h
    | utf16be => exact Utf16.inRange_of_decode h
    | utf32le => exact Utf32.inRange_of_decode h
    | utf32be => exact Utf32.inRange_of_decode h
  unfold decode at h
  split at h <;> exact hdecodeAs h

end ChainRpc
