import ChainRpc.Text.Utf8
import Mathlib.Tactic.Common

/-!
# Texts without surrogates

A text that holds no half of a surrogate pair has a UTF-8 form. Texts of characters are of this kind, and so
is whatever is decoded from UTF-8.
-/

namespace ChainRpc

namespace Text

/-- No half of a surrogate pair stands in the text. -/
abbrev IsWhole (t : Text) : Prop := ∀ c ∈ t, ¬ c.IsSurrogate

lemma IsScalar.isWhole {t : Text} (h : t.IsScalar) : t.IsWhole := fun c hc => (h c hc).2

namespace IsWhole

variable {t : Text}

lemma cons {c : CodePoint} (hc : ¬ c.IsSurrogate) (ht : t.IsWhole) : IsWhole (c :: t) :=
  List.forall_mem_cons.mpr ⟨hc, ht⟩

lemma legible (t : Text) : IsWhole t.legible := by
  intro c hc
  obtain ⟨d, _, hd⟩ := List.mem_flatMap.mp hc
  split at hd
  · obtain rfl := List.eq_of_mem_replicate hd
    decide
  · next h =>
    obtain rfl := List.mem_singleton.mp hd
    exact h

end IsWhole

end Text

/-! ### Decoded texts -/

namespace Utf8

/-- Whatever bytes follow within their bounds, no surrogate comes of the bits read so far: the last but
one step leads out of the range of surrogates. -/
def Sound : (later low high value : Nat) → Prop
  | 0, _, _, value => value < 0x360 ∨ 0x380 ≤ value
  | later + 1, low, high, value =>
    ∀ b, low ≤ b → b ≤ high → Sound later 0x80 0xBF (value * 0x40 + b % 0x40)

lemma sound_ofFirst? {b : UInt8} {p : Pending} (h : Pending.ofFirst? false b = some p) :
    Sound p.later p.low p.high p.value := by
  have hb := b.toNat_lt
  simp only [Pending.ofFirst?] at h
  split at h
  · cases h
  split at h
  · cases h
    simp only [Sound]
    omega
  split at h
  · cases h
    simp only [Sound]
    omega
  split at h
  · cases h
    simp only [Sound]
    omega
  split at h
  · next hED _ =>
    cases h
    simp only [and_true] at hED
    simp only [Sound]
    omega
  split at h
  · cases h
    simp only [Sound]
    omega
  split at h
  · cases h
    simp only [Sound]
    omega
  split at h
  · cases h
    simp only [Sound]
    omega
  · cases h

/-- The machine adds no surrogate to what it has read. -/
lemma isWhole_of_decodeFrom {state : Option Pending} {position : Nat} {read : Text} {raw : Bytes}
    {t : Text} (hstate : ∀ p, state = some p → Sound p.later p.low p.high p.value)
    (hread : read.IsWhole) (h : decodeFrom false state position read raw = .ok t) : t.IsWhole := by
  induction raw generalizing state position read with
  | nil =>
    cases state with
    | none =>
      cases h
      exact fun c hc => hread c (List.mem_reverse.mp hc)
    | some p => cases h
  | cons b rest ih =>
    cases state with
    | none =>
      rw [decodeFrom] at h
      split at h
      · next hb =>
        have hb' : b.toNat < 0x80 := UInt8.lt_iff_toNat_lt.mp hb
        exact ih (by rintro _ ⟨⟩) (.cons (fun hs => absurd hs.1 (by lia)) hread) h
      · split at h
        · cases h
        · next p hp =>
          refine ih (fun q hq => ?_) hread h
          cases hq
          exact sound_ofFirst? hp
    | some p =>
      have hp := hstate p rfl
      rw [decodeFrom] at h
      split at h
      · next hbounds =>
        obtain ⟨first, seen, later, low, high, value⟩ := p
        dsimp only at h hp hbounds
        cases later with
        | zero =>
          refine ih (by rintro _ ⟨⟩) (.cons (fun hs => ?_) hread) h
          simp only [Sound] at hp
          lia
        | succ later =>
          refine ih (fun q hq => ?_) hread h
          cases hq
          exact hp b.toNat hbounds.1 hbounds.2
      · cases h

/-- What is decoded from UTF-8 holds no surrogates. -/
lemma isWhole_of_decode {raw : Bytes} {t : Text} (h : decode raw = .ok t) : t.IsWhole :=
  isWhole_of_decodeFrom (by rintro _ ⟨⟩) (by rintro _ ⟨⟩) h

/-- No surrogates are found in whole texts, and in no others. -/
lemma firstSurrogates_eq_none_iff {t : Text} {start : Nat} :
    firstSurrogates start t = none ↔ t.IsWhole := by
  induction t generalizing start with
  | nil => exact iff_of_true rfl nofun
  | cons c rest ih =>
    rw [firstSurrogates, Text.IsWhole, List.forall_mem_cons]
    split
    · next hc => exact iff_of_false nofun fun h => h.1 hc
    · next hc => rw [ih, and_iff_right hc]

lemma firstSurrogates_of_isWhole {t : Text} (h : t.IsWhole) (start : Nat) :
    firstSurrogates start t = none :=
  firstSurrogates_eq_none_iff.mpr h

end Utf8

end ChainRpc
