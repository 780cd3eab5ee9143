import ChainRpc.Text.Utf8
import Mathlib.Tactic.Common

/-!
# Reading back what was written in UTF-8

The machine that decodes takes the bytes of a character in one go: from between two characters it comes
to stand behind it. So a text of characters is read back from its bytes.
-/

namespace ChainRpc.Utf8

variable {surrogates : Bool}

/-! ### Single bytes -/

lemma toNat_ofNat_of_lt {n : Nat} (h : n < 256) : (UInt8.ofNat n).toNat = n := by
  rw [UInt8.toNat_ofNat']
  omega

lemma decodeFrom_first {n : Nat} {p : Pending} (h : n < 256) (h' : 128 ≤ n)
    (hp : Pending.ofFirst? surrogates (.ofNat n) = some p) (position : Nat) (read : Text)
    (rest : Bytes) :
    decodeFrom surrogates none position read (.ofNat n :: rest) =
      decodeFrom surrogates (some p) (position + 1) read rest := by
  have hb : ¬ UInt8.ofNat n < 0x80 := by
    rw [UInt8.lt_iff_toNat_lt, toNat_ofNat_of_lt h]
    exact Nat.not_lt.mpr h'
  rw [decodeFrom, if_neg hb, hp]

lemma decodeFrom_last {p : Pending} {n : Nat} (h : n < 64) (hl : p.low ≤ 128 + n)
    (hh : 128 + n ≤ p.high) (hp : p.later = 0) (position : Nat) (read : Text) (rest : Bytes) :
    decodeFrom surrogates (some p) position read (.ofNat (0x80 + n) :: rest) =
      decodeFrom surrogates none (position + 1) ((p.value * 64 + n) :: read) rest := by
  have e : (UInt8.ofNat (0x80 + n)).toNat = 0x80 + n := toNat_ofNat_of_lt (by omega)
  have e' : (128 + n) % 64 = n := by omega
  rw [decodeFrom, e, if_pos ⟨hl, hh⟩, e']
  simp only [hp]

lemma decodeFrom_middle {p : Pending} {n later : Nat} (h : n < 64) (hl : p.low ≤ 128 + n)
    (hh : 128 + n ≤ p.high) (hp : p.later = later + 1) (position : Nat) (read : Text)
    (rest : Bytes) :
    decodeFrom surrogates (some p) position read (.ofNat (0x80 + n) :: rest) =
      decodeFrom surrogates (some ⟨p.first, p.seen + 1, later, 0x80, 0xBF, p.value * 64 + n⟩)
        (position + 1) read rest := by
  have e : (UInt8.ofNat (0x80 + n)).toNat = 0x80 + n := toNat_ofNat_of_lt (by omega)
  have e' : (128 + n) % 64 = n := by omega
  rw [decodeFrom, e, if_pos ⟨hl, hh⟩, e']
  simp only [hp]

/-! ### Characters -/

/-- What the first byte of a character of two bytes says of the rest. -/
lemma ofFirst?_two {c : CodePoint} (h : 0x80 ≤ c) (h' : c < 0x800) :
    Pending.ofFirst? surrogates (.ofNat (0xC0 + c / 0x40)) =
      some ⟨.ofNat (0xC0 + c / 0x40), 1, 0, 0x80, 0xBF, c / 0x40⟩ := by
  have e : (UInt8.ofNat (0xC0 + c / 0x40)).toNat = 0xC0 + c / 0x40 := toNat_ofNat_of_lt (by lia)
  rw [Pending.ofFirst?, e, if_neg (by lia), if_pos (by lia), Nat.add_sub_cancel_left]

lemma ofFirst?_three (surrogates : Bool) {c : CodePoint} (hc : c.IsScalar) (h : 0x800 ≤ c)
    (h' : c < 0x10000) :
    ∃ p, Pending.ofFirst? surrogates (.ofNat (0xE0 + c / 0x1000)) = some p ∧
      p.low ≤ 128 + c / 64 % 64 ∧ 128 + c / 64 % 64 ≤ p.high ∧ p.later = 1 ∧
        p.value = c / 0x1000 := by
  have e : (UInt8.ofNat (0xE0 + c / 0x1000)).toNat = 0xE0 + c / 0x1000 :=
    toNat_ofNat_of_lt (by lia)
  rw [Pending.ofFirst?, e, if_neg (by lia), if_neg (by lia)]
  split
  · exact ⟨_, rfl, by dsimp only; lia, by dsimp only; lia, rfl, by dsimp only; lia⟩
  split
  · exact ⟨_, rfl, by dsimp only; lia, by dsimp only; lia, rfl, by dsimp only; lia⟩
  rw [if_pos (by lia)]
  exact ⟨_, rfl, by dsimp only; lia, by dsimp only; lia, rfl, by dsimp only; lia⟩

lemma ofFirst?_four (surrogates : Bool) {c : CodePoint} (hc : c.IsScalar) (h : 0x10000 ≤ c) :
    ∃ p, Pending.ofFirst? surrogates (.ofNat (0xF0 + c / 0x40000)) = some p ∧
      p.low ≤ 128 + c / 0x1000 % 64 ∧ 128 + c / 0x1000 % 64 ≤ p.high ∧ p.later = 2 ∧
        p.value = c / 0x40000 := by
  have e : (UInt8.ofNat (0xF0 + c / 0x40000)).toNat = 0xF0 + c / 0x40000 :=
    toNat_ofNat_of_lt (by lia)
  rw [Pending.ofFirst?, e, if_neg (by lia), if_neg (by lia), if_neg (by lia), if_neg (by lia),
    if_neg (by lia)]
  split
  · exact ⟨_, rfl, by dsimp only; lia, by dsimp only; lia, rfl, by dsimp only; lia⟩
  split
  · exact ⟨_, rfl, by dsimp only; lia, by dsimp only; lia, rfl, by dsimp only; lia⟩
  rw [if_pos (by lia)]
  exact ⟨_, rfl, by dsimp only; lia, by dsimp only; lia, rfl, by dsimp only; lia⟩

/-- A character that was written is read. -/
lemma decodeFrom_encodePoint {c : CodePoint} (hc : c.IsScalar) (position : Nat) (read : Text)
    (rest : Bytes) :
    decodeFrom surrogates none position read (encodePoint c ++ rest) =
      decodeFrom surrogates none (position + (encodePoint c).length) (c :: read) rest := by
  have key {a b : Nat} (h : a = b) (n : Nat) (rest : Bytes) :
      decodeFrom surrogates none n (a :: read) rest =
        decodeFrom surrogates none n (b :: read) rest := by rw [h]
  unfold encodePoint
  split
  · next h1 =>
    have e : (UInt8.ofNat c).toNat = c := toNat_ofNat_of_lt (by lia)
    have e' : UInt8.ofNat c < 0x80 := by
      rw [UInt8.lt_iff_toNat_lt, e]
      exact h1
    rw [List.cons_append, List.nil_append, decodeFrom, if_pos e', e]
    rfl
  split
  · next h1 h2 =>
    rw [List.cons_append, List.cons_append, List.nil_append,
      decodeFrom_first (by lia) (by lia) (ofFirst?_two (by lia) h2),
      decodeFrom_last (by lia) (by dsimp only; lia) (by dsimp only; lia) rfl]
    exact key (by lia) _ _
  split
  · next h1 h2 h3 =>
    obtain ⟨p, hp, hlow, hhigh, hlater, hvalue⟩ := ofFirst?_three surrogates hc (by lia) h3
    rw [List.cons_append, List.cons_append, List.cons_append, List.nil_append,
      decodeFrom_first (by lia) (by lia) hp, decodeFrom_middle (by lia) hlow hhigh hlater,
      decodeFrom_last (by lia) (by dsimp only; lia) (by dsimp only; lia) rfl, hvalue]
    exact key (by lia) _ _
  · next h1 h2 h3 =>
    obtain ⟨p, hp, hlow, hhigh, hlater, hvalue⟩ := ofFirst?_four surrogates hc (by lia)
    rw [List.cons_append, List.cons_append, List.cons_append, List.cons_append, List.nil_append,
      decodeFrom_first (by lia) (by lia) hp, decodeFrom_middle (by lia) hlow hhigh hlater,
      decodeFrom_middle (by lia) (by dsimp only; lia) (by dsimp only; lia) rfl,
      decodeFrom_last (by lia) (by dsimp only; lia) (by dsimp only; lia) rfl, hvalue]
    exact key (by lia) _ _

/-! ### Texts -/

/-- A text that was written is read, whatever was read before it. -/
lemma decodeFrom_encodeAll {t : Text} (h : t.IsScalar) (position : Nat) (read : Text) :
    decodeFrom surrogates none position read (encodeAll t) = .ok (read.reverse ++ t) := by
  induction t generalizing position read with
  | nil => rw [List.append_nil]; rfl
  | cons c rest ih =>
    rw [encodeAll, List.flatMap_cons, decodeFrom_encodePoint (h c List.mem_cons_self),
      ← encodeAll, ih (fun d hd => h d (List.mem_cons_of_mem c hd)), List.reverse_cons,
      List.append_assoc]
    rfl

/-- A text of characters is read back from its bytes, also where surrogates are read. -/
lemma decodeAll_encodeAll {t : Text} (h : t.IsScalar) : decodeAll (encodeAll t) = .ok t :=
  decodeFrom_encodeAll h 0 []

lemma firstSurrogates_eq_none {t : Text} (h : t.IsScalar) (start : Nat) :
    firstSurrogates start t = none := by
  induction t generalizing start with
  | nil => rfl
  | cons c rest ih =>
    rw [firstSurrogates, if_neg (h c List.mem_cons_self).2]
    exact ih (fun d hd => h d (List.mem_cons_of_mem c hd)) (start + 1)

lemma encode_eq_ok {t : Text} (h : t.IsScalar) : encode t = .ok (encodeAll t) := by
  rw [encode, firstSurrogates_eq_none h]

end ChainRpc.Utf8
