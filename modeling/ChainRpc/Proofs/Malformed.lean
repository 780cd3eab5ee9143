import ChainRpc.Proofs.Primitives

/-!
# Malformed primitives

Whatever a decoder of primitives is given, it answers with a value of its range or finds the value malformed.
The complaint quotes what it is about, so this fails for integers beyond the digit limit: an integer that is
out of range, a width, or a size that the bytes do not have. It fails too for a width that has no bound to
compare with.
-/

namespace ChainRpc

variable {α β : Type} {range : α → Prop} {range' : β → Prop} {quotable : Prop}

/-- The decoder answers with a value of the range, or with a complaint of which there is a text. -/
inductive IsStrict (range : α → Prop) : Except Refusal α → Prop
  | value {a : α} (h : range a) : IsStrict range (.ok a)
  | malformed {cause : Malformed} (h : cause.message?.isSome) :
    IsStrict range (.error (.malformed cause))

/-- The decoder is strict if what it may have to quote can be shown, and fails over the digit limit
otherwise. -/
structure IsStrictIf (quotable : Prop) (range : α → Prop) (decoded : Except Refusal α) : Prop where
  strict : quotable → IsStrict range decoded
  tooLarge : ¬ quotable → decoded = .error .tooLarge

namespace IsStrict

variable {decoded : Except Refusal α}

lemma refuse {cause : Malformed} (h : cause.message?.isSome) : IsStrict range cause.refuse := by
  rw [Malformed.refuse, if_pos h]
  exact .malformed h

lemma map {f : α → β} (h : IsStrict range decoded) (hf : ∀ a, range a → range' (f a)) :
    IsStrict range' (decoded.map f) := by
  cases h with
  | value ha => exact .value (hf _ ha)
  | malformed hcause => exact .malformed hcause

/-- A decoder that goes on with what a strict one answers is as strict as its second part. -/
lemma bind {f : α → Except Refusal β} (h : IsStrict range decoded)
    (hf : ∀ a, decoded = .ok a → IsStrictIf quotable range' (f a))
    (hquotable : (∀ a, decoded ≠ .ok a) → quotable) :
    IsStrictIf quotable range' (decoded >>= f) := by
  cases h with
  | value ha => exact hf _ rfl
  | malformed hcause =>
    constructor
    · intro _
      exact .malformed hcause
    · intro hnot
      exact absurd (hquotable nofun) hnot

end IsStrict

namespace IsStrictIf

variable {decoded : Except Refusal α}

lemma isStrict_iff (h : IsStrictIf quotable range decoded) : IsStrict range decoded ↔ quotable := by
  refine ⟨fun hstrict => ?_, h.strict⟩
  by_contra hnot
  rw [h.tooLarge hnot] at hstrict
  cases hstrict

lemma of_isStrict (hquotable : quotable) (h : IsStrict range decoded) :
    IsStrictIf quotable range decoded :=
  ⟨fun _ => h, fun hnot => absurd hquotable hnot⟩

/-- A refusal needs the text of its complaint. -/
lemma refuse {cause : Malformed} (h : cause.message?.isSome ↔ quotable) :
    IsStrictIf quotable range cause.refuse := by
  constructor
  · intro hquotable
    exact .refuse (h.mpr hquotable)
  · intro hnot
    rw [Malformed.refuse, if_neg (mt h.mp hnot)]

end IsStrictIf

/-! ### Numbers -/

namespace Quantity

variable {bits : Nat} {n : Int} {v : Value}

/-- The integer is a number of the width. -/
abbrev InRange (bits : Nat) (n : Int) : Prop := 0 ≤ n ∧ n < 2 ^ bits

/-- The width has a decimal text, and a bound unless what the value stands for is below zero. The value has a
decimal text if it is an integer out of range. -/
structure IsWithinLimits (bits : Nat) (v : Value) : Prop where
  width : IsShort bits
  bound : bits ≤ widest ∨ ∀ n, integer (.uint bits) v = .ok n → n < 0
  value : ∀ n, v = .int n → InRange bits n ∨ IsShort n

lemma isStrict_spelled (kind : PrimitiveKind) (t : Text) :
    IsStrict (fun _ => True) (spelled kind t) := by
  unfold spelled
  split
  · exact .refuse rfl
  · split
    · exact .refuse rfl
    · split
      · exact .refuse rfl
      · exact .value trivial

/-- A number out of range is quoted as it was given. -/
lemma isStrictIf_checked (bits : Nat) (v : Value) (n : Int) :
    IsStrictIf (InRange bits n ∨ v.shown?.isSome) (· < 2 ^ bits) (checked bits v n) := by
  rw [checked]
  by_cases h : InRange bits n
  · rw [if_pos h]
    have hlt : n.toNat < 2 ^ bits := by
      rw [Int.toNat_lt h.1]
      exact_mod_cast h.2
    exact .of_isStrict (.inl h) (.value hlt)
  · rw [if_neg h, or_iff_right h]
    apply IsStrictIf.refuse
    simp [Malformed.message?]

lemma isStrictIf_decode (bits : Nat) (v : Value) :
    IsStrictIf (∀ n, v = .int n → InRange bits n ∨ IsShort n) (· < 2 ^ bits) (decode bits v) := by
  cases v with
  | int n =>
    have h := isStrictIf_checked bits (.int n) n
    rw [Value.shown?, isSome_decimal?] at h
    rw [show decode bits (.int n) = checked bits (.int n) n from rfl]
    simpa using h
  | str t =>
    rw [decode_text]
    refine (isStrict_spelled _ t).bind (fun n _ => ?_) (by simp)
    simpa [Value.shown?] using isStrictIf_checked bits (.str t) n
  | _ => exact .of_isStrict (by simp) (.refuse rfl)

lemma isStrict_integer (kind : PrimitiveKind) (v : Value) :
    IsStrict (fun _ => True) (integer kind v) := by
  cases v with
  | int n => exact .value trivial
  | str t => exact (isStrict_spelled kind t).map fun _ _ => trivial
  | _ => exact .refuse rfl

/-- Only integers stand for what is below zero. -/
lemma eq_int_of_integer {kind : PrimitiveKind} (h : integer kind v = .ok n) (hn : n < 0) : v = .int n := by
  cases v with
  | int m =>
    cases h
    rfl
  | str t =>
    obtain ⟨m, -, rfl⟩ := Checked.map_eq_ok_iff.mp h
    exact absurd hn (by simp)
  | _ => cases h

lemma isStrictIf_outOfRange (kind : PrimitiveKind) (n : Int) :
    IsStrictIf (IsShort n) range (Malformed.outOfRange kind (.int n)).refuse :=
  .refuse (by simp [Malformed.message?, Value.shown?, isSome_decimal?])

lemma isStrict_decodeAt (h : IsWithinLimits bits v) : IsStrict (· < 2 ^ bits) (decodeAt bits v) := by
  rcases le_or_gt bits widest with hbits | hbits
  · rw [decodeAt_of_bound hbits]
    exact (isStrictIf_decode bits v).strict h.value
  · rw [decodeAt_of_tooWide h.width hbits]
    have hbelow := h.bound.resolve_left (Nat.not_le.mpr hbits)
    refine ((isStrict_integer _ v).bind (fun n hn => ?_) fun _ => trivial).strict trivial
    obtain rfl := eq_int_of_integer hn (hbelow n hn)
    rw [if_pos (hbelow n hn)]
    have hshort : IsShort n := (h.value n rfl).resolve_left fun hrange => absurd (hbelow n hn) (by omega)
    exact .of_isStrict trivial ((isStrictIf_outOfRange _ n).strict hshort)

/-- Where there is no bound, only an integer below zero has a complaint, which quotes it. -/
lemma decodeAt_of_tooWide_cases (hwidth : IsShort bits) (hbits : widest < bits) :
    IsWithinLimits bits v ∨ decodeAt bits v = .error .tooLarge ∨ decodeAt bits v = .error .tooWide := by
  rw [decodeAt_of_tooWide hwidth hbits]
  cases hinteger : integer (.uint bits) v with
  | error refusal =>
    refine .inl ⟨hwidth, .inr (by simp [hinteger]), ?_⟩
    rintro n rfl
    cases hinteger
  | ok n =>
    by_cases hn : n < 0
    · obtain rfl := eq_int_of_integer hinteger hn
      by_cases hshort : IsShort n
      · refine .inl ⟨hwidth, .inr ?_, ?_⟩
        · rintro _ ⟨⟩
          exact hn
        · rintro _ ⟨⟩
          exact .inr hshort
      · have hcomplaint : IsStrictIf (IsShort n) (· < 2 ^ bits) _ := isStrictIf_outOfRange (.uint bits) n
        exact .inr (.inl ((if_pos hn).trans (hcomplaint.tooLarge hshort)))
    · exact .inr (.inr (if_neg hn))

/-- Beyond the limits a number is not found malformed either. -/
lemma decodeAt_of_not_isWithinLimits (h : ¬ IsWithinLimits bits v) :
    decodeAt bits v = .error .tooLarge ∨ widest < bits ∧ decodeAt bits v = .error .tooWide := by
  by_cases hwidth : IsShort bits
  · rcases le_or_gt bits widest with hbits | hbits
    · rw [decodeAt_of_bound hbits]
      exact .inl ((isStrictIf_decode bits v).tooLarge fun hv => h ⟨hwidth, .inl hbits, hv⟩)
    · have hlimit := (decodeAt_of_tooWide_cases hwidth hbits).resolve_left h
      exact hlimit.imp_right fun htooWide => ⟨hbits, htooWide⟩
  · exact .inl (decodeAt_of_not_isShort hwidth)

lemma isStrict_decodeAt_iff : IsStrict (· < 2 ^ bits) (decodeAt bits v) ↔ IsWithinLimits bits v := by
  refine ⟨fun hstrict => ?_, isStrict_decodeAt⟩
  by_contra h
  rcases decodeAt_of_not_isWithinLimits h with hlimit | ⟨-, hlimit⟩ <;>
  · rw [hlimit] at hstrict
    cases hstrict

end Quantity

/-! ### Byte strings -/

namespace ByteString

variable {v : Value} {b : Bytes}

/-- The size has a decimal text, unless the value has the size or is no byte string at all. -/
def IsQuotable (size : Nat) (v : Value) : Prop :=
  ∀ b, decode v = .ok b → b.length = size ∨ IsShort size

lemma isStrict_decodeText (t : Text) : IsStrict (fun _ => True) (decodeText t) := by
  unfold decodeText
  split
  · exact .refuse rfl
  · split
    · exact .refuse rfl
    · split
      · exact .refuse rfl
      · exact .value trivial

lemma isStrict_decode (v : Value) : IsStrict (fun _ => True) (decode v) := by
  cases v with
  | bytes b | buffer b => exact .value trivial
  | str t => exact isStrict_decodeText t
  | _ => exact .refuse rfl

/-- What stands for bytes is a text or the bytes themselves, which can be shown. -/
lemma isSome_shown?_of_decode (h : decode v = .ok b) : v.shown?.isSome := by
  cases v with
  | bytes b | buffer b | str t => rfl
  | _ => cases h

lemma isStrictIf_decodeFixed (size : Nat) (v : Value) :
    IsStrictIf (IsQuotable size v) (·.length = size) (decodeFixed size v) := by
  refine (isStrict_decode v).bind (fun b hdecode => ?_) (fun hnone b hdecode => absurd hdecode (hnone b))
  have hquotable : IsQuotable size v ↔ b.length = size ∨ IsShort size := by
    simp [IsQuotable, hdecode]
  by_cases hsize : b.length = size
  · rw [if_pos (by exact_mod_cast hsize)]
    exact .of_isStrict (hquotable.mpr (.inl hsize)) (.value hsize)
  · rw [if_neg (by exact_mod_cast hsize)]
    apply IsStrictIf.refuse
    obtain ⟨shown, hshown⟩ := Option.isSome_iff_exists.mp (isSome_shown?_of_decode hdecode)
    rw [hquotable, or_iff_right hsize, ← isSome_decimal?]
    simp only [Malformed.message?, hshown]
    cases decimal? size <;> simp

end ByteString

/-- A decoder of primitives answers with a value of its range or finds what it was given malformed, exactly
if it need not show an integer beyond the digit limit nor compare with the bound of a width that has none;
otherwise it fails over one of these limits. Byte strings of any size are decoded without. -/
theorem decoders_are_strict_iff (bits size : Nat) (v : Value) :
    (IsStrict (· < 2 ^ bits) (Quantity.decodeAt bits v) ↔ Quantity.IsWithinLimits bits v) ∧
    (¬ Quantity.IsWithinLimits bits v → Quantity.decodeAt bits v = .error .tooLarge ∨
      Quantity.widest < bits ∧ Quantity.decodeAt bits v = .error .tooWide) ∧
    IsStrict (fun _ => True) (ByteString.decode v) ∧
    (IsStrict (·.length = size) (ByteString.decodeFixed size v) ↔ ByteString.IsQuotable size v) ∧
    (¬ ByteString.IsQuotable size v → ByteString.decodeFixed size v = .error .tooLarge) := by
  have hfixed := ByteString.isStrictIf_decodeFixed size v
  exact ⟨Quantity.isStrict_decodeAt_iff, Quantity.decodeAt_of_not_isWithinLimits, ByteString.isStrict_decode v,
    hfixed.isStrict_iff, hfixed.tooLarge⟩

/-- Five is not found to be a number of a width that has no bound. Nor is an integer of 4301 digits found to
be no number of 64 bits. -/
theorem not_isStrict_tooWide :
    let wide := Quantity.decodeAt (10 ^ (20 : Nat) : Nat) (.str "0x5")
    let long := Quantity.decodeAt 64 (.int (10 ^ digitLimit : Nat))
    wide = .error .tooWide ∧ long = .error .tooLarge ∧
      (∀ range, ¬ IsStrict range wide) ∧ ∀ range, ¬ IsStrict range long := by
  intro wide long
  have hwide : wide = .error .tooWide := by
    have hshort : IsShort (10 ^ (20 : Nat) : Nat) := by
      rw [IsShort, Int.natAbs_natCast]
      exact Nat.pow_lt_pow_right (by decide) (by decide)
    have hfive : Quantity.integer (.uint (10 ^ (20 : Nat) : Nat)) (.str "0x5") = .ok 5 := rfl
    refine (Quantity.decodeAt_of_tooWide hshort (by decide)).trans ?_
    rw [hfive]
    rfl
  have hlong : long = .error .tooLarge := by
    have hlarge : ¬ (10 ^ digitLimit < 2 ^ 64) := by decide +kernel
    have hbeyond : ¬ Quantity.IsWithinLimits 64 (.int (10 ^ digitLimit : Nat)) := by
      intro h
      rcases h.value _ rfl with ⟨_, hrange⟩ | hshort
      · exact hlarge (by exact_mod_cast hrange)
      · exact Nat.lt_irrefl _ hshort
    rcases Quantity.decodeAt_of_not_isWithinLimits hbeyond with h | ⟨hbits, -⟩
    · exact h
    · exact absurd hbits (by decide)
  refine ⟨hwide, hlong, fun range h => ?_, fun range h => ?_⟩
  · rw [hwide] at h
    cases h
  · rw [hlong] at h
    cases h

end ChainRpc
