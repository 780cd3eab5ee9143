import ChainRpc.Proofs.Hex
import ChainRpc.Proofs.Value.Legible
import Mathlib.Data.List.Forall2
import Mathlib.Data.Nat.Digits.Defs
import Mathlib.Data.Set.Function

/-!
# Primitives and their texts

A text stands for a number if it is the mark and behind it the digits of the number in base sixteen with no
zero in front, and for a byte string if it is the mark and behind it two digits for each byte; the digits may
be in either case. Decoders take just the texts that stand for something, and every number and every byte
string is written as the one text in lower case that stands for it. Numbers are compared with the bound of
their width, which widths beyond the widest one do not have.
-/

namespace ChainRpc

variable {α : Type} {t digits : Text}

/-! ### Readings -/

/-- What a decoder makes of something is the one thing that it means, or it means nothing and is malformed. -/
inductive Reading (meaning : α → Prop) : Except Refusal α → Prop
  | meant {a : α} (h : meaning a) (unique : ∀ b, meaning b → b = a) : Reading meaning (.ok a)
  | malformed (cause : Malformed) (h : ∀ a, ¬ meaning a) : Reading meaning (.error (.malformed cause))

namespace Reading

variable {meaning : α → Prop} {decoded : Except Refusal α} {a : α}

lemma eq_ok_iff (h : Reading meaning decoded) : decoded = .ok a ↔ meaning a := by
  cases h with
  | meant hb unique =>
    constructor
    · rintro ⟨⟩
      exact hb
    · intro ha
      rw [unique a ha]
  | malformed cause hnone => exact iff_of_false nofun (hnone a)

lemma exists_malformed (h : Reading meaning decoded) (hnone : ∀ a, ¬ meaning a) :
    ∃ cause, decoded = .error (.malformed cause) := by
  cases h with
  | meant ha unique => exact absurd ha (hnone _)
  | malformed cause => exact ⟨cause, rfl⟩

end Reading

namespace Hex

/-- The text is the mark and digits that stand for something. -/
def Marked (meaning : Text → α → Prop) (t : Text) (a : α) : Prop :=
  ∃ digits, t = mark ++ digits ∧ meaning digits a

variable {meaning : Text → α → Prop} {a : α}

lemma marked_append (meaning : Text → α → Prop) (digits : Text) :
    Marked meaning (mark ++ digits) = meaning digits := by
  funext a
  apply propext
  constructor
  · rintro ⟨digits', heq, h⟩
    rwa [List.append_cancel_left heq]
  · intro h
    exact ⟨digits, rfl, h⟩

lemma not_marked (h : unmarked? t = none) : ¬ Marked meaning t a := by
  rintro ⟨digits, rfl, -⟩
  simp at h

/-! ### Base sixteen -/

variable {n v : Nat} {c : CodePoint} {values : List Nat}

/-- The digits in lower case, each at its value. -/
def lowerDigits : Text := "0123456789abcdef"

/-- The digits in upper case, each at its value. -/
def upperDigits : Text := "0123456789ABCDEF"

/-- The code point is the digit of the value, in either case. -/
def IsDigitOf (c : CodePoint) (v : Nat) : Prop :=
  lowerDigits[v]? = some c ∨ upperDigits[v]? = some c

/-- The code points are the digits of the number in base sixteen, those that count most in front. -/
def Denotes (t : Text) (n : Nat) : Prop :=
  ∃ values : List Nat, List.Forall₂ IsDigitOf t values ∧ Nat.ofDigits 16 values.reverse = n

lemma hexValue?_lowerDigits : ∀ v < 16, lowerDigits[v]?.bind CodePoint.hexValue? = some v := by
  decide

lemma hexValue?_upperDigits : ∀ v < 16, upperDigits[v]?.bind CodePoint.hexValue? = some v := by
  decide

lemma lowerDigits_of_lt : ∀ v < 16, lowerDigits[v]? = some (if v < 10 then 48 + v else 87 + v) := by
  decide

lemma upperDigits_of_lt : ∀ v < 16, upperDigits[v]? = some (if v < 10 then 48 + v else 55 + v) := by
  decide

/-- The digits are what the reader takes for digits. -/
lemma isDigitOf_iff : IsDigitOf c v ↔ c.hexValue? = some v := by
  constructor
  · rintro (h | h)
    · obtain ⟨hv, -⟩ := List.getElem?_eq_some_iff.mp h
      simpa [h] using hexValue?_lowerDigits v hv
    · obtain ⟨hv, -⟩ := List.getElem?_eq_some_iff.mp h
      simpa [h] using hexValue?_upperDigits v hv
  · intro h
    rcases hexValue?_cases h with ⟨hv, rfl⟩ | ⟨hv, rfl⟩ | ⟨hv, rfl⟩
    · exact .inl ((lowerDigits_of_lt v (by omega)).trans (by rw [if_pos hv]))
    · exact .inl ((lowerDigits_of_lt v hv.2).trans (by rw [if_neg (by omega)]))
    · exact .inr ((upperDigits_of_lt v hv.2).trans (by rw [if_neg (by omega)]))

lemma forall₂_isDigitOf_iff :
    List.Forall₂ IsDigitOf t values ↔ t.map CodePoint.hexValue? = values.map some := by
  have hdigit : IsDigitOf = fun c v => c.hexValue? = some v := by
    funext c v
    exact propext isDigitOf_iff
  rw [hdigit, ← List.forall₂_eq_eq_eq, List.forall₂_map_left_iff, List.forall₂_map_right_iff]

lemma isDigits_iff_exists_values : IsDigits t ↔ ∃ values, List.Forall₂ IsDigitOf t values := by
  constructor
  · intro h
    induction t with
    | nil => exact ⟨[], .nil⟩
    | cons c rest ih =>
      obtain ⟨hc, hrest⟩ := List.forall_mem_cons.mp h
      obtain ⟨v, hv⟩ := Option.isSome_iff_exists.mp hc
      obtain ⟨values, hvalues⟩ := ih hrest
      exact ⟨v :: values, .cons (isDigitOf_iff.mpr hv) hvalues⟩
  · rintro ⟨values, hvalues⟩
    induction hvalues with
    | nil => exact List.forall_mem_nil _
    | cons hc _ ih => exact List.forall_mem_cons.mpr ⟨Option.isSome_of_eq_some (isDigitOf_iff.mp hc), ih⟩

lemma value_eq_ofDigits (h : List.Forall₂ IsDigitOf t values) :
    value t = Nat.ofDigits 16 values.reverse := by
  calc value t
      = (t.map CodePoint.hexValue?).foldl (fun n v => n * 16 + v.getD 0) 0 := by
        rw [value, List.foldl_map]
    _ = values.foldl (fun n v => n * 16 + v) 0 := by
        rw [forall₂_isDigitOf_iff.mp h, List.foldl_map]
        rfl
    _ = Nat.ofDigits 16 values.reverse := by
        rw [Nat.ofDigits_eq_foldr, List.foldr_reverse]
        simp [Nat.add_comm, Nat.mul_comm]

/-- Digits denote a single number, which is their value. -/
lemma denotes_iff : Denotes t n ↔ IsDigits t ∧ value t = n := by
  rw [isDigits_iff_exists_values]
  constructor
  · rintro ⟨values, hvalues, rfl⟩
    exact ⟨⟨values, hvalues⟩, value_eq_ofDigits hvalues⟩
  · rintro ⟨⟨values, hvalues⟩, rfl⟩
    exact ⟨values, hvalues, (value_eq_ofDigits hvalues).symm⟩

/-! ### Pairs of digits -/

variable {high low : CodePoint} {rest : Text} {b : Bytes}

/-- The digits are those of the bytes in order, two to a byte, of which the first counts sixteen times. -/
structure Pairs (t : Text) (b : Bytes) : Prop where
  length_eq : t.length = 2 * b.length
  byte_eq : ∀ i byte, b[i]? = some byte →
    ∃ high low h l, t[2 * i]? = some high ∧ t[2 * i + 1]? = some low ∧ IsDigitOf high h ∧
      IsDigitOf low l ∧ byte.toNat = h * 16 + l

@[simp] lemma pairs_nil_iff : Pairs [] b ↔ b = [] := by
  constructor
  · intro h
    simpa using h.length_eq
  · rintro rfl
    exact ⟨rfl, nofun⟩

lemma not_pairs_singleton : ¬ Pairs [c] b := by
  intro h
  have hlength := h.length_eq
  rw [List.length_singleton] at hlength
  omega

/-- The first two digits are those of the first byte. -/
lemma pairs_cons_cons_iff :
    Pairs (high :: low :: rest) b ↔
      ∃ h l byte tail, IsDigitOf high h ∧ IsDigitOf low l ∧ byte.toNat = h * 16 + l ∧
        b = byte :: tail ∧ Pairs rest tail := by
  constructor
  · rintro ⟨hlength, hbytes⟩
    cases b with
    | nil => cases hlength
    | cons byte tail =>
      obtain ⟨_, _, h, l, ⟨⟩, ⟨⟩, hhigh, hlow, hbyte⟩ := hbytes 0 byte rfl
      refine ⟨h, l, byte, tail, hhigh, hlow, hbyte, rfl, ?_, ?_⟩
      · simp only [List.length_cons] at hlength
        omega
      · intro i byte hi
        exact hbytes (i + 1) byte hi
  · rintro ⟨h, l, byte, tail, hhigh, hlow, hbyte, rfl, hrest⟩
    constructor
    · simp only [List.length_cons, hrest.length_eq]
      omega
    · intro i byte' hi
      cases i with
      | zero =>
        obtain rfl := Option.some.inj hi
        exact ⟨high, low, h, l, rfl, rfl, hhigh, hlow, hbyte⟩
      | succ i => exact hrest.byte_eq i byte' hi

lemma decode?_eq_some_iff : decode? t = some b ↔ Pairs t b := by
  induction t using decode?.induct generalizing b with
  | case1 =>
    rw [pairs_nil_iff]
    exact ⟨fun h => (Option.some.inj h).symm, fun h => h ▸ rfl⟩
  | case2 =>
    refine iff_of_false ?_ not_pairs_singleton
    rintro ⟨⟩
  | case3 high low rest ih =>
    rw [pairs_cons_cons_iff]
    simp only [decode?, Option.bind_eq_bind, Option.bind_eq_some_iff, Option.pure_def,
      Option.some.injEq, ih, isDigitOf_iff]
    constructor
    · rintro ⟨h, hhigh, l, hlow, tail, htail, rfl⟩
      refine ⟨h, l, _, tail, hhigh, hlow, ?_, rfl, htail⟩
      obtain ⟨hh, -⟩ := digit_of_hexValue? hhigh
      obtain ⟨hl, -⟩ := digit_of_hexValue? hlow
      rw [UInt8.toNat_ofNat']
      omega
    · rintro ⟨h, l, byte, tail, hhigh, hlow, hbyte, rfl, htail⟩
      refine ⟨h, hhigh, l, hlow, tail, htail, ?_⟩
      rw [← hbyte, UInt8.ofNat_toNat]

end Hex

/-! ### Numbers of a width -/

namespace Quantity

variable {kind : PrimitiveKind} {bits n m : Nat}

/-- The digits spell the number: there is one of them at least, they denote it, and they do not start with
a zero unless that is all. -/
structure Spells (digits : Text) (n : Nat) : Prop where
  ne_nil : digits ≠ []
  denotes : Hex.Denotes digits n
  no_zeros : digits = [CodePoint.zero] ∨ digits.head? ≠ some CodePoint.zero

/-- The text stands for a number of the width. -/
def StandsFor (bits : Nat) (t : Text) (n : Nat) : Prop :=
  n < 2 ^ bits ∧ Hex.Marked Spells t n

/-- The text stands for a number of the width and is in lower case. -/
def IsCanonical (bits : Nat) (t : Text) : Prop :=
  Hex.lower t = t ∧ ∃ n, StandsFor bits t n

lemma not_leadingZeros_iff (hne : digits ≠ []) :
    ¬ (1 < digits.length ∧ digits.head? = some CodePoint.zero) ↔
      digits = [CodePoint.zero] ∨ digits.head? ≠ some CodePoint.zero := by
  cases digits with
  | nil => exact absurd rfl hne
  | cons c rest =>
    cases rest with
    | nil => simp [em]
    | cons d rest => simp

lemma Spells.unique (hm : Spells digits m) (hn : Spells digits n) : m = n := by
  obtain ⟨-, rfl⟩ := Hex.denotes_iff.mp hm.denotes
  obtain ⟨-, rfl⟩ := Hex.denotes_iff.mp hn.denotes
  rfl

lemma reading_spelled (kind : PrimitiveKind) (t : Text) :
    Reading (Hex.Marked Spells t) (spelled kind t) := by
  unfold spelled
  cases hmark : Hex.unmarked? t with
  | none => exact .malformed _ fun n => Hex.not_marked hmark
  | some digits =>
    obtain rfl := Hex.unmarked?_eq_some_iff.mp hmark
    rw [Hex.marked_append]
    dsimp only
    by_cases hplain : digits = [] ∨ ¬ Hex.IsDigits digits
    · rw [if_pos hplain]
      refine .malformed _ fun n h => ?_
      rcases hplain with hnil | hplain
      · exact h.ne_nil hnil
      · exact hplain (Hex.denotes_iff.mp h.denotes).1
    · rw [if_neg hplain]
      obtain ⟨hne, hall⟩ := not_or.mp hplain
      by_cases hzeros : 1 < digits.length ∧ digits.head? = some CodePoint.zero
      · rw [if_pos hzeros]
        refine .malformed _ fun n h => ?_
        exact (not_leadingZeros_iff hne).mpr h.no_zeros hzeros
      · rw [if_neg hzeros]
        have hdenotes := Hex.denotes_iff.mpr ⟨not_not.mp hall, rfl⟩
        have hspells : Spells digits (Hex.value digits) :=
          ⟨hne, hdenotes, (not_leadingZeros_iff hne).mp hzeros⟩
        exact .meant hspells fun n hn => hn.unique hspells

lemma decode_text (bits : Nat) (t : Text) :
    decode bits (.str t) = spelled (.uint bits) t >>= fun n => checked bits (.str t) n := by
  rw [decode, integer]
  cases spelled (.uint bits) t <;> rfl

lemma checked_ofNat (value : Value) (n : Nat) :
    checked bits value n =
      if n < 2 ^ bits then .ok n else (Malformed.outOfRange (.uint bits) value).refuse := by
  have hrange : (0 ≤ (n : Int) ∧ (n : Int) < 2 ^ bits) ↔ n < 2 ^ bits := by
    rw [and_iff_right (Int.natCast_nonneg n)]
    exact_mod_cast Iff.rfl
  rw [checked]
  simp only [hrange]
  rfl

/-- A text is read as the number of the width that it stands for. -/
lemma reading_decode (bits : Nat) (t : Text) : Reading (StandsFor bits t) (decode bits (.str t)) := by
  rw [decode_text]
  have hread := reading_spelled (.uint bits) t
  generalize spelled (.uint bits) t = read at hread ⊢
  cases hread with
  | @meant n hn unique =>
    show Reading (StandsFor bits t) (checked bits (.str t) n)
    rw [checked_ofNat]
    split
    · next hrange => exact .meant ⟨hrange, hn⟩ fun m hm => unique m hm.2
    · next hrange =>
      refine .malformed _ fun m hm => hrange ?_
      rw [← unique m hm.2]
      exact hm.1
  | malformed cause hnone => exact .malformed cause fun n hn => hnone n hn.2

lemma marked_encode (n : Nat) : Hex.Marked Spells (encode n) n :=
  (reading_spelled .bytes _).eq_ok_iff.mp (spelled_encode .bytes n)

/-- A number is a number of every width that is greater than it. -/
lemma standsFor_of_lt (h : n < bits) : StandsFor bits (encode n) n :=
  ⟨Nat.lt_trans h Nat.lt_two_pow_self, marked_encode n⟩

lemma encode_eq_lower (h : Hex.Marked Spells t n) : encode n = Hex.lower t :=
  encode_of_spelled ((reading_spelled .bytes t).eq_ok_iff.mpr h)

lemma lower_encode (n : Nat) : Hex.lower (encode n) = encode n :=
  (encode_eq_lower (marked_encode n)).symm

lemma encode_injective : Function.Injective encode := by
  intro m n h
  have hm := spelled_encode .bytes m
  rw [h, spelled_encode] at hm
  exact (Except.ok.inj hm).symm

/-- The numbers of a width are written as the canonical texts, each as one of its own. -/
lemma bijOn_encode (bits : Nat) : Set.BijOn encode {n | n < 2 ^ bits} {t | IsCanonical bits t} := by
  refine ⟨?_, encode_injective.injOn, ?_⟩
  · intro n hrange
    exact ⟨lower_encode n, n, hrange, marked_encode n⟩
  · rintro t ⟨hlower, n, hrange, h⟩
    exact ⟨n, hrange, (encode_eq_lower h).trans hlower⟩

/-! ### Widths with and without a bound -/

lemma isShort_of_le_widest (hbits : bits ≤ widest) : IsShort bits := by
  have hdigits : 10 ^ 20 ≤ 10 ^ digitLimit := Nat.pow_le_pow_right (by decide) (by decide)
  exact Nat.lt_of_le_of_lt hbits (Nat.lt_of_lt_of_le (by decide) hdigits)

variable {v : Value}

/-- Where there is a bound, the width can be named too, and what is left is the comparison with the bound. -/
lemma decodeAt_of_bound (hbits : bits ≤ widest) : decodeAt bits v = decode bits v := by
  have hbound : unbounded? bits = none := by
    rw [unbounded?, if_neg (by omega), if_neg (by omega)]
  rw [decodeAt.eq_def, if_neg (decimal?_ne_none (isShort_of_le_widest hbits)), hbound]
  rfl

lemma decodeAt_of_tooWide (hwidth : IsShort bits) (hbits : widest < bits) :
    decodeAt bits v = integer (.uint bits) v >>= fun n =>
      if n < 0 then (Malformed.outOfRange (.uint bits) v).refuse else .error .tooWide := by
  have hbound : unbounded? bits = some .tooWide := by
    rw [unbounded?, if_neg (by omega), if_pos (by omega)]
  rw [decodeAt.eq_def, if_neg (decimal?_ne_none hwidth), hbound]

lemma decodeAt_of_not_isShort (hwidth : ¬ IsShort bits) : decodeAt bits v = .error .tooLarge := by
  rw [decodeAt.eq_def, if_pos ((decimal?_eq_none_iff _).mpr hwidth)]

/-- Without a bound there is nothing to compare a number with that a text spells. -/
lemma decodeAt_text_of_tooWide (hwidth : IsShort bits) (hbits : widest < bits) (t : Text) :
    (decodeAt bits (.str t) = .error .tooWide ∧ ∃ n, Hex.Marked Spells t n) ∨
      (∃ cause, decodeAt bits (.str t) = .error (.malformed cause)) ∧ ∀ n, ¬ Hex.Marked Spells t n := by
  rw [decodeAt_of_tooWide hwidth hbits, integer]
  have hread := reading_spelled (.uint bits) t
  generalize spelled (.uint bits) t = read at hread ⊢
  cases hread with
  | @meant n hn unique =>
    have hnonneg : ¬ Int.ofNat n < 0 := Int.not_lt.mpr (Int.natCast_nonneg n)
    refine .inl ⟨?_, n, hn⟩
    show (if Int.ofNat n < 0 then (Malformed.outOfRange (.uint bits) (.str t)).refuse
      else .error .tooWide) = _
    rw [if_neg hnonneg]
  | malformed cause hnone => exact .inr ⟨⟨cause, rfl⟩, hnone⟩

/-- Texts and the numbers of a width correspond: a text is decoded exactly if it stands for a number of the
width, and to that number; any other text is malformed. What is decoded is written with the same digits in
lower case, and what is written is decoded, so that the numbers of the width and the canonical texts
correspond one to one. -/
structure Corresponds (bits : Nat) : Prop where
  decoded : ∀ t n, decodeAt bits (.str t) = .ok n ↔
    ∃ digits, t = Hex.mark ++ digits ∧ Spells digits n ∧ n < 2 ^ bits
  malformed : ∀ t, (∀ n, ¬ StandsFor bits t n) →
    ∃ cause, decodeAt bits (.str t) = .error (.malformed cause)
  rewritten : ∀ digits n, decodeAt bits (.str (Hex.mark ++ digits)) = .ok n →
    encode n = Hex.mark ++ Hex.lower digits
  written : ∀ n < 2 ^ bits, StandsFor bits (encode n) n ∧ decodeAt bits (.str (encode n)) = .ok n
  bijective : Set.BijOn encode {n | n < 2 ^ bits} {t | IsCanonical bits t}

lemma corresponds_of_bound (hbits : bits ≤ widest) : Corresponds bits := by
  have hread (t : Text) : Reading (StandsFor bits t) (decodeAt bits (.str t)) := by
    rw [decodeAt_of_bound hbits]
    exact reading_decode bits t
  constructor
  case decoded =>
    intro t n
    rw [(hread t).eq_ok_iff]
    constructor
    · rintro ⟨hrange, digits, rfl, h⟩
      exact ⟨digits, rfl, h, hrange⟩
    · rintro ⟨digits, rfl, h, hrange⟩
      exact ⟨hrange, digits, rfl, h⟩
  case malformed =>
    intro t hnone
    exact (hread t).exists_malformed hnone
  case rewritten =>
    intro digits n h
    obtain ⟨-, hdigits⟩ := (hread _).eq_ok_iff.mp h
    rw [encode_eq_lower hdigits, Hex.lower_mark_append]
  case written =>
    intro n hrange
    have h : StandsFor bits (encode n) n := ⟨hrange, marked_encode n⟩
    exact ⟨h, (hread _).eq_ok_iff.mpr h⟩
  case bijective => exact bijOn_encode bits

/-- Zero is a number of every width, but it is not decoded where there is no bound. -/
lemma not_corresponds_of_tooWide (hbits : widest < bits) : ¬ Corresponds bits := by
  intro h
  obtain ⟨-, hdecoded⟩ := h.written 0 (Nat.two_pow_pos bits)
  by_cases hwidth : IsShort bits
  · rcases decodeAt_text_of_tooWide hwidth hbits (encode 0) with ⟨hlimit, -⟩ | ⟨⟨cause, hmalformed⟩, -⟩
    · cases hdecoded.symm.trans hlimit
    · cases hdecoded.symm.trans hmalformed
  · cases hdecoded.symm.trans (decodeAt_of_not_isShort hwidth)

/-- Texts and the numbers of a width correspond exactly at the widths that have a bound. At a wider one the
numbers are written all the same, as the canonical texts and one to one, but no text is decoded: one that
spells a number fails for want of the bound, any other is malformed, and where the width itself is beyond the
digit limit every text fails over that. -/
theorem numbers_and_texts_correspond_iff (bits : Nat) :
    (Corresponds bits ↔ bits ≤ widest) ∧
    Set.BijOn encode {n | n < 2 ^ bits} {t | IsCanonical bits t} ∧
    (widest < bits → IsShort bits → ∀ t,
      (decodeAt bits (.str t) = .error .tooWide ∧ ∃ n, Hex.Marked Spells t n) ∨
        (∃ cause, decodeAt bits (.str t) = .error (.malformed cause)) ∧ ∀ n, ¬ Hex.Marked Spells t n) ∧
    (¬ IsShort bits → ∀ t, decodeAt bits (.str t) = .error .tooLarge) := by
  refine ⟨⟨fun h => ?_, corresponds_of_bound⟩, bijOn_encode bits, fun hbits hwidth =>
    decodeAt_text_of_tooWide hwidth hbits, fun hwidth t => decodeAt_of_not_isShort hwidth⟩
  by_contra hbits
  exact not_corresponds_of_tooWide (Nat.not_le.mp hbits) h

/-- Five is far below the bound of such a width, and yet its text is not decoded. -/
theorem not_corresponds_beyond_widest :
    StandsFor (10 ^ (20 : Nat)) "0x5" 5 ∧
      decodeAt (10 ^ (20 : Nat) : Nat) (.str "0x5") = .error .tooWide ∧
      ¬ Corresponds (10 ^ (20 : Nat)) := by
  have hbits : widest < 10 ^ (20 : Nat) := by decide
  have hwidth : IsShort (10 ^ (20 : Nat) : Nat) := by
    rw [IsShort, Int.natAbs_natCast]
    exact Nat.pow_lt_pow_right (by decide) (by decide)
  have hfive : StandsFor (10 ^ (20 : Nat)) (encode 5) 5 := standsFor_of_lt (by decide)
  refine ⟨hfive, ?_, not_corresponds_of_tooWide hbits⟩
  rcases decodeAt_text_of_tooWide hwidth hbits "0x5" with ⟨hlimit, -⟩ | ⟨-, hnone⟩
  · exact hlimit
  · exact absurd hfive.2 (hnone 5)

/-- Digits in upper case are read and come back in lower case. -/
example : spelled (.uint 8) "0xFF" = .ok 255 ∧ encode 255 = ("0xff" : Text) := ⟨rfl, by decide⟩

end Quantity

/-! ### Byte strings -/

namespace ByteString

/-- The text stands for the byte string: it is the mark and the pairs of digits of the bytes. -/
def StandsFor (t : Text) (b : Bytes) : Prop :=
  Hex.Marked Hex.Pairs t b

variable {size : Int} {v : Value} {b : Bytes}

lemma decode_text (t : Text) : decode (.str t) = decodeText t :=
  rfl

/-- A text is read as the byte string that it stands for. -/
lemma reading_decodeText (t : Text) : Reading (StandsFor t) (decodeText t) := by
  unfold decodeText StandsFor
  cases hmark : Hex.unmarked? t with
  | none => exact .malformed _ fun b => Hex.not_marked hmark
  | some digits =>
    obtain rfl := Hex.unmarked?_eq_some_iff.mp hmark
    rw [Hex.marked_append]
    dsimp only
    by_cases hodd : digits.length % 2 = 1
    · rw [if_pos hodd]
      refine .malformed _ fun b h => ?_
      have hlength := h.length_eq
      omega
    · rw [if_neg hodd]
      cases hdecode : Hex.decode? digits with
      | none =>
        refine .malformed _ fun b h => ?_
        cases hdecode.symm.trans (Hex.decode?_eq_some_iff.mpr h)
      | some b =>
        refine .meant (Hex.decode?_eq_some_iff.mp hdecode) fun b' h => ?_
        cases hdecode.symm.trans (Hex.decode?_eq_some_iff.mpr h)
        rfl

lemma decodeFixed_eq_ok_iff : decodeFixed size v = .ok b ↔ decode v = .ok b ∧ b.length = size := by
  rw [decodeFixed, Checked.bind_eq_ok_iff]
  constructor
  · rintro ⟨b', hdecode, h⟩
    split at h
    · next hsize =>
      cases h
      exact ⟨hdecode, hsize⟩
    · cases h
  · rintro ⟨hdecode, hsize⟩
    refine ⟨b, hdecode, ?_⟩
    rw [if_pos hsize]
    rfl

/-- A text is decoded exactly if it is the mark and pairs of digits, and to the bytes of these; any other
text is malformed. What is decoded is written with the same digits in lower case, and what is written is
decoded. A value is decoded to a byte string of a fixed size exactly if it is decoded to it and it has the
size, whether the value is a text or the bytes themselves. -/
theorem byteStrings_and_texts_correspond :
    (∀ t b, decode (.str t) = .ok b ↔ ∃ digits, t = Hex.mark ++ digits ∧ Hex.Pairs digits b) ∧
    (∀ t, (∀ b, ¬ StandsFor t b) → ∃ cause, decode (.str t) = .error (.malformed cause)) ∧
    (∀ digits b, decode (.str (Hex.mark ++ digits)) = .ok b →
      encode b = Hex.mark ++ Hex.lower digits) ∧
    (∀ b, decode (.str (encode b)) = .ok b ∧ decode (.bytes b) = .ok b ∧ decode (.buffer b) = .ok b) ∧
    ∀ size v b, decodeFixed size v = .ok b ↔ decode v = .ok b ∧ b.length = size := by
  refine ⟨?_, ?_, ?_, ?_, fun size v b => decodeFixed_eq_ok_iff⟩
  · intro t b
    exact (reading_decodeText t).eq_ok_iff
  · intro t hnone
    exact (reading_decodeText t).exists_malformed hnone
  · intro digits b h
    rw [decode_text] at h
    rw [encode_of_decodeText h, Hex.lower_mark_append]
  · intro b
    exact ⟨decodeText_encode b, rfl, rfl⟩

/-- Digits in upper case are read and come back in lower case, and a mark alone is no byte. -/
example : decode (.str "0x00Ff") = .ok [0, 255] ∧ encode [0, 255] = ("0x00ff" : Text) ∧
    decode (.str "0x") = .ok [] := ⟨rfl, by decide, rfl⟩

end ByteString

end ChainRpc
