import ChainRpc.Proofs.Binary64.Shortest
import ChainRpc.Proofs.Text.Clean
import ChainRpc.Json.Reader

/-!
# Reading numbers

The reader takes a sign, the digits of the whole part, and as much of a fraction and of an exponent as is
there. No word and no container starts as a number does. An integer within the digit limit is read back from
its digits. A finite floating-point number is read back from its text in any layout: the parts of the text
put together are the shortest decimal of the number.
-/

namespace ChainRpc.Json.Reader

variable {limits : Limits} {digits whole fraction t tail rest : Text} {c : CodePoint} {negative : Bool}

/-! ### What follows a value -/

/-- A value ends before the text: it is empty or goes on with a comma or the end of a container. -/
def IsDelimited (rest : Text) : Prop :=
  ∀ c, rest.head? = some c → c = .comma ∨ c = .closeBracket ∨ c = .closeBrace

lemma isDelimited_nil : IsDelimited [] := nofun

lemma isDelimited_cons (h : c = .comma ∨ c = .closeBracket ∨ c = .closeBrace) :
    IsDelimited (c :: rest) := by
  intro d hd
  cases hd
  exact h

/-! ### Digits -/

/-- No digit comes first. -/
def EndsDigits (rest : Text) : Prop := ∀ c, rest.head? = some c → ¬ c.IsDigit

lemma endsDigits_cons (h : ¬ c.IsDigit) : EndsDigits (c :: rest) := by
  intro d hd
  cases hd
  exact h

lemma IsDelimited.endsDigits (h : IsDelimited rest) : EndsDigits rest := by
  intro c hc
  rcases h c hc with rfl | rfl | rfl <;> decide

/-- Digits are taken up to what is none. -/
lemma splitDigits_append (hdigits : ∀ c ∈ digits, c.IsDigit) (h : EndsDigits rest) :
    Binary64.splitDigits (digits ++ rest) = (digits, rest) := by
  have hdigits : ∀ c ∈ digits, decide c.IsDigit = true := fun c hc => decide_eq_true (hdigits c hc)
  have hrest : rest.takeWhile (fun c => decide c.IsDigit) = [] ∧
      rest.dropWhile (fun c => decide c.IsDigit) = rest := by
    cases rest with
    | nil => exact ⟨rfl, rfl⟩
    | cons c rest =>
      have hc : decide c.IsDigit = false := decide_eq_false (h c rfl)
      simp only [List.takeWhile_cons, List.dropWhile_cons, hc]
      exact ⟨rfl, rfl⟩
  rw [Binary64.splitDigits, List.span_eq_takeWhile_dropWhile, List.takeWhile_append_of_pos hdigits,
    List.dropWhile_append_of_pos hdigits, hrest.1, hrest.2, List.append_nil]

/-- Digits in front of a fraction: a zero comes first only if it is alone. -/
structure IsWholePart (digits : Text) : Prop where
  isDigit : ∀ c ∈ digits, c.IsDigit
  ne_nil : digits ≠ []
  head : digits.head? = some CodePoint.zero → digits = [CodePoint.zero]

lemma isWholePart_ofNat (n : Nat) : IsWholePart (Text.ofNat n) where
  isDigit _ hc := Text.isDigit_of_mem_ofNat hc
  ne_nil := Text.ofNat_ne_nil n
  head h := by
    rcases Nat.eq_zero_or_pos n with rfl | hn
    · rfl
    · exact absurd h (Text.head?_ofNat hn)

lemma wholeDigits_append (h : IsWholePart digits) (hrest : EndsDigits rest) :
    wholeDigits (digits ++ rest) = (digits, rest) := by
  have hsplit := splitDigits_append h.isDigit hrest
  have hhead := h.head
  obtain ⟨c, tail, rfl⟩ := List.exists_cons_of_ne_nil h.ne_nil
  by_cases hc : c = CodePoint.zero
  · subst hc
    rw [hhead rfl]
    rfl
  · rw [List.cons_append] at hsplit ⊢
    rw [wholeDigits, hsplit]
    intro tail heq
    exact hc (List.cons.inj heq).1

/-! ### Fractions and exponents -/

/-- A fraction is taken if it has digits. -/
lemma fractionDigits_append (hdigits : ∀ c ∈ digits, c.IsDigit) (hne : digits ≠ [])
    (hrest : EndsDigits rest) :
    fractionDigits (.point :: (digits ++ rest)) = (digits, rest) := by
  have hsplit := splitDigits_append hdigits hrest
  obtain ⟨c, tail, rfl⟩ := List.exists_cons_of_ne_nil hne
  rw [List.cons_append] at hsplit ⊢
  rw [fractionDigits, if_pos (hdigits c List.mem_cons_self), hsplit]

lemma fractionDigits_of_ne_point (h : rest.head? ≠ some CodePoint.point) :
    fractionDigits rest = ([], rest) := by
  unfold fractionDigits
  split
  · exact absurd rfl h
  · rfl

lemma exponent_of_isDelimited (h : IsDelimited rest) : exponent rest = (none, rest) := by
  cases rest with
  | nil => rfl
  | cons c rest =>
    have hletter : ¬ (c = 'e'.toNat ∨ c = 'E'.toNat) := by
      rcases h c rfl with rfl | rfl | rfl <;> decide
    exact if_neg fun hexponent => hletter hexponent.1

/-! ### Signs -/

/-- A minus sign in front of what is negative. -/
def sign (negative : Bool) : Text := if negative then [.minus] else []

lemma ofInt_eq (n : Int) : Text.ofInt n = sign (decide (n < 0)) ++ Text.ofNat n.natAbs := by
  cases n with
  | ofNat n => simp [Text.ofInt, sign]
  | negSucc n => simp [Text.ofInt, sign, Int.negSucc_lt_zero]

/-- A number is what its parts are put together to. -/
lemma number_sign {r₁ r₂ : Text} {power : Option Int} (hc : c.IsDigit)
    (hwhole : wholeDigits (c :: tail) = (whole, r₁)) (hne : whole ≠ [])
    (hfraction : fractionDigits r₁ = (fraction, r₂)) (hpower : exponent r₂ = (power, rest)) :
    number limits (sign negative ++ c :: tail) =
      if fraction = [] ∧ power = none then
        if limits.digits.any (· < whole.length) then .error (.tooManyDigits whole.length)
        else .ok (.int (if negative then -Text.digitsValue whole else Text.digitsValue whole), rest)
      else .ok (.float (Binary64.ofDigits negative whole fraction (power.getD 0)), rest) := by
  unfold number
  split
  next found unsigned hfound =>
    obtain ⟨rfl, rfl⟩ : found = negative ∧ unsigned = c :: tail := by
      cases negative with
      | true => exact ⟨(Prod.mk.inj hfound).1.symm, (Prod.mk.inj hfound).2.symm⟩
      | false =>
        rw [sign, if_neg Bool.false_ne_true, List.nil_append] at hfound
        split at hfound
        · next rest heq =>
          rw [(List.cons.inj heq).1] at hc
          exact absurd hc (by decide)
        · exact ⟨(Prod.mk.inj hfound).1.symm, (Prod.mk.inj hfound).2.symm⟩
    simp only [hwhole, hfraction, hpower, if_neg hne]

/-! ### Telling numbers from other values -/

/-- The text starts as a number does: with a digit, perhaps after a minus sign. -/
def StartsNumber (t : Text) : Prop :=
  ∃ negative c tail, t = sign negative ++ c :: tail ∧ c.IsDigit

lemma StartsNumber.append (h : StartsNumber t) (rest : Text) : StartsNumber (t ++ rest) := by
  obtain ⟨negative, c, tail, rfl, hc⟩ := h
  exact ⟨negative, c, tail ++ rest, by rw [List.append_assoc, List.cons_append], hc⟩

lemma startsNumber_ofInt (n : Int) : StartsNumber (Text.ofInt n) := by
  obtain ⟨c, tail, hc⟩ := List.exists_cons_of_ne_nil (Text.ofNat_ne_nil n.natAbs)
  exact ⟨_, c, tail, by rw [ofInt_eq, hc], Text.isDigit_of_mem_ofNat (hc ▸ List.mem_cons_self)⟩

/-- The first character of a number is a digit or a minus sign. -/
lemma StartsNumber.exists_eq_cons (h : StartsNumber t) :
    ∃ c tail, t = c :: tail ∧ (c.IsDigit ∨ c = .minus) := by
  obtain ⟨negative, c, tail, rfl, hc⟩ := h
  cases negative with
  | true => exact ⟨_, _, rfl, .inr rfl⟩
  | false => exact ⟨c, tail, rfl, .inl hc⟩

/-- No word starts with a digit, nor with a minus sign and a digit. -/
lemma words_start : ∀ w ∈ words, 1 < w.1.length ∧ ¬ (w.1.getD 0 0).IsDigit ∧
    (w.1.getD 0 0 = CodePoint.minus → ¬ (w.1.getD 1 0).IsDigit) := by
  decide

lemma StartsNumber.word?_eq_none (h : StartsNumber t) : word? t = none := by
  obtain ⟨negative, c, tail, rfl, hc⟩ := h
  rw [word?, List.findSome?_eq_none_iff]
  rintro ⟨word, value⟩ hw
  rw [Option.map_eq_none_iff, Option.eq_none_iff_forall_ne_some]
  intro rest hprefix
  rw [List.isPrefixOf?_eq_some_iff_append_eq] at hprefix
  obtain ⟨hlength, hdigit, hminus⟩ := words_start _ hw
  match word with
  | a :: b :: more =>
    cases negative with
    | false =>
      rw [← (List.cons.inj hprefix).1] at hc
      exact hdigit hc
    | true =>
      obtain ⟨hsign, hprefix⟩ := List.cons.inj hprefix
      rw [← (List.cons.inj hprefix).1] at hc
      exact hminus hsign hc

lemma value_of_ne {depth : Nat} (hbracket : c ≠ .openBracket) (hbrace : c ≠ .openBrace) :
    value limits depth (c :: rest) = scalar limits (c :: rest) := by
  unfold value
  split
  · next heq => exact absurd (List.cons.inj heq).1 hbracket
  · next heq => exact absurd (List.cons.inj heq).1 hbrace
  · next heq => exact absurd (List.cons.inj heq).1 hbracket
  · next heq => exact absurd (List.cons.inj heq).1 hbrace
  · rfl

/-- What starts as a number is read as a number. -/
lemma StartsNumber.value_eq (h : StartsNumber t) (depth : Nat) :
    value limits depth t = number limits t := by
  have hword := h.word?_eq_none
  obtain ⟨c, tail, rfl, hfirst⟩ := h.exists_eq_cons
  have hother : c ≠ .openBracket ∧ c ≠ .openBrace ∧ c ≠ .quote := by
    refine ⟨?_, ?_, ?_⟩ <;> rintro rfl <;> exact absurd hfirst (by decide)
  rw [value_of_ne hother.1 hother.2.1, scalar, hword]
  rintro tail heq
  exact hother.2.2 (List.cons.inj heq).1

/-! ### Integers -/

/-- An integer within the digit limit is read up to the end of its digits. -/
lemma number_ofInt {n : Int}
    (hn : ∀ limit, limits.digits = some limit → (Text.ofNat n.natAbs).length ≤ limit)
    (h : IsDelimited rest) : number limits (Text.ofInt n ++ rest) = .ok (.int n, rest) := by
  have hlimit : limits.digits.any (· < (Text.ofNat n.natAbs).length) = false := by
    cases hd : limits.digits with
    | none => rfl
    | some limit => simpa using hn limit hd
  have hpart := isWholePart_ofNat n.natAbs
  have hwhole := wholeDigits_append hpart h.endsDigits
  have hfraction : fractionDigits rest = ([], rest) := by
    refine fractionDigits_of_ne_point fun hpoint => ?_
    exact absurd (h _ hpoint) (by decide)
  rw [ofInt_eq, List.append_assoc]
  obtain ⟨c, tail, hc⟩ := List.exists_cons_of_ne_nil hpart.ne_nil
  have hdigit := hpart.isDigit c (hc ▸ List.mem_cons_self)
  rw [hc, List.cons_append] at hwhole ⊢
  rw [number_sign hdigit hwhole (List.cons_ne_nil _ _) hfraction (exponent_of_isDelimited h),
    if_pos ⟨rfl, rfl⟩, ← hc, hlimit, if_neg Bool.false_ne_true, Text.digitsValue_ofNat]
  have hvalue : (if decide (n < 0) then -(n.natAbs : Int) else n.natAbs) = n := by
    simp only [decide_eq_true_eq]
    lia
  rw [hvalue]

/-! ### Numbers with a fraction or an exponent -/

/-- The parts of a number: its digits around the decimal point, and an exponent with its sign. -/
structure Numeral where
  whole : Text
  fraction : Text
  power : Option (Bool × Text)

namespace Numeral

/-- A decimal point and digits, if there are any. -/
def fractionText (fraction : Text) : Text :=
  if fraction = [] then [] else .point :: fraction

/-- The letter for an exponent, a sign and digits. -/
def powerText : Option (Bool × Text) → Text
  | none => []
  | some (negative, digits) => 'e'.toNat :: (if negative then .minus else .plus) :: digits

/-- The integer that an exponent stands for. -/
def powerValue : Bool × Text → Int
  | (negative, digits) => if negative then -Text.digitsValue digits else Text.digitsValue digits

/-- The text of a number without its sign. -/
def text (n : Numeral) : Text :=
  n.whole ++ (fractionText n.fraction ++ powerText n.power)

/-- The parts are digits, and there is a fraction or an exponent. -/
structure IsProper (n : Numeral) : Prop where
  whole : IsWholePart n.whole
  fraction : ∀ c ∈ n.fraction, c.IsDigit
  power : ∀ p, n.power = some p → p.2 ≠ [] ∧ ∀ c ∈ p.2, c.IsDigit
  isFloat : ¬ (n.fraction = [] ∧ n.power.map powerValue = none)

/-- The number that the parts put together stand for. -/
def value (n : Numeral) (negative : Bool) : Binary64 :=
  Binary64.ofDigits negative n.whole n.fraction ((n.power.map powerValue).getD 0)

variable {n : Numeral}

lemma exponent_powerText {power : Option (Bool × Text)}
    (h : ∀ p, power = some p → p.2 ≠ [] ∧ ∀ c ∈ p.2, c.IsDigit) (hrest : IsDelimited rest) :
    Reader.exponent (powerText power ++ rest) = (power.map powerValue, rest) := by
  match power with
  | none => exact exponent_of_isDelimited hrest
  | some (negative, digits) =>
    obtain ⟨hne, hdigits⟩ := h _ rfl
    have hsplit := splitDigits_append hdigits hrest.endsDigits
    cases negative <;>
      simp [powerText, Reader.exponent, Binary64.splitSign, hsplit, hne, powerValue]

/-- Neither a digit nor a decimal point stands where an exponent may. -/
lemma head_powerText (power : Option (Bool × Text)) (hrest : IsDelimited rest) :
    ∀ c, (powerText power ++ rest).head? = some c → ¬ c.IsDigit ∧ c ≠ .point := by
  intro c hc
  match power with
  | none => rcases hrest c hc with rfl | rfl | rfl <;> decide
  | some (negative, digits) =>
    obtain rfl : 'e'.toNat = c := Option.some.inj hc
    decide

lemma fractionDigits_fractionText {tail : Text} (hfraction : ∀ c ∈ fraction, c.IsDigit)
    (htail : ∀ c, tail.head? = some c → ¬ c.IsDigit ∧ c ≠ .point) :
    fractionDigits (fractionText fraction ++ tail) = (fraction, tail) ∧
      EndsDigits (fractionText fraction ++ tail) := by
  by_cases hne : fraction = []
  · subst hne
    exact ⟨fractionDigits_of_ne_point fun hc => (htail _ hc).2 rfl, fun c hc => (htail c hc).1⟩
  · rw [fractionText, if_neg hne]
    exact ⟨fractionDigits_append hfraction hne fun c hc => (htail c hc).1, endsDigits_cons (by decide)⟩

/-- A number with a fraction or an exponent is read up to its end. -/
lemma number_text (h : n.IsProper) (hrest : IsDelimited rest) (negative : Bool) :
    number limits (sign negative ++ n.text ++ rest) = .ok (.float (n.value negative), rest) := by
  have hpower := exponent_powerText h.power hrest
  obtain ⟨hfraction, hdigit⟩ := fractionDigits_fractionText h.fraction (head_powerText n.power hrest)
  have hwhole := wholeDigits_append h.whole hdigit
  rw [List.append_assoc, text, List.append_assoc, List.append_assoc]
  obtain ⟨c, tail, hc⟩ := List.exists_cons_of_ne_nil h.whole.ne_nil
  have hcdigit := h.whole.isDigit c (hc ▸ List.mem_cons_self)
  rw [hc, List.cons_append] at hwhole ⊢
  rw [number_sign hcdigit hwhole (List.cons_ne_nil _ _) hfraction hpower, if_neg h.isFloat, ← hc]
  rfl

lemma exists_text_eq_cons (h : n.IsProper) : ∃ c tail, n.text = c :: tail ∧ c.IsDigit := by
  obtain ⟨c, tail, hc⟩ := List.exists_cons_of_ne_nil h.whole.ne_nil
  exact ⟨c, _, by rw [text, hc, List.cons_append], h.whole.isDigit c (hc ▸ List.mem_cons_self)⟩

lemma isClean_text (h : n.IsProper) : n.text.IsClean := by
  have hdigits {digits : Text} (hdigits : ∀ c ∈ digits, c.IsDigit) : digits.IsClean := by
    intro c hc
    have := hdigits c hc
    lia
  refine (hdigits h.whole.isDigit).append (.append ?_ ?_)
  · unfold fractionText
    split
    · exact nofun
    · exact .cons (by decide) (hdigits h.fraction)
  · match hpower : n.power with
    | none => exact nofun
    | some (negative, digits) =>
      refine .cons (by decide) (.cons ?_ (hdigits (h.power _ hpower).2))
      cases negative <;> decide

end Numeral

/-! ### Layouts -/

variable {layout : Binary64.Layout} {point : Int} {x : Binary64} {e : Fin 2047} {f : Fin (2 ^ 52)}

/-- The text is that of a number with a fraction or an exponent, whatever its sign. -/
def Spells (t : Text) (x : Binary64) : Prop :=
  ∃ n : Numeral, n.IsProper ∧ n.text = t ∧ ∀ negative, n.value negative = x.withSign negative

lemma spells_of_value {n : Numeral} (hn : n.IsProper)
    (hx : Binary64.ofDecimal false (Text.digitsValue (n.whole ++ n.fraction))
      ((n.power.map Numeral.powerValue).getD 0 - n.fraction.length) = x) : Spells n.text x := by
  refine ⟨n, hn, rfl, fun negative => ?_⟩
  rw [← hx, Binary64.withSign_ofDecimal]
  rfl

lemma isDigit_zeros (k : Nat) : ∀ c ∈ List.replicate k CodePoint.zero, CodePoint.IsDigit c := by
  intro c hc
  rw [List.eq_of_mem_replicate hc]
  decide

lemma isWholePart_zero : IsWholePart [CodePoint.zero] :=
  ⟨by decide, List.cons_ne_nil _ _, fun _ => rfl⟩

lemma isWholePart_take (h : Binary64.StandFor digits point x) {k : Nat} (hk : 0 < k) (zeros : Nat) :
    IsWholePart ((digits ++ List.replicate zeros CodePoint.zero).take k) where
  isDigit c hc := List.forall_mem_append.mpr ⟨h.isDigit, isDigit_zeros zeros⟩ c (List.mem_of_mem_take hc)
  ne_nil := by
    have := h.ne_nil
    simp [hk.ne', this]
  head := by
    rw [List.head?_take, if_neg hk.ne', List.head?_append_of_ne_nil _ h.ne_nil]
    exact fun hzero => absurd hzero h.head

lemma spells_positional_of_nonpos (h : Binary64.StandFor digits point x) (hpoint : point ≤ 0) :
    Spells (Binary64.positional digits point) x := by
  let n : Numeral := ⟨[.zero], List.replicate (-point).toNat .zero ++ digits, none⟩
  have hne : n.fraction ≠ [] := fun heq => h.ne_nil (List.append_eq_nil_iff.mp heq).2
  have hproper : n.IsProper := by
    refine ⟨isWholePart_zero, ?_, nofun, fun hf => hne hf.1⟩
    exact List.forall_mem_append.mpr ⟨isDigit_zeros _, h.isDigit⟩
  have htext : n.text = Binary64.positional digits point := by
    rw [Numeral.text, Numeral.fractionText, if_neg hne, Binary64.positional, if_pos hpoint]
    simp [n, Numeral.powerText, Text.concat, Text.ofString]
  have hdigits : n.whole ++ n.fraction =
      List.replicate 1 CodePoint.zero ++ (List.replicate (-point).toNat CodePoint.zero ++ digits) := rfl
  rw [← htext]
  refine spells_of_value hproper ?_
  rw [← h.reads, hdigits, Text.digitsValue_zeros_append, Text.digitsValue_zeros_append]
  congr 1
  simp only [n, List.length_append, List.length_replicate, Option.map_none, Option.getD_none]
  lia

lemma spells_positional_of_pos (h : Binary64.StandFor digits point x) (hpoint : 0 < point) :
    Spells (Binary64.positional digits point) x := by
  unfold Binary64.positional
  rw [if_neg (not_le.mpr hpoint)]
  extract_lets whole padded tail
  have hwhole : 0 < whole := by lia
  let n : Numeral := ⟨padded.take whole, if tail = [] then [.zero] else tail, none⟩
  have hne : n.fraction ≠ [] := by
    simp only [n]
    split
    · exact List.cons_ne_nil _ _
    · assumption
  have hproper : n.IsProper := by
    refine ⟨isWholePart_take h hwhole _, ?_, nofun, fun hf => hne hf.1⟩
    simp only [n]
    split
    · exact isDigit_zeros 1
    · intro c hc
      exact List.forall_mem_append.mpr ⟨h.isDigit, isDigit_zeros _⟩ c (List.mem_of_mem_drop hc)
  have htext : n.text = Text.concat [padded.take whole, ".", if tail = [] then "0" else tail] := by
    rw [Numeral.text, Numeral.fractionText, if_neg hne]
    simp [n, Numeral.powerText, Text.concat, Text.ofString]
  rw [← htext]
  refine spells_of_value hproper ?_
  rw [← h.reads]
  rcases Nat.lt_or_ge whole digits.length with hlong | hshort
  · have hpadded : padded = digits := by
      simp [padded, Nat.sub_eq_zero_of_le hlong.le]
    have htail : tail ≠ [] := by
      simp [tail, hpadded, hlong]
    have hfraction : n.fraction = padded.drop whole := if_neg htail
    rw [hfraction, List.take_append_drop, hpadded, List.length_drop]
    congr 1
    simp only [n, Option.map_none, Option.getD_none]
    lia
  · have hlength : padded.length = whole := by
      simp [padded, hshort]
    have htail : tail = [] := by
      simp [tail, hlength]
    have hfraction : n.fraction = [CodePoint.zero] := if_pos htail
    have hdigits : n.whole ++ n.fraction =
        digits ++ List.replicate (whole - digits.length + 1) CodePoint.zero := by
      have hall : n.whole = padded := List.take_of_length_le hlength.le
      rw [hfraction, hall, List.replicate_succ', ← List.append_assoc]
    rw [hdigits, hfraction, Text.digitsValue_append_zeros, Binary64.ofDecimal_mul_pow]
    congr 1
    simp only [n, Option.map_none, Option.getD_none, List.length_singleton]
    lia

/-- Digits with a decimal point inside, before or after them spell the number. -/
lemma spells_positional (h : Binary64.StandFor digits point x) :
    Spells (Binary64.positional digits point) x := by
  rcases lt_or_ge 0 point with hpoint | hpoint
  · exact spells_positional_of_pos h hpoint
  · exact spells_positional_of_nonpos h hpoint

/-- One digit, the others after a decimal point, and an exponent spell the number. -/
lemma spells_scientific (h : Binary64.StandFor digits point x) (least : Nat) :
    Spells (Binary64.scientific least digits point) x := by
  let n : Numeral := ⟨digits.take 1, digits.drop 1, some (decide (point ≤ 0),
    List.replicate (least - (Text.ofNat (point - 1).natAbs).length) CodePoint.zero ++
      Text.ofNat (point - 1).natAbs)⟩
  have hproper : n.IsProper := by
    refine ⟨?_, fun c hc => h.isDigit c (List.mem_of_mem_drop hc), ?_, fun hf => nomatch hf.2⟩
    · have hwhole := isWholePart_take h Nat.one_pos 0
      rwa [List.replicate_zero, List.append_nil] at hwhole
    · rintro p ⟨⟩
      refine ⟨fun heq => Text.ofNat_ne_nil _ (List.append_eq_nil_iff.mp heq).2, ?_⟩
      exact List.forall_mem_append.mpr ⟨isDigit_zeros _, fun c => Text.isDigit_of_mem_ofNat⟩
  have htext : n.text = Binary64.scientific least digits point := by
    unfold Binary64.scientific
    simp only [n, Numeral.text, Numeral.fractionText, Numeral.powerText, Text.concat,
      List.drop_eq_nil_iff, decide_eq_true_eq]
    split <;> split <;> simp [Text.ofString]
  rw [← htext]
  refine spells_of_value hproper ?_
  have hpower : (n.power.map Numeral.powerValue).getD 0 = point - 1 := by
    simp only [n, Option.map_some, Option.getD_some, Numeral.powerValue, Text.digitsValue_zeros_append,
      Text.digitsValue_ofNat, decide_eq_true_eq]
    split <;> lia
  have hlength := List.length_pos_iff.mpr h.ne_nil
  rw [hpower, ← h.reads, List.take_append_drop, List.length_drop]
  congr 1
  lia

lemma spells_zero : Spells "0.0" (.finite false 0 0) := by
  let n : Numeral := ⟨[.zero], [.zero], none⟩
  have hproper : n.IsProper := ⟨isWholePart_zero, isDigit_zeros 1, nofun, fun hf => nomatch hf.1⟩
  exact spells_of_value hproper rfl

/-- The text of a finite number is a sign and a text that spells the number. -/
lemma exists_render (layout : Binary64.Layout) (negative : Bool) (e : Fin 2047) (f : Fin (2 ^ 52)) :
    ∃ t, (Binary64.finite negative e f).render layout = sign negative ++ t ∧
      Spells t (.finite false e f) := by
  by_cases hzero : Binary64.mantissa e f = 0
  · obtain ⟨rfl, rfl⟩ : e = 0 ∧ f = 0 := by
      unfold Binary64.mantissa at hzero
      split at hzero
      · next he => exact ⟨Fin.ext he, Fin.ext hzero⟩
      · lia
    exact ⟨"0.0", by cases negative <;> rfl, spells_zero⟩
  · have hdigits := Binary64.standFor_shortest hzero
    have hsign : (if negative then ("-" : Text) else []) = sign negative := rfl
    simp only [Binary64.render, if_neg hzero, hsign]
    split
    · exact ⟨_, rfl, spells_positional hdigits⟩
    · exact ⟨_, rfl, spells_scientific hdigits _⟩

lemma startsNumber_render (layout : Binary64.Layout) (hx : x.isFinite) :
    StartsNumber (x.render layout) := by
  match x with
  | .finite negative e f =>
    obtain ⟨t, hrender, n, hn, rfl, _⟩ := exists_render layout negative e f
    obtain ⟨c, tail, hc, hdigit⟩ := n.exists_text_eq_cons hn
    exact ⟨negative, c, tail, by rw [hrender, hc], hdigit⟩

lemma isClean_render (layout : Binary64.Layout) (hx : x.isFinite) : (x.render layout).IsClean := by
  match x with
  | .finite negative e f =>
    obtain ⟨t, hrender, n, hn, rfl, _⟩ := exists_render layout negative e f
    rw [hrender]
    refine .append ?_ (n.isClean_text hn)
    cases negative <;> decide

/-- The text of a finite number is read as the number. -/
lemma number_render (layout : Binary64.Layout) (hx : x.isFinite) (hrest : IsDelimited rest) :
    number limits (x.render layout ++ rest) = .ok (.float x, rest) := by
  match x with
  | .finite negative e f =>
    obtain ⟨t, hrender, n, hn, rfl, hvalue⟩ := exists_render layout negative e f
    rw [hrender, Numeral.number_text hn hrest, hvalue]
    rfl

end ChainRpc.Json.Reader
