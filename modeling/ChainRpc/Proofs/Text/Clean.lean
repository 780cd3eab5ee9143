import ChainRpc.Proofs.Text.Digits
import ChainRpc.Proofs.Text.Utf8
import ChainRpc.Text.Detect

/-!
# Texts that are known to be UTF-8

A text of characters other than the null character has no zero among its bytes. So if it starts with a
character of ASCII, its bytes are not taken for those of another encoding.
-/

namespace ChainRpc

/-! ### Characters other than the null character -/

namespace Text

/-- The text holds characters only, and none of them is the null character. -/
abbrev IsClean (t : Text) : Prop := ∀ c ∈ t, c.IsScalar ∧ c ≠ 0

variable {t u separator : Text} {parts : List Text}

lemma IsClean.append (ht : t.IsClean) (hu : u.IsClean) : (t ++ u).IsClean :=
  List.forall_mem_append.mpr ⟨ht, hu⟩

lemma IsClean.cons {c : CodePoint} (hc : c.IsScalar ∧ c ≠ 0) (ht : t.IsClean) : IsClean (c :: t) :=
  List.forall_mem_cons.mpr ⟨hc, ht⟩

lemma joined_cons (separator first : Text) (rest : List Text) :
    joined separator (first :: rest) = first ++ rest.flatMap (separator ++ ·) := by
  induction rest generalizing first with
  | nil => simp [joined]
  | cons second rest ih =>
    have h : joined separator (first :: second :: rest) =
        first ++ separator ++ joined separator (second :: rest) := by simp [joined]
    rw [h, ih, List.flatMap_cons, List.append_assoc, List.append_assoc]

lemma isClean_joined (hs : separator.IsClean) (h : ∀ part ∈ parts, part.IsClean) :
    (joined separator parts).IsClean := by
  cases parts with
  | nil => exact nofun
  | cons first rest =>
    obtain ⟨hfirst, hrest⟩ := List.forall_mem_cons.mp h
    rw [joined_cons]
    refine hfirst.append fun c hc => ?_
    obtain ⟨part, hpart, hc⟩ := List.mem_flatMap.mp hc
    exact hs.append (hrest part hpart) c hc

lemma isClean_ofInt (n : Int) : (ofInt n).IsClean := by
  have hdigits (n : Nat) : (ofNat n).IsClean := by
    intro c hc
    have hdigit := isDigit_of_mem_ofNat hc
    lia
  cases n with
  | ofNat n => exact hdigits n
  | negSucc n => exact .cons (by decide) (hdigits (n + 1))

lemma isScalar_ofNat (n : Nat) : (ofNat n).IsScalar := fun c hc =>
  (isClean_ofInt n c hc).1

lemma isScalar_concat (h : ∀ part ∈ parts, part.IsScalar) : (concat parts).IsScalar := by
  intro c hc
  obtain ⟨part, hpart, hc⟩ := List.mem_flatten.mp hc
  exact h part hpart c hc

end Text

/-! ### Bodies -/

namespace Utf8

variable {c : CodePoint} {t : Text}

lemma ofNat_ne_zero {n : Nat} (h : 0 < n) (h' : n < 256) : UInt8.ofNat n ≠ 0 := by
  intro heq
  have hn := toNat_ofNat_of_lt h'
  rw [heq] at hn
  exact absurd hn (by simp; omega)

lemma ne_zero_of_mem_encodePoint (hc : c.IsScalar ∧ c ≠ 0) : ∀ b ∈ encodePoint c, b ≠ 0 := by
  unfold encodePoint
  split
  · exact List.forall_mem_singleton.mpr (ofNat_ne_zero (by lia) (by lia))
  · split
    · simp only [List.forall_mem_cons]
      exact ⟨ofNat_ne_zero (by lia) (by lia), ofNat_ne_zero (by lia) (by lia), nofun⟩
    · split
      · simp only [List.forall_mem_cons]
        exact ⟨ofNat_ne_zero (by lia) (by lia), ofNat_ne_zero (by lia) (by lia),
          ofNat_ne_zero (by lia) (by lia), nofun⟩
      · simp only [List.forall_mem_cons]
        exact ⟨ofNat_ne_zero (by lia) (by lia), ofNat_ne_zero (by lia) (by lia),
          ofNat_ne_zero (by lia) (by lia), ofNat_ne_zero (by lia) (by lia), nofun⟩

lemma ne_zero_of_mem_encodeAll (h : t.IsClean) : ∀ b ∈ encodeAll t, b ≠ 0 := by
  intro b hb
  obtain ⟨c, hc, hb⟩ := List.mem_flatMap.mp hb
  exact ne_zero_of_mem_encodePoint (h c hc) b hb

end Utf8

namespace Encoded

variable {raw : Bytes} {b : UInt8} {t : Text}

lemma codec_of_ne_zero (h : ∀ b ∈ raw, b ≠ 0) : codec raw = .utf8 := by
  unfold codec
  split
  · simp_all
  · simp_all
  · rfl

lemma decode_of_ascii (h : b < 0x80) (h' : b ≠ 0) :
    decode (b :: raw) = decodeAs 0 (codec (b :: raw)) (b :: raw) := by
  unfold decode
  split
  · next heq => exact absurd (List.cons.inj heq).1 h'
  · next heq => exact absurd ((List.cons.inj heq).1 ▸ h) (by decide)
  · next heq => exact absurd ((List.cons.inj heq).1 ▸ h) (by decide)
  · next heq => exact absurd ((List.cons.inj heq).1 ▸ h) (by decide)
  · next heq => exact absurd ((List.cons.inj heq).1 ▸ h) (by decide)
  · rfl

/-- A text without null characters that starts with one of ASCII is taken for UTF-8. -/
lemma decode_encodeAll {c : CodePoint} (hc : c < 0x80) (h : Text.IsClean (c :: t)) :
    decode (Utf8.encodeAll (c :: t)) = .ok (c :: t) := by
  have hbytes : Utf8.encodeAll (c :: t) = UInt8.ofNat c :: Utf8.encodeAll t := by
    rw [Utf8.encodeAll, List.flatMap_cons, Utf8.encodePoint, if_pos hc]
    rfl
  have hzero := Utf8.ne_zero_of_mem_encodeAll h
  have hscalar : Text.IsScalar (c :: t) := fun d hd => (h d hd).1
  have hcodec := codec_of_ne_zero hzero
  rw [hbytes] at hcodec hzero ⊢
  rw [decode_of_ascii, hcodec, ← hbytes]
  · exact Utf8.decodeAll_encodeAll hscalar
  · rw [UInt8.lt_iff_toNat_lt, Utf8.toNat_ofNat_of_lt (by lia)]
    exact hc
  · exact hzero _ List.mem_cons_self

end Encoded

end ChainRpc
