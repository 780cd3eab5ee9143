import ChainRpc.Proofs.Json.RoundTrip
import ChainRpc.Proofs.Text.Decoded

/-!
# What is read from a body

Whatever a body spells, the value read from it has texts of code points within the range of Unicode, and its
objects have distinct names. If a node can write such a value at all, what it writes is read as the value.
-/

namespace ChainRpc

/-- The texts of the value are within the range of Unicode, and its objects have distinct names. -/
inductive Json.IsRegular : Json → Prop
  | null : IsRegular .null
  | bool (b : Bool) : IsRegular (.bool b)
  | int (n : Int) : IsRegular (.int n)
  | float (x : Binary64) : IsRegular (.float x)
  | str {t : Text} (h : t.InRange) : IsRegular (.str t)
  | list {items : List Json} (h : ∀ j ∈ items, IsRegular j) : IsRegular (.list items)
  | dict {entries : Entries Json} (hn : (Entries.names entries).Nodup)
    (hnames : ∀ e ∈ entries, e.1.InRange) (h : ∀ e ∈ entries, IsRegular e.2) :
    IsRegular (.dict entries)

namespace Json

namespace Reader

variable {t u rest : Text} {j : Json} {item : Text → Except Stop (Json × Text)}

/-! ### Texts -/

lemma inRange_skipSpace (h : t.InRange) : (skipSpace t).InRange :=
  h.of_subset (List.dropWhile_sublist _).subset

lemma hexValue?_lt {c : CodePoint} {n : Nat} (h : c.hexValue? = some n) : n < 16 := by
  unfold CodePoint.hexValue? at h
  split at h
  · cases h
    lia
  split at h
  · cases h
    lia
  split at h
  · cases h
    lia
  · cases h

lemma hex4?_lt {a b c d : CodePoint} {n : Nat} (h : hex4? a b c d = some n) : n < 0x10000 := by
  simp only [hex4?, bind, Option.bind_eq_some_iff, pure, Option.some.injEq] at h
  obtain ⟨a', ha, b', hb, c', hc, d', hd, rfl⟩ := h
  have := hexValue?_lt ha
  have := hexValue?_lt hb
  have := hexValue?_lt hc
  have := hexValue?_lt hd
  omega

lemma unescape?_lt {letter c : CodePoint} (h : unescape? letter = some c) : c < 0x110000 := by
  unfold unescape? at h
  split at h <;> cases h <;> decide

lemma isLowSurrogate_of_lowHalf? {low : CodePoint} (h : lowHalf? t = .ok (some low)) :
    low.IsLowSurrogate := by
  unfold lowHalf? at h
  split at h
  · split at h
    · cases h
    · split at h
      · next hlow =>
        cases h
        exact hlow
      · cases h
  · cases h

/-- The code points of a string are those of its text, or are spelt by escapes. -/
lemma inRange_string {opening : Nat} {read : Text} (hread : read.InRange) (ht : t.InRange) :
    string opening read t = .ok (u, rest) → u.InRange ∧ rest.InRange := by
  fun_induction string opening read t with
  | case2 read rest' =>
    rintro ⟨⟩
    exact ⟨hread.reverse, ht.tail⟩
  | case7 read a b c d tail htail n hn hhigh hlow ih =>
    exact ih (.cons (Nat.lt_trans (hex4?_lt hn) (by decide)) hread) (ht.drop 6)
  | case8 read a b c d n hn hhigh low e e' e'' f f' f'' beyond htail hlow ih =>
    exact ih (.cons (CodePoint.ofPair_lt hhigh (isLowSurrogate_of_lowHalf? hlow)) hread) (ht.drop 12)
  | case10 read a b c d tail htail n hn hhigh ih =>
    exact ih (.cons (Nat.lt_trans (hex4?_lt hn) (by decide)) hread) (ht.drop 6)
  | case13 read letter tail _ _ c hc ih => exact ih (.cons (unescape?_lt hc) hread) ht.tail.tail
  | case15 read c rest _ _ _ ih => exact ih (.cons (ht c List.mem_cons_self) hread) ht.tail
  | _ => exact nofun

/-! ### Words and numbers -/

lemma isRegular_of_word? (h : word? t = some (j, rest)) (ht : t.InRange) :
    j.IsRegular ∧ rest.InRange := by
  obtain ⟨⟨word, value⟩, hmem, hword⟩ := List.exists_of_findSome?_eq_some h
  obtain ⟨tail, htail, heq⟩ := Option.map_eq_some_iff.mp hword
  cases heq
  refine ⟨?_, ?_⟩
  · have hwords : ∀ e ∈ words, e.2.IsRegular := by
      simp only [words, List.forall_mem_cons]
      exact ⟨.null, .bool _, .bool _, .float _, .float _, .float _, List.forall_mem_nil _⟩
    exact hwords _ hmem
  · obtain rfl := List.isPrefixOf?_eq_some_iff_append_eq.mp htail
    exact fun c hc => ht c (List.mem_append_right _ hc)

lemma splitDigits_subset (t : Text) : (Binary64.splitDigits t).2 ⊆ t := by
  rw [Binary64.splitDigits, List.span_eq_takeWhile_dropWhile]
  exact (List.dropWhile_sublist _).subset

lemma splitSign_subset (t : Text) : (Binary64.splitSign t).2 ⊆ t := by
  unfold Binary64.splitSign
  split
  · exact List.subset_cons_self _ _
  · exact List.subset_cons_self _ _
  · exact List.Subset.refl _

lemma wholeDigits_subset (t : Text) : (wholeDigits t).2 ⊆ t := by
  unfold wholeDigits
  split
  · exact List.subset_cons_self _ _
  · exact splitDigits_subset t

lemma fractionDigits_subset (t : Text) : (fractionDigits t).2 ⊆ t := by
  unfold fractionDigits
  split
  · split
    · exact List.subset_cons_of_subset _ (splitDigits_subset _)
    · exact List.Subset.refl _
  · exact List.Subset.refl _

lemma exponent_subset (t : Text) : (exponent t).2 ⊆ t := by
  unfold exponent
  split
  · exact List.Subset.refl _
  · dsimp only
    split
    · exact List.subset_cons_of_subset _ (List.Subset.trans (splitDigits_subset _) (splitSign_subset _))
    · exact List.Subset.refl _

lemma isRegular_of_number {limits : Limits} (h : number limits t = .ok (j, rest)) (ht : t.InRange) :
    j.IsRegular ∧ rest.InRange := by
  have hrest : rest ⊆ t ∧ ((∃ n, j = .int n) ∨ ∃ x, j = .float x) := by
    unfold number at h
    split at h
    next negative unsigned hsign =>
    have hunsigned : unsigned ⊆ t := by
      split at hsign
      · cases hsign
        exact List.subset_cons_self _ _
      · cases hsign
        exact List.Subset.refl _
    have hparts : (exponent (fractionDigits (wholeDigits unsigned).2).2).2 ⊆ t :=
      List.Subset.trans (exponent_subset _) <| List.Subset.trans (fractionDigits_subset _) <|
        List.Subset.trans (wholeDigits_subset _) hunsigned
    dsimp only at h
    split at h
    · cases h
    split at h
    · split at h
      · cases h
      · cases h
        exact ⟨hparts, .inl ⟨_, rfl⟩⟩
    · cases h
      exact ⟨hparts, .inr ⟨_, rfl⟩⟩
  refine ⟨?_, ht.of_subset hrest.1⟩
  rcases hrest.2 with ⟨n, rfl⟩ | ⟨x, rfl⟩
  · exact .int n
  · exact .float x

/-! ### Values -/

/-- What the reader of a value reads is regular, and what it leaves is within the range of Unicode. -/
def IsSound (item : Text → Except Stop (Json × Text)) : Prop :=
  ∀ {t j rest}, item t = .ok (j, rest) → t.InRange → j.IsRegular ∧ rest.InRange

lemma isSound_scalar (limits : Limits) : IsSound (scalar limits) := by
  intro t j rest h ht
  unfold scalar at h
  split at h
  · obtain ⟨⟨s, rest'⟩, hstring, heq⟩ := Checked.map_eq_ok_iff.mp h
    cases heq
    obtain ⟨hs, hrest⟩ := inRange_string (List.forall_mem_nil _) ht.tail hstring
    exact ⟨.str hs, hrest⟩
  · split at h
    · next found hword =>
      cases h
      exact isRegular_of_word? hword ht
    · exact isRegular_of_number h ht

lemma regular_items (hitem : IsSound item) {fuel : Nat} {read js : List Json}
    (h : items item fuel read t = .ok (js, rest)) (hread : ∀ j ∈ read, j.IsRegular)
    (ht : t.InRange) : (∀ j ∈ js, j.IsRegular) ∧ rest.InRange := by
  induction fuel generalizing read t with
  | zero => cases h
  | succ fuel ih =>
    rw [items] at h
    obtain ⟨⟨value, left⟩, hvalue, h⟩ := Checked.bind_eq_ok_iff.mp h
    obtain ⟨hregular, hleft⟩ := hitem hvalue ht
    have hspace := inRange_skipSpace hleft
    have hread' : ∀ j ∈ value :: read, j.IsRegular := List.forall_mem_cons.mpr ⟨hregular, hread⟩
    dsimp only at h
    split at h
    · next left' heq =>
      rw [heq] at hspace
      exact ih h hread' (inRange_skipSpace hspace.tail)
    · next left' heq =>
      rw [heq] at hspace
      cases h
      exact ⟨fun j hj => hread' j (List.mem_reverse.mp hj), hspace.tail⟩
    · cases h

lemma isSound_array (hitem : IsSound item) : IsSound (array item) := by
  intro t j rest h ht
  have hspace := inRange_skipSpace ht
  unfold array at h
  split at h
  · next left heq =>
    rw [heq] at hspace
    cases h
    exact ⟨.list (List.forall_mem_nil _), hspace.tail⟩
  · obtain ⟨⟨js, left⟩, hjs, heq⟩ := Checked.map_eq_ok_iff.mp h
    cases heq
    obtain ⟨hregular, hleft⟩ := regular_items hitem hjs (List.forall_mem_nil _) hspace
    exact ⟨.list hregular, hleft⟩

lemma regular_member (hitem : IsSound item) {e : Text × Json} (h : member item t = .ok (e, rest))
    (ht : t.InRange) : e.1.InRange ∧ e.2.IsRegular ∧ rest.InRange := by
  unfold member at h
  split at h
  · obtain ⟨⟨name, left⟩, hname, h⟩ := Checked.bind_eq_ok_iff.mp h
    obtain ⟨hnameRange, hleft⟩ := inRange_string (List.forall_mem_nil _) ht.tail hname
    have hspace := inRange_skipSpace hleft
    dsimp only at h
    split at h
    · next left' heq =>
      rw [heq] at hspace
      obtain ⟨⟨value, left''⟩, hvalue, heq'⟩ := Checked.bind_eq_ok_iff.mp h
      cases heq'
      exact ⟨hnameRange, hitem hvalue (inRange_skipSpace hspace.tail)⟩
    · cases h
  · cases h

lemma regular_members (hitem : IsSound item) {fuel : Nat} {read entries : Entries Json}
    (h : members item fuel read t = .ok (entries, rest)) (hread : (Json.dict read).IsRegular)
    (ht : t.InRange) : (Json.dict entries).IsRegular ∧ rest.InRange := by
  induction fuel generalizing read t with
  | zero => cases h
  | succ fuel ih =>
    rw [members] at h
    obtain ⟨⟨⟨name, value⟩, left⟩, hmember, h⟩ := Checked.bind_eq_ok_iff.mp h
    obtain ⟨hname, hvalue, hleft⟩ := regular_member hitem hmember ht
    have hspace := inRange_skipSpace hleft
    have hput : (Json.dict (read.put name value)).IsRegular := by
      cases hread with
      | dict hn hnames hvalues =>
        exact .dict (Entries.nodup_put hn _ _) (Entries.forall_mem_put hname hnames)
          (Entries.forall_mem_put hvalue hvalues)
    dsimp only at h
    split at h
    · next left' heq =>
      rw [heq] at hspace
      exact ih h hput (inRange_skipSpace hspace.tail)
    · next left' heq =>
      rw [heq] at hspace
      cases h
      exact ⟨hput, hspace.tail⟩
    · cases h

lemma isSound_object (hitem : IsSound item) : IsSound (object item) := by
  intro t j rest h ht
  have hspace := inRange_skipSpace ht
  have hnil : (Json.dict []).IsRegular :=
    .dict List.nodup_nil (List.forall_mem_nil _) (List.forall_mem_nil _)
  unfold object at h
  split at h
  · next left heq =>
    rw [heq] at hspace
    cases h
    exact ⟨hnil, hspace.tail⟩
  · obtain ⟨⟨entries, left⟩, hentries, heq⟩ := Checked.map_eq_ok_iff.mp h
    cases heq
    exact regular_members hitem hentries hnil hspace

lemma isSound_value (limits : Limits) (depth : Nat) : IsSound (value limits depth) := by
  induction depth with
  | zero =>
    intro t j rest h ht
    rw [value.eq_def] at h
    split at h
    · cases h
    · cases h
    · next hdepth => cases hdepth
    · next hdepth => cases hdepth
    · exact isSound_scalar limits h ht
  | succ depth ih =>
    intro t j rest h ht
    rw [value.eq_def] at h
    split at h
    · cases h
    · cases h
    · next hdepth =>
      cases hdepth
      exact isSound_array ih h ht.tail
    · next hdepth =>
      cases hdepth
      exact isSound_object ih h ht.tail
    · exact isSound_scalar limits h ht

end Reader

/-- What is read from a body is regular. -/
theorem isRegular_of_ofBytes {raw : Bytes} {j : Json} (h : ofBytes raw = .ok j) : j.IsRegular := by
  unfold ofBytes at h
  split at h
  · cases h
  · next t ht =>
    obtain ⟨⟨found, rest⟩, hvalue, hdocument⟩ :=
      Checked.bind_eq_ok_iff.mp (Checked.mapError_eq_ok_iff.mp h)
    dsimp only at hdocument
    split at hdocument
    · cases hdocument
      exact (Reader.isSound_value _ _ hvalue
        (Reader.inRange_skipSpace (Encoded.inRange_of_decode ht))).1
    · cases hdocument

end Json

end ChainRpc
