import ChainRpc.Proofs.Json.Numbers
import ChainRpc.Proofs.Hex
import ChainRpc.Proofs.Json.Portable
import ChainRpc.Json.Reader
import Mathlib.Data.List.TakeDrop

/-!
# Reading what was written

The reader takes from a text just what was written for a value, whatever part of a document follows it: a
comma or the end of a container. So it finds the items of an array and the members of an object one after
the other, and the value of a document.
-/

namespace ChainRpc.Json

namespace Reader

variable {limits : Limits} {float : Binary64 → Text} {read t rest : Text} {opening : Nat}
  {c : CodePoint}

/-! ### Space -/

lemma skipSpace_cons (h : isSpace c = false) : skipSpace (c :: rest) = c :: rest := by
  simp [skipSpace, h]

lemma skipSpace_of_isDelimited (h : IsDelimited rest) : skipSpace rest = rest := by
  cases rest with
  | nil => rfl
  | cons c rest =>
    apply skipSpace_cons
    rcases h c rfl with rfl | rfl | rfl <;> rfl

/-! ### Strings -/

lemma string_of_hex4? {a b d e : CodePoint} {n : Nat} (hn : hex4? a b d e = some n)
    (hs : ¬ CodePoint.IsHighSurrogate n) (hrest : rest ≠ []) :
    string opening read (.backslash :: .letterU :: a :: b :: d :: e :: rest) =
      string opening (n :: read) rest := by
  rw [string, if_neg hrest, hn]
  exact if_neg hs

lemma string_of_plain (hquote : c ≠ .quote) (hbackslash : c ≠ .backslash) (hcontrol : ¬ c < 0x20) :
    string opening read (c :: rest) = string opening (c :: read) rest := by
  rw [string]
  · exact if_neg hcontrol
  · exact hquote
  · exact hbackslash

/-- The control characters without a letter of their own are written as four digits. -/
lemma escape_of_unlettered : ∀ c < 0x20, c ∉ ([8, 9, 10, 12, 13] : List CodePoint) →
    escape c =
      [.backslash, .letterU, .zero, .zero, Hex.digit (c / 16), Hex.digit (c % 16)] ∧
    hex4? .zero .zero (Hex.digit (c / 16)) (Hex.digit (c % 16)) = some c := by
  decide

lemma string_escape (c : CodePoint) (hrest : rest ≠ []) :
    string opening read (escape c ++ rest) = string opening (c :: read) rest := by
  by_cases hletter : c ∈ ([34, 92, 8, 9, 10, 12, 13] : List CodePoint)
  · simp only [List.mem_cons, List.not_mem_nil, or_false] at hletter
    rcases hletter with rfl | rfl | rfl | rfl | rfl | rfl | rfl <;> rfl
  · by_cases hcontrol : c < 0x20
    · obtain ⟨hescape, hhex⟩ := escape_of_unlettered c hcontrol (by simp_all)
      rw [hescape]
      refine string_of_hex4? hhex ?_ hrest
      lia
    · have hescape : escape c = [c] := by
        unfold escape
        split <;> first | exact if_neg hcontrol | simp at hletter
      rw [hescape]
      apply string_of_plain _ _ hcontrol
      · rintro rfl
        simp at hletter
      · rintro rfl
        simp at hletter

/-- A string is read up to its closing mark. -/
lemma string_write (t : Text) :
    string opening read (t.flatMap escape ++ .quote :: rest) = .ok (read.reverse ++ t, rest) := by
  induction t generalizing read with
  | nil => simp [string]
  | cons c tail ih =>
    rw [List.flatMap_cons, List.append_assoc, string_escape c (by simp), ih, List.reverse_cons,
      List.append_assoc]
    rfl

/-! ### How values start -/

/-- A value starts with a character of ASCII that is no space and does not end an array. -/
abbrev StartsValue (c : CodePoint) : Prop :=
  isSpace c = false ∧ c ≠ .closeBracket ∧ c < 0x80

lemma StartsNumber.startsValue (h : StartsNumber t) : ∃ c tail, t = c :: tail ∧ StartsValue c := by
  obtain ⟨c, tail, hc, hfirst⟩ := h.exists_eq_cons
  have hstart : ∀ c < 0x80, CodePoint.IsDigit c ∨ c = .minus → StartsValue c := by decide
  exact ⟨c, tail, hc, hstart c (by lia) hfirst⟩

/-- Floating-point numbers of a kind are written so that they are read back. -/
structure CarriesFloats (float : Binary64 → Text) (floats : Binary64 → Prop) : Prop where
  startsNumber {x : Binary64} (hx : floats x) : StartsNumber (float x)
  isClean {x : Binary64} (hx : floats x) : (float x).IsClean
  number_eq {x : Binary64} (hx : floats x) (limits : Limits) {rest : Text} (hrest : IsDelimited rest) :
    number limits (float x ++ rest) = .ok (.float x, rest)

lemma carriesFloats_none (float : Binary64 → Text) : CarriesFloats float fun _ => False :=
  ⟨nofun, nofun, nofun⟩

/-- What is written for the value starts as values do. -/
def Starts (float : Binary64 → Text) (j : Json) : Prop :=
  ∃ c tail, j.write float = c :: tail ∧ StartsValue c

lemma starts_write {floats : Binary64 → Prop} {room : Nat} {j : Json}
    (hfloats : CarriesFloats float floats) (h : j.PortableWith floats room) : Starts float j := by
  cases h with
  | null => exact ⟨_, _, rfl, by decide⟩
  | bool b => cases b <;> exact ⟨_, _, rfl, by decide⟩
  | @int room n h => exact (startsNumber_ofInt n).startsValue
  | @float room x hx => exact (hfloats.startsNumber hx).startsValue
  | str h => exact ⟨_, _, rfl, by decide⟩
  | list h =>
    rw [Starts, write_list]
    exact ⟨_, _, rfl, by decide⟩
  | dict hn hnames h =>
    rw [Starts, write_dict]
    exact ⟨_, _, rfl, by decide⟩

lemma Starts.skipSpace {j : Json} (h : Starts float j) (rest : Text) :
    Reader.skipSpace (j.write float ++ rest) = j.write float ++ rest := by
  obtain ⟨c, tail, hc, hstart, _⟩ := h
  rw [hc]
  exact skipSpace_cons hstart

/-! ### Arrays -/

/-- What is written for the value is read, whatever part of a document follows it. -/
def Reads (float : Binary64 → Text) (read : Text → Except Stop (Json × Text)) (j : Json) : Prop :=
  ∀ rest, IsDelimited rest → read (j.write float ++ rest) = .ok (j, rest)

variable {item : Text → Except Stop (Json × Text)} {j : Json} {js found : List Json} {room fuel : Nat}

lemma isDelimited_writeItems (float : Binary64 → Text) (js : List Json) (rest : Text) :
    IsDelimited (writeItems float js ++ rest) := by
  cases js with
  | nil => exact isDelimited_cons (.inr (.inl rfl))
  | cons j js => exact isDelimited_cons (.inl rfl)

lemma length_le_length_writeItems (float : Binary64 → Text) (js : List Json) :
    js.length ≤ (writeItems float js).length := by
  induction js with
  | nil => exact Nat.zero_le _
  | cons j js ih =>
    simp only [writeItems, List.length_append, List.length_cons]
    omega

lemma items_write (hfuel : js.length < fuel) (hj : Reads float item j)
    (hreads : ∀ k ∈ js, Reads float item k) (hstarts : ∀ k ∈ js, Starts float k) :
    items item fuel found (j.write float ++ (writeItems float js ++ rest)) =
      .ok (found.reverse ++ j :: js, rest) := by
  obtain ⟨fuel, rfl⟩ := Nat.exists_eq_succ_of_ne_zero (by omega : fuel ≠ 0)
  induction js generalizing j found fuel with
  | nil =>
    have hspace := skipSpace_of_isDelimited (isDelimited_writeItems float [] rest)
    rw [items, hj _ (isDelimited_writeItems float [] rest)]
    simp only [bind, Except.bind, hspace]
    simp [writeItems]
  | cons k js ih =>
    obtain ⟨hk, hreads⟩ := List.forall_mem_cons.mp hreads
    obtain ⟨hstart, hstarts⟩ := List.forall_mem_cons.mp hstarts
    rw [List.length_cons] at hfuel
    obtain ⟨fuel, rfl⟩ := Nat.exists_eq_succ_of_ne_zero (by omega : fuel ≠ 0)
    have hspace := skipSpace_of_isDelimited (isDelimited_writeItems float (k :: js) rest)
    have htail : writeItems float (k :: js) ++ rest =
        .comma :: (k.write float ++ (writeItems float js ++ rest)) := by
      simp [writeItems]
    rw [items, hj _ (isDelimited_writeItems float (k :: js) rest)]
    simp only [bind, Except.bind, hspace]
    rw [htail]
    show items item (fuel + 1) (j :: found) (skipSpace (k.write float ++ _)) = _
    rw [hstart.skipSpace, ih hk hreads hstarts fuel (by omega)]
    simp

/-- An array is read item by item. -/
lemma array_write (hreads : ∀ k ∈ js, Reads float item k) (hstarts : ∀ k ∈ js, Starts float k)
    (rest : Text) :
    ∃ tail, write float (.list js) = .openBracket :: tail ∧
      array item (tail ++ rest) = .ok (.list js, rest) := by
  cases js with
  | nil => exact ⟨[.closeBracket], rfl, rfl⟩
  | cons j js =>
    obtain ⟨hj, hreads⟩ := List.forall_mem_cons.mp hreads
    obtain ⟨hstart, hstarts⟩ := List.forall_mem_cons.mp hstarts
    refine ⟨j.write float ++ writeItems float js, rfl, ?_⟩
    have hspace := hstart.skipSpace (writeItems float js ++ rest)
    obtain ⟨c, tail, hc, _, hclose, _⟩ := hstart
    let written := j.write float ++ (writeItems float js ++ rest)
    have hfuel : js.length < written.length := by
      have hlength := length_le_length_writeItems float js
      simp only [written, hc, List.length_append, List.length_cons]
      omega
    have hitems : items item written.length [] written = .ok (j :: js, rest) :=
      items_write hfuel hj hreads hstarts
    rw [List.append_assoc, array, hspace]
    split
    · next heq =>
      rw [hc] at heq
      exact absurd (List.cons.inj heq).1 hclose
    · rw [hitems]
      rfl

/-! ### Objects -/

variable {entries before : Entries Json} {name : Text} {e : Text × Json}

lemma isDelimited_writeEntries (float : Binary64 → Text) (entries : Entries Json) (rest : Text) :
    IsDelimited (writeEntries float entries ++ rest) := by
  cases entries with
  | nil => exact isDelimited_cons (.inr (.inr rfl))
  | cons e entries => exact isDelimited_cons (.inl rfl)

lemma length_le_length_writeEntries (float : Binary64 → Text) (entries : Entries Json) :
    entries.length ≤ (writeEntries float entries).length := by
  induction entries with
  | nil => exact Nat.zero_le _
  | cons e entries ih =>
    simp only [writeEntries, List.length_append, List.length_cons]
    omega

lemma member_write (hj : Reads float item j) (hstart : Starts float j) (hrest : IsDelimited rest) :
    member item (writeString name ++ .colon :: (j.write float ++ rest)) = .ok ((name, j), rest) := by
  have hname : writeString name ++ .colon :: (j.write float ++ rest) =
      .quote :: (name.flatMap escape ++ .quote :: .colon :: (j.write float ++ rest)) := by
    simp [writeString]
  rw [hname, member]
  simp only [bind, Except.bind, string_write]
  rw [skipSpace_cons rfl]
  have hitem : item (skipSpace (j.write float ++ rest)) = .ok (j, rest) := by
    rw [hstart.skipSpace, hj rest hrest]
  exact congrArg (Except.map fun found => ((name, found.1), found.2)) hitem

lemma put_of_nodup (hn : (Entries.names (before ++ e :: entries)).Nodup) :
    Entries.put e.1 e.2 before = before ++ [e] := by
  apply Entries.put_of_not_mem
  intro hmem
  rw [Entries.names, List.map_append, List.map_cons] at hn
  exact List.disjoint_of_nodup_append hn hmem List.mem_cons_self

lemma members_write (hfuel : entries.length < fuel) (hreads : ∀ f ∈ e :: entries, Reads float item f.2)
    (hstarts : ∀ f ∈ e :: entries, Starts float f.2)
    (hn : (Entries.names (before ++ e :: entries)).Nodup) :
    members item fuel before
        (writeString e.1 ++ .colon :: (e.2.write float ++ (writeEntries float entries ++ rest))) =
      .ok (before ++ e :: entries, rest) := by
  obtain ⟨fuel, rfl⟩ := Nat.exists_eq_succ_of_ne_zero (by omega : fuel ≠ 0)
  induction entries generalizing e before fuel with
  | nil =>
    obtain ⟨he, _⟩ := List.forall_mem_cons.mp hreads
    obtain ⟨hstart, _⟩ := List.forall_mem_cons.mp hstarts
    have hspace := skipSpace_of_isDelimited (isDelimited_writeEntries float [] rest)
    rw [members, member_write he hstart (isDelimited_writeEntries float [] rest)]
    simp only [bind, Except.bind, hspace]
    rw [← put_of_nodup hn]
    rfl
  | cons f entries ih =>
    obtain ⟨he, hreads⟩ := List.forall_mem_cons.mp hreads
    obtain ⟨hstart, hstarts⟩ := List.forall_mem_cons.mp hstarts
    rw [List.length_cons] at hfuel
    obtain ⟨fuel, rfl⟩ := Nat.exists_eq_succ_of_ne_zero (by omega : fuel ≠ 0)
    have hspace := skipSpace_of_isDelimited (isDelimited_writeEntries float (f :: entries) rest)
    have htail : writeEntries float (f :: entries) ++ rest = .comma ::
        (writeString f.1 ++ .colon :: (f.2.write float ++ (writeEntries float entries ++ rest))) := by
      simp [writeEntries]
    rw [members, member_write he hstart (isDelimited_writeEntries float (f :: entries) rest)]
    simp only [bind, Except.bind, hspace]
    rw [htail]
    show members item (fuel + 1) (before.put e.1 e.2) (writeString f.1 ++ _) = _
    rw [put_of_nodup hn, ih hreads hstarts _ fuel (by omega)]
    · simp
    · simpa using hn

/-- An object with distinct names is read member by member. -/
lemma object_write (hreads : ∀ f ∈ entries, Reads float item f.2)
    (hstarts : ∀ f ∈ entries, Starts float f.2) (hn : (Entries.names entries).Nodup) (rest : Text) :
    ∃ tail, write float (.dict entries) = .openBrace :: tail ∧
      object item (tail ++ rest) = .ok (.dict entries, rest) := by
  cases entries with
  | nil => exact ⟨[.closeBrace], rfl, rfl⟩
  | cons e entries =>
    refine ⟨writeString e.1 ++ .colon :: e.2.write float ++ writeEntries float entries, rfl, ?_⟩
    let written := writeString e.1 ++ .colon :: (e.2.write float ++ (writeEntries float entries ++ rest))
    have htail : writeString e.1 ++ .colon :: e.2.write float ++ writeEntries float entries ++ rest =
        written := by simp [written]
    have hfuel : entries.length < written.length := by
      have hlength := length_le_length_writeEntries float entries
      simp only [written, List.length_append, List.length_cons]
      omega
    have hmembers : members item written.length [] written = .ok (e :: entries, rest) :=
      members_write hfuel hreads hstarts hn
    rw [htail, object]
    exact congrArg (Except.map fun found => (Json.dict found.1, found.2)) hmembers

/-! ### Values -/

/-- Whatever a text carries is read from it. -/
lemma value_write {floats : Binary64 → Prop} (hfloats : CarriesFloats float floats)
    (hlimits : ∀ limit, limits.digits = some limit → digitLimit ≤ limit)
    {depth : Nat} (h : j.PortableWith floats room) (hroom : room ≤ depth) :
    Reads float (value limits depth) j := by
  induction h generalizing depth with
  | null =>
    intro rest _
    cases depth <;> rfl
  | bool b =>
    intro rest _
    cases b <;> cases depth <;> rfl
  | @int room n hn =>
    intro rest hrest
    have hdigits : ∀ limit, limits.digits = some limit → (Text.ofNat n.natAbs).length ≤ limit := by
      intro limit hlimit
      have hcount := (Text.length_ofNat_le_iff (by decide : 0 < digitLimit)).mpr hn
      exact Nat.le_trans hcount (hlimits limit hlimit)
    rw [write, ((startsNumber_ofInt n).append rest).value_eq, number_ofInt hdigits hrest]
  | @float room x hx =>
    intro rest hrest
    rw [write, ((hfloats.startsNumber hx).append rest).value_eq, hfloats.number_eq hx limits hrest]
  | @str room t ht =>
    intro rest _
    have htext : writeString t ++ rest = .quote :: (t.flatMap escape ++ .quote :: rest) := by
      simp [writeString]
    rw [write, htext, value_of_ne (by decide) (by decide)]
    exact congrArg (Except.map fun found => (Json.str found.1, found.2)) (string_write t)
  | @list room js hports ih =>
    intro rest hrest
    obtain ⟨depth, rfl⟩ := Nat.exists_eq_succ_of_ne_zero (by omega : depth ≠ 0)
    have hreads : ∀ k ∈ js, Reads float (value limits depth) k := fun k hk => ih k hk (by omega)
    have hstarts : ∀ k ∈ js, Starts float k := fun k hk => starts_write hfloats (hports k hk)
    obtain ⟨tail, hwrite, harray⟩ := array_write hreads hstarts rest
    rw [hwrite]
    exact harray
  | @dict room entries hn hnames hports ih =>
    intro rest hrest
    obtain ⟨depth, rfl⟩ := Nat.exists_eq_succ_of_ne_zero (by omega : depth ≠ 0)
    have hreads : ∀ e ∈ entries, Reads float (value limits depth) e.2 := fun e he =>
      ih e he (by omega)
    have hstarts : ∀ e ∈ entries, Starts float e.2 := fun e he => starts_write hfloats (hports e he)
    obtain ⟨tail, hwrite, hobject⟩ := object_write hreads hstarts hn rest
    rw [hwrite]
    exact hobject

end Reader

/-! ### Documents -/

variable {limits : Limits} {float : Binary64 → Text} {floats : Binary64 → Prop} {room : Nat} {j : Json}

lemma ofText_write (hfloats : Reader.CarriesFloats float floats)
    (hlimits : ∀ limit, limits.digits = some limit → digitLimit ≤ limit)
    (h : j.PortableWith floats room) (hroom : room ≤ limits.nesting) :
    ofText limits (j.write float) = .ok j := by
  have hvalue := Reader.value_write hfloats hlimits h hroom [] Reader.isDelimited_nil
  have hspace := (Reader.starts_write hfloats h).skipSpace []
  rw [List.append_nil] at hvalue hspace
  rw [ofText, Reader.document, hspace, hvalue]
  rfl

/-- A body that carries a JSON value with the floating-point numbers in it is read as that value. -/
theorem ofBytes_write_floats (hfloats : Reader.CarriesFloats float floats)
    (h : j.PortableWith floats room) (hroom : room ≤ Limits.standard.nesting) :
    ofBytes (Utf8.encodeAll (j.write float)) = .ok j := by
  have hdigits : ∀ limit, Limits.standard.digits = some limit → digitLimit ≤ limit := by
    rintro limit ⟨⟩
    exact Nat.le_refl _
  have htext := ofText_write hfloats hdigits h hroom
  have hclean := h.isClean_write fun _ => hfloats.isClean
  obtain ⟨c, tail, hc, _, _, hascii⟩ := Reader.starts_write hfloats h
  rw [hc] at hclean
  rw [ofBytes, hc, Encoded.decode_encodeAll hascii hclean, ← hc]
  exact htext

/-- A body that carries a JSON value is read as that value. -/
theorem ofBytes_write (float : Binary64 → Text) (h : j.Portable room)
    (hroom : room ≤ Limits.standard.nesting) :
    ofBytes (Utf8.encodeAll (j.write float)) = .ok j :=
  ofBytes_write_floats (Reader.carriesFloats_none float) h.with_floats hroom

end ChainRpc.Json
