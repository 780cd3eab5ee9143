import ChainRpc.Proofs.Json.Received
import ChainRpc.Proofs.Node.Answers

/-!
# What the body of an answer carries

A node writes a JSON value just where a body can carry it: its integers are within the digit limit, its
floating-point numbers finite, its texts of characters, and it is not nested too deep. The body is then read
as the value.
-/

namespace ChainRpc

namespace Json

/-- A body of a node carries the value, in which at most `room` containers are nested. -/
abbrev Sendable (room : Nat) (j : Json) : Prop :=
  j.PortableWith (fun x => x.isFinite = true) room

variable {floats : Binary64 → Prop} {room room' : Nat} {j : Json}

lemma PortableWith.mono (h : j.PortableWith floats room) (hroom : room ≤ room') :
    j.PortableWith floats room' := by
  induction h generalizing room' with
  | null => exact .null
  | bool b => exact .bool b
  | int hn => exact .int hn
  | float hx => exact .float hx
  | str ht => exact .str ht
  | list h ih =>
    obtain ⟨room', rfl⟩ := Nat.exists_eq_succ_of_ne_zero (by omega : room' ≠ 0)
    exact .list fun j hj => ih j hj (Nat.le_of_succ_le_succ hroom)
  | dict hn hnames h ih =>
    obtain ⟨room', rfl⟩ := Nat.exists_eq_succ_of_ne_zero (by omega : room' ≠ 0)
    exact .dict hn hnames fun e he => ih e he (Nat.le_of_succ_le_succ hroom)

lemma PortableWith.isRegular (h : j.PortableWith floats room) : j.IsRegular := by
  induction h with
  | null => exact .null
  | bool b => exact .bool b
  | int hn => exact .int _
  | float hx => exact .float _
  | str ht => exact .str ht.inRange
  | list h ih => exact .list ih
  | dict hn hnames h ih => exact .dict hn (fun e he => (hnames e he).inRange) ih

/-- A string whose text holds no surrogates is of characters. -/
lemma isScalar_of_writeString {t : Text} (ht : t.InRange) (h : (writeString t).IsWhole) :
    t.IsScalar := by
  intro c hc
  refine ⟨ht c hc, fun hsurrogate => ?_⟩
  -- A surrogate stands for itself in the string.
  have hescape : escape c = [c] := by
    unfold escape
    split
    all_goals first | (exfalso; revert hsurrogate; decide) | skip
    rw [if_neg (by lia)]
  have hmem : c ∈ writeString t := by
    rw [writeString]
    refine List.mem_append_left _ (List.mem_cons_of_mem _ (List.mem_flatMap.mpr ⟨c, hc, ?_⟩))
    rw [hescape]
    exact List.mem_singleton_self c
  exact h c hmem hsurrogate

end Json

lemma Text.IsWhole.of_joined {separator part : Text} {parts : List Text}
    (h : (joined separator parts).IsWhole) (hpart : part ∈ parts) : part.IsWhole := by
  intro c hc
  refine h c ?_
  cases parts with
  | nil => cases hpart
  | cons first rest =>
    rw [joined_cons]
    rcases List.mem_cons.mp hpart with rfl | hpart
    · exact List.mem_append_left _ hc
    · refine List.mem_append_right _ (List.mem_flatMap.mpr ⟨part, hpart, ?_⟩)
      exact List.mem_append_right _ hc

namespace Node

variable {depth : Nat} {j : Json} {t : Text}

/-- How a node writes floating-point numbers. -/
def writeFloat (x : Binary64) : Text :=
  x.render Binary64.displayLayout

lemma carriesFloats_writeFloat :
    Json.Reader.CarriesFloats writeFloat fun x => x.isFinite = true where
  startsNumber hx := Json.Reader.startsNumber_render _ hx
  isClean hx := Json.Reader.isClean_render _ hx
  number_eq hx _ _ hrest := Json.Reader.number_render _ hx hrest

/-! ### Texts -/

lemma writeItems_eq_ok {items : List Json} {parts : List Text}
    (h : writeItems depth (Value.ofJsonItems items) = .ok parts) :
    List.Forall₂ (fun j part => writeValue depth (.ofJson j) = .ok part) items parts := by
  induction items generalizing parts with
  | nil =>
    cases h
    exact .nil
  | cons j rest ih =>
    rw [Value.ofJsonItems, writeItems] at h
    obtain ⟨part, hpart, h⟩ := Checked.bind_eq_ok_iff.mp h
    obtain ⟨others, hothers, h⟩ := Checked.bind_eq_ok_iff.mp h
    cases h
    exact .cons hpart (ih hothers)

lemma writeEntries_eq_ok {entries : Entries Json} {parts : List Text}
    (h : writeEntries depth (Value.ofJsonEntries entries) = .ok parts) :
    List.Forall₂ (fun e part => ∃ t, writeValue depth (.ofJson e.2) = .ok t ∧
      part = Json.writeString e.1 ++ .colon :: t) entries parts := by
  induction entries generalizing parts with
  | nil =>
    cases h
    exact .nil
  | cons e rest ih =>
    rw [Value.ofJsonEntries, writeEntries] at h
    obtain ⟨t, ht, h⟩ := Checked.bind_eq_ok_iff.mp h
    obtain ⟨others, hothers, h⟩ := Checked.bind_eq_ok_iff.mp h
    cases h
    exact .cons ⟨t, ht, rfl⟩ (ih hothers)

/-- Texts that a list of values was written as, each to be known by the value. -/
lemma forall_of_forall₂ {α : Type} {items : List α} {parts : List Text} {R : α → Text → Prop}
    {P : α → Prop} {f : α → Text} (h : List.Forall₂ R items parts)
    (hstep : ∀ a ∈ items, ∀ part ∈ parts, R a part → P a ∧ part = f a) :
    (∀ a ∈ items, P a) ∧ parts = items.map f := by
  induction h with
  | nil => exact ⟨List.forall_mem_nil _, rfl⟩
  | @cons a part items parts hpart _ ih =>
    obtain ⟨ha, rfl⟩ := hstep a List.mem_cons_self part List.mem_cons_self hpart
    obtain ⟨hitems, rfl⟩ := ih fun b hb part hpart =>
      hstep b (List.mem_cons_of_mem _ hb) part (List.mem_cons_of_mem _ hpart)
    exact ⟨List.forall_mem_cons.mpr ⟨ha, hitems⟩, rfl⟩

/-- What is written without surrogates is the text of a value that a body carries. -/
lemma sendable_of_writeValue (hj : j.IsRegular) (h : writeValue depth (.ofJson j) = .ok t)
    (ht : t.IsWhole) : j.Sendable depth ∧ t = j.write writeFloat := by
  induction hj generalizing depth t with
  | null =>
    cases h
    exact ⟨.null, rfl⟩
  | bool b =>
    cases b <;> cases h <;> exact ⟨.bool _, rfl⟩
  | int n =>
    rw [Value.ofJson, writeValue.eq_def] at h
    dsimp only at h
    split at h
    · next t' hdecimal =>
      cases h
      have hn : IsShort n := (isSome_decimal? n).mp (by rw [hdecimal]; rfl)
      rw [decimal?_of_isShort hn] at hdecimal
      cases hdecimal
      exact ⟨.int hn, rfl⟩
    · cases h
  | float x =>
    rw [Value.ofJson, writeValue.eq_def] at h
    dsimp only at h
    split at h
    · next hx =>
      cases h
      exact ⟨.float hx, rfl⟩
    · cases h
  | str hs =>
    cases h
    exact ⟨.str (Json.isScalar_of_writeString hs ht), rfl⟩
  | @list items hitems ih =>
    cases depth with
    | zero => cases h
    | succ depth =>
      obtain ⟨parts, hparts, rfl⟩ := Checked.map_eq_ok_iff.mp
        (show (writeItems depth (Value.ofJsonItems items)).map inBrackets = .ok t from h)
      have hjoined : (Text.joined "," parts).IsWhole := fun c hc => ht c (by
        simp [inBrackets, Text.concat, hc])
      obtain ⟨hsendable, rfl⟩ := forall_of_forall₂ (writeItems_eq_ok hparts)
        fun j hj part hpart hwrite => ih j hj hwrite (.of_joined hjoined hpart)
      exact ⟨.list hsendable, by simp [Json.write_list, inBrackets, Text.concat]⟩
  | @dict entries hn hnames hvalues ih =>
    cases depth with
    | zero => cases h
    | succ depth =>
      obtain ⟨parts, hparts, rfl⟩ := Checked.map_eq_ok_iff.mp
        (show (writeEntries depth (Value.ofJsonEntries entries)).map _ = .ok t from h)
      have hjoined : (Text.joined "," parts).IsWhole := fun c hc => ht c (by
        simp [Text.concat, hc])
      obtain ⟨hsendable, rfl⟩ := forall_of_forall₂ (writeEntries_eq_ok hparts)
        (P := fun e => e.1.IsScalar ∧ e.2.Sendable depth)
        (f := fun e => Json.writeString e.1 ++ .colon :: e.2.write writeFloat) (by
          rintro e he part hpart ⟨t, hwrite, rfl⟩
          have hpart := Text.IsWhole.of_joined hjoined hpart
          have hname : (Json.writeString e.1).IsWhole := fun c hc =>
            hpart c (List.mem_append_left _ hc)
          have hvalue : t.IsWhole := fun c hc =>
            hpart c (List.mem_append_right _ (List.mem_cons_of_mem _ hc))
          obtain ⟨hsendable, rfl⟩ := ih e he hwrite hvalue
          exact ⟨⟨Json.isScalar_of_writeString (hnames e he) hname, hsendable⟩, rfl⟩)
      refine ⟨.dict hn (fun e he => (hsendable e he).1) fun e he => (hsendable e he).2, ?_⟩
      simp [Json.write_dict, Text.concat]

lemma writeValue_of_sendable {room : Nat} (h : j.Sendable room) (hroom : room ≤ depth) :
    writeValue depth (.ofJson j) = .ok (j.write writeFloat) :=
  writeValue_of_portableWith (fun depth x hx => by
    rw [writeValue.eq_def]
    exact if_pos hx) h hroom

/-! ### Bodies -/

/-- A node writes a JSON value just where a body can carry it. -/
theorem writeBody_eq_ok_iff {b : Bytes} (hj : j.IsRegular) :
    writeBody (.ofJson j) = .ok b ↔
      j.Sendable writerNesting ∧ b = Utf8.encodeAll (j.write writeFloat) := by
  constructor
  · intro h
    obtain ⟨t, ht, hb⟩ := Checked.bind_eq_ok_iff.mp h
    rw [Checked.mapError_eq_ok_iff, Utf8.encode] at hb
    split at hb
    · cases hb
    · next hwhole =>
      cases hb
      obtain ⟨hsendable, rfl⟩ :=
        sendable_of_writeValue hj ht (Utf8.firstSurrogates_eq_none_iff.mp hwhole)
      exact ⟨hsendable, rfl⟩
  · rintro ⟨hsendable, rfl⟩
    have hclean := hsendable.isClean_write fun _ => carriesFloats_writeFloat.isClean
    rw [writeBody, writeValue_of_sendable hsendable le_rfl]
    show (Utf8.encode (j.write writeFloat)).mapError _ = _
    rw [Utf8.encode_eq_ok fun c hc => (hclean c hc).1]
    rfl

/-- What a node writes for a JSON value is read as the value. -/
theorem ofBytes_of_writeBody {b : Bytes} (hj : j.IsRegular) (h : writeBody (.ofJson j) = .ok b) :
    Json.ofBytes b = .ok j := by
  obtain ⟨hsendable, rfl⟩ := (writeBody_eq_ok_iff hj).mp h
  exact Json.ofBytes_write_floats carriesFloats_writeFloat hsendable (by decide)

end Node

end ChainRpc
