import ChainRpc.Proofs.Hex
import ChainRpc.Proofs.Shape.Typed
import ChainRpc.Shape.Record

/-!
# Reading what was written

The wire form of a value is read back as that value, field by field. So whatever a class of records or a
method makes of a value, in either mode, survives being written and read.
-/

namespace ChainRpc

namespace Shape

variable {mode : Mode} {shape inner : Shape} {x v : Value}

/-! ### Primitives -/

lemma quantity_of_encode {bits n : Nat} (h : n < 2 ^ bits) :
    Quantity.decode bits (.str (Quantity.encode n)) = .ok n := by
  have hrange : (0 : Int) ≤ n ∧ (n : Int) < 2 ^ bits := by
    constructor
    · omega
    · exact_mod_cast h
  simp only [Quantity.decode, Quantity.integer, Quantity.spelled_encode, Except.map, bind, Except.bind,
    Quantity.checked]
  rw [if_pos (by simpa using hrange)]
  simp

lemma byteString_of_encode {size : Nat} {b : Bytes} (h : b.length = size) :
    ByteString.decodeFixed size (.str (ByteString.encode b)) = .ok b := by
  simp only [ByteString.decodeFixed, ByteString.decode, ByteString.decodeText_encode, bind,
    Except.bind]
  rw [if_pos (by rw [h])]
  rfl

lemma decode_uint {bits n : Nat} (h : n < 2 ^ bits) :
    decode .wire (.uint bits) (.str (Quantity.encode n)) = .ok (.int n) := by
  simp only [decode, primitive, ofRefusal, quantity_of_encode h]
  rfl

lemma decode_fixed {size : Nat} {b : Bytes} (h : b.length = size) :
    decode .wire (.fixed size) (.str (ByteString.encode b)) = .ok (.bytes b) := by
  simp only [decode, primitive, ofRefusal, byteString_of_encode h]
  rfl

lemma decode_bytes (b : Bytes) :
    decode .wire .bytes (.str (ByteString.encode b)) = .ok (.bytes b) := by
  simp only [decode, primitive, ofRefusal, ByteString.decode, ByteString.decodeText_encode]
  rfl

lemma decode_oneOf {options : List Text} {t : Text} (hscalar : t.IsScalar) (h : t ∈ options) :
    decode mode (.oneOf options) (.str t) = .ok (.str t) := by
  simp only [decode, option]
  rw [if_neg (not_not.mpr hscalar), if_pos h]
  rfl

/-! ### Optional values and lists -/

/-- Null stands for null only. -/
lemma eq_null_of_decode_null (h : decode mode shape .null = .ok v) : v = .null := by
  cases shape with
  | uint bits | fixed size | bytes => cases mode <;> cases h
  | optional inner | null | json =>
    cases h
    rfl
  | _ => cases h

/-- Only null stands for null. -/
lemma eq_null_of_decode_eq_null (hjson : ∀ part ∈ shape.parts, part.isInvertible)
    (h : decode mode shape x = .ok .null) : x = .null := by
  induction shape using Shape.induction generalizing x with
  | uint bits | fixed size | bytes | lenientText | oneOf options | lenientInt =>
    obtain ⟨_, _, hv⟩ := Checked.map_eq_ok_iff.mp h
    cases hv
  | json => cases hjson _ (mem_parts_self _)
  | optional inner ih =>
    cases x with
    | null => rfl
    | _ => exact ih (forall_parts_optional.mp hjson).2 h
  | list item ih =>
    cases x with
    | list items | tuple items =>
      obtain ⟨_, _, hv⟩ := Checked.map_eq_ok_iff.mp h
      cases hv
    | _ => cases h
  | record cls fields ih =>
    obtain ⟨_, _, hv, _⟩ := exists_of_decode_record h
    cases hv
  | _ => cases x <;> first | rfl | cases h

lemma decode_optional (hx : x ≠ .null) : decode mode (.optional inner) x = decode mode inner x := by
  cases x <;> first | rfl | exact absurd rfl hx

/-- Only null is taken for null. -/
lemma ofJson_ne_null {w : Json} (hw : w ≠ .null) : Value.ofJson w ≠ .null := by
  cases w <;> first | exact absurd rfl hw | exact fun h => nomatch h

lemma encode_optional (hv : v ≠ .null) : encode (.optional inner) v = encode inner v := by
  cases v <;> first | rfl | exact absurd rfl hv

/-! ### Values of a shape -/

/-- The wire form of a value of a shape is read back as that value. -/
theorem decode_encode (hshape : ∀ part ∈ shape.parts, part.isInvertible) (h : HasShape shape v) :
    decode .wire shape (.ofJson (encode shape v)) = .ok v := by
  induction h with
  | uint hn => exact decode_uint hn
  | fixed hb => exact decode_fixed hb
  | bytes b => exact decode_bytes b
  | bool b | text t | lenientText t | lenientInt n | null | none => rfl
  | oneOf hscalar hmem => exact decode_oneOf hscalar hmem
  | json _ => cases hshape _ (mem_parts_self _)
  | @some inner v h ih =>
    obtain ⟨_, hinner⟩ := forall_parts_optional.mp hshape
    by_cases hv : v = .null
    · subst hv
      rfl
    · rw [encode_optional hv, decode_optional, ih hinner]
      intro hnull
      have hread := ih hinner
      rw [hnull] at hread
      exact hv (eq_null_of_decode_null hread)
  | @list item vs h ih =>
    obtain ⟨_, hitem⟩ := forall_parts_list.mp hshape
    have hread : listItems (decode .wire item) 0 ((vs.map (encode item)).map .ofJson) = .ok vs := by
      rw [listItems_eq_ok_iff, List.forall₂_map_left_iff, List.forall₂_map_left_iff, List.forall₂_same]
      exact fun v hv => ih v hv hitem
    rw [encode, Value.ofJson, Value.ofJsonItems_eq_map, decode, hread]
    rfl
  | @record cls fields members hnames h ih =>
    obtain ⟨hinvertible, hfields⟩ := forall_parts_record.mp hshape
    have hclear := clearNames_of_isInvertible hinvertible
    rw [encode, Value.ofJson, decode]
    have hmembers : decodeFields .wire fields
        (Value.ofJsonEntries (encodeFields fields members)) = .ok members := by
      rw [decodeFields_eq_ok_iff hclear.own]
      refine ⟨hnames, fun f hf v hv => ?_⟩
      rw [HasValue, entryOf_encodeFields hclear hf]
      by_cases hnull : v = .null
      · subst hnull
        rw [written?_of_null hv]
        -- Only a field of an optional shape is null, since no field is of the null shape.
        have hshape := h f hf _ hv
        have hne := ne_null_of_isInvertible hinvertible f hf
        have hpart := hfields f hf _ (mem_parts_self _)
        generalize f.2 = shape at hshape hne hpart
        cases hshape with
        | null => exact absurd rfl hne
        | json _ => cases hpart
        | none | some _ => exact ⟨rfl, rfl⟩
      · rw [written?_of_ne_null hv hnull]
        exact ih f hf v hv (hfields f hf)
    rw [hmembers]
    rfl

/-- What a class of records makes of a value is read back from its wire form, unless it is a record of
another class; and so is what a method makes of a result. -/
theorem decoding_undoes_encoding :
    (∀ cls fields, Shape.record cls fields ∈ records → ∀ (mode : Mode) (x : Value) (members : Entries Value),
      x.Made → decode mode (.record cls fields) x = .ok (.record cls members) →
        decode .wire (.record cls fields) (.ofJson (Record.encode (.record cls members))) =
          .ok (.record cls members)) ∧
    ∀ m ∈ Method.table, ∀ x v : Value, x.Made → m.decodeResult x = .ok v →
      m.decodeResult (.ofJson (m.encodeResult v)) = .ok v := by
  constructor
  · intro cls fields hmem mode x members hx h
    have hsound := sound_of_decode hmem hx.sound h
    rw [Record.encode, record?_of_mem hmem]
    exact decode_encode (isSound_catalogue.1 _ hmem) (hasShape_of_sound hmem hsound)
  · intro m hm x v hx h
    have hparts := isSound_catalogue.2.2 m hm
    exact decode_encode (fun part hpart => (hparts part hpart).1)
      (hasShape_of_decode hparts hx.sound h)

/-- The fields of a script. -/
def lockMembers : Entries Value := [
  ("code_hash", .bytes (List.replicate 32 1)), ("hash_type", .str "type"), ("args", .bytes [0xAB])]

/-- A cell as a caller gives it, with a script that was made before and under the name of a field. -/
def givenOutput : Value := .dict [
  ("capacity", .int 5), ("lock", .record ⟨"Script", ["CkbModel"]⟩ lockMembers), ("type_", .null)]

/-- The fields that the class of cells makes of it. -/
def outputMembers : Entries Value := [
  ("capacity", .int 5), ("lock", .record ⟨"Script", ["CkbModel"]⟩ lockMembers), ("type_", .null)]

lemma made_givenOutput : givenOutput.Made := by
  have hgiven : (Value.dict [("code_hash", .bytes (List.replicate 32 1)), ("hash_type", .str "type"),
      ("args", .str "0xAb")]).Made := by
    refine .dict ?_
    simp only [List.forall_mem_cons]
    exact ⟨.flat rfl, .flat rfl, .flat rfl, List.forall_mem_nil _⟩
  have hlock : (Value.record ⟨"Script", ["CkbModel"]⟩ lockMembers).Made :=
    @Value.Made.record script .caller _ _ _ (by simp [records]) hgiven
      (Checked.eq_ok_of_toOption (by decide +kernel))
  refine .dict ?_
  simp only [List.forall_mem_cons]
  exact ⟨.flat rfl, hlock, .flat rfl, List.forall_mem_nil _⟩

/-- A cell and a result with digits in upper case come back from what is written of them. -/
theorem decoding_undoes_encoding_cellOutput :
    decode .wire cellOutput (.ofJson (Record.encode (.record ⟨"CellOutput", ["CkbModel"]⟩
      outputMembers))) = .ok (.record ⟨"CellOutput", ["CkbModel"]⟩ outputMembers) ∧
    Method.getTipBlockNumber.decodeResult (.ofJson (Method.getTipBlockNumber.encodeResult (.int 255))) =
      .ok (.int 255) := by
  constructor
  · exact decoding_undoes_encoding.1 _ _ (by simp [records, cellOutput, extending, ckbModel]) .caller
      givenOutput outputMembers made_givenOutput (Checked.eq_ok_of_toOption (by decide +kernel))
  · exact decoding_undoes_encoding.2 _ (by simp [Method.table]) (.str "0xFF") (.int 255) (.flat rfl)
      (Checked.eq_ok_of_toOption (by decide +kernel))

end Shape

end ChainRpc
