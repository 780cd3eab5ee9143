import ChainRpc.Proofs.Json.Ordered
import ChainRpc.Proofs.Shape.Normal
import ChainRpc.Proofs.Shape.Rereading

/-!
# Writing what was read

What is read of a JSON value by a shape and written again is that value in normal form, up to the order of
the members of objects. So nothing else gets lost: values that are read have the same normal form just
where the same is read of them.
-/

namespace ChainRpc

namespace Shape

variable {shape : Shape} {cls : RecordClass} {fields : List (FieldName × Shape)}
  {f : FieldName × Shape} {w w' : Json} {v v' : Value} {entries members : Entries Json}
  {values : Entries Value} {name : Text}

/-! ### Leaves -/

lemma exists_of_decode_uint {bits : Nat} (h : decode .wire (.uint bits) (.ofJson w) = .ok v) :
    ∃ (t : Text) (n : Nat), w = .str t ∧ v = .int n ∧ Quantity.encode n = Hex.lower t := by
  obtain ⟨_, hlifted, rfl⟩ := Checked.map_eq_ok_iff.mp h
  obtain ⟨n, hn, heq⟩ := Checked.bind_eq_ok_iff.mp hlifted
  cases heq
  cases w with
  | str t =>
    obtain ⟨found, hfound, hchecked⟩ := Checked.bind_eq_ok_iff.mp (primitive_eq_ok hn)
    obtain ⟨m, hm, rfl⟩ := Checked.map_eq_ok_iff.mp hfound
    unfold Quantity.checked at hchecked
    split at hchecked <;> cases hchecked
    exact ⟨t, m, rfl, rfl, Quantity.encode_of_spelled hm⟩
  | _ => cases hn

lemma exists_of_decode_bytes (h : decode .wire .bytes (.ofJson w) = .ok v) :
    ∃ (t : Text) (b : Bytes), w = .str t ∧ v = .bytes b ∧ ByteString.encode b = Hex.lower t := by
  obtain ⟨b, hb, rfl⟩ := Checked.map_eq_ok_iff.mp h
  cases w with
  | str t => exact ⟨t, b, rfl, rfl, ByteString.encode_of_decodeText (primitive_eq_ok hb)⟩
  | _ => cases hb

lemma exists_of_decode_fixed {size : Nat} (h : decode .wire (.fixed size) (.ofJson w) = .ok v) :
    ∃ (t : Text) (b : Bytes), w = .str t ∧ v = .bytes b ∧ ByteString.encode b = Hex.lower t := by
  obtain ⟨b, hb, rfl⟩ := Checked.map_eq_ok_iff.mp h
  cases w with
  | str t =>
    obtain ⟨found, hfound, hsize⟩ := Checked.bind_eq_ok_iff.mp (primitive_eq_ok hb)
    split at hsize
    · cases hsize
      exact ⟨t, b, rfl, rfl, ByteString.encode_of_decodeText hfound⟩
    · cases hsize
  | _ => cases hb

lemma exists_of_decode_lenientText (h : decode .wire .lenientText (.ofJson w) = .ok v) :
    ∃ t : Text, w = .str t ∧ v = .str t := by
  obtain ⟨t, ht, rfl⟩ := Checked.map_eq_ok_iff.mp h
  rw [Checked.mapError_eq_ok_iff] at ht
  cases w <;> cases ht
  exact ⟨_, rfl, rfl⟩

lemma exists_of_decode_oneOf {options : List Text}
    (h : decode .wire (.oneOf options) (.ofJson w) = .ok v) : ∃ t : Text, w = .str t ∧ v = .str t := by
  obtain ⟨t, ht, rfl⟩ := Checked.map_eq_ok_iff.mp h
  obtain ⟨hw, _⟩ := option_eq_ok ht
  cases w <;> cases hw
  exact ⟨_, rfl, rfl⟩

/-! ### Null -/

lemma ne_null_of_decode (hjson : ∀ part ∈ shape.parts, part.isInvertible) (hw : w ≠ .null)
    (h : decode .wire shape (.ofJson w) = .ok v) : v ≠ .null := by
  rintro rfl
  exact ofJson_ne_null hw (eq_null_of_decode_eq_null hjson h)

/-- Null is read by an optional shape, by the null shape and as any JSON value. -/
lemma isOptional_of_decode_null (hjson : shape.isInvertible) (hnull : shape ≠ .null)
    (h : decode .wire shape .null = .ok v) : shape.isOptional := by
  cases shape with
  | optional inner => rfl
  | null => exact absurd rfl hnull
  | json => cases hjson
  | _ => cases h

lemma normalize_optional {inner : Shape} (hw : w ≠ .null) :
    normalize (.optional inner) w = normalize inner w := by
  cases w <;> first | rfl | exact absurd rfl hw

/-! ### Normal forms -/

/-- The member that is written for a field is the normal form of the one that was read for it. -/
lemma ordered_written? (hparts : ∀ part ∈ f.2.parts, part.isInvertible) (hnull : f.2 ≠ .null)
    (ih : ∀ w, Entries.get? f.1.wire entries = some w → decode .wire f.2 (.ofJson w) = .ok v →
      (encode f.2 v).ordered = (normalize f.2 w).ordered)
    (hname : f.1.name = f.1.wire ∨ Entries.get? f.1.name entries = none)
    (hv : Entries.get? f.1.name values = some v)
    (h : HasValue .wire (Value.ofJsonEntries entries) f v) :
    (written? values f).map Json.ordered = ((Entries.get? f.1.wire entries).bind fun w =>
      if f.2.isOptional ∧ w = .null then none else some (normalize f.2 w)).map Json.ordered := by
  rw [HasValue, entryOf_ofJsonEntries hname] at h
  cases hfound : Entries.get? f.1.wire entries with
  | none =>
    rw [hfound] at h
    obtain ⟨_, rfl⟩ := h
    rw [written?_of_null hv]
    rfl
  | some w =>
    rw [hfound] at h
    replace h : decode .wire f.2 (.ofJson w) = .ok v := h
    rw [Option.bind_some]
    by_cases hw : w = .null
    · subst hw
      have hoptional := isOptional_of_decode_null (hparts _ (mem_parts_self _)) hnull h
      rw [eq_null_of_decode_null h] at hv
      rw [written?_of_null hv, if_pos ⟨hoptional, rfl⟩]
    · rw [written?_of_ne_null hv (ne_null_of_decode hparts hw h),
        if_neg fun hdropped => hw hdropped.2, Option.map_some, Option.map_some, ih w hfound h]

/-- What was read and is written again is in normal form. -/
theorem ordered_encode_of_decode (hshape : ∀ part ∈ shape.parts, part.isInvertible ∧ part ≠ .lenientInt)
    (hw : w.HasDistinctNames) (hwire : usesWireNames shape w)
    (h : decode .wire shape (.ofJson w) = .ok v) :
    (encode shape v).ordered = (normalize shape w).ordered := by
  induction shape using Shape.induction generalizing w v with
  | uint bits =>
    obtain ⟨t, n, rfl, rfl, ht⟩ := exists_of_decode_uint h
    rw [encode, normalize, ← ht]
    rfl
  | fixed size =>
    obtain ⟨t, b, rfl, rfl, ht⟩ := exists_of_decode_fixed h
    rw [encode, normalize, ← ht]
    rfl
  | bytes =>
    obtain ⟨t, b, rfl, rfl, ht⟩ := exists_of_decode_bytes h
    rw [encode, normalize, ← ht]
    rfl
  | lenientText =>
    obtain ⟨t, rfl, rfl⟩ := exists_of_decode_lenientText h
    rfl
  | oneOf options =>
    obtain ⟨t, rfl, rfl⟩ := exists_of_decode_oneOf h
    rfl
  | bool | text | null =>
    cases w <;> cases h
    rfl
  | lenientInt => exact absurd rfl (hshape _ (mem_parts_self _)).2
  | json => cases (hshape _ (mem_parts_self _)).1
  | optional inner ih =>
    obtain ⟨_, hinner⟩ := forall_parts_optional.mp hshape
    by_cases hnull : w = .null
    · subst hnull
      cases h
      rfl
    · rw [decode_optional (ofJson_ne_null hnull)] at h
      have hv := ne_null_of_decode (fun part hpart => (hinner part hpart).1) hnull h
      rw [encode_optional hv, normalize_optional hnull, ih hinner hw hwire h]
  | list item ih =>
    obtain ⟨_, hitem⟩ := forall_parts_list.mp hshape
    cases hw with
    | @list items hitems =>
      obtain ⟨vs, hvs, rfl⟩ := Checked.map_eq_ok_iff.mp h
      rw [listItems_eq_ok_iff, Value.ofJsonItems_eq_map, List.forall₂_map_left_iff] at hvs
      have hwire := List.all_eq_true.mp hwire
      have hread := (List.forall₂_and_left items vs).mpr
        ⟨fun w hw => And.intro (hitems w hw) (hwire w hw), hvs⟩
      rw [encode, normalize, Json.ordered_list, Json.ordered_list, List.map_map, List.map_map]
      have hitems : List.Forall₂ Eq (items.map (Json.ordered ∘ normalize item))
          (vs.map (Json.ordered ∘ encode item)) := by
        rw [List.forall₂_map_left_iff, List.forall₂_map_right_iff]
        exact hread.imp fun _ _ h => (ih hitem h.1.1 h.1.2 h.2).symm
      rw [List.forall₂_eq_eq_eq] at hitems
      rw [hitems]
    | _ => cases h
  | record cls fields ih =>
    obtain ⟨⟨hinvertible, _⟩, hfields⟩ := forall_parts_record.mp hshape
    cases hw with
    | @dict entries hn hentries =>
      obtain ⟨members, hmembers, rfl⟩ := Checked.map_eq_ok_iff.mp h
      have hclear := clearNames_of_isInvertible hinvertible
      obtain ⟨hnames, hvalues⟩ := (decodeFields_eq_ok_iff hclear.own).mp hmembers
      have hwire := fieldsUseWireNames_iff.mp hwire
      rw [encode, normalize]
      apply Json.ordered_dict_eq
      · exact (names_encodeFields_sublist fields members).nodup hclear.wire
      · exact (Entries.names_filterMap_sublist _ entries).nodup hn
      intro name
      rw [Entries.get?_filterMap _ hn]
      by_cases hname : name ∈ fields.map (·.1.wire)
      · obtain ⟨f, hf, rfl⟩ := List.mem_map.mp hname
        rw [get?_encodeFields hclear.wire hf, funext (normalizeMember_of_mem hclear.wire hf)]
        obtain ⟨hname, hfield⟩ := hwire f hf
        obtain ⟨v, hv⟩ := exists_value hnames hf
        refine ordered_written? (fun part hpart => (hfields f hf part hpart).1)
          (ne_null_of_isInvertible hinvertible f hf) ?_ hname hv (hvalues f hf v hv)
        intro w hfound h
        exact ih f hf (hfields f hf) (hentries _ (Entries.mem_of_get? hfound)) (hfield w hfound) h
      · have hnone : Entries.get? name (encodeFields fields members) = none :=
          Entries.get?_eq_none_iff.mpr fun h => hname ((names_encodeFields_sublist _ _).subset h)
        rw [hnone, funext (normalizeMember_of_not_mem hname)]
        cases Entries.get? name entries <;> rfl
    | _ => cases h

/-! ### The order of members -/

/-- What is read does not depend on the order of members. -/
lemma decode_ordered (hshape : ∀ part ∈ shape.parts, part.isInvertible ∧ part ≠ .lenientInt)
    (hw : w.HasDistinctNames) (h : decode .wire shape (.ofJson w) = .ok v) :
    decode .wire shape (.ofJson w.ordered) = .ok v := by
  induction shape using Shape.induction generalizing w v with
  | lenientInt => exact absurd rfl (hshape _ (mem_parts_self _)).2
  | json => cases (hshape _ (mem_parts_self _)).1
  | optional inner ih =>
    obtain ⟨_, hinner⟩ := forall_parts_optional.mp hshape
    by_cases hnull : w = .null
    · subst hnull
      exact h
    · rw [decode_optional (ofJson_ne_null hnull)] at h
      rw [decode_optional (ofJson_ne_null fun h => hnull (Json.ordered_eq_null_iff.mp h))]
      exact ih hinner hw h
  | list item ih =>
    obtain ⟨_, hitem⟩ := forall_parts_list.mp hshape
    cases hw with
    | @list items hitems =>
      obtain ⟨vs, hvs, rfl⟩ := Checked.map_eq_ok_iff.mp h
      rw [listItems_eq_ok_iff, Value.ofJsonItems_eq_map, List.forall₂_map_left_iff] at hvs
      have hread : listItems (decode .wire item) 0 ((items.map Json.ordered).map .ofJson) = .ok vs := by
        rw [listItems_eq_ok_iff, List.forall₂_map_left_iff, List.forall₂_map_left_iff]
        exact ((List.forall₂_and_left items vs).mpr ⟨hitems, hvs⟩).imp fun _ _ h => ih hitem h.1 h.2
      rw [Json.ordered_list, Value.ofJson, Value.ofJsonItems_eq_map, decode, hread]
      rfl
    | _ => cases h
  | record cls fields ih =>
    obtain ⟨⟨hinvertible, _⟩, hfields⟩ := forall_parts_record.mp hshape
    cases hw with
    | @dict entries hn hentries =>
      obtain ⟨members, hmembers, rfl⟩ := Checked.map_eq_ok_iff.mp h
      have hclear := clearNames_of_isInvertible hinvertible
      obtain ⟨hnames, hvalues⟩ := (decodeFields_eq_ok_iff hclear.own).mp hmembers
      rw [Json.ordered_dict, Value.ofJson, decode, (decodeFields_eq_ok_iff hclear.own).mpr]
      · rfl
      refine ⟨hnames, fun f hf v hv => ?_⟩
      have hvalue := hvalues f hf v hv
      simp only [HasValue, entryOf, Value.get?_ofJsonEntries, Json.get?_ordered hn] at hvalue ⊢
      have hfound {name : Text} {w : Json} (hw : Entries.get? name entries = some w)
          (h : decode .wire f.2 (.ofJson w) = .ok v) :
          decode .wire f.2 (.ofJson w.ordered) = .ok v :=
        ih f hf (hfields f hf) (hentries _ (Entries.mem_of_get? hw)) h
      cases hwire : Entries.get? f.1.wire entries with
      | some w =>
        rw [hwire] at hvalue
        exact hfound hwire hvalue
      | none =>
        rw [hwire] at hvalue
        cases hown : Entries.get? f.1.name entries with
        | some w =>
          rw [hown] at hvalue
          exact hfound hown hvalue
        | none =>
          rw [hown] at hvalue
          exact hvalue
    | _ => cases h
  | _ => cases w <;> first | exact h | cases h

/-- What is written has no two members of one name in an object. -/
lemma hasDistinctNames_encode (hshape : ∀ part ∈ shape.parts, part.isInvertible) (h : HasShape shape v) :
    (encode shape v).HasDistinctNames := by
  induction h with
  | json _ => cases hshape _ (mem_parts_self _)
  | @some inner v h ih =>
    by_cases hv : v = .null
    · subst hv
      exact .null
    · rw [encode_optional hv]
      exact ih (forall_parts_optional.mp hshape).2
  | list h ih =>
    obtain ⟨_, hitem⟩ := forall_parts_list.mp hshape
    rw [encode]
    exact .list (List.forall_mem_map.mpr fun v hv => ih v hv hitem)
  | @record cls fields members hnames h ih =>
    obtain ⟨hinvertible, hfields⟩ := forall_parts_record.mp hshape
    have hclear := clearNames_of_isInvertible hinvertible
    rw [encode]
    refine .dict ((names_encodeFields_sublist fields members).nodup hclear.wire) fun e he => ?_
    obtain ⟨f, hf, v, hv, _, rfl⟩ := exists_of_mem_encodeFields he
    exact ih f hf v hv (hfields f hf)
  | null | none => exact .null
  | bool b => exact .bool b
  | lenientInt n => exact .int n
  | _ => exact .str _

/-! ### The catalogue and the table -/

/-- Reading and writing brings JSON values in normal form by a shape and loses nothing else. -/
structure Normalizes (shape : Shape) (read : Value → Checked Value) (write : Value → Json) :
    Prop where
  /-- What was read is written in normal form. -/
  written : ∀ w v, w.HasDistinctNames → usesWireNames shape w → read (.ofJson w) = .ok v →
    (write v).ordered = (normalize shape w).ordered
  /-- Canonical values are in normal form already. -/
  canonical : ∀ w, isCanonical shape w → normalize shape w = w
  /-- The same is read of values with the same normal form only. -/
  faithful : ∀ w w' v v', w.HasDistinctNames → usesWireNames shape w → w'.HasDistinctNames →
    usesWireNames shape w' → read (.ofJson w) = .ok v → read (.ofJson w') = .ok v' →
    (v = v' ↔ (normalize shape w).ordered = (normalize shape w').ordered)

lemma normalizes {write : Value → Json}
    (hshape : ∀ part ∈ shape.parts, part.isInvertible ∧ part ≠ .lenientInt)
    (htyped : ∀ w v, decode .wire shape (.ofJson w) = .ok v → HasShape shape v)
    (hwrite : ∀ v, HasShape shape v → write v = encode shape v) :
    Normalizes shape (decode .wire shape) write := by
  have hwritten {w : Json} {v : Value} (hw : w.HasDistinctNames) (hwire : usesWireNames shape w)
      (h : decode .wire shape (.ofJson w) = .ok v) :
      (encode shape v).ordered = (normalize shape w).ordered :=
    ordered_encode_of_decode hshape hw hwire h
  have hread {v : Value} (hv : HasShape shape v) :
      decode .wire shape (.ofJson (encode shape v).ordered) = .ok v := by
    have hinvertible := fun part hpart => (hshape part hpart).1
    exact decode_ordered hshape (hasDistinctNames_encode hinvertible hv)
      (decode_encode hinvertible hv)
  constructor
  case written =>
    intro w v hw hwire h
    rw [hwrite v (htyped w v h), hwritten hw hwire h]
  case canonical =>
    intro w h
    exact normalize_eq_self h
  case faithful =>
    intro w w' v v' hw hwire hw' hwire' h h'
    constructor
    · rintro rfl
      rw [← hwritten hw hwire h, ← hwritten hw' hwire' h']
    · intro hsame
      have hv := hread (htyped w v h)
      rw [hwritten hw hwire h, hsame, ← hwritten hw' hwire' h', hread (htyped w' v' h')] at hv
      exact (Except.ok.inj hv).symm

lemma ne_lenientInt_catalogue :
    (∀ shape ∈ records, ∀ part ∈ shape.parts, part ≠ .lenientInt) ∧
    ∀ m ∈ Method.table, ∀ part ∈ m.result.parts, part ≠ .lenientInt := by
  decide +kernel

lemma hasShape_of_decode_ofJson (hmem : .record cls fields ∈ records)
    (h : decode .wire (.record cls fields) (.ofJson w) = .ok v) : HasShape (.record cls fields) v := by
  cases w with
  | dict entries =>
    obtain ⟨members, _, rfl⟩ := Checked.map_eq_ok_iff.mp h
    exact hasShape_of_sound hmem (sound_of_decode hmem (Value.made_ofJson _).sound h)
  | _ => cases h

/-- What a class of records reads and writes again is in normal form by its shape, and what a method reads
and writes as a result is so by the shape of the result. -/
theorem encoding_undoes_decoding :
    (∀ cls fields, Shape.record cls fields ∈ records →
      Normalizes (.record cls fields) (decode .wire (.record cls fields)) Record.encode) ∧
    ∀ m ∈ Method.table, Normalizes m.result m.decodeResult m.encodeResult := by
  constructor
  · intro cls fields hmem
    apply normalizes
    · intro part hpart
      exact ⟨isSound_catalogue.1 _ hmem part hpart, ne_lenientInt_catalogue.1 _ hmem part hpart⟩
    · intro w v h
      exact hasShape_of_decode_ofJson hmem h
    · intro v hv
      cases hv
      rw [Record.encode, record?_of_mem hmem]
      rfl
  · intro m hm
    have hparts := isSound_catalogue.2.2 m hm
    apply normalizes
    · intro part hpart
      exact ⟨(hparts part hpart).1, ne_lenientInt_catalogue.2 m hm part hpart⟩
    · intro w v h
      exact hasShape_of_decode hparts (Value.made_ofJson w).sound h
    · intro v _
      rfl

/-- The script as a node might write it. -/
def receivedLock : Json := .dict [
  ("args", .str "0xaB"), ("code_hash", .str (ByteString.encode (List.replicate 32 1))),
  ("hash_type", .str "type")]

/-- A cell as a node might write it, with a null and a member that is no field. -/
def receivedOutput : Json := .dict [
  ("lock", receivedLock), ("type", .null), ("capacity", .str "0x5"), ("occupied", .bool true)]

lemma hasDistinctNames_receivedOutput : receivedOutput.HasDistinctNames := by
  have hlock : receivedLock.HasDistinctNames := by
    refine .dict (by decide) ?_
    simp only [List.forall_mem_cons]
    exact ⟨.str _, .str _, .str _, List.forall_mem_nil _⟩
  refine .dict (by decide) ?_
  simp only [List.forall_mem_cons]
  exact ⟨hlock, .null, .str _, .bool _, List.forall_mem_nil _⟩

/-- A cell is written without what is no field and without its null, and digits in upper and in lower case
have the same normal form. -/
theorem encoding_undoes_decoding_cellOutput :
    (Record.encode (.record ⟨"CellOutput", ["CkbModel"]⟩ outputMembers)).ordered =
      (normalize cellOutput receivedOutput).ordered ∧
    (normalize Method.getTipBlockNumber.result (.str "0xFF")).ordered =
      (normalize Method.getTipBlockNumber.result (.str "0xff")).ordered := by
  constructor
  · have hcell := encoding_undoes_decoding.1 _ _
      (by simp [records, cellOutput, extending, ckbModel] : cellOutput ∈ records)
    exact hcell.written _ _ hasDistinctNames_receivedOutput (by decide +kernel)
      (Checked.eq_ok_of_toOption (by decide +kernel))
  · have htip := encoding_undoes_decoding.2 Method.getTipBlockNumber (by simp [Method.table])
    have hread (t : Text) (h : (Method.getTipBlockNumber.decodeResult (.str t)).toOption =
        some (.int 255)) : Method.getTipBlockNumber.decodeResult (.ofJson (.str t)) = .ok (.int 255) :=
      Checked.eq_ok_of_toOption h
    exact (htip.faithful _ _ _ _ (.str _) rfl (.str _) rfl (hread "0xFF" (by decide +kernel))
      (hread "0xff" (by decide +kernel))).mp rfl

end Shape

end ChainRpc
