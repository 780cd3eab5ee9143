import ChainRpc.Proofs.Shape.Rewriting
import Mathlib.Logic.Relation

/-!
# What newer nodes add

Reading a JSON value as a record passes over members that are no fields, at every depth, and takes a null for
an optional field like no member at all. So values that differ in such members only are read as equal records,
or none of them is read.
-/

namespace ChainRpc

/-! ### Names of fields -/

/-- The field goes by the name, in a record or on the wire. -/
def FieldName.GoesBy (f : FieldName) (name : Text) : Prop := name = f.wire ∨ name = f.name

instance (f : FieldName) (name : Text) : Decidable (f.GoesBy name) :=
  inferInstanceAs (Decidable (name = f.wire ∨ name = f.name))

namespace Shape

variable {mode : Mode} {shape inner item : Shape} {cls : RecordClass} {f g : FieldName × Shape}
  {fields : List (FieldName × Shape)} {w w' j : Json} {v : Value} {name : Text} {field : FieldName}
  {items before after : List Json} {entries others : Entries Json}

/-- A name is that of one field only. -/
lemma ClearNames.eq_of_goesBy (h : ClearNames fields) (hf : f ∈ fields) (hg : g ∈ fields)
    (hname : f.1.GoesBy name) (hname' : g.1.GoesBy name) : f = g := by
  have hown (heq : f.1 = g.1) : f = g :=
    List.inj_on_of_nodup_map h.own hf hg (congrArg FieldName.name heq)
  rcases hname with rfl | rfl <;> rcases hname' with heq | heq
  · exact List.inj_on_of_nodup_map h.wire hf hg heq
  · exact hown (h.apart g hg f hf heq.symm).symm
  · exact hown (h.apart f hf g hg heq)
  · exact List.inj_on_of_nodup_map h.own hf hg heq

lemma exists_of_memberOf (h : memberOf field entries = some w) :
    ∃ e ∈ entries, field.GoesBy e.1 ∧ e.2 = w := by
  rcases Option.or_eq_some_iff.mp h with h | ⟨_, h⟩
  · exact ⟨_, Entries.mem_of_get? h, .inl rfl, rfl⟩
  · exact ⟨_, Entries.mem_of_get? h, .inr rfl, rfl⟩

lemma memberOf_insert_of_not_goesBy {before after : Entries Json} (h : ¬ field.GoesBy name) :
    memberOf field (before ++ (name, j) :: after) = memberOf field (before ++ after) := by
  rw [FieldName.GoesBy, not_or] at h
  rw [memberOf, memberOf, Entries.get?_insert_of_ne h.1, Entries.get?_insert_of_ne h.2]

lemma memberOf_replace_cases (field : FieldName) (name : Text) (w w' : Json)
    (before after : Entries Json) :
    memberOf field (before ++ (name, w) :: after) = memberOf field (before ++ (name, w') :: after) ∨
      memberOf field (before ++ (name, w) :: after) = some w ∧
        memberOf field (before ++ (name, w') :: after) = some w' := by
  unfold memberOf
  rcases Entries.get?_replace_cases field.wire name w w' before after with h | ⟨h, h'⟩
  · rw [h]
    cases Entries.get? field.wire (before ++ (name, w') :: after) with
    | some j => exact .inl rfl
    | none => exact Entries.get?_replace_cases field.name name w w' before after
  · rw [h, h']
    exact .inr ⟨rfl, rfl⟩

/-! ### Additions -/

/-- The second value is the first one with one member added, somewhere in it, that reading it by the shape
passes over. -/
inductive Adds : Shape → Json → Json → Prop
  /-- A member that is no field of the record in whose place the object stands. -/
  | member {cls : RecordClass} {fields : List (FieldName × Shape)} {before after : Entries Json}
    {name : Text} {j : Json} (h : ∀ f ∈ fields, ¬ f.1.GoesBy name) :
    Adds (.record cls fields) (.dict (before ++ after)) (.dict (before ++ (name, j) :: after))
  /-- Null for an optional field that has no other value. -/
  | null {cls : RecordClass} {fields : List (FieldName × Shape)} {before after : Entries Json}
    {f : FieldName × Shape} {name : Text} (hf : f ∈ fields) (ho : f.2.isOptional)
    (hname : f.1.GoesBy name) (habsent : ∀ e ∈ before ++ after, f.1.GoesBy e.1 → e.2 = .null) :
    Adds (.record cls fields) (.dict (before ++ after)) (.dict (before ++ (name, .null) :: after))
  /-- An addition within the member of a field. -/
  | field {cls : RecordClass} {fields : List (FieldName × Shape)} {before after : Entries Json}
    {f : FieldName × Shape} {name : Text} {w w' : Json} (hf : f ∈ fields) (hname : f.1.GoesBy name)
    (h : Adds f.2 w w') :
    Adds (.record cls fields) (.dict (before ++ (name, w) :: after))
      (.dict (before ++ (name, w') :: after))
  | item {item : Shape} {before after : List Json} {w w' : Json} (h : Adds item w w') :
    Adds (.list item) (.list (before ++ w :: after)) (.list (before ++ w' :: after))
  | optional {inner : Shape} {w w' : Json} (h : Adds inner w w') : Adds (.optional inner) w w'

lemma Adds.ne_null (h : Adds shape w w') : w ≠ .null ∧ w' ≠ .null := by
  induction h with
  | optional _ ih => exact ih
  | _ => exact ⟨nofun, nofun⟩

/-! ### Reading -/

/-- The same is read of both values by the shape, if anything is. -/
def ReadAlike (mode : Mode) (shape : Shape) (w w' : Json) : Prop :=
  ∀ v, decode mode shape (.ofJson w) = .ok v ↔ decode mode shape (.ofJson w') = .ok v

lemma ReadAlike.toOption_eq (h : ReadAlike mode shape w w') :
    (decode mode shape (.ofJson w)).toOption = (decode mode shape (.ofJson w')).toOption := by
  have toOption_eq_some_iff {x : Checked Value} {v : Value} : x.toOption = some v ↔ x = .ok v := by
    cases x <;> simp [Except.toOption]
  ext v
  rw [toOption_eq_some_iff, toOption_eq_some_iff, h v]

lemma readAlike_optional (hw : w ≠ .null) (hw' : w' ≠ .null) (h : ReadAlike mode inner w w') :
    ReadAlike mode (.optional inner) w w' := by
  intro v
  rw [decode_optional (ofJson_ne_null hw), decode_optional (ofJson_ne_null hw'), h v]

lemma forall₂_replace_iff {α β : Type} {R : α → β → Prop} {before after : List α} {a a' : α}
    {bs : List β} (h : ∀ b, R a b ↔ R a' b) :
    List.Forall₂ R (before ++ a :: after) bs ↔ List.Forall₂ R (before ++ a' :: after) bs := by
  induction before generalizing bs with
  | nil => simp only [List.nil_append, List.forall₂_cons_left_iff, h]
  | cons first rest ih => simp only [List.cons_append, List.forall₂_cons_left_iff, ih]

lemma readAlike_list (h : ReadAlike mode item w w') :
    ReadAlike mode (.list item) (.list (before ++ w :: after)) (.list (before ++ w' :: after)) := by
  intro v
  have hitems (vs : List Value) :
      listItems (decode mode item) 0 (Value.ofJsonItems (before ++ w :: after)) = .ok vs ↔
        listItems (decode mode item) 0 (Value.ofJsonItems (before ++ w' :: after)) = .ok vs := by
    rw [listItems_ofJsonItems_eq_ok_iff, listItems_ofJsonItems_eq_ok_iff]
    exact forall₂_replace_iff h
  simp only [Value.ofJson, decode, Checked.map_eq_ok_iff, hitems]

/-- Objects with alike members for every field are read alike as records. -/
lemma readAlike_record
    (h : ∀ f ∈ fields, ∀ v, HasValue mode (Value.ofJsonEntries entries) f v ↔
      HasValue mode (Value.ofJsonEntries others) f v) :
    ReadAlike mode (.record cls fields) (.dict entries) (.dict others) := by
  intro v
  simp only [Value.ofJson, decode, Checked.map_eq_ok_iff, decodeFields_congr h]

/-- An optional field is null if nothing but nulls is given for it. -/
lemma hasValue_of_nulls (ho : f.2.isOptional)
    (h : ∀ e ∈ entries, f.1.GoesBy e.1 → e.2 = .null) :
    HasValue mode (Value.ofJsonEntries entries) f v ↔ v = .null := by
  rw [hasValue_ofJsonEntries_iff]
  cases hmember : memberOf f.1 entries with
  | none => exact and_iff_right ho
  | some w =>
    obtain ⟨e, he, hname, rfl⟩ := exists_of_memberOf hmember
    rw [h e he hname]
    obtain ⟨name, shape⟩ := f
    cases shape with
    | optional inner =>
      constructor
      · intro heq
        exact (Except.ok.inj heq).symm
      · rintro rfl
        rfl
    | _ => cases ho

/-- One addition does not change what is read. -/
lemma Adds.readAlike (hshape : ∀ part ∈ shape.parts, part.isInvertible) (h : Adds shape w w') :
    ReadAlike mode shape w w' := by
  induction h with
  | @member cls fields before after name j hno =>
    refine readAlike_record fun f hf v => ?_
    simp only [hasValue_ofJsonEntries_iff, memberOf_insert_of_not_goesBy (hno f hf)]
  | @null cls fields before after f name hf ho hname habsent =>
    have hclear := clearNames_of_isInvertible (forall_parts_record.mp hshape).1
    refine readAlike_record fun g hg v => ?_
    -- The name is that of no other field, and any other field finds what it found before.
    by_cases hg' : g.1.GoesBy name
    · obtain rfl := hclear.eq_of_goesBy hf hg hname hg'
      rw [hasValue_of_nulls ho habsent, hasValue_of_nulls ho]
      rw [List.forall_mem_append, List.forall_mem_cons]
      rw [List.forall_mem_append] at habsent
      exact ⟨habsent.1, fun _ => rfl, habsent.2⟩
    · simp only [hasValue_ofJsonEntries_iff, memberOf_insert_of_not_goesBy hg']
  | @field cls fields before after f name w w' hf hname h ih =>
    obtain ⟨hrecord, hfields⟩ := forall_parts_record.mp hshape
    refine readAlike_record fun g hg v => ?_
    by_cases hg' : g.1.GoesBy name
    · obtain rfl := (clearNames_of_isInvertible hrecord).eq_of_goesBy hf hg hname hg'
      simp only [hasValue_ofJsonEntries_iff]
      -- The member may be hidden behind another one of this field, and then it is not read at all.
      rcases memberOf_replace_cases f.1 name w w' before after with heq | ⟨hfound, hfound'⟩
      · rw [heq]
      · rw [hfound, hfound']
        exact ih (hfields f hf) v
    · simp only [hasValue_ofJsonEntries_iff, memberOf_insert_of_not_goesBy hg']
  | item h ih => exact readAlike_list (ih (forall_parts_list.mp hshape).2)
  | optional h ih =>
    exact readAlike_optional h.ne_null.1 h.ne_null.2 (ih (forall_parts_optional.mp hshape).2)

/-- Additions, in any number and taken back or not, do not change what is read. -/
lemma readAlike_of_eqvGen (hshape : ∀ part ∈ shape.parts, part.isInvertible)
    (h : Relation.EqvGen (Adds shape) w w') : ReadAlike mode shape w w' := by
  induction h with
  | rel w w' h => exact h.readAlike hshape
  | refl w => exact fun v => Iff.rfl
  | symm w w' _ ih => exact fun v => (ih v).symm
  | trans w w' w'' _ _ ih ih' => exact fun v => (ih v).trans (ih' v)

/-- Values that come of each other by additions, put in and taken out anywhere, are read as equal records of a
class, or none of them is read. -/
theorem reading_passes_over_additions (hmem : shape ∈ records) (mode : Mode)
    (h : Relation.EqvGen (Adds shape) w w') :
    (decode mode shape (.ofJson w)).toOption = (decode mode shape (.ofJson w')).toOption :=
  (readAlike_of_eqvGen (isSound_catalogue.1 _ hmem) h).toOption_eq

/-- The script of a newer node, with a member that is no field. -/
def newerLock : Json := .dict [
  ("args", .str "0xaB"), ("code_hash", .str (ByteString.encode (List.replicate 32 1))),
  ("version", .list [.null]), ("hash_type", .str "type")]

/-- The cell of a newer node, without the null. -/
def newerOutput : Json := .dict [
  ("lock", newerLock), ("capacity", .str "0x5"), ("occupied", .bool true)]

lemma eqvGen_adds_newerOutput : Relation.EqvGen (Adds cellOutput) receivedOutput newerOutput := by
  have hnull : Adds cellOutput (.dict [("lock", receivedLock), ("capacity", .str "0x5"),
      ("occupied", .bool true)]) receivedOutput := by
    apply @Adds.null ⟨"CellOutput", ["CkbModel"]⟩ _ [("lock", receivedLock)]
      [("capacity", .str "0x5"), ("occupied", .bool true)] (⟨"type_", "type"⟩, .optional script) "type"
    · exact .tail _ (.tail _ (.head _))
    · rfl
    · exact .inl rfl
    · decide
  have hmember : Adds script receivedLock newerLock := by
    apply @Adds.member ⟨"Script", ["CkbModel"]⟩ _
      [("args", .str "0xaB"), ("code_hash", .str (ByteString.encode (List.replicate 32 1)))]
      [("hash_type", .str "type")] "version" (.list [.null])
    decide
  have hfield : Adds cellOutput (.dict [("lock", receivedLock), ("capacity", .str "0x5"),
      ("occupied", .bool true)]) newerOutput :=
    @Adds.field ⟨"CellOutput", ["CkbModel"]⟩ _ []
      [("capacity", .str "0x5"), ("occupied", .bool true)] (⟨"lock", "lock"⟩, script) "lock" _ _
      (.tail _ (.head _)) (.inl rfl) hmember
  exact .trans _ _ _ (.symm _ _ (.rel _ _ hnull)) (.rel _ _ hfield)

/-- A cell is read with a member more in its script and without its null. -/
theorem reading_passes_over_additions_newerOutput :
    Relation.EqvGen (Adds cellOutput) receivedOutput newerOutput ∧
      (decode .wire cellOutput (.ofJson newerOutput)).toOption =
        some (.record ⟨"CellOutput", ["CkbModel"]⟩ outputMembers) := by
  refine ⟨eqvGen_adds_newerOutput, ?_⟩
  rw [← reading_passes_over_additions
    (by simp [records, cellOutput, extending, ckbModel] : cellOutput ∈ records) .wire
    eqvGen_adds_newerOutput]
  decide +kernel

end Shape

end ChainRpc
