import ChainRpc.Proofs.Shape.Portable

/-!
# Records of extending classes

Where a record is asked for, one of a class that extends the one asked for may stand. What is written of it
is the part that the class asked for knows of, at every depth of a value. This part is of the shape, and it is
what the wire form is read back as.
-/

namespace ChainRpc

namespace Shape

variable {shape : Shape} {cls : RecordClass} {f : FieldName × Shape}
  {fields : List (FieldName × Shape)} {members values : Entries Value} {v : Value}

/-! ### The part that a shape knows of -/

mutual

/-- What a shape knows of a value: of a record the fields of the shape, as a record of its class. -/
def narrowed : Shape → Value → Value
  | .optional inner, v => match v with
    | .null => .null
    | v     => narrowed inner v
  | .list item, v      => match v with
    | .list items => .list (items.map (narrowed item))
    | v           => v
  | .record cls fields, v => match v with
    | .record _ values => .record cls (narrowedFields fields values)
    | v                => v
  | .uint _, v | .fixed _, v | .bytes, v | .bool, v | .text, v | .lenientText, v | .lenientInt, v
  | .oneOf _, v | .json, v | .null, v => v
termination_by structural shape => shape

/-- The values of these fields, as far as their shapes know of them. -/
def narrowedFields : List (FieldName × Shape) → Entries Value → Entries Value
  | [], _ => []
  | (name, shape) :: rest, values =>
    (name.name, narrowed shape ((values.get? name.name).getD .null)) :: narrowedFields rest values
termination_by structural fields => fields

end

@[simp] lemma narrowed_of_isLeaf (h : shape.isLeaf) (v : Value) : narrowed shape v = v := by
  cases shape <;> first | rfl | cases h

@[simp] lemma narrowed_null (shape : Shape) : narrowed shape .null = .null := by
  cases shape <;> rfl

lemma narrowed_optional {inner : Shape} (v : Value) : narrowed (.optional inner) v = narrowed inner v := by
  cases v with
  | null => rw [narrowed_null, narrowed_null]
  | _ => rfl

lemma narrowed_eq_null_iff : narrowed shape v = .null ↔ v = .null := by
  constructor
  · intro h
    induction shape using Shape.induction with
    | optional inner ih => exact ih (narrowed_optional v ▸ h)
    | list | record => cases v <;> first | rfl | cases h
    | _ => exact h
  · rintro rfl
    exact narrowed_null shape

lemma names_narrowedFields (fields : List (FieldName × Shape)) (values : Entries Value) :
    Entries.names (narrowedFields fields values) = fields.map (·.1.name) := by
  induction fields with
  | nil => rfl
  | cons f rest ih => rw [narrowedFields, Entries.names_cons, ih, List.map_cons]

lemma get?_narrowedFields (hn : (fields.map (·.1.name)).Nodup) (hf : f ∈ fields) :
    Entries.get? f.1.name (narrowedFields fields values) =
      some (narrowed f.2 ((Entries.get? f.1.name values).getD .null)) := by
  induction fields with
  | nil => cases hf
  | cons g rest ih =>
    rw [List.map_cons, List.nodup_cons] at hn
    rw [narrowedFields, Entries.get?]
    rcases List.mem_cons.mp hf with rfl | hf
    · rw [if_pos rfl]
    · have hname : g.1.name ≠ f.1.name := fun h => hn.1 (h ▸ List.mem_map_of_mem hf)
      rw [if_neg hname, ih hn.2 hf]

/-! ### Writing the part -/

/-- Fields with the same wire forms are written in the same way. -/
lemma encodeFields_congr (h : ∀ f ∈ fields, written? members f = written? values f) :
    encodeFields fields members = encodeFields fields values := by
  induction fields with
  | nil => rfl
  | cons f rest ih =>
    obtain ⟨hf, hrest⟩ := List.forall_mem_cons.mp h
    rw [encodeFields_cons, encodeFields_cons, hf, ih hrest]

lemma written?_narrowedFields (hn : (fields.map (·.1.name)).Nodup) (hf : f ∈ fields)
    (ih : ∀ v, encode f.2 (narrowed f.2 v) = encode f.2 v) :
    written? (narrowedFields fields values) f = written? values f := by
  have hget : Entries.get? f.1.name (narrowedFields fields values) = _ := get?_narrowedFields hn hf
  by_cases hv : (Entries.get? f.1.name values).getD .null = .null
  · rw [hv, narrowed_null] at hget
    rw [written?_of_null hget, written?, hv]
  · have hne : narrowed f.2 _ ≠ .null := mt narrowed_eq_null_iff.mp hv
    rw [written?_of_ne_null hget hne, ih, written?]
    generalize (Entries.get? f.1.name values).getD .null = v at hv
    cases v <;> first | rfl | exact absurd rfl hv

/-- What is written of a value is the wire form of the part that the shape knows of. -/
lemma encode_narrowed (hshape : ∀ part ∈ shape.parts, part.isInvertible) (v : Value) :
    encode shape (narrowed shape v) = encode shape v := by
  induction shape using Shape.induction generalizing v with
  | optional inner ih =>
    have hinner := (forall_parts_optional.mp hshape).2
    by_cases hv : v = .null
    · subst hv
      rfl
    · rw [narrowed_optional, encode_optional (mt narrowed_eq_null_iff.mp hv), encode_optional hv,
        ih hinner]
  | list item ih =>
    have hitem := (forall_parts_list.mp hshape).2
    cases v with
    | list items =>
      rw [narrowed, encode, encode, List.map_map]
      exact congrArg Json.list (List.map_congr_left fun v _ => ih hitem v)
    | _ => rfl
  | record cls fields ih =>
    obtain ⟨hinvertible, hfields⟩ := forall_parts_record.mp hshape
    have hn := (clearNames_of_isInvertible hinvertible).own
    cases v with
    | record c values =>
      rw [narrowed, encode, encode]
      exact congrArg Json.dict
        (encodeFields_congr fun f hf => written?_narrowedFields hn hf (ih f hf (hfields f hf)))
    | _ => rfl
  | _ => rfl

/-! ### Classes and their records -/

/-- A class of records: one of the catalogue, or one that adds fields to those of another class. -/
inductive IsClass : Shape → Prop
  | catalogue {shape : Shape} (h : shape ∈ records) : IsClass shape
  | extending {parent : Shape} {name : Text} {further : List (FieldName × Shape)} (h : IsClass parent)
    (hname : record? name = none) (hclear : ClearNames (parent.fields ++ further)) :
    IsClass (parent.extending name further)

/-- The shape can be read back, and the records that it asks for are of the catalogue. -/
def isCatalogued (shape : Shape) : Bool :=
  shape.isInvertible && (shape.className?.isNone || decide (shape ∈ records))

lemma isInvertible_of_isCatalogued (h : shape.isCatalogued) : shape.isInvertible := by
  simp only [isCatalogued, Bool.and_eq_true] at h
  exact h.1

lemma mem_records_of_isCatalogued (h : (Shape.record cls fields).isCatalogued) :
    Shape.record cls fields ∈ records := by
  simpa [isCatalogued, className?] using (Bool.and_eq_true_iff.mp h).2

-- One check of both evaluates the names of the classes once.
lemma isCatalogued_catalogue :
    (∀ shape ∈ records, shape.isInherited) ∧
      ∀ shape ∈ records, ∀ part ∈ shape.parts, part.isCatalogued := by
  decide +kernel

lemma ne_of_record?_eq_none {name : Text} (hname : record? name = none)
    (hmem : Shape.record cls fields ∈ records) : cls.name ≠ name := by
  rintro rfl
  cases (record?_of_mem hmem).symm.trans hname

/-- A class has the fields of all classes of the catalogue that it extends. -/
lemma IsClass.exists_record (h : IsClass shape) :
    ∃ c own, shape = .record c own ∧ ClearNames own ∧
      ∀ cls fields, .record cls fields ∈ records → c.extends cls.name → fields ⊆ own := by
  induction h with
  | @catalogue shape hmem =>
    obtain ⟨c, own, rfl⟩ := exists_eq_record hmem
    have hinvertible := (forall_parts_record.mp (isSound_catalogue.1 _ hmem)).1
    exact ⟨c, own, rfl, clearNames_of_isInvertible hinvertible, fun cls fields hcls hextends =>
      fields_subset_of_isInherited (isCatalogued_catalogue.1 _ hcls) hmem hextends⟩
  | @extending parent name further _ hname hclear ih =>
    obtain ⟨c, own, rfl, _, hfields⟩ := ih
    refine ⟨_, _, rfl, hclear, fun cls fields hcls hextends => ?_⟩
    have hparent : c.extends cls.name := by
      simp only [RecordClass.extends, List.contains_cons, Bool.or_eq_true, beq_iff_eq] at hextends ⊢
      rcases hextends with hnew | hold | hold
      · exact absurd hnew.symm (ne_of_record?_eq_none hname hcls)
      · exact .inl hold.symm
      · exact .inr hold
    exact List.subset_append_of_subset_left _ (hfields cls fields hcls hparent)

end Shape

namespace Value

/-- A value that a caller can give: the records in it were made by classes. -/
inductive Given : Value → Prop
  | flat {v : Value} (h : v.isFlat) : Given v
  | list {items : List Value} (h : ∀ v ∈ items, Given v) : Given (.list items)
  | tuple {items : List Value} (h : ∀ v ∈ items, Given v) : Given (.tuple items)
  | dict {entries : List (Text × Value)} (h : ∀ e ∈ entries, Given e.2) : Given (.dict entries)
  | record {shape : Shape} {mode : Mode} {v : Value} {cls : RecordClass} {fields : Entries Value}
    (hshape : shape.IsClass) (hv : Given v) (h : shape.decode mode v = .ok (.record cls fields)) :
    Given (.record cls fields)

/-- What a class of the catalogue knows of a record in the value is of the shape of that class. -/
inductive Fitting : Value → Prop
  | flat {v : Value} (h : v.isFlat) : Fitting v
  | list {items : List Value} (h : ∀ v ∈ items, Fitting v) : Fitting (.list items)
  | tuple {items : List Value} (h : ∀ v ∈ items, Fitting v) : Fitting (.tuple items)
  | dict {entries : List (Text × Value)} (h : ∀ e ∈ entries, Fitting e.2) : Fitting (.dict entries)
  | record {c : RecordClass} {members : Entries Value}
    (h : ∀ cls fields, Shape.record cls fields ∈ Shape.records → c.extends cls.name →
      HasShape (.record cls fields) ((Shape.record cls fields).narrowed (.record c members))) :
    Fitting (.record c members)

end Value

namespace Shape

variable {mode : Mode} {shape : Shape} {cls c : RecordClass} {fields own : List (FieldName × Shape)}
  {entries members : Entries Value} {x v : Value}

/-! ### Checking -/

/-- What the shapes of some of its fields know of a record that is made of a dictionary is of these
shapes. -/
lemma hasShape_narrowed_of_decodeFields (hown : (own.map (·.1.name)).Nodup)
    (hn : (fields.map (·.1.name)).Nodup) (hsubset : fields ⊆ own)
    (ih : ∀ f ∈ fields, ∀ x v, x.Fitting → decode mode f.2 x = .ok v →
      HasShape f.2 (narrowed f.2 v))
    (hentries : ∀ e ∈ entries, e.2.Fitting) (h : decodeFields mode own entries = .ok members) :
    HasShape (.record cls fields) (narrowed (.record cls fields) (.record c members)) := by
  obtain ⟨hnames, hvalues⟩ := (decodeFields_eq_ok_iff hown).mp h
  refine .record (names_narrowedFields fields members) fun f hf v hv => ?_
  obtain ⟨w, hw⟩ := exists_value hnames (hsubset hf)
  rw [get?_narrowedFields hn hf, hw, Option.getD_some, Option.some.injEq] at hv
  subst hv
  have hvalue := hvalues f (hsubset hf) w hw
  unfold HasValue at hvalue
  split at hvalue
  · next e he => exact ih f hf _ w (hentries e (mem_of_entryOf he)) hvalue
  · obtain ⟨hoptional, rfl⟩ := hvalue
    rw [narrowed_null]
    obtain ⟨name, shape⟩ := f
    cases shape <;> first | exact .none | cases hoptional

/-- What a shape knows of what checks against it is of that shape. -/
lemma hasShape_narrowed_of_decode (hshape : ∀ part ∈ shape.parts, part.isCatalogued) (hx : x.Fitting)
    (h : decode mode shape x = .ok v) : HasShape shape (narrowed shape v) := by
  induction shape using Shape.induction generalizing x v with
  | optional inner ih =>
    obtain ⟨_, hinner⟩ := forall_parts_optional.mp hshape
    rw [narrowed_optional]
    cases x with
    | null =>
      cases h
      rw [narrowed_null]
      exact .none
    | _ => exact .some (ih hinner hx h)
  | list item ih =>
    obtain ⟨_, hitem⟩ := forall_parts_list.mp hshape
    have hlist {items : List Value} (hitems : ∀ x ∈ items, x.Fitting)
        (h : (listItems (decode mode item) 0 items).map .list = .ok v) :
        HasShape (.list item) (narrowed (.list item) v) := by
      obtain ⟨vs, hvs, rfl⟩ := Checked.map_eq_ok_iff.mp h
      exact .list (List.forall_mem_map.mpr (forall_of_listItems (fun x v => ih hitem) hitems hvs))
    cases hx with
    | list hitems | tuple hitems => exact hlist hitems h
    | flat hflat => cases x <;> first | cases h | cases hflat
    | _ => cases h
  | record cls fields ih =>
    obtain ⟨hrecord, hfields⟩ := forall_parts_record.mp hshape
    have hclear := clearNames_of_isInvertible (isInvertible_of_isCatalogued hrecord)
    cases hx with
    | dict hentries =>
      obtain ⟨members, hmembers, rfl⟩ := Checked.map_eq_ok_iff.mp h
      exact hasShape_narrowed_of_decodeFields hclear.own hclear.own (List.Subset.refl _)
        (fun f hf x v => ih f hf (hfields f hf)) hentries hmembers
    | record hmembers =>
      rw [decode] at h
      split at h
      · next hextends =>
        cases h
        exact hmembers cls fields (mem_records_of_isCatalogued hrecord) hextends
      · cases h
    | flat hflat => cases x <;> first | cases h | cases hflat
    | _ => cases h
  | _ =>
    rw [narrowed_of_isLeaf rfl]
    exact hasShape_of_decode_leaf rfl h

/-- What a class makes of a value fits all classes that it extends. -/
lemma fitting_of_decode (hshape : shape.IsClass) (hx : x.Fitting)
    (h : decode mode shape x = .ok (.record c members)) : (Value.record c members).Fitting := by
  obtain ⟨made, own, rfl, hclear, hsubset⟩ := hshape.exists_record
  cases hx with
  | dict hentries =>
    obtain ⟨found, hfound, heq⟩ := Checked.map_eq_ok_iff.mp h
    cases heq
    refine .record fun cls fields hmem hextends => ?_
    have hfields := (forall_parts_record.mp (isCatalogued_catalogue.2 _ hmem)).2
    have hn := (clearNames_of_isInvertible (forall_parts_record.mp (isSound_catalogue.1 _ hmem)).1).own
    exact hasShape_narrowed_of_decodeFields hclear.own hn (hsubset cls fields hmem hextends)
      (fun f hf x v => hasShape_narrowed_of_decode (hfields f hf)) hentries hfound
  | record hmembers =>
    rw [decode] at h
    split at h <;> cases h
    exact .record hmembers
  | flat hflat => cases x <;> first | cases h | cases hflat
  | _ => cases h

end Shape

/-- Records that were made by classes fit the classes of the catalogue. -/
lemma Value.Given.fitting {v : Value} (h : v.Given) : v.Fitting := by
  induction h with
  | flat h => exact .flat h
  | list _ ih => exact .list ih
  | tuple _ ih => exact .tuple ih
  | dict _ ih => exact .dict ih
  | record hshape _ h ih => exact Shape.fitting_of_decode hshape ih h

namespace Shape

variable {mode : Mode} {shape : Shape} {fields : List (FieldName × Shape)}
  {entries members : Entries Value} {x v : Value}

/-! ### Reading the wire form -/

lemma decodeFields_caller_of_wire
    (ih : ∀ f ∈ fields, ∀ {x v : Value}, decode .wire f.2 x = .ok v → decode .caller f.2 x = .ok v)
    (h : decodeFields .wire fields entries = .ok members) :
    decodeFields .caller fields entries = .ok members := by
  induction fields generalizing members with
  | nil => exact h
  | cons f rest ihrest =>
    obtain ⟨hf, hrest⟩ := List.forall_mem_cons.mp ih
    obtain ⟨v, tail, hv, htail, rfl⟩ := decodeFields_cons_eq_ok_iff.mp h
    refine decodeFields_cons_eq_ok_iff.mpr ⟨v, tail, ?_, ihrest hrest htail, rfl⟩
    unfold HasValue at hv ⊢
    split
    · next e he =>
      rw [he] at hv
      exact hf hv
    · next he =>
      rw [he] at hv
      exact hv

/-- What a shape reads from the wire it also takes from a caller. -/
lemma decode_caller_of_wire (h : decode .wire shape x = .ok v) : decode .caller shape x = .ok v := by
  induction shape using Shape.induction generalizing x v with
  | uint bits | fixed size | bytes =>
    obtain ⟨a, ha, rfl⟩ := Checked.map_eq_ok_iff.mp h
    cases x with
    | str t => exact h
    | _ => cases ha
  | optional inner ih =>
    by_cases hx : x = .null
    · subst hx
      exact h
    · rw [decode_optional hx] at h ⊢
      exact ih h
  | list item ih =>
    cases x with
    | list items | tuple items =>
      obtain ⟨vs, hvs, rfl⟩ := Checked.map_eq_ok_iff.mp h
      refine Checked.map_eq_ok_iff.mpr ⟨vs, listItems_eq_ok_iff.mpr ?_, rfl⟩
      exact (listItems_eq_ok_iff.mp hvs).imp fun _ _ => ih
    | _ => cases h
  | record cls fields ih =>
    cases x with
    | record c values => exact h
    | dict entries =>
      obtain ⟨members, hmembers, rfl⟩ := Checked.map_eq_ok_iff.mp h
      exact Checked.map_eq_ok_iff.mpr ⟨members, decodeFields_caller_of_wire ih hmembers, rfl⟩
    | _ => cases h
  | _ => exact h

/-- The wire form of what checks against a shape is read back as what the shape knows of it. -/
theorem decode_encode_of_decode (hshape : ∀ part ∈ shape.parts, part.isCatalogued) (hx : x.Given)
    (h : decode mode shape x = .ok v) :
    decode .wire shape (.ofJson (encode shape v)) = .ok (narrowed shape v) := by
  have hinvertible : ∀ part ∈ shape.parts, part.isInvertible :=
    fun part hpart => isInvertible_of_isCatalogued (hshape part hpart)
  rw [← encode_narrowed hinvertible]
  exact decode_encode hinvertible (hasShape_narrowed_of_decode hshape hx.fitting h)

end Shape

end ChainRpc
