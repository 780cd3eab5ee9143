import ChainRpc.Method.Table
import ChainRpc.Proofs.Shape.Fields
import ChainRpc.Proofs.Shape.Structure

/-!
# Values of a shape

What checks against a shape is a value of that shape, whatever mode it is checked in, if the records in
what is checked were made by their classes. Where a record is asked for, one of an extending class is taken
as well; within the shapes of the catalogue no class of a record is extended.
-/

namespace ChainRpc

/-! ### Values and their shapes -/

/-- The value is of the shape: what the shape says holds of it and of all its parts. -/
inductive HasShape : Shape → Value → Prop
  | uint {bits n : Nat} (h : n < 2 ^ bits) : HasShape (.uint bits) (.int n)
  | fixed {size : Nat} {b : Bytes} (h : b.length = size) : HasShape (.fixed size) (.bytes b)
  | bytes (b : Bytes) : HasShape .bytes (.bytes b)
  | bool (b : Bool) : HasShape .bool (.bool b)
  | text (t : Text) : HasShape .text (.str t)
  | lenientText (t : Text) : HasShape .lenientText (.str t)
  | lenientInt (n : Int) : HasShape .lenientInt (.int n)
  | oneOf {options : List Text} {t : Text} (hscalar : t.IsScalar) (h : t ∈ options) :
    HasShape (.oneOf options) (.str t)
  | json {j : Json} {v : Value} (h : v = .ofJson j) : HasShape .json v
  | null : HasShape .null .null
  | none {inner : Shape} : HasShape (.optional inner) .null
  | some {inner : Shape} {v : Value} (h : HasShape inner v) : HasShape (.optional inner) v
  | list {item : Shape} {vs : List Value} (h : ∀ v ∈ vs, HasShape item v) :
    HasShape (.list item) (.list vs)
  | record {cls : RecordClass} {fields : List (FieldName × Shape)} {members : Entries Value}
    (hnames : Entries.names members = fields.map (·.1.name))
    (h : ∀ f ∈ fields, ∀ v, Entries.get? f.1.name members = some v → HasShape f.2 v) :
    HasShape (.record cls fields) (.record cls members)

namespace Value

/-- The value holds no others. -/
def isFlat : Value → Bool
  | .list _ | .tuple _ | .dict _ | .record _ _ => false
  | _ => true

/-- A value that a caller can have: the records in it were made by their classes. -/
inductive Made : Value → Prop
  | flat {v : Value} (h : v.isFlat) : Made v
  | list {items : List Value} (h : ∀ v ∈ items, Made v) : Made (.list items)
  | tuple {items : List Value} (h : ∀ v ∈ items, Made v) : Made (.tuple items)
  | dict {entries : List (Text × Value)} (h : ∀ e ∈ entries, Made e.2) : Made (.dict entries)
  | record {shape : Shape} {mode : Mode} {v : Value} {cls : RecordClass} {fields : Entries Value}
    (hshape : shape ∈ Shape.records) (hv : Made v)
    (h : shape.decode mode v = .ok (.record cls fields)) : Made (.record cls fields)

/-- The records in the value are of the shapes of their classes. -/
inductive Sound : Value → Prop
  | flat {v : Value} (h : v.isFlat) : Sound v
  | list {items : List Value} (h : ∀ v ∈ items, Sound v) : Sound (.list items)
  | tuple {items : List Value} (h : ∀ v ∈ items, Sound v) : Sound (.tuple items)
  | dict {entries : List (Text × Value)} (h : ∀ e ∈ entries, Sound e.2) : Sound (.dict entries)
  | record {cls : RecordClass} {fields : List (FieldName × Shape)} {members : Entries Value}
    (hshape : Shape.record cls fields ∈ Shape.records)
    (h : HasShape (.record cls fields) (.record cls members)) : Sound (.record cls members)

mutual

/-- There are no records in a JSON value. -/
lemma made_ofJson : ∀ j : Json, (ofJson j).Made
  | .null | .bool _ | .int _ | .float _ | .str _ => .flat rfl
  | .list items   => .list (made_ofJsonItems items)
  | .dict entries => .dict (made_ofJsonEntries entries)
termination_by structural j => j

lemma made_ofJsonItems : ∀ items : List Json, ∀ v ∈ ofJsonItems items, Made v
  | []           => List.forall_mem_nil _
  | item :: rest => List.forall_mem_cons.mpr ⟨made_ofJson item, made_ofJsonItems rest⟩
termination_by structural items => items

lemma made_ofJsonEntries : ∀ entries : List (Text × Json), ∀ e ∈ ofJsonEntries entries, Made e.2
  | []                    => List.forall_mem_nil _
  | (_, value) :: rest    => List.forall_mem_cons.mpr ⟨made_ofJson value, made_ofJsonEntries rest⟩
termination_by structural entries => entries

end

end Value

namespace Shape

variable {mode : Mode} {shape : Shape} {x v : Value}

/-! ### Primitives -/

lemma primitive_eq_ok {α : Type} {kind : PrimitiveKind} {decode : Value → Except Refusal α} {a : α}
    (h : primitive mode kind decode x = .ok a) : decode x = .ok a := by
  unfold primitive at h
  split at h
  · exact Checked.mapError_eq_ok_iff.mp h
  · exact Checked.mapError_eq_ok_iff.mp h
  · cases h

lemma lt_of_quantity {bits n : Nat} (h : Quantity.decode bits x = .ok n) : n < 2 ^ bits := by
  obtain ⟨found, _, hchecked⟩ := Checked.bind_eq_ok_iff.mp h
  unfold Quantity.checked at hchecked
  split at hchecked
  · next hrange =>
    cases hchecked
    rw [Int.toNat_lt hrange.1]
    simpa using hrange.2
  · cases hchecked

lemma length_of_byteString {size : Nat} {b : Bytes} (h : ByteString.decodeFixed size x = .ok b) :
    b.length = size := by
  obtain ⟨found, _, hfixed⟩ := Checked.bind_eq_ok_iff.mp h
  split at hfixed
  · next hlength =>
    cases hfixed
    exact Int.ofNat_inj.mp hlength
  · cases hfixed

/-! ### Parts of shapes -/

/-- Of the classes of the catalogue none but that of the shape extends it. -/
def isFinal : Shape → Bool
  | .record cls fields => records.all fun
    | .record c fs => !c.extends cls.name || same (.record c fs) (.record cls fields)
    | _ => true
  | _ => true

/-- What the shape itself says of a value can be read back: a record tells its fields apart, and only an
optional field can be null. -/
def isInvertible : Shape → Bool
  | .json => false
  | .record _ fields => decide (ClearNames fields) && fields.all fun f => !same f.2 .null
  | _ => true

lemma eq_of_isFinal {cls c : RecordClass} {fields fs : List (FieldName × Shape)}
    (hfinal : (Shape.record cls fields).isFinal) (hmem : Shape.record c fs ∈ records)
    (hextends : c.extends cls.name) : Shape.record c fs = .record cls fields := by
  have h := List.all_eq_true.mp hfinal _ hmem
  simpa [hextends, same_iff] using h

lemma clearNames_of_isInvertible {cls : RecordClass} {fields : List (FieldName × Shape)}
    (h : (Shape.record cls fields).isInvertible) : ClearNames fields := by
  simp only [isInvertible, Bool.and_eq_true, decide_eq_true_eq] at h
  exact h.1

lemma ne_null_of_isInvertible {cls : RecordClass} {fields : List (FieldName × Shape)}
    (h : (Shape.record cls fields).isInvertible) : ∀ f ∈ fields, f.2 ≠ .null := by
  simp only [isInvertible, Bool.and_eq_true, List.all_eq_true, Bool.not_eq_true'] at h
  intro f hf heq
  have hfield := h.2 f hf
  rw [heq] at hfield
  cases hfield

/-! ### Checking -/

/-- Where a record is asked for, only a record checks. -/
lemma exists_of_decode_record {cls : RecordClass} {fields : List (FieldName × Shape)}
    (h : decode mode (.record cls fields) x = .ok v) :
    ∃ c members, v = .record c members ∧ c.extends cls.name := by
  cases x with
  | record c values =>
    rw [decode] at h
    split at h
    · next hextends =>
      cases h
      exact ⟨c, values, rfl, hextends⟩
    · cases h
  | dict entries =>
    obtain ⟨members, _, rfl⟩ := Checked.map_eq_ok_iff.mp h
    exact ⟨cls, members, rfl, by simp [RecordClass.extends]⟩
  | _ => cases h

/-- The shape is none of others. -/
def isLeaf : Shape → Bool
  | .optional _ | .list _ | .record _ _ => false
  | _ => true

lemma hasShape_of_decode_leaf (hleaf : shape.isLeaf) (h : decode mode shape x = .ok v) :
    HasShape shape v := by
  cases shape with
  | uint bits =>
    obtain ⟨_, hlifted, rfl⟩ := Checked.map_eq_ok_iff.mp h
    obtain ⟨n, hn, heq⟩ := Checked.bind_eq_ok_iff.mp hlifted
    cases heq
    exact .uint (lt_of_quantity (primitive_eq_ok hn))
  | fixed size =>
    obtain ⟨b, hb, rfl⟩ := Checked.map_eq_ok_iff.mp h
    exact .fixed (length_of_byteString (primitive_eq_ok hb))
  | bytes =>
    obtain ⟨b, _, rfl⟩ := Checked.map_eq_ok_iff.mp h
    exact .bytes b
  | bool =>
    cases x <;> cases h
    exact .bool _
  | text =>
    cases x <;> cases h
    exact .text _
  | lenientText =>
    obtain ⟨t, _, rfl⟩ := Checked.map_eq_ok_iff.mp h
    exact .lenientText t
  | lenientInt =>
    obtain ⟨n, _, rfl⟩ := Checked.map_eq_ok_iff.mp h
    exact .lenientInt n
  | oneOf options =>
    obtain ⟨t, ht, rfl⟩ := Checked.map_eq_ok_iff.mp h
    obtain ⟨_, hscalar, hmem⟩ := option_eq_ok ht
    exact .oneOf hscalar hmem
  | json =>
    obtain ⟨j, _, rfl⟩ := Checked.map_eq_ok_iff.mp h
    exact .json rfl
  | null =>
    cases x <;> cases h
    exact .null
  | optional _ | list _ | record _ _ => cases hleaf

/-- A record that is made of a dictionary has values of the shapes of its fields. -/
lemma hasShape_of_decodeFields {cls : RecordClass} {fields : List (FieldName × Shape)}
    {entries members : Entries Value} (hclear : ClearNames fields)
    (ih : ∀ f ∈ fields, ∀ x v, x.Sound → decode mode f.2 x = .ok v → HasShape f.2 v)
    (hentries : ∀ e ∈ entries, e.2.Sound) (h : decodeFields mode fields entries = .ok members) :
    HasShape (.record cls fields) (.record cls members) := by
  obtain ⟨hnames, hvalues⟩ := (decodeFields_eq_ok_iff hclear.own).mp h
  refine .record hnames fun f hf v hv => ?_
  have hvalue := hvalues f hf v hv
  unfold HasValue at hvalue
  split at hvalue
  · next e he => exact ih f hf _ v (hentries e (mem_of_entryOf he)) hvalue
  · obtain ⟨hoptional, rfl⟩ := hvalue
    obtain ⟨name, shape⟩ := f
    cases shape <;> first | exact .none | cases hoptional

/-- What checks against a shape is of that shape. -/
lemma hasShape_of_decode (hshape : ∀ part ∈ shape.parts, part.isInvertible ∧ part.isFinal)
    (hx : x.Sound) (h : decode mode shape x = .ok v) : HasShape shape v := by
  induction shape using Shape.induction generalizing x v with
  | optional inner ih =>
    obtain ⟨_, hinner⟩ := forall_parts_optional.mp hshape
    cases x with
    | null =>
      cases h
      exact .none
    | _ => exact .some (ih hinner hx h)
  | list item ih =>
    obtain ⟨_, hitem⟩ := forall_parts_list.mp hshape
    have hlist {items : List Value} (hitems : ∀ x ∈ items, x.Sound)
        (h : (listItems (decode mode item) 0 items).map .list = .ok v) :
        HasShape (.list item) v := by
      obtain ⟨vs, hvs, rfl⟩ := Checked.map_eq_ok_iff.mp h
      exact .list (forall_of_listItems (fun x v => ih hitem) hitems hvs)
    cases hx with
    | list hitems | tuple hitems => exact hlist hitems h
    | flat hflat => cases x <;> first | cases h | cases hflat
    | _ => cases h
  | record cls fields ih =>
    obtain ⟨⟨hinvertible, hfinal⟩, hfields⟩ := forall_parts_record.mp hshape
    cases hx with
    | dict hentries =>
      obtain ⟨members, hmembers, rfl⟩ := Checked.map_eq_ok_iff.mp h
      exact hasShape_of_decodeFields (clearNames_of_isInvertible hinvertible)
        (fun f hf x v => ih f hf (hfields f hf)) hentries hmembers
    | record hother hmembers =>
      -- A record that is there already is of the shape of its own class, and that is this one.
      rw [decode] at h
      split at h
      · next hextends =>
        cases h
        rw [← eq_of_isFinal hfinal hother hextends]
        exact hmembers
      · cases h
    | flat hflat => cases x <;> first | cases h | cases hflat
    | _ => cases h
  | _ => exact hasShape_of_decode_leaf rfl h

/-! ### The catalogue and the table -/

lemma exists_eq_record (hmem : shape ∈ records) : ∃ cls fields, shape = .record cls fields := by
  have h : ∀ shape ∈ records, shape.className?.isSome := by decide
  have hname := h shape hmem
  cases shape with
  | record cls fields => exact ⟨cls, fields, rfl⟩
  | _ => cases hname

lemma nodup_className_records : (records.map className?).Nodup := by decide +kernel

lemma record?_of_mem {cls : RecordClass} {fields : List (FieldName × Shape)}
    (h : Shape.record cls fields ∈ records) : record? cls.name = some (.record cls fields) :=
  find?_of_nodup_map nodup_className_records h

-- One check of everything evaluates the names of the fields once.
lemma isSound_catalogue :
    (∀ shape ∈ records, ∀ part ∈ shape.parts, part.isInvertible) ∧
    (∀ shape ∈ records, ∀ f ∈ shape.fields, ∀ part ∈ f.2.parts, part.isFinal) ∧
    ∀ m ∈ Method.table, ∀ part ∈ m.result.parts, part.isInvertible ∧ part.isFinal := by
  decide +kernel

variable {cls : RecordClass} {fields : List (FieldName × Shape)} {members : Entries Value}

/-- The records in what a class of records makes of a value are of the shapes of their classes. -/
lemma sound_of_decode (hmem : shape ∈ records) (hx : x.Sound)
    (h : decode mode shape x = .ok (.record cls members)) : (Value.record cls members).Sound := by
  obtain ⟨own, fields, rfl⟩ := exists_eq_record hmem
  obtain ⟨hinvertible, hfields⟩ := forall_parts_record.mp (isSound_catalogue.1 _ hmem)
  have hfinal := isSound_catalogue.2.1 _ hmem
  cases hx with
  | dict hentries =>
    obtain ⟨found, hfound, heq⟩ := Checked.map_eq_ok_iff.mp h
    cases heq
    refine .record hmem (hasShape_of_decodeFields (clearNames_of_isInvertible hinvertible) ?_
      hentries hfound)
    intro f hf x v hx hv
    exact hasShape_of_decode (fun part hpart => ⟨hfields f hf part hpart, hfinal f hf part hpart⟩)
      hx hv
  | record hother hmembers =>
    rw [decode] at h
    split at h <;> cases h
    exact .record hother hmembers
  | flat hflat => cases x <;> first | cases h | cases hflat
  | _ => cases h

/-- A record of a class of the catalogue is of the shape of that class. -/
lemma hasShape_of_sound (hmem : Shape.record cls fields ∈ records)
    (h : (Value.record cls members).Sound) : HasShape (.record cls fields) (.record cls members) := by
  cases h with
  | flat hflat => cases hflat
  | record hother hmembers =>
    have hsame := (record?_of_mem hother).symm.trans (record?_of_mem hmem)
    cases hsame
    exact hmembers

end Shape

/-- Records that were made by their classes are of the shapes of their classes. -/
lemma Value.Made.sound {v : Value} (h : v.Made) : v.Sound := by
  induction h with
  | flat h => exact .flat h
  | list _ ih => exact .list ih
  | tuple _ ih => exact .tuple ih
  | dict _ ih => exact .dict ih
  | record hshape _ h ih => exact Shape.sound_of_decode hshape ih h

end ChainRpc
