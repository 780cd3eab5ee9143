import ChainRpc.Proofs.Json.Portable
import ChainRpc.Proofs.Shape.Fits
import ChainRpc.Proofs.Shape.Rereading

/-!
# Typed values that texts carry

The wire form of a typed value is carried by its text if the texts in the value are of characters. How deep
the wire form can be is known from the shape. So are the wire forms of the arguments that a method of the
table accepts, and those of its results.
-/

namespace ChainRpc

/-! ### Values of characters -/

namespace Value

/-- The texts in the value are of characters. -/
inductive IsScalar : Value → Prop
  | null : IsScalar .null
  | bool (b : Bool) : IsScalar (.bool b)
  | int (n : Int) : IsScalar (.int n)
  | float (x : Binary64) : IsScalar (.float x)
  | str {t : Text} (h : t.IsScalar) : IsScalar (.str t)
  | bytes (b : Bytes) : IsScalar (.bytes b)
  | buffer (b : Bytes) : IsScalar (.buffer b)
  | list {items : List Value} (h : ∀ v ∈ items, IsScalar v) : IsScalar (.list items)
  | tuple {items : List Value} (h : ∀ v ∈ items, IsScalar v) : IsScalar (.tuple items)
  | dict {entries : List (Text × Value)} (hnames : ∀ e ∈ entries, e.1.IsScalar)
    (h : ∀ e ∈ entries, IsScalar e.2) : IsScalar (.dict entries)
  | record {cls : RecordClass} {fields : List (Text × Value)} (h : ∀ f ∈ fields, IsScalar f.2) :
    IsScalar (.record cls fields)

end Value

namespace Shape

variable {mode : Mode} {shape : Shape} {f : FieldName × Shape} {fields : List (FieldName × Shape)}
  {members : Entries Value} {x v : Value} {room : Nat}

/-! ### Checking -/

/-- The shape adds no text of its own to a value. -/
def keepsTexts : Shape → Bool
  | .lenientText | .json => false
  | _ => true

/-- Where texts are taken as they are, the typed value of a value of characters is of characters. -/
lemma isScalar_of_decode (hshape : ∀ part ∈ shape.parts, part.keepsTexts) (hx : x.IsScalar)
    (h : decode mode shape x = .ok v) : v.IsScalar := by
  induction shape using Shape.induction generalizing x v with
  | uint bits | lenientInt =>
    obtain ⟨n, _, rfl⟩ := Checked.map_eq_ok_iff.mp h
    exact .int _
  | fixed size | bytes =>
    obtain ⟨b, _, rfl⟩ := Checked.map_eq_ok_iff.mp h
    exact .bytes b
  | bool | text | null =>
    cases x <;> cases h
    exact hx
  | oneOf options =>
    obtain ⟨t, ht, rfl⟩ := Checked.map_eq_ok_iff.mp h
    obtain ⟨_, hscalar, _⟩ := option_eq_ok ht
    exact .str hscalar
  | lenientText | json => cases hshape _ (mem_parts_self _)
  | optional inner ih =>
    cases x with
    | null =>
      cases h
      exact .null
    | _ => exact ih (forall_parts_optional.mp hshape).2 hx h
  | list item ih =>
    have hitem := (forall_parts_list.mp hshape).2
    cases hx with
    | list hx | tuple hx =>
      obtain ⟨vs, hvs, rfl⟩ := Checked.map_eq_ok_iff.mp h
      exact .list (forall_of_listItems (fun x v => ih hitem) hx hvs)
    | _ => cases h
  | record cls fields ih =>
    have hfields := (forall_parts_record.mp hshape).2
    cases hx with
    | record hx =>
      rw [decode] at h
      split at h <;> cases h
      exact .record hx
    | dict _ hx =>
      obtain ⟨members, hmembers, rfl⟩ := Checked.map_eq_ok_iff.mp h
      exact .record (forall_of_decodeFields .null (fun f hf x v => ih f hf (hfields f hf)) hx
        hmembers)
    | _ => cases h

/-! ### Depth -/

mutual

/-- How many containers can be nested in a wire form. -/
def height : Shape → Nat
  | .optional inner  => inner.height
  | .list item       => item.height + 1
  | .record _ fields => heightOfFields fields + 1
  | _                => 0
termination_by structural shape => shape

/-- How many containers can be nested in the wire form of a field. -/
def heightOfFields : List (FieldName × Shape) → Nat
  | []                 => 0
  | (_, shape) :: rest => max shape.height (heightOfFields rest)
termination_by structural fields => fields

end

lemma height_le_of_mem (hf : f ∈ fields) : f.2.height ≤ heightOfFields fields := by
  induction fields with
  | nil => cases hf
  | cons g rest ih =>
    rw [heightOfFields]
    rcases List.mem_cons.mp hf with rfl | hf
    · exact Nat.le_max_left _ _
    · exact Nat.le_trans (ih hf) (Nat.le_max_right _ _)

/-! ### Writing -/

/-- What the shape itself adds to a wire form is carried by texts: there is no number in it, and its names
are of characters. -/
def isCarried : Shape → Bool
  | .lenientInt => false
  | .record _ fields => fields.all fun f => decide f.1.wire.IsScalar
  | _ => true

/-- Members are carried if the wire forms of the fields are. -/
lemma portable_encodeFields {cls : RecordClass}
    (hshape : (Shape.record cls fields).isInvertible ∧ (Shape.record cls fields).isCarried)
    (h : ∀ f ∈ fields, ∀ v, Entries.get? f.1.name members = some v →
      (encode f.2 v).Portable f.2.height) :
    (Json.dict (encodeFields fields members)).Portable (Shape.record cls fields).height := by
  have hwire := (clearNames_of_isInvertible hshape.1).wire
  have hscalar : ∀ f ∈ fields, f.1.wire.IsScalar := by simpa [isCarried] using hshape.2
  apply Json.Portable.dict
  · exact (names_encodeFields_sublist fields members).nodup hwire
  · intro e he
    obtain ⟨f, hf, _, _, _, rfl⟩ := exists_of_mem_encodeFields he
    exact hscalar f hf
  · intro e he
    obtain ⟨f, hf, v, hv, _, rfl⟩ := exists_of_mem_encodeFields he
    exact (h f hf v hv).mono (height_le_of_mem hf)

lemma isScalar_of_get? {cls : RecordClass} {name : Text} (h : (Value.record cls members).IsScalar)
    (hv : Entries.get? name members = some v) : v.IsScalar := by
  cases h with
  | record h => exact h _ (Entries.mem_of_get? hv)

/-- The wire form of a value of characters is carried by its text. -/
lemma portable_encode (hshape : ∀ part ∈ shape.parts, part.isInvertible ∧ part.isCarried)
    (h : HasShape shape v) (hv : v.IsScalar) : (encode shape v).Portable shape.height := by
  induction h with
  | uint => exact .str (Quantity.isScalar_encode _)
  | fixed | bytes => exact .str (ByteString.isScalar_encode _)
  | bool b => exact .bool b
  | text t | lenientText t =>
    cases hv with
    | str ht => exact .str ht
  | oneOf ht _ => exact .str ht
  | lenientInt => cases (hshape _ (mem_parts_self _)).2
  | json => cases (hshape _ (mem_parts_self _)).1
  | null | none => exact .null
  | @some inner v h ih =>
    by_cases hnull : v = .null
    · subst hnull
      exact .null
    · rw [encode_optional hnull]
      exact ih (forall_parts_optional.mp hshape).2 hv
  | list h ih =>
    cases hv with
    | list hv =>
      rw [encode]
      apply Json.Portable.list
      rw [List.forall_mem_map]
      exact fun v hmem => ih v hmem (forall_parts_list.mp hshape).2 (hv v hmem)
  | record hnames h ih =>
    obtain ⟨hrecord, hfields⟩ := forall_parts_record.mp hshape
    apply portable_encodeFields hrecord
    exact fun f hf w hw => ih f hf w hw (hfields f hf) (isScalar_of_get? hv hw)

/-! ### The catalogue -/

/-- The classes of the catalogue that extend the class of the shape have its fields. -/
def isInherited : Shape → Bool
  | .record cls fields => records.all fun
    | .record c own => !c.extends cls.name || decide (fields ⊆ own)
    | _ => true
  | _ => true

lemma fields_subset_of_isInherited {cls c : RecordClass} {own : List (FieldName × Shape)}
    (h : (Shape.record cls fields).isInherited) (hown : Shape.record c own ∈ records)
    (hextends : c.extends cls.name) : fields ⊆ own := by
  have hsubset := List.all_eq_true.mp h _ hown
  simpa [hextends] using hsubset

/-- What a class of records makes of a value of characters has a wire form that is carried, also where it
is a record of a class that extends this one. -/
lemma portable_encode_of_decode (hmem : shape ∈ records) (hinherited : shape.isInherited)
    (hshape : ∀ part ∈ shape.parts, part.isInvertible ∧ part.isCarried) (hx : x.Made)
    (hv : v.IsScalar) (h : decode mode shape x = .ok v) :
    (encode shape v).Portable shape.height := by
  obtain ⟨cls, fields, rfl⟩ := exists_eq_record hmem
  obtain ⟨hrecord, hfields⟩ := forall_parts_record.mp hshape
  obtain ⟨c, members, rfl, hextends⟩ := exists_of_decode_record h
  cases sound_of_decode hmem hx.sound h with
  | flat hflat => cases hflat
  | record hown hmembers =>
    cases hmembers with
    | record _ hvalues =>
      apply portable_encodeFields hrecord
      intro f hf w hw
      have hvalue := hvalues f (fields_subset_of_isInherited hinherited hown hextends hf) w hw
      exact portable_encode (hfields f hf) hvalue (isScalar_of_get? hv hw)

end Shape

/-! ### The table -/

namespace Method

variable {m : Method} {args : List Value} {params : List Json} {x v : Value}

/-- How many containers can be nested in an argument or a result of a method of the table. -/
def tableHeight : Nat := 6

lemma isCarried_table :
    (∀ m ∈ table, m.name.IsScalar) ∧
    (∀ m ∈ table, m.result.height ≤ tableHeight ∧ ∀ part ∈ m.result.parts, part.isCarried) ∧
    ∀ m ∈ table, ∀ p ∈ m.params, p.argument.height ≤ tableHeight ∧
      ∀ part ∈ p.argument.parts, part.keepsTexts ∧ part.isInvertible ∧ part.isCarried := by
  decide +kernel

/-- An argument is a record, or no record in it can be one of another class than asked for. -/
lemma isFinal_table : ∀ m ∈ table, ∀ p ∈ m.params,
    p.argument ∈ Shape.records ∧ p.argument.isInherited ∨
      ∀ part ∈ p.argument.parts, part.isFinal := by
  decide +kernel

lemma portable_of_encodeArgument {p : Param} {j : Json} (hm : m ∈ table) (hp : p ∈ m.params)
    (hx : x.Made) (hscalar : x.IsScalar) (h : m.encodeArgument p x = .ok j) :
    j.Portable tableHeight := by
  obtain ⟨hheight, hparts⟩ := isCarried_table.2.2 m hm p hp
  have hcarried := fun part hpart => (hparts part hpart).2
  obtain ⟨v, hv, rfl⟩ := encodeArgument_eq_ok h
  have hscalar := Shape.isScalar_of_decode (fun part hpart => (hparts part hpart).1) hscalar hv
  refine Json.Portable.mono ?_ hheight
  rcases isFinal_table m hm p hp with ⟨hrecord, hinherited⟩ | hfinal
  · exact Shape.portable_encode_of_decode hrecord hinherited hcarried hx hscalar hv
  · have hshape := Shape.hasShape_of_decode
      (fun part hpart => ⟨(hcarried part hpart).1, hfinal part hpart⟩) hx.sound hv
    exact Shape.portable_encode hcarried hshape hscalar

/-- The wire forms of arguments of characters are carried by their texts. -/
lemma portable_of_encodeParams (hm : m ∈ table) (hargs : ∀ v ∈ args, v.Made ∧ v.IsScalar)
    (h : m.encodeParams args = .ok params) : ∀ j ∈ params, j.Portable tableHeight := by
  refine forall_of_encodeParams (P := (Json.Portable tableHeight ·)) .null ?_ h
  intro p hp v hv j hj
  exact portable_of_encodeArgument hm hp (hargs v hv).1 (hargs v hv).2 hj

/-- The wire form of a result of characters is carried by its text, and read back. -/
lemma portable_encodeResult (hm : m ∈ table) (hx : x.Made) (hv : v.IsScalar)
    (h : m.decodeResult x = .ok v) :
    (m.encodeResult v).Portable tableHeight ∧
      m.decodeResult (.ofJson (m.encodeResult v)) = .ok v := by
  obtain ⟨hheight, hcarried⟩ := isCarried_table.2.1 m hm
  have hparts := Shape.isSound_catalogue.2.2 m hm
  have hshape := Shape.hasShape_of_decode hparts hx.sound h
  constructor
  · refine (Shape.portable_encode ?_ hshape hv).mono hheight
    exact fun part hpart => ⟨(hparts part hpart).1, hcarried part hpart⟩
  · exact Shape.decode_encode (fun part hpart => (hparts part hpart).1) hshape

end Method

end ChainRpc
