import ChainRpc.Proofs.Shape.Narrowing

/-!
# The two modes

The mode of the wire differs from that of a caller in one thing: wherever an integer or a byte string is read,
the wire has a text. With texts in these places both modes read the same.
-/

namespace ChainRpc.Shape

variable {shape inner item part : Shape} {cls : RecordClass}
  {fields : List (FieldName × Shape)} {w j : Json} {v : Value} {items : List Json}
  {entries : Entries Json} {members : Entries Value}

/-! ### Places -/

/-- Reading a value by a shape comes to this place of the value, to be read by this part of the shape. -/
inductive Reads (part : Shape) (j : Json) : Shape → Json → Prop
  | here : Reads part j part j
  | optional {inner : Shape} {w : Json} (hw : w ≠ .null) (h : Reads part j inner w) :
    Reads part j (.optional inner) w
  | item {item : Shape} {items : List Json} {w : Json} (hw : w ∈ items) (h : Reads part j item w) :
    Reads part j (.list item) (.list items)
  | field {cls : RecordClass} {fields : List (FieldName × Shape)} {entries : Entries Json}
    {f : FieldName × Shape} {w : Json} (hf : f ∈ fields) (hw : memberOf f.1 entries = some w)
    (h : Reads part j f.2 w) : Reads part j (.record cls fields) (.dict entries)

/-- The shape is that of an integer or of a byte string. -/
def isHexadecimal : Shape → Bool
  | .uint _ | .fixed _ | .bytes => true
  | _ => false

/-- Wherever an integer or a byte string is read, there is a text or null. -/
def HasTexts (shape : Shape) (w : Json) : Prop :=
  ∀ part j, Reads part j shape w → part.isHexadecimal → j ≠ .null → ∃ t, j = .str t

lemma hasTexts_of_not_isHexadecimal (hleaf : shape.isLeaf) (h : shape.isHexadecimal = false) :
    HasTexts shape w := by
  intro part j hreads hpart
  cases hreads with
  | here =>
    rw [h] at hpart
    cases hpart
  | _ => cases hleaf

lemma hasTexts_optional_iff (hw : w ≠ .null) : HasTexts (.optional inner) w ↔ HasTexts inner w := by
  constructor
  · intro h part j hreads
    exact h part j (.optional hw hreads)
  · intro h part j hreads hpart
    cases hreads with
    | here => cases hpart
    | optional _ hreads => exact h part j hreads hpart

lemma hasTexts_list_iff : HasTexts (.list item) (.list items) ↔ ∀ w ∈ items, HasTexts item w := by
  constructor
  · intro h w hw part j hreads
    exact h part j (.item hw hreads)
  · intro h part j hreads hpart
    cases hreads with
    | here => cases hpart
    | item hw hreads => exact h _ hw part j hreads hpart

lemma hasTexts_record_iff :
    HasTexts (.record cls fields) (.dict entries) ↔
      ∀ f ∈ fields, ∀ w, memberOf f.1 entries = some w → HasTexts f.2 w := by
  constructor
  · intro h f hf w hw part j hreads
    exact h part j (.field hf hw hreads)
  · intro h part j hreads hpart
    cases hreads with
    | here => cases hpart
    | field hf hw hreads => exact h _ hf _ hw part j hreads hpart

/-! ### Primitives -/

/-- A text is read alike in both modes. -/
lemma decode_wire_of_isHexadecimal {t : Text} (h : shape.isHexadecimal) :
    decode .wire shape (.str t) = decode .caller shape (.str t) := by
  cases shape with
  | uint | fixed | bytes => rfl
  | _ => cases h

lemma exists_text_of_decode (h : shape.isHexadecimal) (hv : decode .wire shape (.ofJson w) = .ok v) :
    ∃ t, w = .str t := by
  cases shape with
  | uint bits | fixed size | bytes =>
    obtain ⟨_, hread, _⟩ := Checked.map_eq_ok_iff.mp hv
    cases w <;> first | exact ⟨_, rfl⟩ | cases hread
  | _ => cases h

/-- On the wire a primitive is read that is a text. -/
lemma decode_hexadecimal_iff (h : shape.isHexadecimal) :
    decode .wire shape (.ofJson w) = .ok v ↔
      decode .caller shape (.ofJson w) = .ok v ∧ HasTexts shape w := by
  constructor
  · intro hv
    obtain ⟨t, rfl⟩ := exists_text_of_decode h hv
    refine ⟨decode_caller_of_wire hv, fun part j hreads hpart _ => ?_⟩
    cases hreads with
    | here => exact ⟨t, rfl⟩
    | _ => cases h
  · rintro ⟨hv, htexts⟩
    by_cases hw : w = .null
    · subst hw
      cases shape with
      | uint | fixed | bytes => cases hv
      | _ => cases h
    · obtain ⟨t, rfl⟩ := htexts shape w .here h hw
      exact (decode_wire_of_isHexadecimal h).trans hv

/-- All other shapes without parts are read alike in both modes. -/
lemma decode_mode_of_not_isHexadecimal (hleaf : shape.isLeaf) (h : shape.isHexadecimal = false)
    (x : Value) : decode .wire shape x = decode .caller shape x := by
  cases shape with
  | uint | fixed | bytes => cases h
  | optional | list | record => cases hleaf
  | _ => rfl

/-- What is read of a leaf on the wire is what a caller may give, with a text for a primitive. -/
lemma decode_leaf_iff (hleaf : shape.isLeaf) :
    decode .wire shape (.ofJson w) = .ok v ↔
      decode .caller shape (.ofJson w) = .ok v ∧ HasTexts shape w := by
  cases hshape : shape.isHexadecimal with
  | true => exact decode_hexadecimal_iff hshape
  | false =>
    rw [decode_mode_of_not_isHexadecimal hleaf hshape]
    exact (and_iff_left (hasTexts_of_not_isHexadecimal hleaf hshape)).symm

/-! ### Lists and records -/

lemma decodeFields_wire_iff
    (ih : ∀ f ∈ fields, ∀ {w : Json} {v : Value}, decode .wire f.2 (.ofJson w) = .ok v ↔
      decode .caller f.2 (.ofJson w) = .ok v ∧ HasTexts f.2 w) :
    decodeFields .wire fields (Value.ofJsonEntries entries) = .ok members ↔
      decodeFields .caller fields (Value.ofJsonEntries entries) = .ok members ∧
        ∀ f ∈ fields, ∀ w, memberOf f.1 entries = some w → HasTexts f.2 w := by
  induction fields generalizing members with
  | nil => exact (and_iff_left nofun).symm
  | cons f rest ihrest =>
    obtain ⟨hf, hrest⟩ := List.forall_mem_cons.mp ih
    have hvalue {v : Value} : HasValue .wire (Value.ofJsonEntries entries) f v ↔
        HasValue .caller (Value.ofJsonEntries entries) f v ∧
          ∀ w, memberOf f.1 entries = some w → HasTexts f.2 w := by
      simp only [hasValue_ofJsonEntries_iff]
      cases memberOf f.1 entries with
      | none => simp
      | some w => simpa using hf
    simp only [decodeFields_cons_eq_ok_iff, hvalue, ihrest hrest, List.forall_mem_cons]
    constructor
    · rintro ⟨v, tail, ⟨hv, htexts⟩, ⟨htail, htailTexts⟩, rfl⟩
      exact ⟨⟨v, tail, hv, htail, rfl⟩, htexts, htailTexts⟩
    · rintro ⟨⟨v, tail, hv, htail, rfl⟩, htexts, htailTexts⟩
      exact ⟨v, tail, ⟨hv, htexts⟩, ⟨htail, htailTexts⟩, rfl⟩

/-- What is read on the wire is what is read of a caller, if texts stand for integers and byte strings. -/
lemma decode_wire_iff : decode .wire shape (.ofJson w) = .ok v ↔
    decode .caller shape (.ofJson w) = .ok v ∧ HasTexts shape w := by
  induction shape using Shape.induction generalizing w v with
  | optional inner ih =>
    by_cases hw : w = .null
    · subst hw
      refine (and_iff_left fun part j hreads hpart => ?_).symm
      cases hreads with
      | here => cases hpart
      | optional hw => exact absurd rfl hw
    · rw [decode_optional (ofJson_ne_null hw), decode_optional (ofJson_ne_null hw),
        hasTexts_optional_iff hw]
      exact ih
  | list item ih =>
    cases w with
    | list items =>
      simp only [Value.ofJson, decode, Checked.map_eq_ok_iff, listItems_ofJsonItems_eq_ok_iff, ih,
        hasTexts_list_iff]
      constructor
      · rintro ⟨vs, hvs, rfl⟩
        obtain ⟨htexts, hvs⟩ := (List.forall₂_and_left items vs).mp (hvs.imp fun _ _ h => h.symm)
        exact ⟨⟨vs, hvs, rfl⟩, htexts⟩
      · rintro ⟨⟨vs, hvs, rfl⟩, htexts⟩
        exact ⟨vs, ((List.forall₂_and_left items vs).mpr ⟨htexts, hvs⟩).imp fun _ _ h => h.symm, rfl⟩
    | _ =>
      constructor
      · intro h
        cases h
      · rintro ⟨h, -⟩
        cases h
  | record cls fields ih =>
    cases w with
    | dict entries =>
      simp only [Value.ofJson, decode, Checked.map_eq_ok_iff, hasTexts_record_iff,
        decodeFields_wire_iff ih]
      constructor
      · rintro ⟨members, ⟨hmembers, htexts⟩, rfl⟩
        exact ⟨⟨members, hmembers, rfl⟩, htexts⟩
      · rintro ⟨⟨members, hmembers, rfl⟩, htexts⟩
        exact ⟨members, ⟨hmembers, htexts⟩, rfl⟩
    | _ =>
      constructor
      · intro h
        cases h
      · rintro ⟨h, -⟩
        cases h
  | _ => exact decode_leaf_iff rfl

/-- A JSON value is read on the wire just where it is read of a caller and all integers and byte strings in it
are texts, and then the same is read; so it is with a shape, and with the result of a method. No number is read
where an integer is expected, however deep. -/
theorem wire_reads_texts_only :
    (∀ (shape : Shape) (w : Json) (v : Value), decode .wire shape (.ofJson w) = .ok v ↔
      decode .caller shape (.ofJson w) = .ok v ∧ HasTexts shape w) ∧
    (∀ (m : Method) (w : Json) (v : Value), m.decodeResult (.ofJson w) = .ok v ↔
      m.result.decode .caller (.ofJson w) = .ok v ∧ HasTexts m.result w) ∧
    ∀ (shape : Shape) (w j : Json) (bits : Nat), Reads (.uint bits) j shape w →
      ((∃ n, j = .int n) ∨ ∃ x, j = .float x) → ∀ v, decode .wire shape (.ofJson w) ≠ .ok v := by
  refine ⟨fun shape w v => decode_wire_iff, fun m w v => decode_wire_iff, ?_⟩
  rintro shape w j bits hreads hnumber v hv
  have hnull : j ≠ .null := by
    rintro rfl
    rcases hnumber with ⟨_, h⟩ | ⟨_, h⟩ <;> cases h
  obtain ⟨t, rfl⟩ := (decode_wire_iff.mp hv).2 _ j hreads rfl hnull
  rcases hnumber with ⟨_, h⟩ | ⟨_, h⟩ <;> cases h

/-- A number of cycles is taken from a caller and not from the wire. -/
theorem wire_reads_texts_only_cycles :
    decode .caller dryRunResult (.ofJson (.dict [("cycles", .int 5)])) =
        .ok (.record ⟨"DryRunResult", ["CkbModel"]⟩ [("cycles", .int 5)]) ∧
      ∀ v, decode .wire dryRunResult (.ofJson (.dict [("cycles", .int 5)])) ≠ .ok v := by
  have hreads : Reads (.uint 64) (.int 5) dryRunResult (.dict [("cycles", .int 5)]) :=
    .field (List.mem_singleton_self _) rfl .here
  exact ⟨rfl, wire_reads_texts_only.2.2 _ _ _ _ hreads (.inl ⟨5, rfl⟩)⟩

end ChainRpc.Shape
