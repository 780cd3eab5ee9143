import ChainRpc.Method.Registry
import ChainRpc.Proofs.Hex
import ChainRpc.Proofs.Shape.Fields
import ChainRpc.Proofs.Shape.Structure
import ChainRpc.Proofs.Value.Fits

/-!
# Arguments that can be sent

Checking an argument against the shape of its parameter and writing it never makes it deeper, and the
texts that are added are whole. So arguments that fit have wire forms that fit.
-/

namespace ChainRpc

namespace Shape

/-! ### Names in shapes -/

mutual

/-- The names of all members that the shape writes are whole. -/
def hasWholeNames : Shape → Bool
  | .optional inner  => inner.hasWholeNames
  | .list item       => item.hasWholeNames
  | .record _ fields => haveWholeNames fields
  | _                => true
termination_by structural shape => shape

/-- The names of all members that the fields write are whole. -/
def haveWholeNames : List (FieldName × Shape) → Bool
  | [] => true
  | (name, shape) :: rest =>
    decide name.wire.IsWhole && shape.hasWholeNames && haveWholeNames rest
termination_by structural fields => fields

end

lemma haveWholeNames_iff {fields : List (FieldName × Shape)} :
    haveWholeNames fields ↔ ∀ f ∈ fields, f.1.wire.IsWhole ∧ f.2.hasWholeNames := by
  induction fields with
  | nil => exact iff_of_true rfl nofun
  | cons f rest ih => simp [haveWholeNames, ih, and_assoc]

variable {shape : Shape} {room : Nat} {x v : Value}

/-! ### Checking -/

lemma isWhole_of_text {t : Text} (h : x.Fits room) (ht : Lenient.text x = .ok t) : t.IsWhole := by
  unfold Lenient.text at ht
  split at ht
  · cases ht
    cases h with
    | str hwhole => exact hwhole
  all_goals
    try split at ht
    all_goals cases ht
  all_goals exact Utf8.isWhole_of_decode ‹_›

/-- The typed value of a value that fits does so, too. -/
lemma fits_of_decode (h : x.Fits room) (hd : decode .caller shape x = .ok v) : v.Fits room := by
  induction shape using Shape.induction generalizing room x v with
  | uint bits =>
    obtain ⟨n, _, rfl⟩ := Checked.map_eq_ok_iff.mp hd
    exact .int _
  | fixed size | bytes =>
    obtain ⟨b, _, rfl⟩ := Checked.map_eq_ok_iff.mp hd
    exact .bytes b
  | bool | text | null =>
    cases x <;> cases hd
    exact h
  | lenientText =>
    obtain ⟨t, ht, rfl⟩ := Checked.map_eq_ok_iff.mp hd
    exact .str (isWhole_of_text h (Checked.mapError_eq_ok_iff.mp ht))
  | lenientInt =>
    obtain ⟨n, _, rfl⟩ := Checked.map_eq_ok_iff.mp hd
    exact .int n
  | oneOf options =>
    obtain ⟨t, ht, rfl⟩ := Checked.map_eq_ok_iff.mp hd
    obtain ⟨rfl, _⟩ := option_eq_ok ht
    exact h
  | json =>
    obtain ⟨j, hj, rfl⟩ := Checked.map_eq_ok_iff.mp hd
    exact Value.fits_ofJson (h.of_toJson hj)
  | optional inner ih =>
    cases x with
    | null =>
      cases hd
      exact .null
    | _ => exact ih h hd
  | list item ih =>
    cases h with
    | list h | tuple h =>
      obtain ⟨vs, hvs, rfl⟩ := Checked.map_eq_ok_iff.mp hd
      exact .list (forall_of_listItems (fun x v => ih) h hvs)
    | _ => cases hd
  | record cls fields ih =>
    cases h with
    | record h =>
      rw [decode] at hd
      split at hd <;> cases hd
      exact .record h
    | dict _ h =>
      obtain ⟨members, hmembers, rfl⟩ := Checked.map_eq_ok_iff.mp hd
      exact .record (forall_of_decodeFields .null (fun f hf x v => ih f hf) h hmembers)
    | _ => cases hd

/-! ### Writing -/

lemma isWhole_encodeInt (n : Int) : (Quantity.encodeInt n).IsWhole := by
  cases n with
  | ofNat n => exact (Quantity.isScalar_encode n).isWhole
  | negSucc n => exact .cons (by decide) (Quantity.isScalar_encode (n + 1)).isWhole

/-- The wire form of a typed value that fits does so, too. -/
lemma fits_encode (hs : shape.hasWholeNames) (h : v.Fits room) : (encode shape v).Fits room := by
  induction shape using Shape.induction generalizing room v with
  | uint bits =>
    cases v with
    | int n => exact .str (isWhole_encodeInt n)
    | _ => exact fits_plain h
  | fixed size | bytes =>
    cases v with
    | bytes b => exact .str (ByteString.isScalar_encode b).isWhole
    | _ => exact fits_plain h
  | optional inner ih =>
    cases v with
    | null => exact .null
    | _ => exact ih hs h
  | list item ih =>
    cases v with
    | list items =>
      cases h with
      | list h => exact .list (List.forall_mem_map.mpr fun v hv => ih hs (h v hv))
    | _ => exact fits_plain h
  | record cls fields ih =>
    rw [hasWholeNames, haveWholeNames_iff] at hs
    cases v with
    | record c members =>
      cases h with
      | @record room _ _ h =>
        have hmember {e : Text × Json} (he : e ∈ encodeFields fields members) :
            e.1.IsWhole ∧ e.2.Fits room := by
          obtain ⟨f, hf, w, hw, _, rfl⟩ := exists_of_mem_encodeFields he
          exact ⟨(hs f hf).1, ih f hf (hs f hf).2 (h _ (Entries.mem_of_get? hw))⟩
        exact .dict (fun e he => (hmember he).1) (fun e he => (hmember he).2)
    | _ => exact fits_plain h
  | _ => exact fits_plain h

end Shape

/-! ### Parameters -/

namespace Method

variable {room : Nat} {m : Method}

/-- The name of the method and those in the shapes of its parameters are whole. -/
def hasWholeNames (m : Method) : Bool :=
  decide m.name.IsWhole && m.params.all (·.shape.hasWholeNames)

lemma isWhole_name (h : m.hasWholeNames) : m.name.IsWhole := by
  simp only [hasWholeNames, Bool.and_eq_true, decide_eq_true_eq] at h
  exact h.1

lemma hasWholeNames_shape (h : m.hasWholeNames) : ∀ p ∈ m.params, p.shape.hasWholeNames := by
  simp only [hasWholeNames, Bool.and_eq_true, List.all_eq_true] at h
  exact h.2

lemma encodeArgument_eq_ok {p : Param} {v : Value} {j : Json} (h : m.encodeArgument p v = .ok j) :
    ∃ typed, p.argument.decode .caller v = .ok typed ∧ p.argument.encode typed = j := by
  unfold encodeArgument at h
  split at h
  · cases h
  · split at h
    · cases h
    · next typed htyped => exact ⟨typed, htyped, Except.ok.inj h⟩

lemma forall_of_encodeAll {P : Json → Prop} {ps : List Param} {args : List Value}
    {js : List (Param × Json)} (hnull : P .null)
    (harg : ∀ p ∈ ps, ∀ v ∈ args, ∀ j, m.encodeArgument p v = .ok j → P j)
    (h : m.encodeAll ps args = .ok js) : ∀ e ∈ js, P e.2 := by
  induction ps generalizing args js with
  | nil =>
    cases h
    exact nofun
  | cons p ps ih =>
    obtain ⟨hp, hps⟩ := List.forall_mem_cons.mp harg
    cases args with
    | nil =>
      obtain ⟨j, hj, hjs⟩ := Checked.bind_eq_ok_iff.mp h
      obtain ⟨rest, hrest, heq⟩ := Checked.bind_eq_ok_iff.mp hjs
      cases heq
      refine List.forall_mem_cons.mpr ⟨?_, ih ?_ hrest⟩
      · unfold encodeAbsent at hj
        split at hj <;> cases hj
        exact hnull
      · exact fun _ _ v hv => nomatch hv
    | cons v args =>
      obtain ⟨j, hj, hjs⟩ := Checked.bind_eq_ok_iff.mp h
      obtain ⟨rest, hrest, heq⟩ := Checked.bind_eq_ok_iff.mp hjs
      cases heq
      refine List.forall_mem_cons.mpr ⟨hp v List.mem_cons_self j hj, ih ?_ hrest⟩
      exact fun q hq w hw => hps q hq w (List.mem_cons_of_mem v hw)

lemma mem_of_mem_trimmed {js : List (Param × Json)} {j : Json} (h : j ∈ trimmed js) :
    ∃ e ∈ js, e.2 = j := by
  induction js with
  | nil => cases h
  | cons e rest ih =>
    have hrest (hj : j ∈ trimmed rest) : ∃ f ∈ e :: rest, f.2 = j := by
      obtain ⟨f, hf, hfj⟩ := ih hj
      exact ⟨f, List.mem_cons_of_mem e hf, hfj⟩
    rw [trimmed] at h
    split at h
    · split at h
      · cases h
      · exact ⟨e, List.mem_cons_self, (List.mem_singleton.mp h).symm⟩
    · rcases List.mem_cons.mp h with rfl | hj
      · exact ⟨e, List.mem_cons_self, rfl⟩
      · exact hrest hj

/-- What is sent for arguments is the wire form of one of them, or null. -/
lemma forall_of_encodeParams {P : Json → Prop} {args : List Value} {js : List Json} (hnull : P .null)
    (harg : ∀ p ∈ m.params, ∀ v ∈ args, ∀ j, m.encodeArgument p v = .ok j → P j)
    (h : m.encodeParams args = .ok js) : ∀ j ∈ js, P j := by
  unfold encodeParams at h
  split at h
  · cases h
  · obtain ⟨all, hall, rfl⟩ := Checked.map_eq_ok_iff.mp h
    intro j hj
    obtain ⟨e, he, rfl⟩ := mem_of_mem_trimmed hj
    exact forall_of_encodeAll hnull harg hall e he

/-- The wire form of arguments that fit does so, too. -/
lemma fits_of_encodeParams {args : List Value} {js : List Json} (hm : m.hasWholeNames)
    (hargs : ∀ v ∈ args, v.Fits room) (hjs : m.encodeParams args = .ok js) :
    ∀ j ∈ js, j.Fits room := by
  refine forall_of_encodeParams .null (fun p hp v hv j hj => ?_) hjs
  have hargument : p.argument.hasWholeNames := by
    unfold Param.argument
    split <;> exact hasWholeNames_shape hm p hp
  obtain ⟨typed, htyped, rfl⟩ := encodeArgument_eq_ok hj
  exact Shape.fits_encode hargument (Shape.fits_of_decode (hargs v hv) htyped)

end Method

/-! ### Registries -/

namespace Registry

/-- A method that is found by its name is in the registry. -/
lemma mem_of_get {registry : Registry} {key : Value} {m : Method} (h : registry.get key = .ok m) :
    m ∈ registry.methods := by
  obtain ⟨found, hfound, hm⟩ := Checked.bind_eq_ok_iff.mp h
  cases found with
  | none => cases hm
  | some found =>
    cases hm
    unfold findBy at hfound
    split at hfound
    · exact List.mem_of_find?_eq_some (Except.ok.inj hfound)
    · split at hfound <;> cases hfound

lemma hasWholeNames_ckb : ∀ m ∈ ckb.methods, m.hasWholeNames := by decide +kernel

end Registry

end ChainRpc
