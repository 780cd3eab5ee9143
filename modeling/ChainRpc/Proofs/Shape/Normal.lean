import ChainRpc.Proofs.Entries
import ChainRpc.Proofs.Hex
import ChainRpc.Proofs.Shape.Structure

/-!
# Normal forms on the wire

The normal form of a JSON value by a shape has no members but those of fields, no optional field that is
null, and hexadecimal digits in lower case. All else is as it was, and a value that has no such member and
no such digit is in normal form.
-/

namespace ChainRpc.Shape

variable {shape : Shape} {fields : List (FieldName × Shape)} {f : FieldName × Shape} {w : Json}
  {entries : Entries Json} {name : Text}

/-! ### Normal forms -/

mutual

/-- The JSON value without what reading it by the shape passes over, and with hexadecimal digits in lower
case. -/
def normalize : Shape → Json → Json
  | .uint _, w | .fixed _, w | .bytes, w => match w with
    | .str t => .str (Hex.lower t)
    | w      => w
  | .optional inner, w => match w with
    | .null => .null
    | w     => normalize inner w
  | .list item, w => match w with
    | .list items => .list (items.map (normalize item))
    | w           => w
  | .record _ fields, w => match w with
    | .dict entries => .dict (Entries.filterMap (normalizeMember fields) entries)
    | w             => w
  | .bool, w | .text, w | .lenientText, w | .lenientInt, w | .oneOf _, w | .json, w | .null, w => w
termination_by structural shape => shape

/-- The value of a member, unless it has the wire name of no field or is the null of an optional one. -/
def normalizeMember : List (FieldName × Shape) → Text → Json → Option Json
  | [], _, _ => none
  | (field, shape) :: rest, name, w =>
    if field.wire = name then
      if shape.isOptional ∧ w = .null then none else some (normalize shape w)
    else normalizeMember rest name w
termination_by structural fields => fields

end

mutual

/-- The JSON value has no members but those of fields, no optional field that is null, and no hexadecimal
digit in upper case. -/
def isCanonical : Shape → Json → Bool
  | .uint _, w | .fixed _, w | .bytes, w => match w with
    | .str t => t.all fun c => decide ¬ c.Between 65 70
    | _      => true
  | .optional inner, w => match w with
    | .null => true
    | w     => isCanonical inner w
  | .list item, w => match w with
    | .list items => items.all (isCanonical item)
    | _           => true
  | .record _ fields, w => match w with
    | .dict entries => entries.all fun e => isCanonicalMember fields e.1 e.2
    | _             => true
  | .bool, _ | .text, _ | .lenientText, _ | .lenientInt, _ | .oneOf _, _ | .json, _ | .null, _ => true
termination_by structural shape => shape

/-- The member is that of a field and canonical. -/
def isCanonicalMember : List (FieldName × Shape) → Text → Json → Bool
  | [], _, _ => false
  | (field, shape) :: rest, name, w =>
    if field.wire = name then !(shape.isOptional && w == .null) && isCanonical shape w
    else isCanonicalMember rest name w
termination_by structural fields => fields

end

mutual

/-- No object in the place of a record has a member under the name of a field that is called otherwise on
the wire. -/
def usesWireNames : Shape → Json → Bool
  | .optional inner, w => usesWireNames inner w
  | .list item, w => match w with
    | .list items => items.all (usesWireNames item)
    | _           => true
  | .record _ fields, w => match w with
    | .dict entries => fieldsUseWireNames fields entries
    | _             => true
  | .uint _, _ | .fixed _, _ | .bytes, _ | .bool, _ | .text, _ | .lenientText, _ | .lenientInt, _
  | .oneOf _, _ | .json, _ | .null, _ => true
termination_by structural shape => shape

/-- The members of an object use the wire names of fields. -/
def fieldsUseWireNames : List (FieldName × Shape) → Entries Json → Bool
  | [], _ => true
  | (field, shape) :: rest, entries =>
    (field.name == field.wire || (entries.get? field.name).isNone) &&
      (entries.get? field.wire).all (usesWireNames shape) && fieldsUseWireNames rest entries
termination_by structural fields => fields

end

/-! ### Members -/

lemma normalizeMember_of_mem (hn : (fields.map (·.1.wire)).Nodup) (hf : f ∈ fields) (w : Json) :
    normalizeMember fields f.1.wire w =
      if f.2.isOptional ∧ w = .null then none else some (normalize f.2 w) := by
  induction fields with
  | nil => cases hf
  | cons g rest ih =>
    rw [List.map_cons, List.nodup_cons] at hn
    obtain ⟨field, shape⟩ := g
    rw [normalizeMember]
    rcases List.mem_cons.mp hf with rfl | hf
    · exact if_pos rfl
    · have hname : field.wire ≠ f.1.wire := fun h => hn.1 (h ▸ List.mem_map_of_mem hf)
      rw [if_neg hname, ih hn.2 hf]

lemma normalizeMember_of_not_mem (h : name ∉ fields.map (·.1.wire)) (w : Json) :
    normalizeMember fields name w = none := by
  induction fields with
  | nil => rfl
  | cons g rest ih =>
    obtain ⟨field, shape⟩ := g
    rw [List.map_cons, List.mem_cons, not_or] at h
    rw [normalizeMember, if_neg fun heq => h.1 heq.symm, ih h.2]

lemma fieldsUseWireNames_iff :
    fieldsUseWireNames fields entries ↔ ∀ f ∈ fields,
      (f.1.name = f.1.wire ∨ Entries.get? f.1.name entries = none) ∧
        ∀ j, Entries.get? f.1.wire entries = some j → usesWireNames f.2 j := by
  induction fields with
  | nil => exact iff_of_true rfl nofun
  | cons g rest ih =>
    obtain ⟨field, shape⟩ := g
    rw [List.forall_mem_cons, ← ih, fieldsUseWireNames]
    simp [Option.all_eq_true]

/-! ### Canonical values -/

lemma lower_eq_self {t : Text} (h : t.all fun c => decide ¬ c.Between 65 70) : Hex.lower t = t := by
  induction t with
  | nil => rfl
  | cons c rest ih =>
    rw [List.all_cons, Bool.and_eq_true, decide_eq_true_eq] at h
    rw [Hex.lower_cons, CodePoint.lowerHex, if_neg h.1, ih h.2]

lemma normalizeMember_eq_self (ih : ∀ f ∈ fields, ∀ w, isCanonical f.2 w → normalize f.2 w = w)
    (h : isCanonicalMember fields name w) : normalizeMember fields name w = some w := by
  induction fields with
  | nil => cases h
  | cons g rest ihrest =>
    obtain ⟨field, shape⟩ := g
    obtain ⟨ihshape, ih⟩ := List.forall_mem_cons.mp ih
    rw [isCanonicalMember] at h
    rw [normalizeMember]
    split
    · next hname =>
      rw [if_pos hname, Bool.and_eq_true] at h
      have hkept : ¬(shape.isOptional ∧ w = .null) := by
        rintro ⟨hoptional, rfl⟩
        simp [hoptional] at h
      rw [if_neg hkept, ihshape w h.2]
    · next hname =>
      rw [if_neg hname] at h
      exact ihrest ih h

/-- Canonical values are in normal form. -/
lemma normalize_eq_self (h : isCanonical shape w) : normalize shape w = w := by
  induction shape using Shape.induction generalizing w with
  | uint bits | fixed size | bytes =>
    cases w with
    | str t => exact congrArg Json.str (lower_eq_self h)
    | _ => rfl
  | optional inner ih =>
    cases w with
    | null => rfl
    | _ => exact ih h
  | list item ih =>
    cases w with
    | list items =>
      have hitems := List.all_eq_true.mp h
      rw [normalize]
      exact congrArg Json.list ((List.map_congr_left fun j hj => ih (hitems j hj)).trans (List.map_id _))
    | _ => rfl
  | record cls fields ih =>
    cases w with
    | dict entries =>
      rw [normalize]
      refine congrArg Json.dict (Entries.filterMap_eq_self fun e he => ?_)
      exact normalizeMember_eq_self (fun f hf w => ih f hf) (List.all_eq_true.mp h e he)
    | _ => rfl
  | _ => rfl

end ChainRpc.Shape
