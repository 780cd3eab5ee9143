import ChainRpc.Shape.Catalogue
import Mathlib.Tactic.Common

/-!
# The structure of shapes

Shapes are compared part by part. What holds of a record shape is shown from what holds of the shapes of
its fields, and what has to hold of all shapes within a shape is asked of the list of its parts.
-/

namespace ChainRpc.Shape

/-! ### Equality -/

mutual

/-- Whether two shapes are of one kind and agree in all their parts. -/
def same : Shape → Shape → Bool
  | .uint a,       .uint b       => a == b
  | .fixed a,      .fixed b      => a == b
  | .bytes,        .bytes        => true
  | .bool,         .bool         => true
  | .text,         .text         => true
  | .lenientText,  .lenientText  => true
  | .lenientInt,   .lenientInt   => true
  | .oneOf a,      .oneOf b      => a == b
  | .json,         .json         => true
  | .null,         .null         => true
  | .optional a,   .optional b   => same a b
  | .list a,       .list b       => same a b
  | .record c a,   .record d b   => c == d && sameFields a b
  | _,             _             => false
termination_by structural a => a

/-- Whether two lists have the same fields with the same shapes. -/
def sameFields : List (FieldName × Shape) → List (FieldName × Shape) → Bool
  | [],          []          => true
  | (n, a) :: r, (m, b) :: s => n == m && same a b && sameFields r s
  | _,           _           => false
termination_by structural a => a

end

mutual

/-- The comparison decides equality. -/
theorem same_iff : (a b : Shape) → (same a b = true ↔ a = b)
  | .uint a, b => by cases b <;> simp [same]
  | .fixed a, b => by cases b <;> simp [same]
  | .bytes, b => by cases b <;> simp [same]
  | .bool, b => by cases b <;> simp [same]
  | .text, b => by cases b <;> simp [same]
  | .lenientText, b => by cases b <;> simp [same]
  | .lenientInt, b => by cases b <;> simp [same]
  | .oneOf a, b => by cases b <;> simp [same]
  | .json, b => by cases b <;> simp [same]
  | .null, b => by cases b <;> simp [same]
  | .optional a, b => by cases b <;> simp [same, same_iff a]
  | .list a, b => by cases b <;> simp [same, same_iff a]
  | .record c a, b => by cases b <;> simp [same, sameFields_iff a]
termination_by structural a => a

theorem sameFields_iff : (a b : List (FieldName × Shape)) → (sameFields a b = true ↔ a = b)
  | [], b => by cases b <;> simp [sameFields]
  | (n, a) :: r, b => by
    cases b with
    | nil => simp [sameFields]
    | cons f s =>
      obtain ⟨m, b⟩ := f
      simp [sameFields, same_iff a, sameFields_iff r]
termination_by structural a => a

end

instance : DecidableEq Shape := fun a b => decidable_of_iff _ (same_iff a b)

/-! ### Induction -/

/-- What holds of a record shape if it holds of the shapes of all its fields, and likewise of the other
shapes, holds of every shape. -/
@[elab_as_elim]
theorem induction {P : Shape → Prop} (uint : ∀ bits, P (.uint bits)) (fixed : ∀ size, P (.fixed size))
    (bytes : P .bytes) (bool : P .bool) (text : P .text) (lenientText : P .lenientText)
    (lenientInt : P .lenientInt) (oneOf : ∀ options, P (.oneOf options)) (json : P .json)
    (null : P .null) (optional : ∀ inner, P inner → P (.optional inner))
    (list : ∀ item, P item → P (.list item))
    (record : ∀ cls fields, (∀ f ∈ fields, P f.2) → P (.record cls fields)) (shape : Shape) :
    P shape :=
  let rec go : (shape : Shape) → P shape
    | .uint bits     => uint bits
    | .fixed size    => fixed size
    | .bytes         => bytes
    | .bool          => bool
    | .text          => text
    | .lenientText   => lenientText
    | .lenientInt    => lenientInt
    | .oneOf options => oneOf options
    | .json          => json
    | .null          => null
    | .optional inner    => optional inner (go inner)
    | .list item         => list item (go item)
    | .record cls fields => record cls fields fun f _ => go f.2
  termination_by shape => sizeOf shape
  decreasing_by
    · decreasing_tactic
    · decreasing_tactic
    · next hf =>
      have hlt := List.sizeOf_lt_of_mem hf
      obtain ⟨name, inner⟩ := f
      simp only [Prod.mk.sizeOf_spec, Shape.record.sizeOf_spec] at hlt ⊢
      omega
  go shape

/-! ### Parts -/

mutual

/-- The shapes within a shape, from the outside to the inside, itself included. -/
def parts : Shape → List Shape
  | .optional inner    => .optional inner :: parts inner
  | .list item         => .list item :: parts item
  | .record cls fields => .record cls fields :: partsOfFields fields
  | shape              => [shape]
termination_by structural shape => shape

/-- The shapes within the shapes of fields. -/
def partsOfFields : List (FieldName × Shape) → List Shape
  | []                 => []
  | (_, shape) :: rest => parts shape ++ partsOfFields rest
termination_by structural fields => fields

end

variable {P : Shape → Prop} {inner item shape : Shape} {cls : RecordClass}
  {fields : List (FieldName × Shape)}

lemma mem_parts_self (shape : Shape) : shape ∈ shape.parts := by
  cases shape <;> exact List.mem_cons_self

lemma forall_parts_optional :
    (∀ part ∈ (Shape.optional inner).parts, P part) ↔
      P (.optional inner) ∧ ∀ part ∈ inner.parts, P part :=
  List.forall_mem_cons

lemma forall_parts_list :
    (∀ part ∈ (Shape.list item).parts, P part) ↔ P (.list item) ∧ ∀ part ∈ item.parts, P part :=
  List.forall_mem_cons

lemma forall_partsOfFields :
    (∀ part ∈ partsOfFields fields, P part) ↔ ∀ f ∈ fields, ∀ part ∈ f.2.parts, P part := by
  induction fields with
  | nil => exact iff_of_true nofun nofun
  | cons f rest ih => rw [partsOfFields, List.forall_mem_append, List.forall_mem_cons, ih]

lemma forall_parts_record :
    (∀ part ∈ (Shape.record cls fields).parts, P part) ↔
      P (.record cls fields) ∧ ∀ f ∈ fields, ∀ part ∈ f.2.parts, P part := by
  rw [← forall_partsOfFields]
  exact List.forall_mem_cons

end ChainRpc.Shape
