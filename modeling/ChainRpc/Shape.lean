import ChainRpc.Value

/-!
# Shapes

A shape describes a type of values and its wire form at once: the primitives of the chain, the plain
JSON types, lists, optional values and records. Every parameter and result of a method has a shape.
-/

namespace ChainRpc

structure FieldName where
  /-- The name under which a record holds the field. -/
  name : Text
  /-- The name of the member on the wire. -/
  wire : Text
  deriving DecidableEq, Repr

/-- A type of values with a wire form. -/
inductive Shape
  /-- An unsigned integer of a width; a quantity on the wire. -/
  | uint (bits : Nat)
  | fixed (size : Nat)
  | bytes
  | bool
  | text
  /-- A text, read leniently. -/
  | lenientText
  /-- An integer, read leniently. -/
  | lenientInt
  | oneOf (options : List Text)
  | json
  | null
  | optional (inner : Shape)
  | list (item : Shape)
  /-- A record of a class. A field of an optional shape may be left out. -/
  | record (cls : RecordClass) (fields : List (FieldName × Shape))
  deriving Inhabited

namespace Shape

/-- The shape admits the absence of a value. -/
def isOptional : Shape → Bool
  | .optional _ => true
  | _           => false

/-- The shape carries options of its own. It stands alone or in a list, but no optional argument can
have it. -/
def isQualified : Shape → Bool
  | .lenientInt => true
  | _           => false

def field (name : Text) (shape : Shape) : FieldName × Shape :=
  (⟨name, name⟩, shape)

def fields : Shape → List (FieldName × Shape)
  | .record _ fields => fields
  | _                => []

/-- A record shape whose class extends those of another one, with further fields after its own. -/
def extending (parent : Shape) (name : Text) (further : List (FieldName × Shape)) : Shape :=
  match parent with
  | .record cls fields => .record ⟨name, cls.name :: cls.bases⟩ (fields ++ further)
  | _                  => .record ⟨name, []⟩ further

end Shape

end ChainRpc
