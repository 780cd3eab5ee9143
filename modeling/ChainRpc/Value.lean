import ChainRpc.Json

/-!
# Values

What a caller passes to a method and what a result decodes to. Beside the JSON values these are byte
strings, tuples and records. A record carries the names of its class and of the classes it extends,
and a value under every field name.
-/

namespace ChainRpc

structure RecordClass where
  name : Text
  bases : List Text
  deriving DecidableEq, Repr, Inhabited

/-- A record of this class can stand where one of the named class is asked for. -/
def RecordClass.extends (cls : RecordClass) (name : Text) : Bool :=
  cls.name == name || cls.bases.contains name

/-- A value of a caller. -/
inductive Value
  | null
  | bool (b : Bool)
  | int (n : Int)
  | float (x : Binary64)
  | str (t : Text)
  | bytes (b : Bytes)
  /-- A byte string that its owner may change. -/
  | buffer (b : Bytes)
  | list (items : List Value)
  | tuple (items : List Value)
  | dict (entries : List (Text × Value))
  | record (cls : RecordClass) (fields : List (Text × Value))
  deriving Inhabited

namespace Value

/-- The name by which messages call the type of a value. -/
def typeName : Value → Text
  | .null       => "NoneType"
  | .bool _     => "bool"
  | .int _      => "int"
  | .float _    => "float"
  | .str _      => "str"
  | .bytes _    => "bytes"
  | .buffer _   => "bytearray"
  | .list _     => "list"
  | .tuple _    => "tuple"
  | .dict _     => "dict"
  | .record c _ => c.name

/-- The value counts as true: it is not null, false, a zero or empty. -/
def isTruthy : Value → Bool
  | .null       => false
  | .bool b     => b
  | .int n      => n ≠ 0
  | .float x    => !x.isZero
  | .str t      => !t.isEmpty
  | .bytes b | .buffer b        => !b.isEmpty
  | .list items | .tuple items  => !items.isEmpty
  | .dict entries => !entries.isEmpty
  | .record _ _ => true

/-- The value is a number that equals an integer; a truth value counts as zero or one. -/
def equals (v : Value) (n : Int) : Bool :=
  match v with
  | .bool b  => (b.toNat : Int) == n
  | .int m   => m == n
  | .float x => x.toInt? == some n
  | _        => false

/-- The items that a value iterates over, if it does: code points, bytes, items, names, or fields each
with its name. -/
def items? : Value → Option (List Value)
  | .str t => some (t.map fun c => .str [c])
  | .bytes b | .buffer b       => some (b.map fun byte => .int byte.toNat)
  | .list items | .tuple items => some items
  | .dict entries     => some (entries.map fun e => .str e.1)
  | .record _ fields  => some (fields.map fun f => .tuple [.str f.1, f.2])
  | _ => none

mutual

/-- The type of the first value in a key by which nothing can be looked up. -/
def unhashable? : Value → Option Text
  | .list _   => some "list"
  | .dict _   => some "dict"
  | .buffer _ => some "bytearray"
  | .tuple items     => unhashableItem? items
  | .record _ fields => unhashableField? fields
  | _ => none
termination_by structural v => v

/-- The type of the first such value in the items of a key. -/
def unhashableItem? : List Value → Option Text
  | []           => none
  | item :: rest => (unhashable? item).orElse fun _ => unhashableItem? rest
termination_by structural items => items

def unhashableField? : List (Text × Value) → Option Text
  | []                 => none
  | (_, value) :: rest => (unhashable? value).orElse fun _ => unhashableField? rest
termination_by structural fields => fields

end

/-! ### JSON values among them -/

mutual

def ofJson : Json → Value
  | .null         => .null
  | .bool b       => .bool b
  | .int n        => .int n
  | .float x      => .float x
  | .str t        => .str t
  | .list items   => .list (ofJsonItems items)
  | .dict entries => .dict (ofJsonEntries entries)
termination_by structural j => j

def ofJsonItems : List Json → List Value
  | []           => []
  | item :: rest => ofJson item :: ofJsonItems rest
termination_by structural items => items

def ofJsonEntries : List (Text × Json) → List (Text × Value)
  | []                 => []
  | (name, value) :: rest => (name, ofJson value) :: ofJsonEntries rest
termination_by structural entries => entries

end

@[simp] theorem ofJsonItems_eq_map (items : List Json) : ofJsonItems items = items.map ofJson := by
  induction items with
  | nil => simp [ofJsonItems]
  | cons item rest ih => simp [ofJsonItems, ih]

@[simp] theorem ofJsonEntries_eq_map (entries : List (Text × Json)) :
    ofJsonEntries entries = entries.map fun e => (e.1, ofJson e.2) := by
  induction entries with
  | nil => simp [ofJsonEntries]
  | cons e rest ih => simp [ofJsonEntries, ih]

/-! ### Equality -/

mutual

/-- Whether two values are of one kind and agree in all they hold. -/
def same : Value → Value → Bool
  | .null,         .null         => true
  | .bool a,       .bool b       => a == b
  | .int a,        .int b        => a == b
  | .float a,      .float b      => a == b
  | .str a,        .str b        => a == b
  | .bytes a,      .bytes b      => a == b
  | .buffer a,     .buffer b     => a == b
  | .list a,       .list b       => sameItems a b
  | .tuple a,      .tuple b      => sameItems a b
  | .dict a,       .dict b       => sameEntries a b
  | .record c a,   .record d b   => c == d && sameEntries a b
  | _,             _             => false
termination_by structural a => a

def sameItems : List Value → List Value → Bool
  | [],     []     => true
  | a :: r, b :: s => same a b && sameItems r s
  | _,      _      => false
termination_by structural a => a

def sameEntries : List (Text × Value) → List (Text × Value) → Bool
  | [],          []          => true
  | (k, a) :: r, (l, b) :: s => k == l && same a b && sameEntries r s
  | _,           _           => false
termination_by structural a => a

end

mutual

theorem same_iff : (a b : Value) → (same a b = true ↔ a = b)
  | .null, b => by cases b <;> simp [same]
  | .bool a, b => by cases b <;> simp [same]
  | .int a, b => by cases b <;> simp [same]
  | .float a, b => by cases b <;> simp [same]
  | .str a, b => by cases b <;> simp [same]
  | .bytes a, b => by cases b <;> simp [same]
  | .buffer a, b => by cases b <;> simp [same]
  | .list a, b => by cases b <;> simp [same, sameItems_iff a]
  | .tuple a, b => by cases b <;> simp [same, sameItems_iff a]
  | .dict a, b => by cases b <;> simp [same, sameEntries_iff a]
  | .record c a, b => by cases b <;> simp [same, sameEntries_iff a]
termination_by structural a => a

theorem sameItems_iff : (a b : List Value) → (sameItems a b = true ↔ a = b)
  | [], b => by cases b <;> simp [sameItems]
  | a :: r, b => by cases b <;> simp [sameItems, same_iff a, sameItems_iff r]
termination_by structural a => a

theorem sameEntries_iff : (a b : List (Text × Value)) → (sameEntries a b = true ↔ a = b)
  | [], b => by cases b <;> simp [sameEntries]
  | (k, a) :: r, b => by
    cases b with
    | nil => simp [sameEntries]
    | cons e s =>
      obtain ⟨l, b⟩ := e
      simp [sameEntries, same_iff a, sameEntries_iff r]
termination_by structural a => a

end

instance : DecidableEq Value := fun a b => decidable_of_iff _ (same_iff a b)

end Value

end ChainRpc
