import ChainRpc.ByteString
import ChainRpc.Quantity
import ChainRpc.Shape

/-!
# Encoding by a shape

The wire form of a typed value: integers and byte strings as hexadecimal text, fields under their wire
names, and fields without a value left out. A record of a class that extends the shape's is written as
the shape says, without what its own class adds. Names of entries are made legible, and of those that
become the same the last one counts.
-/

namespace ChainRpc.Shape

mutual

/-- The JSON value that a value of plain types is; others have none and are written as null. -/
def plain : Value → Json
  | .bool b       => .bool b
  | .int n        => .int n
  | .float x      => .float x
  | .str t        => .str t
  | .list items   => .list (plainItems items)
  | .dict entries => .dict (Entries.putAll [] (plainEntries entries))
  | _             => .null
termination_by structural v => v

def plainItems : List Value → List Json
  | []           => []
  | item :: rest => plain item :: plainItems rest
termination_by structural items => items

def plainEntries : List (Text × Value) → List (Text × Json)
  | []                => []
  | (key, value) :: rest => (key.legible, plain value) :: plainEntries rest
termination_by structural entries => entries

end

/-- The wire form of an integer. -/
def encodeUint : Value → Json
  | .int n => .str (Quantity.encodeInt n)
  | v      => plain v

def encodeBytes : Value → Json
  | .bytes b => .str (ByteString.encode b)
  | v        => plain v

mutual

def encode : Shape → Value → Json
  | .uint _, v  => encodeUint v
  | .fixed _, v => encodeBytes v
  | .bytes, v   => encodeBytes v
  | .optional inner, v => match v with
    | .null => .null
    | v     => encode inner v
  | .list item, v      => match v with
    | .list items => .list (items.map (encode item))
    | v           => plain v
  | .record _ fields, v => match v with
    | .record _ values => .dict (encodeFields fields values)
    | v                => plain v
  | .bool, v | .text, v | .lenientText, v | .lenientInt, v | .oneOf _, v | .json, v
  | .null, v => plain v
termination_by structural shape => shape

/-- The members of an object for the fields that have a value. -/
def encodeFields : List (FieldName × Shape) → Entries Value → Entries Json
  | [], _ => []
  | (name, shape) :: rest, values =>
    match (values.get? name.name).getD .null with
    | .null => encodeFields rest values
    | value => (name.wire, encode shape value) :: encodeFields rest values
termination_by structural fields => fields

end

end ChainRpc.Shape
