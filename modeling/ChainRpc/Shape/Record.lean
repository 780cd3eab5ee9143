import ChainRpc.Shape.Catalogue
import ChainRpc.Shape.Decode
import ChainRpc.Shape.Encode

/-!
# Records

A record is written by the shape of its own class. Its fields cannot be changed one by one. Names that
start with a low line are not fields: what is put under them stays out of sight, except that two of them
stand for the class and for all fields of the record. Some classes derive further properties from their
fields.
-/

namespace ChainRpc.Record

/-- The value of a field; null for what has no such field. -/
def field (v : Value) (name : Text) : Value :=
  match v with
  | .record _ fields => (Entries.get? name fields).getD .null
  | _                => .null

/-- The wire form of a record by the shape of its own class. -/
def encode (v : Value) : Json :=
  match v with
  | .record cls _ => ((Shape.record? cls.name).getD .json).encode v
  | v             => Shape.plain v

inductive AssignFault
  | frozen (name : Text)
  /-- A value of this type is no class. -/
  | notClass (typeName : Text)
  | notFields (typeName : Text)
  /-- The fields given for a record of this class lack one. -/
  | missing (className name : Text)
  deriving DecidableEq, Repr

def AssignFault.message : AssignFault → Text
  | .frozen _ => Cause.frozen.message
  | .notClass typeName =>
    Text.concat ["__class__ must be set to a class, not ", typeName.inApostrophes, " object"]
  | .notFields typeName =>
    Text.concat ["__dict__ must be set to a dictionary, not a ", typeName.inApostrophes]
  | .missing className name =>
    Text.concat [className.inApostrophes, " object has no attribute ", name.inApostrophes]

/-- The values of the fields of a class, in their order, among given ones. -/
def pick (className : Text) (given : Entries Value) : List Text → Except AssignFault (Entries Value)
  | [] => .ok []
  | name :: rest =>
    match given.get? name with
    | some value => do return (name, value) :: (← pick className given rest)
    | none       => .error (.missing className name)

def withFields : Value → Value → Except AssignFault Value
  | .record cls fields, .dict given =>
    (pick cls.name given (Entries.names fields)).map (.record cls ·)
  | _, new => .error (.notFields new.typeName)

def assign (record : Value) (name : Text) (new : Value) : Except AssignFault Value :=
  if name.head? ≠ some CodePoint.underscore then .error (.frozen name)
  else if name = "__class__" then .error (.notClass new.typeName)
  else if name = "__dict__" then withFields record new
  else .ok record

def isLive (cell : Value) : Bool :=
  field cell "status" == .str "live"

/-- The properties that the class of a record derives from its fields: whether a cell is live, and the
hash and the number of a block, which its header has. -/
def properties : Value → Entries Value
  | .record cls fields =>
    let header := field (.record cls fields) "header"
    if cls.name = "CellWithStatus" then [("is_live", .bool (isLive (.record cls fields)))]
    else if cls.name = "BlockView" then
      [("hash", field header "hash"), ("number", field header "number")]
    else []
  | _ => []

end ChainRpc.Record
