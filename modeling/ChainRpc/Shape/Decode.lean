import ChainRpc.ByteString
import ChainRpc.Lenient
import ChainRpc.Quantity
import ChainRpc.Shape
import ChainRpc.Value.Plain

/-!
# Decoding by a shape

Checks a value against a shape and answers the typed value, or all issues in the order of the shape.
A caller may give integers and bytes where the wire has hexadecimal text; in wire mode only the text
counts. A record that is already there is taken as it is.
-/

namespace ChainRpc

/-- Where a value comes from. -/
inductive Mode
  | caller
  | wire
  deriving DecidableEq, Repr

namespace Shape

/-- The result of a decoder of primitives as a checked value. -/
def ofRefusal {α : Type} (decoded : Except Refusal α) : Checked α :=
  decoded.mapError fun refusal => Issue.here (.refused refusal)

/-- Decodes a primitive, which on the wire has to be a text. -/
def primitive {α : Type} (mode : Mode) (kind : PrimitiveKind) (decode : Value → Except Refusal α)
    (value : Value) : Checked α :=
  match mode, value with
  | .caller, value => ofRefusal (decode value)
  | .wire, .str t  => ofRefusal (decode (.str t))
  | .wire, value   => ofRefusal (Malformed.notTextOnWire kind value).refuse

/-- Decodes one of some texts. -/
def option (options : List Text) : Value → Checked Text
  | .str t =>
    if ¬ t.IsScalar then .error (Issue.here .notUnicode)
    else if t ∈ options then .ok t
    else .error (Issue.here (.notOption options))
  | _ => .error (Issue.here (.notOption options))

def listItems (decode : Value → Checked Value) : (position : Nat) → List Value →
    Checked (List Value)
  | _, [] => .ok []
  | position, item :: rest =>
    (Checked.both ((decode item).under (.index position))
      (listItems decode (position + 1) rest)).map fun (v, vs) => v :: vs

/-- The entry that gives a field its value, with the key it is under: the wire name goes first. -/
def entryOf (name : FieldName) (entries : Entries Value) : Option (Text × Value) :=
  match entries.get? name.wire with
  | some value => some (name.wire, value)
  | none       => (entries.get? name.name).map (name.name, ·)

mutual

def decode (mode : Mode) : Shape → Value → Checked Value
  | .uint bits, v  => (primitive mode (.uint bits) (Quantity.decode bits) v).map (.int ·)
  | .fixed size, v => (primitive mode (.fixed size) (ByteString.decodeFixed size) v).map .bytes
  | .bytes, v      => (primitive mode .bytes ByteString.decode v).map .bytes
  | .bool, v       => match v with
    | .bool b => .ok (.bool b)
    | _       => .error (Issue.here .notBool)
  | .text, v       => match v with
    | .str t => .ok (.str t)
    | _      => .error (Issue.here .notText)
  | .lenientText, v   => ((Lenient.text v).mapError Issue.here).map .str
  | .lenientInt, v    => ((Lenient.int v).mapError Issue.here).map .int
  | .oneOf options, v => (option options v).map .str
  | .json, v          => v.toJson.map Value.ofJson
  | .null, v          => match v with
    | .null => .ok .null
    | _     => .error (Issue.here .notNull)
  | .optional inner, v => match v with
    | .null => .ok .null
    | v     => decode mode inner v
  | .list item, v      => match v with
    | .list items | .tuple items => (listItems (decode mode item) 0 items).map .list
    | _ => .error (Issue.here .notList)
  | .record cls fields, v => match v with
    | .record c values =>
      if c.extends cls.name then .ok (.record c values)
      else .error (Issue.here (.notRecord cls.name))
    | .dict entries => (decodeFields mode fields entries).map (.record cls ·)
    | _ => .error (Issue.here (.notRecord cls.name))
termination_by structural shape => shape

def decodeFields (mode : Mode) :
    List (FieldName × Shape) → Entries Value → Checked (Entries Value)
  | [], _ => .ok []
  | (name, shape) :: rest, entries =>
    let found : Checked Value := match entryOf name entries with
      | some (key, value) => (decode mode shape value).under (.name key)
      | none =>
        if shape.isOptional then .ok .null
        else .error [⟨[.name name.wire], .missing⟩]
    (Checked.both found (decodeFields mode rest entries)).map fun (v, vs) => (name.name, v) :: vs
termination_by structural fields => fields

end

/-! ### Contexts -/

mutual

/-- Decoding a value asks for the mode: a primitive is in it. -/
def asksMode : Shape → Value → Bool
  | .uint _, _ | .fixed _, _ | .bytes, _ => true
  | .optional inner, v => match v with
    | .null => false
    | v     => asksMode inner v
  | .list item, v => match v with
    | .list items | .tuple items => items.any (asksMode item)
    | _ => false
  | .record _ fields, v => match v with
    | .dict entries => fieldsAskMode fields entries
    | _ => false
  | .bool, _ | .text, _ | .lenientText, _ | .lenientInt, _ | .oneOf _, _ | .json, _
  | .null, _ => false
termination_by structural shape => shape

/-- Decoding the entries of a dictionary as fields asks for the mode. -/
def fieldsAskMode : List (FieldName × Shape) → Entries Value → Bool
  | [], _ => false
  | (name, shape) :: rest, entries =>
    (match entryOf name entries with
      | some (_, value) => asksMode shape value
      | none            => false) || fieldsAskMode rest entries
termination_by structural fields => fields

end

/-- Why a value has no typed value in a context. -/
inductive Misfit
  | issues (all : List Issue)
  /-- The mode was to be read from a context of this type, which has no entries. -/
  | noMode (typeName : Text)

/-- The mode that a context asks for; nothing asks for that of a caller. -/
def modeOf? : (context : Value) → Option Mode
  | .dict entries => some (if (Entries.get? "wire" entries).any Value.isTruthy then .wire else .caller)
  | context       => if context.isTruthy then none else some .caller

def decodeIn (context : Value) (shape : Shape) (v : Value) : Except Misfit Value :=
  match modeOf? context with
  | some mode => (shape.decode mode v).mapError .issues
  | none =>
    if shape.asksMode v then .error (.noMode context.typeName)
    else (shape.decode .caller v).mapError .issues

end Shape

end ChainRpc
