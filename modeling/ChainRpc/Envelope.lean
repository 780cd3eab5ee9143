import ChainRpc.Lenient
import ChainRpc.Shape.Decode
import ChainRpc.Value.Plain

/-!
# Parts of envelopes

Requests and responses are objects with a version, an identifier and further members. The members are
checked one by one, and the issues of all of them are reported together.
-/

namespace ChainRpc

/-! ### Members -/

namespace Member

variable {α : Type}

/-- Checks a member that has to be there. -/
def required (entries : Entries Value) (name : Text) (check : Value → Checked α) : Checked α :=
  match entries.get? name with
  | some v => (check v).under (.name name)
  | none   => .error [⟨[.name name], .missing⟩]

/-- Checks a member that may be left out. -/
def withDefault (entries : Entries Value) (name : Text) (default : α) (check : Value → Checked α) :
    Checked α :=
  match entries.get? name with
  | some v => (check v).under (.name name)
  | none   => .ok default

/-- Checks a value that may be null. -/
def nullable (check : Value → Checked α) : Value → Checked (Option α)
  | .null => .ok none
  | v     => (check v).map some

def version : Text := "2.0"

def checkVersion (entries : Entries Value) : Checked Text :=
  withDefault entries "jsonrpc" version (Shape.option [version])

/-- Checks a text, leniently. -/
def checkText (v : Value) : Checked Text :=
  (Lenient.text v).mapError Issue.here

end Member

/-! ### Identifiers -/

/-- What ties a response to its request. -/
inductive RequestId
  | int (n : Int)
  | str (t : Text)
  deriving DecidableEq, Repr

namespace RequestId

def toJson : RequestId → Json
  | .int n => .int n
  | .str t => .str t

/-- The identifier in a message, where a text is quoted. -/
def shown : RequestId → Text
  | .int n => Text.ofInt n
  | .str t => t.quoted

/-- An integer or a text as it stands; anything else as a lenient integer or else a lenient text. -/
def ofValue : Value → Checked RequestId
  | .int n => .ok (.int n)
  | .str t => .ok (.str t)
  | v =>
    match Lenient.int v, Lenient.text v with
    | .ok n, _ => .ok (.int n)
    | _, .ok t => .ok (.str t)
    | .error i, .error j => .error [⟨[.name "int"], i⟩, ⟨[.name "str"], j⟩]

@[simp] theorem ofValue_toJson (id : RequestId) : ofValue (Value.ofJson id.toJson) = .ok id := by
  cases id <;> simp [toJson, Value.ofJson, ofValue]

end RequestId

/-! ### Error objects -/

/-- What a node answers instead of a result. -/
structure ErrorObject where
  code : Int
  message : Text
  data : Json
  deriving DecidableEq

namespace ErrorObject

def className : Text := "RPCErrorObject"

def ofEntries (entries : Entries Value) : Checked ErrorObject :=
  let code := Member.required entries "code" fun v => (Lenient.int v).mapError Issue.here
  let message := Member.required entries "message" Member.checkText
  let data := Member.withDefault entries "data" Json.null Value.toJson
  (code.both (message.both data)).map fun (code, message, data) => ⟨code, message, data⟩

def ofValue : Value → Checked ErrorObject
  | .dict entries => ofEntries entries
  | _ => .error (Issue.here (.notRecord className))

/-- The error object as JSON; absent data are left out. -/
def toJson (e : ErrorObject) : Json :=
  if e.data = .null then .dict [("code", .int e.code), ("message", .str e.message)]
  else .dict [("code", .int e.code), ("message", .str e.message), ("data", e.data)]

end ErrorObject

end ChainRpc
