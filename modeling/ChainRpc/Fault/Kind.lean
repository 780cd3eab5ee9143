import ChainRpc.Fault

/-!
# Kinds of errors

The errors that callers tell apart, each of which is also an error of the wider kinds in its lineage.
An error can be made of the values it speaks of, from which it takes its text.
-/

namespace ChainRpc

inductive ErrorKind
  | malformedValue | invalidParams | unknownMethod
  | client | transport | protocol | decode | resultNotFound
  deriving DecidableEq, Repr

namespace ErrorKind

def all : List ErrorKind :=
  [.malformedValue, .invalidParams, .unknownMethod, .client, .transport, .protocol, .decode,
    .resultNotFound]

def name : ErrorKind → Text
  | .malformedValue => "MalformedValue"
  | .invalidParams  => "InvalidParams"
  | .unknownMethod  => "UnknownMethod"
  | .client         => "ClientError"
  | .transport      => "TransportError"
  | .protocol       => "ProtocolError"
  | .decode         => "DecodeError"
  | .resultNotFound => "ResultNotFound"

def named? (t : Text) : Option ErrorKind :=
  all.find? (·.name == t)

/-- The names of a kind and of the wider ones, the widest last. -/
def lineage (kind : ErrorKind) : List Text :=
  let roots : List Text := ["Exception", "BaseException"]
  let wider : List Text := match kind with
    | .malformedValue | .invalidParams => ["ValueError"]
    | .unknownMethod => ["KeyError", "LookupError"]
    | .client => []
    | .transport | .protocol | .decode | .resultNotFound => [client.name]
  kind.name :: (wider ++ roots)

end ErrorKind

/-- The kind of a fault. Misuse of the library otherwise than by its own rules has none. -/
def Fault.kind? : Fault → Option ErrorKind
  | .transport _            => some .transport
  | .protocol _             => some .protocol
  | .undecodable _ _        => some .decode
  | .notFound _ _           => some .resultNotFound
  | .invalidParams _        => some .invalidParams
  | .registry (.unknown _)  => some .unknownMethod
  | .refused (.malformed _) => some .malformedValue
  | _                       => none

/-! ### Errors made of values -/

namespace ErrorKind

/-- The values that an error of the kind is made of, with their defaults. Errors of the other kinds are
made of any values. -/
def params? : ErrorKind → Option (List (Text × Option Value))
  | .unknownMethod  => some [("method", none)]
  | .transport      => some [("message", none), ("status_code", some .null)]
  | .protocol       => some [("message", none), ("code", some .null), ("data", some .null)]
  | .decode         => some [("method", none), ("reason", none)]
  | .resultNotFound => some [("method", none), ("detail", some (.str []))]
  | .malformedValue | .invalidParams | .client => none

/-- The values that are kept under their names. -/
def kept : ErrorKind → List Text
  | .unknownMethod | .resultNotFound => ["method"]
  | .transport => ["message", "status_code"]
  | .protocol  => ["message", "code", "data"]
  | .decode    => ["method", "reason"]
  | .malformedValue | .invalidParams | .client => []

def text? : ErrorKind → List Value → Option Text
  | .unknownMethod, [method] => do
    return "unknown RPC method: " ++ (← method.spoken?)
  | .transport, message :: _ => message.spoken?
  | .protocol, [message, code, data] => ErrorParts.text? ⟨message, code, data⟩
  | .decode, [method, reason] => do
    return Text.concat ["cannot decode result of ", ← method.spoken?, ": ", ← reason.spoken?]
  | .resultNotFound, [method, detail] => do
    let message := (← method.spoken?) ++ (" returned null" : Text)
    if detail.isTruthy then return Text.concat [message, " (", ← detail.spoken?, ")"]
    else return message
  | _, []     => some []
  | _, [v]    => v.spoken?
  | _, values => (Value.tuple values).shown?

def bind (kind : ErrorKind) (args : List Value) : Except CallFault (List Value) :=
  match kind.params? with
  | some params =>
    { label := kind.name ++ (".__init__" : Text), receivers := 1, params : Signature }.bind args []
  | none => .ok args

/-- The values that an error keeps, under their names. -/
def attributes (kind : ErrorKind) (values : List Value) : Entries Value :=
  ((kind.params?.getD []).zip values).filterMap fun (param, value) =>
    if param.1 ∈ kind.kept then some (param.1, value) else none

end ErrorKind

end ChainRpc
