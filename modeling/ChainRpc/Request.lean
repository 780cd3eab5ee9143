import ChainRpc.Binary64.Shortest
import ChainRpc.Envelope
import ChainRpc.Json.Carried
import ChainRpc.Json.Writer

/-!
# Requests

A request names a method and carries its parameters under an identifier. Its body is JSON text in
UTF-8; a batch is an array of requests. Numbers that JSON cannot write are written as null.
-/

namespace ChainRpc

structure Request where
  id : RequestId
  method : Text
  params : List Json
  deriving DecidableEq

namespace Request

def className : Text := "RPCRequest"

/-- Checks a list of JSON values. -/
def checkParams : Value → Checked (List Json)
  | .list items | .tuple items => Value.toJsonItems items
  | _ => .error (Issue.here .notList)

def ofEntries (entries : Entries Value) : Checked Request :=
  let id := Member.required entries "id" RequestId.ofValue
  let method := Member.required entries "method" Member.checkText
  let params := Member.withDefault entries "params" [] checkParams
  ((Member.checkVersion entries).both (id.both (method.both params))).map
    fun (_, id, method, params) => ⟨id, method, params⟩

def ofValue : Value → Checked Request
  | .dict entries => ofEntries entries
  | _ => .error (Issue.here (.notRecord className))

def toJson (r : Request) : Json :=
  .dict [("jsonrpc", .str Member.version), ("id", r.id.toJson), ("method", .str r.method),
    ("params", .list r.params)]

/-! ### Bodies -/

def writeFloat (x : Binary64) : Text :=
  if x.isFinite then x.render Binary64.requestLayout else "null"

/-- The first reason why a request has no body, from its first member to the last. -/
def obstacle? (r : Request) : Option Uncarried :=
  ([r.id.toJson, .str r.method] ++ r.params).findSome? Json.bodyObstacle?

def write (r : Request) : Text :=
  r.toJson.write writeFloat

def text (r : Request) : Except Uncarried Text :=
  match r.obstacle? with
  | some cause => .error cause
  | none       => .ok r.write

def encode (r : Request) : Except Uncarried Bytes :=
  r.text.map Utf8.encodeAll

def texts : List Request → Except Uncarried (List Text)
  | [] => .ok []
  | r :: rest => do return (← r.text) :: (← texts rest)

def batchText (requests : List Request) : Except Uncarried Text :=
  (texts requests).map fun ts =>
    Text.concat [[.openBracket], Text.joined "," ts, [.closeBracket]]

def encodeBatch (requests : List Request) : Except Uncarried Bytes :=
  (batchText requests).map Utf8.encodeAll

end Request

end ChainRpc
