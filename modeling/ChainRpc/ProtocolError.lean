import ChainRpc.Response

/-!
# Protocol errors

A response can fail a call in two ways: it breaks the protocol, or the node answers with an error
object. Only in the second case there is a code.
-/

namespace ChainRpc

/-! ### Codes -/

namespace ErrorCode

def parseError : Int := -32700
def invalidRequest : Int := -32600
def methodNotFound : Int := -32601
def invalidParams : Int := -32602
def internalError : Int := -32603
def serverError : Int := -32000

def all : List (Text × Int) := [
  ("PARSE_ERROR", parseError), ("INVALID_REQUEST", invalidRequest),
  ("METHOD_NOT_FOUND", methodNotFound), ("INVALID_PARAMS", invalidParams),
  ("INTERNAL_ERROR", internalError), ("SERVER_ERROR", serverError)]

end ErrorCode

/-! ### Causes -/

/-- Why a call failed over its response. -/
inductive ProtocolError
  /-- The node answered with an error object. -/
  | answered (error : ErrorObject)
  | undecodable (fault : Undecodable)
  | malformed (fault : SyntaxFault)
  | notResponse (issues : List Issue)
  | unexpectedArray
  | expectedArray
  | foreignId (found sent : RequestId)
  | noId (sent : RequestId)
  | unanswered (sent : RequestId) (method : Text)

namespace ProtocolError

/-- The wording of an error, without its code. -/
def message : ProtocolError → Text
  | .answered error    => error.message
  | .undecodable fault => "response is not valid JSON: " ++ fault.message
  | .malformed fault   => "response is not valid JSON: " ++ fault.message
  | .notResponse issues =>
    "invalid JSON-RPC response: " ++ (issues.head?.map (·.cause.message)).getD []
  | .unexpectedArray => "expected a single response object, got an array"
  | .expectedArray   => "expected an array of responses for a batch request"
  | .foreignId found sent =>
    Text.concat ["response id ", found.shown, " does not match request id ", sent.shown]
  | .noId sent => Text.concat ["response to request ", sent.shown, " carries no id"]
  | .unanswered sent method =>
    Text.concat ["no response for request ", sent.shown, " (", method, ")"]

def code? : ProtocolError → Option Int
  | .answered error => some error.code
  | _               => none

def data : ProtocolError → Json
  | .answered error => error.data
  | _               => .null

def issues? : ProtocolError → Option (List Issue)
  | .notResponse issues => some issues
  | _                   => none

/-- The whole text of an error; a code comes first, in brackets. -/
def text (e : ProtocolError) : Text :=
  match e.code? with
  | none      => e.message
  | some code => Text.concat ["[", Text.ofInt code, "] ", e.message]

end ProtocolError

/-! ### Parts -/

/-- What a caller finds in a protocol error, or puts into one. -/
structure ErrorParts where
  message : Value
  code : Value := .null
  data : Value := .null

def ProtocolError.parts (e : ProtocolError) : ErrorParts where
  message := .str e.message
  code := (e.code?.map Value.int).getD .null
  data := .ofJson e.data

namespace ErrorParts

def text? (e : ErrorParts) : Option Text := do
  let message ← e.message.spoken?
  if e.code = .null then return message
  else return Text.concat ["[", ← e.code.spoken?, "] ", message]

def isNodeError (e : ErrorParts) : Bool :=
  e.code ≠ .null

def isMethodNotFound (e : ErrorParts) : Bool :=
  e.code.equals ErrorCode.methodNotFound

def isInvalidParams (e : ErrorParts) : Bool :=
  e.code.equals ErrorCode.invalidParams

/-- The parts under their names; absent data are left out. -/
def toEntries (e : ErrorParts) : Entries Value :=
  if e.data = .null then [("code", e.code), ("message", e.message)]
  else [("code", e.code), ("message", e.message), ("data", e.data)]

end ErrorParts

end ChainRpc
