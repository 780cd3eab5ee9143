import ChainRpc.Http.Headers
import ChainRpc.Http.Url
import ChainRpc.Json.Carried
import ChainRpc.Method.Registry
import ChainRpc.ProtocolError
import ChainRpc.Signature

/-!
# Faults

Everything that an operation can end with besides a value. The faults of a client proper are those
that its transport, the protocol, the decoding of a result or a missing result cause; a caller who
misuses the library, and limits of the runtime, cause the others.
-/

namespace ChainRpc

inductive TransportFault
  | timedOut (url : Text)
  | failed (url reason : Text)
  | status (url : Text) (code : Nat)
  deriving DecidableEq, Repr

def TransportFault.message : TransportFault → Text
  | .timedOut url      => Text.concat ["request to ", url, " timed out"]
  | .failed url reason => Text.concat ["request to ", url, " failed: ", reason]
  | .status url code   => Text.concat ["HTTP ", Text.ofNat code, " from ", url]

def TransportFault.status? : TransportFault → Option Nat
  | .status _ code => some code
  | _              => none

/-- Why a value has no JSON text in an answer of a node. -/
inductive Unwritable
  | notJson (typeName : Text)
  | notFinite
  | tooLarge
  | tooDeep
  | surrogates (fault : Unencodable)
  deriving DecidableEq, Repr

def Unwritable.message : Unwritable → Text
  | .notJson typeName =>
    Text.concat ["Object of type ", typeName, " is not JSON serializable"]
  | .notFinite => "Out of range float values are not JSON compliant"
  | .tooLarge  => tooLargeMessage
  | .tooDeep   => "maximum recursion depth exceeded while encoding a JSON object"
  | .surrogates fault => fault.message

/-- How an operation fails. -/
inductive Fault
  | transport (cause : TransportFault)
  | protocol (cause : ProtocolError)
  /-- A result does not have the shape of its method. -/
  | undecodable (method : Text) (issues : List Issue)
  /-- A result is null where a value is required. -/
  | notFound (method detail : Text)
  | invalidParams (cause : InvalidParams)
  | registry (cause : RegistryFault)
  | call (cause : CallFault)
  | noAttribute (typeName name : Text)
  | notInteger (typeName : Text)
  /-- The parameters of a call by name cannot be listed. -/
  | notIterable (typeName : Text)
  /-- A value does not have the form asked for. -/
  | invalid (issues : List Issue)
  | refused (refusal : Refusal)
  /-- A request has no body. -/
  | unserializable (cause : Uncarried)
  | unreadable (cause : Unreadable)
  | unwritable (cause : Unwritable)
  /-- An integer beyond the digit limit would have to be shown. -/
  | tooLarge
  | notUrl (value : Value)
  | url (cause : Unencodable)
  | header (cause : Http.Headers.Unsendable)
  /-- The ASCII form of a host stands for no name. -/
  | host (cause : Idna.Fault)
  /-- An answer came back from a URL that does not say where it leads. -/
  | unknownScheme (t : Text)
  | closed

namespace Fault

/-- The fault is one that a client answers for. -/
def isClientError : Fault → Bool
  | .transport _ | .protocol _ | .undecodable _ _ | .notFound _ _ => true
  | _ => false

def issues? : Fault → Option (List Issue)
  | .protocol cause       => cause.issues?
  | .undecodable _ issues => some issues
  | .invalidParams cause  => cause.issues?
  | .invalid issues       => some issues
  | _                     => none

def unreadableMessage : Unreadable → Text
  | .undecodable fault   => fault.message
  | .malformed fault     => fault.message
  | .tooManyDigits count => tooManyDigitsMessage count
  | .tooDeep => "maximum recursion depth exceeded while decoding a JSON document"

/-- The wording of a fault, `report` giving the text of issues. -/
def message (report : List Issue → Text) : Fault → Text
  | .transport cause => cause.message
  | .protocol cause  => cause.text
  | .undecodable method issues =>
    Text.concat ["cannot decode result of ", method, ": ", report issues]
  | .notFound method detail =>
    if detail = [] then method ++ " returned null"
    else Text.concat [method, " returned null (", detail, ")"]
  | .invalidParams cause => cause.message report
  | .registry cause      => cause.message
  | .call cause          => cause.message
  | .noAttribute typeName name =>
    Text.concat [typeName.inApostrophes, " object has no attribute ", name.inApostrophes]
  | .notInteger typeName =>
    typeName.inApostrophes ++ " object cannot be interpreted as an integer"
  | .notIterable typeName => typeName.inApostrophes ++ " object is not iterable"
  | .invalid issues       => report issues
  | .refused refusal      => refusal.message
  | .unserializable .tooDeep =>
    "Error serializing to JSON: ValueError: " ++ Uncarried.tooDeep.message
  | .unserializable (.surrogates fault) =>
    "Error serializing to JSON: UnicodeEncodeError: " ++ fault.message
  | .unreadable cause => unreadableMessage cause
  | .unwritable cause => cause.message
  | .tooLarge         => tooLargeMessage
  | .notUrl value =>
    Text.concat ["Invalid type for url.  Expected str or httpx.URL, got <class ",
      value.typeName.inApostrophes, ">: ", value.shown?.getD []]
  | .url cause         => cause.message
  | .header cause      => cause.message
  | .host cause        => cause.message
  | .unknownScheme t   => "unknown url type: " ++ t.quoted
  | .closed           => "Cannot send a request, as the client has been closed."

/-- The fault of parameters that have no wire form. -/
def ofParams : ParamsFault → Fault
  | .invalid cause       => .invalidParams cause
  | .unhashable typeName => .registry (.unhashable typeName)

/-- The fault of a body that is no JSON document. What the text itself does wrong breaks the protocol;
a limit of the reader is a fault of its own. -/
def ofUnreadable : Unreadable → Fault
  | .undecodable fault => .protocol (.undecodable fault)
  | .malformed fault   => .protocol (.malformed fault)
  | .tooManyDigits n   => .unreadable (.tooManyDigits n)
  | .tooDeep           => .unreadable .tooDeep

end Fault

end ChainRpc
