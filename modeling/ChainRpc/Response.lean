import ChainRpc.Envelope
import ChainRpc.Json.Reader

/-!
# Responses

A response carries either a result or an error object, under the identifier of its request. It is read
from a body in two steps: the body is JSON, and the JSON value has the form of a response.
-/

namespace ChainRpc

structure Response where
  id : Option RequestId
  result : Json
  error : Option ErrorObject

namespace Response

/-- The response carries an error object. -/
def isError (r : Response) : Bool :=
  r.error.isSome

/-- A member is there and is not null. -/
def hasValue (entries : Entries Value) (name : Text) : Bool :=
  match entries.get? name with
  | none | some .null => false
  | some _ => true

/-- Checks the members of a response that has exactly one outcome. -/
def ofMembers (entries : Entries Value) : Checked Response :=
  let id := Member.withDefault entries "id" none (Member.nullable RequestId.ofValue)
  let result := Member.withDefault entries "result" Json.null Value.toJson
  let error := Member.withDefault entries "error" none (Member.nullable ErrorObject.ofValue)
  ((Member.checkVersion entries).both (id.both (result.both error))).map
    fun (_, id, result, error) => ⟨id, result, error⟩

/-- Checks a response: an object with a result, be it null, or else with an error that is not null. -/
def ofValue : Value → Checked Response
  | .dict entries =>
    if Entries.has entries "result" = hasValue entries "error" then .error (Issue.here .notOneOutcome)
    else ofMembers entries
  | _ => .error (Issue.here .notResponseObject)

end Response

end ChainRpc
