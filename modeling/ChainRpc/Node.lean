import ChainRpc.Http.Transport
import ChainRpc.Node.Handler
import ChainRpc.Node.Writer
import ChainRpc.Request

/-!
# A node in the same process

Stands in for a node of the chain. It answers single requests and batches by the handlers registered
under the names of methods, and remembers every valid request. What is no request is answered with an
error object, and so is a request that no handler takes.
-/

namespace ChainRpc

/-- A node. -/
structure Node where
  handlers : Entries Handler := []
  /-- The valid requests so far, in order. -/
  requests : List Request := []

namespace Node

/-! ### Registration -/

/-- Answers a method by a handler, in place of an earlier one. -/
def register (n : Node) (name : Text) (h : Handler) : Node :=
  { n with handlers := n.handlers.put name h }

def respond (n : Node) (name : Text) (result : Value) : Node :=
  n.register name (.constant name result)

def fail (n : Node) (name : Text) (e : NodeError) : Node :=
  n.register name (.failing name e)

/-- Answers a method by a handler, under the handler's own name if no other is given. -/
def method (n : Node) (name : Option Text) (h : Handler) : Node :=
  match name with
  | some (c :: cs) => n.register (c :: cs) h
  | _              => n.register h.name h

def calls (n : Node) (method : Text) : List Request :=
  n.requests.filter (·.method == method)

/-! ### Single requests -/

def resultResponse (id : Json) (result : Value) : Value :=
  .dict [("jsonrpc", .str Member.version), ("id", Value.ofJson id), ("result", result)]

def errorResponse (id : Json) (e : NodeError) : Except Fault Value :=
  e.toJson.map fun error =>
    .dict [("jsonrpc", .str Member.version), ("id", Value.ofJson id), ("error", Value.ofJson error)]

/-- What an item of a body comes to. -/
structure Reply where
  response : Except Fault Value
  request : Option Request := none
  log : List Log.Record := []

/-- The identifier that an item carries, valid or not. -/
def idOf : Json → Json
  | .dict entries => (Entries.get? "id" entries).getD .null
  | _             => .null

/-- Answers a valid request. -/
def answerRequest (handlers : Entries Handler) (r : Request) : Reply :=
  let id := r.id.toJson
  match handlers.get? r.method with
  | none =>
    { response := errorResponse id (.of ErrorCode.methodNotFound "Method not found")
      request := some r
      log := [⟨.debug, "Method not found: " ++ r.method⟩] }
  | some h =>
    match h.run (r.params.map Value.ofJson) with
    | .value v => { response := .ok (resultResponse id v), request := some r }
    | .error e => { response := errorResponse id e, request := some r }
    | .crashed reason =>
      { response := errorResponse id (.of ErrorCode.serverError "Server error" (.str reason))
        request := some r
        log := [⟨.error, Text.concat ["Handler for ", r.method, " failed"]⟩] }

def answerItem (handlers : Entries Handler) (item : Json) : Reply :=
  match Request.ofValue (Value.ofJson item) with
  | .ok r => answerRequest handlers r
  | .error issues =>
    let report := Issue.headline issues Request.className
    { response :=
        errorResponse (idOf item) (.of ErrorCode.invalidRequest "Invalid Request" (.str report)) }

/-! ### Bodies -/

/-- What a body, or a part of it, comes to. -/
structure Answer (α : Type) where
  response : Except Fault α
  requests : List Request := []
  log : List Log.Record := []

/-- The answer that a reply to a single request is. -/
def Reply.toAnswer (r : Reply) : Answer Value :=
  ⟨r.response, r.request.toList, r.log⟩

/-- An answer before further ones. One that breaks down ends them all. -/
def Answer.cons (first : Answer Value) (others : Answer (List Value)) : Answer (List Value) :=
  match first.response with
  | .error fault => ⟨.error fault, first.requests, first.log⟩
  | .ok response =>
    ⟨others.response.map (response :: ·), first.requests ++ others.requests, first.log ++ others.log⟩

def answerItems (handlers : Entries Handler) : List Json → Answer (List Value)
  | []           => { response := .ok [] }
  | item :: rest => (answerItem handlers item).toAnswer.cons (answerItems handlers rest)

def Answer.toArray (a : Answer (List Value)) : Answer Value :=
  { a with response := a.response.map .list }

/-- The answer to a body that is no request at all. -/
def refusal (code : Int) (message reason : Text) : Answer Value :=
  { response := errorResponse .null (.of code message (.str reason)) }

/-- Answers a body. -/
def answerBody (handlers : Entries Handler) (raw : Bytes) : Answer Value :=
  if raw = [] then refusal ErrorCode.invalidRequest "Invalid Request" "empty body"
  else
    match Json.ofBytes raw with
    | .error (.malformed fault) => refusal ErrorCode.parseError "Parse error" fault.message
    | .error cause => { response := .error (.unreadable cause) }
    | .ok (.list []) => refusal ErrorCode.invalidRequest "Invalid Request" "empty batch"
    | .ok (.list items) => (answerItems handlers items).toArray
    | .ok item => (answerItem handlers item).toAnswer

structure Exchange where
  body : Except Fault Bytes
  log : List Log.Record
  node : Node

def post (n : Node) (raw : Bytes) : Exchange :=
  let answer := answerBody n.handlers raw
  { body := answer.response.bind fun v => (writeBody v).mapError .unwritable
    log := answer.log
    node := { n with requests := n.requests ++ answer.requests } }

def url : Text := "http://testserver/"

/-- The node as the peer of a transport. -/
def peer : Http.Peer Node := fun request n =>
  let exchange := n.post request.body
  { outcome := match exchange.body with
      | .ok body     => .answered 200 body
      | .error fault => .broke fault
    log := exchange.log
    state := exchange.node }

/-- The way to a node; closing the transport closes it. -/
def endpoint : Http.Endpoint where
  url := .str url
  headers := Http.Headers.defaults

end Node

end ChainRpc
