import ChainRpc.Fault
import ChainRpc.Log
import ChainRpc.Request

/-!
# What all clients share

A client issues identifiers, builds requests, and makes values of the responses. None of this depends
on how bodies travel. Arguments are encoded before an identifier is taken, except in calls by name
alone; a response counts only for the request whose identifier it carries.
-/

namespace ChainRpc.Client

/-- What a client remembers between two operations. -/
structure State where
  nextId : Nat := 1
  log : List Log.Record := []

/-- A step of a client, which may fail and keeps what it changed even then. -/
abbrev Act := ExceptT Fault (StateM State)

/-- How a caller refers to a method: by its name in the registry or by itself. -/
inductive MethodRef
  | named (name : Value)
  | direct (method : Method)

/-- A request with the method that its result is decoded by. -/
structure Prepared where
  method : Method
  request : Request

def note (level : Log.Level) (message : Text) : Act Unit :=
  modify fun s => { s with log := s.log ++ [⟨level, message⟩] }

def takeId : Act Nat :=
  modifyGet fun s => (s.nextId, { s with nextId := s.nextId + 1 })

def ofExcept {ε α : Type} (toFault : ε → Fault) (x : Except ε α) : Act α :=
  match x with
  | .ok a    => pure a
  | .error e => throw (toFault e)

/-! ### Building requests -/

/-- The method that a caller refers to. -/
def resolve (registry : Registry) : MethodRef → Act Method
  | .named name    => ofExcept .registry (registry.get name)
  | .direct method => pure method

def noteRequest (r : Request) : Act Unit :=
  match (Value.ofJson (.list r.params)).shown? with
  | none => throw .tooLarge
  | some shown =>
    note .debug (Text.concat ["-> [", r.id.shown, "] ", r.method, " ", shown])

/-- Builds the request of a call. -/
def build (registry : Registry) (ref : MethodRef) (args : List Value) : Act Prepared := do
  let method ← resolve registry ref
  let params ← ofExcept .ofParams (method.encodeParams args)
  let request : Request := ⟨.int (← takeId), method.name, params⟩
  noteRequest request
  return ⟨method, request⟩

/-- The parameters that a value iterates over; a value that does not count as true has none. -/
def items (v : Value) : Except Fault (List Value) :=
  match v.items? with
  | some items => .ok items
  | none       => if v.isTruthy then .error (.notIterable v.typeName) else .ok []

/-- Builds the request of a call by name alone, with parameters in their wire form. -/
def buildRaw (name params : Value) : Act Prepared := do
  let issued ← takeId
  let params ← ofExcept (fun fault => fault) (items params)
  match Request.ofValue (.dict [("id", .int issued), ("method", name), ("params", .list params)]) with
  | .error issues => throw (.invalidParams (.notJson name issues))
  | .ok request => do
    noteRequest request
    return ⟨{ name := name.spoken?.getD [] }, request⟩

def buildBatch (registry : Registry) : List (MethodRef × List Value) → Act (List Prepared)
  | [] => return []
  | (ref, args) :: rest => do
    let p ← build registry ref args
    return p :: (← buildBatch registry rest)

/-! ### Responses -/

/-- The JSON value of a body. -/
def load (body : Bytes) : Act Json :=
  ofExcept .ofUnreadable (Json.ofBytes body)

/-- The response that a JSON value is. -/
def parse (payload : Json) : Except ProtocolError Response :=
  (Response.ofValue (Value.ofJson payload)).mapError .notResponse

/-- Refuses a response that carries the identifier of another request. -/
def checkId (sent : RequestId) : Option RequestId → Act Unit
  | none => pure ()
  | some found =>
    if found = sent then pure ()
    else do
      note .warning (Text.concat ["Response id ", found.shown, " does not match request id ",
        sent.shown])
      throw (.protocol (.foreignId found sent))

/-- The value that a response gives a request, or the fault that it stands for. -/
def outcome (p : Prepared) (response : Response) : Act Value := do
  let sent := p.request.id
  checkId sent response.id
  match response.error, response.id with
  | some error, _ => do
    note .debug (Text.concat ["<- [", sent.shown, "] error ", Text.ofInt error.code, ": ",
      error.message])
    throw (.protocol (.answered error))
  | none, none => throw (.protocol (.noId sent))
  | none, some _ => do
    note .debug (Text.concat ["<- [", sent.shown, "] ", p.method.name, " ok"])
    ofExcept (.undecodable p.method.name) (p.method.decodeResult (Value.ofJson response.result))

/-- The value that a body gives a request. -/
def finish (p : Prepared) (body : Bytes) : Act Value := do
  match ← load body with
  | .list _ => throw (.protocol .unexpectedArray)
  | payload => do
    let response ← ofExcept .protocol (parse payload)
    outcome p response

/-! ### Batches -/

/-- The place of a request in a batch: what it got, if it got anything yet. -/
structure Slot where
  prepared : Prepared
  got : Option (Except Fault Value) := none

/-- The slot still waits for a response with an identifier. -/
def Slot.waitsFor (s : Slot) (id : RequestId) : Bool :=
  s.got.isNone && s.prepared.request.id == id

/-- A step that keeps faults a client answers for as results. -/
def keepClientErrors (x : Act Value) : Act (Except Fault Value) :=
  tryCatch (do return .ok (← x)) fun fault =>
    if fault.isClientError then return .error fault else throw fault

/-- Gives a response to the first slot that waits for its identifier. Answers nothing if none does. -/
def deliver (response : Response) (id : RequestId) : List Slot → Option (Act (List Slot))
  | [] => none
  | slot :: rest =>
    if slot.waitsFor id then
      some do
        let got ← keepClientErrors (outcome slot.prepared response)
        return { slot with got := some got } :: rest
    else (deliver response id rest).map fun act => do return slot :: (← act)

def shownId : Option RequestId → Text
  | none    => "None"
  | some id => id.shown

/-- Gives an item of the array of responses to its slot. What is no response, or belongs to no slot, is
dropped with a warning. -/
def deliverItem (slots : List Slot) (item : Json) : Act (List Slot) :=
  match parse item with
  | .error cause => do
    note .warning ("Dropping malformed batch entry: " ++ cause.text)
    return slots
  | .ok response =>
    match response.id.bind fun id => deliver response id slots with
    | some act => act
    | none => do
      note .warning ("Dropping response with unmatched id " ++ shownId response.id)
      return slots

def deliverAll (slots : List Slot) : List Json → Act (List Slot)
  | [] => return slots
  | item :: rest => do deliverAll (← deliverItem slots item) rest

def Slot.result (s : Slot) : Except Fault Value :=
  s.got.getD (.error (.protocol (.unanswered s.prepared.request.id s.prepared.method.name)))

/-- The results of a batch, in the order of its requests, from the body of the answer. -/
def finishBatch (prepared : List Prepared) (body : Bytes) : Act (List (Except Fault Value)) := do
  match ← load body with
  | .list payload => do
    let slots ← deliverAll (prepared.map fun p => { prepared := p }) payload
    return slots.map Slot.result
  | payload => do
    let response ← ofExcept .protocol (parse payload)
    match response.error with
    | some error => throw (.protocol (.answered error))
    | none       => throw (.protocol .expectedArray)

end ChainRpc.Client
