import ChainRpc.Client.Resumable

/-!
# Operations of clients

What can be asked of a client, as data. A blocking client carries an operation out, a resumable one
turns it into an operation under way, and sequences of operations run one after the other on the same
session. An operation that fails does not end the sequence.
-/

namespace ChainRpc.Client

inductive Operation
  | nextId
  | call (ref : MethodRef) (args : List Value)
  | callRaw (name params : Value)
  | batch (calls : List (MethodRef × List Value))
  | typed (name : Text) (args : List Value) (named : Entries Value)
  | post (body : Bytes)

inductive Operation.Result
  | id (n : Nat)
  | value (v : Value)
  | slots (results : List (Except Fault Value))
  | body (b : Bytes)

namespace Operation

variable {σ : Type}

def blocking (c : Connection σ) : Operation → Blocking.Action σ Result
  | .nextId                => do return .id (← Blocking.nextId)
  | .call ref args         => do return .value (← Blocking.call c ref args)
  | .callRaw name params   => do return .value (← Blocking.callRaw c name params)
  | .batch calls           => do return .slots (← Blocking.batch c calls)
  | .typed name args named => do return .value (← Blocking.typed c name args named)
  | .post body             => do return .body (← Blocking.post c body)

def resumable (registry : Registry) : Operation → Resumable Result
  | .nextId                => do return .id (← Resumable.nextId)
  | .call ref args         => do return .value (← Resumable.call registry ref args)
  | .callRaw name params   => do return .value (← Resumable.callRaw name params)
  | .batch calls           => do return .slots (← Resumable.batch registry calls)
  | .typed name args named => do return .value (← Resumable.typed registry name args named)
  | .post body             => do return .body (← Resumable.post body)

/-- Carries an operation out with either kind of client. -/
def run (isResumable : Bool) (c : Connection σ) (op : Operation) : Blocking.Action σ Result :=
  if isResumable then (op.resumable c.registry).run c else op.blocking c

def runAll (isResumable : Bool) (c : Connection σ) :
    List Operation → Session σ → List (Except Fault Result) × Session σ
  | [], session => ([], session)
  | op :: rest, session =>
    let (result, session) := op.run isResumable c session
    let (results, session) := runAll isResumable c rest session
    (result :: results, session)

end Operation

end ChainRpc.Client
