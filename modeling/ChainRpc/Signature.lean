import ChainRpc.Entries
import ChainRpc.Value

/-!
# Signatures

Functions are called with positional and named arguments. A signature binds them to its parameters:
each parameter gets one argument or its default. The complaints about a call that does not fit name
the function and the parameters.
-/

namespace ChainRpc

/-- The parameters of a function. -/
structure Signature where
  /-- The name of the function in complaints. -/
  label : Text
  /-- How many positional arguments are counted before those of the call. -/
  receivers : Nat := 0
  params : List (Text × Option Value)
  /-- Any number of further positional arguments is accepted. -/
  variadic : Bool := false

inductive CallFault
  | unexpected (label name : Text)
  | repeated (label name : Text)
  | tooMany (label : Text) (least most given : Nat)
  | missing (label : Text) (names : List Text)

namespace CallFault

def enumerated : List Text → Text
  | []     => []
  | [a]    => a.inApostrophes
  | [a, b] => Text.concat [a.inApostrophes, " and ", b.inApostrophes]
  | [a, b, c] => Text.concat [a.inApostrophes, ", ", b.inApostrophes, ", and ", c.inApostrophes]
  | a :: rest => Text.concat [a.inApostrophes, ", ", enumerated rest]

def message : CallFault → Text
  | .unexpected label name =>
    Text.concat [label, "() got an unexpected keyword argument ", name.inApostrophes]
  | .repeated label name =>
    Text.concat [label, "() got multiple values for argument ", name.inApostrophes]
  | .tooMany label least most given =>
    let count : Text :=
      if least = most then Text.concat [Text.ofNat most, Text.plural most " positional argument"]
      else Text.concat ["from ", Text.ofNat least, " to ", Text.ofNat most, " positional arguments"]
    let verb : Text := if given = 1 then " was given" else " were given"
    Text.concat [label, "() takes ", count, " but ", Text.ofNat given, verb]
  | .missing label names =>
    Text.concat [label, "() missing ", Text.ofNat names.length, " required ",
      Text.plural names.length "positional argument", ": ", enumerated names]

end CallFault

namespace Signature

/-- How many parameters have no default. -/
def required (s : Signature) : Nat :=
  (s.params.filter (·.2.isNone)).length

/-- The name of the first receiver, which has its argument before any other. -/
def receiverName : Text := "self"

/-- Binds named arguments one after the other to parameters that have none yet. -/
def bindNamed (s : Signature) (bound : Entries Value) : Entries Value → Except CallFault (Entries Value)
  | [] => .ok bound
  | (name, value) :: rest =>
    if s.receivers ≠ 0 ∧ name = receiverName then .error (.repeated s.label name)
    else if name ∉ s.params.map (·.1) then .error (.unexpected s.label name)
    else if Entries.has bound name then .error (.repeated s.label name)
    else s.bindNamed (bound ++ [(name, value)]) rest

/-- The argument of each parameter, bound or by default, and the names of those without one. -/
def complete (bound : Entries Value) : List (Text × Option Value) → List Value × List Text
  | [] => ([], [])
  | (name, default) :: rest =>
    let (values, missing) := complete bound rest
    match (bound.get? name).orElse fun _ => default with
    | some value => (value :: values, missing)
    | none       => (values, name :: missing)

/-- The arguments of a call in the order of the parameters, further ones at the end. -/
def bind (s : Signature) (args : List Value) (named : Entries Value) :
    Except CallFault (List Value) := do
  let positional := s.params.map (·.1) |>.zip args
  let bound ← s.bindNamed positional named
  if ¬ s.variadic ∧ s.params.length < args.length then
    let most := s.params.length + s.receivers
    throw (.tooMany s.label (s.required + s.receivers) most (args.length + s.receivers))
  let (values, missing) := complete bound s.params
  if missing ≠ [] then throw (.missing s.label missing)
  return values ++ args.drop s.params.length

end Signature

end ChainRpc
