import ChainRpc.Shape.Decode
import ChainRpc.Shape.Encode

/-!
# Methods

A method has a name, positional parameters and a result, each with a shape. Arguments are checked and
written in the order of the parameters; optional parameters may be left out at the end. Results are
read in wire mode.
-/

namespace ChainRpc

structure Param where
  name : Text
  shape : Shape
  optional : Bool := false
  deriving Inhabited

/-- The shape of the argument, which may be absent for an optional parameter. -/
def Param.argument (p : Param) : Shape :=
  if p.optional then .optional p.shape else p.shape

/-- A method of a node. -/
structure Method where
  name : Text
  params : List Param := []
  result : Shape := .json
  description : Option Text := none
  deriving Inhabited

inductive InvalidParams
  | tooMany (method : Text) (limit given : Nat)
  | missing (method param : Text)
  | mismatch (method param : Text) (issues : List Issue)
  /-- The arguments of a method called by name alone are no JSON values. -/
  | notJson (method : Value) (issues : List Issue)

namespace InvalidParams

def issues? : InvalidParams → Option (List Issue)
  | .mismatch _ _ issues | .notJson _ issues => some issues
  | _ => none

def message (report : List Issue → Text) : InvalidParams → Text
  | .tooMany method limit given =>
    Text.concat [method, " takes at most ", Text.ofNat limit, " params, got ", Text.ofNat given]
  | .missing method param =>
    Text.concat [method, " missing required param ", param.inApostrophes]
  | .mismatch method param issues =>
    Text.concat [method, " param ", param.inApostrophes, ": ", report issues]
  | .notJson method issues =>
    Text.concat [method.spoken?.getD tooLargeMessage, " params are not JSON values: ",
      report issues]

end InvalidParams

/-- Why arguments have no wire form. -/
inductive ParamsFault
  | invalid (cause : InvalidParams)
  /-- The shape of a parameter holds a value of this type, by which it cannot be looked up. -/
  | unhashable (typeName : Text)

namespace Method

/-! ### Parameters -/

def encodeArgument (m : Method) (p : Param) (value : Value) : Except ParamsFault Json :=
  if p.optional ∧ p.shape.isQualified then .error (.unhashable "dict")
  else
    match p.argument.decode .caller value with
    | .error issues => .error (.invalid (.mismatch m.name p.name issues))
    | .ok typed     => .ok (p.argument.encode typed)

/-- The wire form of a parameter without an argument. -/
def encodeAbsent (m : Method) (p : Param) : Except ParamsFault Json :=
  if p.optional then .ok .null else .error (.invalid (.missing m.name p.name))

/-- The wire forms of all parameters, null standing for absent ones. -/
def encodeAll (m : Method) : List Param → List Value → Except ParamsFault (List (Param × Json))
  | [], _ => .ok []
  | p :: ps, [] => do
    let j ← m.encodeAbsent p
    return (p, j) :: (← m.encodeAll ps [])
  | p :: ps, value :: values => do
    let j ← m.encodeArgument p value
    return (p, j) :: (← m.encodeAll ps values)

/-- Leaves out the nulls of optional parameters at the end. -/
def trimmed : List (Param × Json) → List Json
  | [] => []
  | (p, j) :: rest =>
    match trimmed rest with
    | [] => if p.optional ∧ j = .null then [] else [j]
    | js => j :: js

/-- The wire form of the arguments of a call. -/
def encodeParams (m : Method) (args : List Value) : Except ParamsFault (List Json) :=
  if m.params.length < args.length then
    .error (.invalid (.tooMany m.name m.params.length args.length))
  else (m.encodeAll m.params args).map trimmed

/-! ### Results -/

def decodeResult (m : Method) (value : Value) : Checked Value :=
  m.result.decode .wire value

def encodeResult (m : Method) (value : Value) : Json :=
  m.result.encode value

end Method

end ChainRpc
