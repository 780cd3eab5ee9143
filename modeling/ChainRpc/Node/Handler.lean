import ChainRpc.Binary64.Sum
import ChainRpc.Fault

/-!
# Handlers of a node

A handler answers the requests for a method. It is called with the parameters in order, as a plain
function or as a coroutine: a coroutine starts only once the call has been accepted, so what goes wrong
in its body is not taken for a wrong call.
-/

namespace ChainRpc

/-! ### Errors -/

structure NodeError where
  code : Value
  message : Value
  data : Value := .null

namespace NodeError

def of (code : Int) (message : Text) (data : Value := .null) : NodeError :=
  ⟨.int code, .str message, data⟩

/-- The text of an error, unless it would show an integer beyond the digit limit. -/
def text? (e : NodeError) : Option Text := do
  return Text.concat ["[", ← e.code.spoken?, "] ", ← e.message.spoken?]

/-- The error object that an error stands for. Its parts are checked only now. -/
def toErrorObject (e : NodeError) : Checked ErrorObject :=
  ErrorObject.ofEntries [("code", e.code), ("message", e.message), ("data", e.data)]

def toJson (e : NodeError) : Except Fault Json :=
  match e.toErrorObject with
  | .error issues => .error (.invalid issues)
  | .ok object    => .ok object.toJson

end NodeError

/-! ### Handlers -/

/-- What the body of a handler can end with besides a value. -/
inductive Raised
  | nodeError (e : NodeError)
  /-- An operation met a value of a wrong type. -/
  | typeError (text : Text)
  | other (text : Text)

/-- An error of a node, or the digit limit where the error has no text. -/
def Raised.ofNodeError (e : NodeError) : Raised :=
  if e.text?.isSome then .nodeError e else .other tooLargeMessage

/-- What answers the requests for a method. -/
structure Handler where
  name : Text
  signature : Signature
  isCoroutine : Bool := false
  body : List Value → Except Raised Value

inductive Handler.Result
  | value (v : Value)
  | error (e : NodeError)
  | crashed (text : Text)

namespace Handler

/-- The error for a call that was not accepted. -/
def rejected (reason : Text) : Result :=
  .error (.of ErrorCode.invalidParams "Invalid params" (.dict [("reason", .str reason)]))

/-- Calls a handler with parameters. -/
def run (h : Handler) (params : List Value) : Result :=
  match h.signature.bind params [] with
  | .error fault => rejected fault.message
  | .ok args =>
    match h.body args with
    | .ok v => .value v
    | .error (.nodeError e) => .error e
    | .error (.typeError text) => if h.isCoroutine then .crashed text else rejected text
    | .error (.other text) => .crashed text

/-- The signature of a function that takes any number of parameters. -/
def anyParams (name : Text) : Signature := { label := name, params := [], variadic := true }

def constant (name : Text) (v : Value) : Handler where
  name := name
  signature := anyParams name
  body _ := .ok v

def failing (name : Text) (e : NodeError) : Handler where
  name := name
  signature := anyParams name
  body _ := .error (.ofNodeError e)

/-! ### Ready-made handlers -/

/-- Answers with the list of its parameters. -/
def echo : Handler where
  name := "echo"
  signature := anyParams "echo"
  body params := .ok (.list params)

/-- Answers with its two parameters in reverse. -/
def pair : Handler where
  name := "pair"
  signature := { label := "pair", params := [("a", none), ("b", none)] }
  body params := .ok (.list params.reverse)

/-- Answers with its parameters by name; the second one may be left out. -/
def opt : Handler where
  name := "opt"
  signature := { label := "opt", params := [("a", none), ("b", some .null)] }
  body params := .ok (.dict ((["a", "b"] : List Text).zip params))

/-- A value plus one, for numbers and truth values only. -/
def successor : Value → Except Raised Value
  | .int n   => .ok (.int (n + 1))
  | .bool b  => .ok (.int (b.toNat + 1))
  | .float x => .ok (.float (x.addInt 1))
  | .str _   => .error (.typeError "can only concatenate str (not \"int\") to str")
  | .list _  => .error (.typeError "can only concatenate list (not \"int\") to list")
  | v => .error (.typeError
      (Text.concat ["unsupported operand type(s) for +: ", v.typeName.inApostrophes, " and 'int'"]))

def addOne : Handler where
  name := "add_one"
  signature := { label := "add_one", params := [("x", none)] }
  body params := successor (params.headD .null)

def boom : Handler where
  name := "boom"
  signature := anyParams "boom"
  body _ := .error (.other "boom")

def missingKey : Handler where
  name := "missing_key"
  signature := anyParams "missing_key"
  body _ := .error (.other "'missing'")

/-- Answers with the error that its parameters describe. -/
def nodeError : Handler where
  name := "node_error"
  signature :=
    { label := "node_error", params := [("code", none), ("message", none), ("data", some .null)] }
  body
    | [code, message, data] => .error (.ofNodeError ⟨code, message, data⟩)
    | _ => .ok .null

/-- The coroutine that does what a function does. -/
def suspended (h : Handler) : Handler :=
  let name := "async_" ++ h.name
  { h with name := name, signature := { h.signature with label := name }, isCoroutine := true }

def readyMade : List Handler :=
  [echo, pair, opt, addOne, boom, missingKey, nodeError, echo.suspended, addOne.suspended,
    nodeError.suspended]

def named? (name : Text) : Option Handler :=
  readyMade.find? (·.name == name)

end Handler

end ChainRpc
