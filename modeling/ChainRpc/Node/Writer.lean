import ChainRpc.Binary64.Shortest
import ChainRpc.Fault
import ChainRpc.Json.Writer

/-!
# The text of an answer of a node

Answers hold whatever the handlers gave, so the writer refuses what is no JSON: byte strings, records,
numbers that JSON cannot write and integers beyond the digit limit. The first such value from left to
right is reported. Tuples are written as arrays.
-/

namespace ChainRpc.Node

def writerNesting : Nat := 990

def inBrackets (parts : List Text) : Text :=
  Text.concat [[.openBracket], Text.joined "," parts, [.closeBracket]]

mutual

/-- The text of a value, in which at most `depth` containers may be nested. -/
def writeValue : (depth : Nat) → Value → Except Unwritable Text
  | _, .null       => .ok "null"
  | _, .bool true  => .ok "true"
  | _, .bool false => .ok "false"
  | _, .int n =>
    match decimal? n with
    | some t => .ok t
    | none   => .error .tooLarge
  | _, .float x =>
    if x.isFinite then .ok (x.render Binary64.displayLayout) else .error .notFinite
  | _, .str t => .ok (Json.writeString t)
  | depth + 1, .list items  => (writeItems depth items).map inBrackets
  | depth + 1, .tuple items => (writeItems depth items).map inBrackets
  | depth + 1, .dict entries =>
    (writeEntries depth entries).map fun parts =>
      Text.concat [[.openBrace], Text.joined "," parts, [.closeBrace]]
  | 0, .list _ | 0, .tuple _ | 0, .dict _ => .error .tooDeep
  | _, .bytes b       => .error (.notJson (Value.bytes b).typeName)
  | _, .buffer b      => .error (.notJson (Value.buffer b).typeName)
  | _, .record cls fs => .error (.notJson (Value.record cls fs).typeName)
termination_by structural _ v => v

def writeItems : (depth : Nat) → List Value → Except Unwritable (List Text)
  | _, [] => .ok []
  | depth, item :: rest => do return (← writeValue depth item) :: (← writeItems depth rest)
termination_by structural _ items => items

def writeEntries : (depth : Nat) → List (Text × Value) → Except Unwritable (List Text)
  | _, [] => .ok []
  | depth, (name, value) :: rest => do
    let t ← writeValue depth value
    return (Json.writeString name ++ .colon :: t) :: (← writeEntries depth rest)
termination_by structural _ entries => entries

end

def writeBody (v : Value) : Except Unwritable Bytes := do
  let t ← writeValue writerNesting v
  (Utf8.encode t).mapError .surrogates

end ChainRpc.Node
