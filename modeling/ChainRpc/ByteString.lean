import ChainRpc.Binary64.Shortest
import ChainRpc.Hex
import ChainRpc.Malformed

/-!
# Byte strings

A byte string travels as `0x` and two hexadecimal digits to a byte. Callers may also give the bytes
themselves. Hashes and other byte strings of a fixed size are checked for it.
-/

namespace ChainRpc.ByteString

def encode (b : Bytes) : Text :=
  Hex.mark ++ Hex.encode b

/-- The wire form of a value, if it has one; that of a floating-point number is its exact text. -/
def encodeValue? : Value → Option Text
  | .bytes b | .buffer b => some (encode b)
  | .float x => some (Hex.mark ++ x.hexText)
  | _ => none

/-- The byte string that a text spells. -/
def decodeText (t : Text) : Except Refusal Bytes :=
  match Hex.unmarked? t with
  | none => (Malformed.unmarked .bytes t).refuse
  | some digits =>
    if digits.length % 2 = 1 then (Malformed.oddLength t).refuse
    else
      match Hex.decode? digits with
      | none   => (Malformed.notHexBytes t).refuse
      | some b => .ok b

/-- The byte string that a value stands for: a text that spells it or the bytes themselves. -/
def decode (value : Value) : Except Refusal Bytes :=
  match value with
  | .bytes b | .buffer b => .ok b
  | .str t => decodeText t
  | value  => (Malformed.notText .bytes value).refuse

def decodeFixed (size : Int) (value : Value) : Except Refusal Bytes := do
  let b ← decode value
  if b.length = size then return b else (Malformed.wrongSize size b.length value).refuse

end ChainRpc.ByteString
