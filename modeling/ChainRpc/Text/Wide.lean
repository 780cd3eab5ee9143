import ChainRpc.Text.Codec

/-!
# UTF-16 and UTF-32

Units of two or four bytes in either order. A surrogate that is no half of a pair is read as it
stands, so the only faults are a unit cut short at the end and, in UTF-32, a number above the
Unicode range.
-/

namespace ChainRpc

inductive ByteOrder
  | little | big
  deriving DecidableEq, Repr

namespace Utf16

def codec : ByteOrder → Codec
  | .little => .utf16le
  | .big    => .utf16be

def unit : ByteOrder → UInt8 → UInt8 → Nat
  | .little, a, b => a.toNat + b.toNat * 0x100
  | .big,    a, b => a.toNat * 0x100 + b.toNat

/-- The units of a body, `position` bytes having been read already. -/
def units (order : ByteOrder) (position : Nat) : Bytes → Except Undecodable (List Nat)
  | [] => .ok []
  | [a] => .error ⟨codec order, a, position, 1, .truncated⟩
  | a :: b :: rest => do return unit order a b :: (← units order (position + 2) rest)

def pair : List Nat → Text
  | [] => []
  | [u] => [u]
  | u :: v :: rest =>
    if CodePoint.IsHighSurrogate u ∧ CodePoint.IsLowSurrogate v then CodePoint.ofPair u v :: pair rest
    else u :: pair (v :: rest)

/-- The text that the bytes encode, `position` bytes having been read already. -/
def decode (order : ByteOrder) (position : Nat) (raw : Bytes) : Except Undecodable Text :=
  return pair (← units order position raw)

end Utf16

namespace Utf32

def codec : ByteOrder → Codec
  | .little => .utf32le
  | .big    => .utf32be

def unit : ByteOrder → UInt8 → UInt8 → UInt8 → UInt8 → Nat
  | .little, a, b, c, d => Utf16.unit .little a b + Utf16.unit .little c d * 0x10000
  | .big,    a, b, c, d => Utf16.unit .big a b * 0x10000 + Utf16.unit .big c d

def decode (order : ByteOrder) (position : Nat) : Bytes → Except Undecodable Text
  | a :: b :: c :: d :: rest =>
    if unit order a b c d < 0x110000 then do
      return unit order a b c d :: (← decode order (position + 4) rest)
    else .error ⟨codec order, a, position, 4, .outOfRange⟩
  | [] => .ok []
  | a :: rest => .error ⟨codec order, a, position, 1 + rest.length, .truncated⟩

end Utf32

end ChainRpc
