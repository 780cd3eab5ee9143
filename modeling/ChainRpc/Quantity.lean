import ChainRpc.Hex
import ChainRpc.Malformed

/-!
# Quantities

An unsigned integer of a given width travels as `0x` and its hexadecimal digits without leading
zeros. Callers may also give the integer itself.
-/

namespace ChainRpc.Quantity

def encode (n : Nat) : Text :=
  Hex.mark ++ Text.hexOfNat n

/-- The wire form of an integer; a minus sign comes before the mark. -/
def encodeInt : Int → Text
  | .ofNat n   => encode n
  | .negSucc n => .minus :: encode (n + 1)

def encodeValue? : Value → Option Text
  | .int n  => some (encodeInt n)
  | .bool b => some (encode b.toNat)
  | _       => none

/-- A number of the width, the given value being what it was decoded from. -/
def checked (bits : Nat) (value : Value) (n : Int) : Except Refusal Nat :=
  if 0 ≤ n ∧ n < 2 ^ bits then .ok n.toNat else (Malformed.outOfRange (.uint bits) value).refuse

def spelled (kind : PrimitiveKind) (t : Text) : Except Refusal Nat :=
  match Hex.unmarked? t with
  | none => (Malformed.unmarked kind t).refuse
  | some digits =>
    if digits = [] ∨ ¬ Hex.IsDigits digits then (Malformed.notHexNumber kind t).refuse
    else if 1 < digits.length ∧ digits.head? = some CodePoint.zero then
      (Malformed.leadingZeros kind t).refuse
    else .ok (Hex.value digits)

/-- The integer that a value stands for, in any range: a text that spells it or the integer itself. -/
def integer (kind : PrimitiveKind) : Value → Except Refusal Int
  | .bool _ => (Malformed.boolean kind).refuse
  | .int n  => .ok n
  | .str t  => (spelled kind t).map Int.ofNat
  | value   => (Malformed.notText kind value).refuse

/-- The number that a value stands for at a width that has a bound, as those of the catalogue have. What comes
of it at any width is told by `decodeAt`. -/
def decode (bits : Nat) (value : Value) : Except Refusal Nat := do
  checked bits value (← integer (.uint bits) value)

/-- The widest width that has a bound. The bound takes a digit for every 30 bits and one more, and an integer
has at most 2305843009213693945 digits. -/
def widest : Nat := 30 * 2305843009213693944

/-- Why there is no first number beyond a width, if there is none. -/
def unbounded? (width : Int) : Option Refusal :=
  if width < 0 then some .negativeWidth else if widest < width then some .tooWide else none

/-- The number that a value stands for at any width. The kind is named first, which takes a width within the
digit limit. An integer below zero is out of every range; another one cannot be compared where there is no
bound. -/
def decodeAt (width : Int) (value : Value) : Except Refusal Nat :=
  if decimal? width = none then .error .tooLarge
  else
    match unbounded? width with
    | none         => decode width.toNat value
    | some refusal => do
      let n ← integer (.uint width) value
      if n < 0 then (Malformed.outOfRange (.uint width) value).refuse else .error refusal

end ChainRpc.Quantity
