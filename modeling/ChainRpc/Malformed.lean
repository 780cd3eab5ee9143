import ChainRpc.Value.Shown

/-!
# Malformed primitives

Integers and byte strings travel as hexadecimal text behind `0x`. A value that is neither such a text
nor already decoded is malformed, for one of a few causes. Most complaints quote the value, so where
it holds an integer beyond the digit limit there is no text for them and the refusal says that.
-/

namespace ChainRpc

/-- The kinds of primitives, as messages name them. -/
inductive PrimitiveKind
  | uint (width : Int)
  | fixed (size : Nat)
  | bytes
  deriving DecidableEq, Repr

def PrimitiveKind.name : PrimitiveKind → Text
  | .uint width => "Uint" ++ Text.ofInt width
  | .fixed size => "Byte" ++ Text.ofNat size
  | .bytes      => "bytes"

/-- Why a value is no primitive of a kind. -/
inductive Malformed
  | boolean (kind : PrimitiveKind)
  | notText (kind : PrimitiveKind) (value : Value)
  | notTextOnWire (kind : PrimitiveKind) (value : Value)
  | unmarked (kind : PrimitiveKind) (text : Text)
  | notHexNumber (kind : PrimitiveKind) (text : Text)
  | leadingZeros (kind : PrimitiveKind) (text : Text)
  | outOfRange (kind : PrimitiveKind) (value : Value)
  | oddLength (text : Text)
  | notHexBytes (text : Text)
  | wrongSize (expected : Int) (actual : Nat) (value : Value)

/-- The complaint, if the value and the size that it quotes can be shown. -/
def Malformed.message? : Malformed → Option Text
  | .boolean kind => some (kind.name ++ " cannot be a boolean")
  | .notText kind value =>
    some (Text.concat [kind.name, " must be a hex string, got ", value.typeName])
  | .notTextOnWire kind value =>
    some (Text.concat [kind.name, " must be a hex string on the wire, got ", value.typeName])
  | .unmarked kind text => some (Text.concat [kind.name, " must start with '0x': ", text.quoted])
  | .notHexNumber kind text =>
    some (Text.concat [kind.name, " is not a hex number: ", text.quoted])
  | .leadingZeros kind text =>
    some (Text.concat [kind.name, " has redundant leading zeros: ", text.quoted])
  | .outOfRange kind value =>
    value.shown?.map fun shown => Text.concat [kind.name, " out of range: ", shown]
  | .oddLength text =>
    some (Text.concat ["bytes must have an even number of hex digits: ", text.quoted])
  | .notHexBytes text => some (Text.concat ["bytes contain non-hex characters: ", text.quoted])
  | .wrongSize expected actual value => do
    let size ← decimal? expected
    let shown ← value.shown?
    return Text.concat ["expected ", size, " bytes, got ", Text.ofNat actual, ": ", shown]

/-- How a decoder refuses a value. -/
inductive Refusal
  | malformed (cause : Malformed)
  /-- The complaint would quote an integer beyond the digit limit. -/
  | tooLarge
  /-- A width below zero has no range. -/
  | negativeWidth
  /-- The bound of a width has more digits than an integer can have. -/
  | tooWide

def Refusal.message : Refusal → Text
  | .malformed cause => cause.message?.getD tooLargeMessage
  | .tooLarge        => tooLargeMessage
  | .negativeWidth   => "negative shift count"
  | .tooWide         => "too many digits in integer"

/-- Refuses a value: for the cause, if its complaint has a text. -/
def Malformed.refuse {α : Type} (cause : Malformed) : Except Refusal α :=
  .error (if cause.message?.isSome then .malformed cause else .tooLarge)

end ChainRpc
