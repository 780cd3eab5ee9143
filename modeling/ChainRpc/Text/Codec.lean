import ChainRpc.Text

/-!
# Faults of the character encodings

Bytes that are no text in their encoding, and texts that have no bytes in it, are refused with a
position. A decoding fault points at bytes and an encoding fault at code points.
-/

namespace ChainRpc

inductive Codec
  | utf8 | utf16le | utf16be | utf32le | utf32be
  deriving DecidableEq, Repr

def Codec.name : Codec → Text
  | .utf8    => "utf-8"
  | .utf16le => "utf-16-le"
  | .utf16be => "utf-16-be"
  | .utf32le => "utf-32-le"
  | .utf32be => "utf-32-be"

inductive Undecodable.Reason
  | invalidStart | invalidContinuation | unexpectedEnd | truncated | outOfRange
  deriving DecidableEq, Repr

def Undecodable.Reason.message : Undecodable.Reason → Text
  | .invalidStart        => "invalid start byte"
  | .invalidContinuation => "invalid continuation byte"
  | .unexpectedEnd       => "unexpected end of data"
  | .truncated           => "truncated data"
  | .outOfRange          => "code point not in range(0x110000)"

/-- A run of bytes that encodes no code point. -/
structure Undecodable where
  codec : Codec
  first : UInt8
  /-- How many bytes come before the run. -/
  start : Nat
  width : Nat
  reason : Undecodable.Reason
  deriving DecidableEq, Repr

/-- A run of one byte is quoted, a longer one is given by its first and last position. -/
def Undecodable.message (f : Undecodable) : Text :=
  let place : Text :=
    if f.width = 1 then
      Text.concat ["byte 0x", Text.hexPadded 2 f.first.toNat, " in position ", Text.ofNat f.start]
    else
      Text.concat ["bytes in position ", Text.ofNat f.start, "-",
        Text.ofNat (f.start + f.width - 1)]
  Text.concat [f.codec.name.inApostrophes, " codec can't decode ", place, ": ", f.reason.message]

/-- A run of surrogates in a text that has to be written in UTF-8. -/
structure Unencodable where
  first : CodePoint
  /-- How many code points come before the run. -/
  start : Nat
  width : Nat
  deriving DecidableEq, Repr

def Unencodable.message (f : Unencodable) : Text :=
  let place : Text :=
    if f.width = 1 then
      Text.concat ["character '\\u", Text.hexPadded 4 f.first, "' in position ", Text.ofNat f.start]
    else
      Text.concat ["characters in position ", Text.ofNat f.start, "-",
        Text.ofNat (f.start + f.width - 1)]
  Text.concat ["'utf-8' codec can't encode ", place, ": surrogates not allowed"]

end ChainRpc
