import ChainRpc.Text.Utf8
import ChainRpc.Text.Wide

/-!
# Which encoding a body has

A byte order mark decides. Without one, JSON starts with two ASCII characters, so the zeros among
the first four bytes tell the width and the order of the units.
-/

namespace ChainRpc.Encoded

/-- Where the zeros among the first bytes put a body without a byte order mark. -/
def codec : Bytes → Codec
  | a :: b :: c :: d :: _ =>
    if a = 0 then (if b = 0 then .utf32be else .utf16be)
    else if b = 0 then (if c = 0 ∧ d = 0 then .utf32le else .utf16le)
    else .utf8
  | [a, b] => if a = 0 then .utf16be else if b = 0 then .utf16le else .utf8
  | _ => .utf8

/-- The text of a body in a known encoding, `position` bytes having been read already. -/
def decodeAs (position : Nat) : Codec → Bytes → Except Undecodable Text
  | .utf8    => Utf8.decodeAll
  | .utf16le => Utf16.decode .little position
  | .utf16be => Utf16.decode .big position
  | .utf32le => Utf32.decode .little position
  | .utf32be => Utf32.decode .big position

/-- The text of a body. Positions count the bytes of a two- or four-byte mark, and start after the
mark of UTF-8. -/
def decode : Bytes → Except Undecodable Text
  | 0x00 :: 0x00 :: 0xFE :: 0xFF :: rest => decodeAs 4 .utf32be rest
  | 0xFF :: 0xFE :: 0x00 :: 0x00 :: rest => decodeAs 4 .utf32le rest
  | 0xFE :: 0xFF :: rest                 => decodeAs 2 .utf16be rest
  | 0xFF :: 0xFE :: rest                 => decodeAs 2 .utf16le rest
  | 0xEF :: 0xBB :: 0xBF :: rest         => decodeAs 0 .utf8 rest
  | raw                                  => decodeAs 0 (codec raw) raw

end ChainRpc.Encoded
