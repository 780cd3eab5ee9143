import ChainRpc.Hex
import ChainRpc.Text.Utf8

/-!
# Quoting in URLs

A URL is ASCII. Every part of it has code points that stand for themselves; any other is given by its
bytes in UTF-8, each as a percent sign and two hexadecimal digits. A percent sign stands for itself, so
what is quoted already stays as it is.
-/

namespace ChainRpc.Http.Url

/-- The parts of a URL in which quoting differs. -/
inductive Part
  | user | host | path | query | fragment
  deriving DecidableEq, Repr

namespace Part

/-- Visible ASCII without some code points. -/
def visibleBut (excluded : Text) (c : CodePoint) : Bool :=
  c.Between 0x21 0x7E && !excluded.contains c

/-- Letters without marks, digits, and four signs. -/
def isUnreserved (c : CodePoint) : Bool :=
  c.Between 65 90 || c.Between 97 122 || c.IsDigit || (Text.ofString "-._~").contains c

/-- The code point stands for itself in a part. -/
def admits : Part → CodePoint → Bool
  | .fragment, c => visibleBut "\"<>`" c
  | .query, c    => visibleBut "\"#<>" c
  | .path, c     => visibleBut "\"#<>?`\x7b\x7d" c
  | .user, c     => visibleBut "\"#<>?`\x7b\x7d/;=@[\\]^|" c
  | .host, c     => isUnreserved c || (Text.ofString "!$&'()*+,;=\"`\x7b\x7d%|\\").contains c

end Part

abbrev percent : CodePoint := 37

def quotedByte (b : UInt8) : Text :=
  let digits := (Text.hexPadded 2 b.toNat).map fun d => if d.Between 97 102 then d - 32 else d
  percent :: digits

/-- A code point in a part of a URL. A surrogate has no bytes. -/
def quotedPoint (part : Part) (c : CodePoint) : Except Unencodable Text :=
  if part.admits c then .ok [c]
  else (Utf8.encode [c]).map fun bytes => bytes.flatMap quotedByte

def quote (part : Part) (t : Text) : Except Unencodable Text :=
  (t.mapM (quotedPoint part)).map List.flatten

/-- The bytes that a quoted text stands for. A percent sign that no two digits follow stands for
itself. -/
def unquote : Text → Bytes
  | c :: high :: low :: rest =>
    match decide (c = percent), high.hexValue?, low.hexValue? with
    | true, some h, some l => UInt8.ofNat (h * 16 + l) :: unquote rest
    | _, _, _ => UInt8.ofNat c :: unquote (high :: low :: rest)
  | c :: rest => UInt8.ofNat c :: unquote rest
  | [] => []

end ChainRpc.Http.Url
