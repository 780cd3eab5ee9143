import ChainRpc.Text.Printable

/-!
# Quoted text

Messages quote texts and byte strings so that each is shown on one line and can be read back: between
apostrophes, or between quotation marks where the text holds an apostrophe and no quotation mark.
-/

namespace ChainRpc

/-- A code point by its number, in the shortest of the three hexadecimal forms. -/
def CodePoint.escaped (c : CodePoint) : Text :=
  if c < 0x100 then "\\x" ++ Text.hexPadded 2 c
  else if c < 0x10000 then "\\u" ++ Text.hexPadded 4 c
  else "\\U" ++ Text.hexPadded 8 c

/-- A code point between two marks: the mark, the backslash and what cannot be shown are escaped. -/
def CodePoint.quoted (mark c : CodePoint) (isShown : CodePoint → Bool) : Text :=
  if c = mark ∨ c = backslash then [backslash, c]
  else if c = tab then "\\t"
  else if c = newline then "\\n"
  else if c = carriageReturn then "\\r"
  else if isShown c then [c]
  else c.escaped

namespace Text

/-- The mark put around a text: a quotation mark only where that saves an escape. -/
def mark (t : Text) : CodePoint :=
  if CodePoint.apostrophe ∈ t ∧ CodePoint.quote ∉ t then .quote else .apostrophe

def quoted (t : Text) : Text :=
  t.mark :: t.flatMap (CodePoint.quoted t.mark · CodePoint.isPrintable) ++ [t.mark]

/-- The text of a byte string between marks, of which one is escaped inside. Bytes outside ASCII are
escaped too. -/
def quotedBytes (mark escaped : CodePoint) (b : Bytes) : Text :=
  let isShown (c : CodePoint) : Bool := c.Between 0x20 0x7E
  let body := b.flatMap fun byte => CodePoint.quoted escaped byte.toNat isShown
  Text.concat ["b", [mark], body, [mark]]

def markOfBytes (b : Bytes) : CodePoint :=
  mark (b.map UInt8.toNat)

def ofBytes (b : Bytes) : Text :=
  quotedBytes (markOfBytes b) (markOfBytes b) b

/-- A mutable byte string: apostrophes are escaped between marks of either kind. -/
def ofMutableBytes (b : Bytes) : Text :=
  Text.concat ["bytearray(", quotedBytes (markOfBytes b) .apostrophe b, ")"]

end Text

end ChainRpc
