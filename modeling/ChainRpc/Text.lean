/-!
# Text

A text is a list of Unicode code points. Unlike `String` it may hold lone surrogates, which JSON
escapes can spell and which every layer of the library has to carry or to refuse explicitly.
-/

namespace ChainRpc

-- Powers of numbers are those of the core library, also where an algebra library is in sight.
attribute [default_instance high, instance (high)] instPowNat

/-- A Unicode code point, surrogates included. -/
abbrev CodePoint := Nat

abbrev Text := List CodePoint

abbrev Bytes := List UInt8

/-! ### Code points -/

namespace CodePoint

@[match_pattern] abbrev backspace : CodePoint := 8
@[match_pattern] abbrev tab : CodePoint := 9
@[match_pattern] abbrev newline : CodePoint := 10
@[match_pattern] abbrev formFeed : CodePoint := 12
@[match_pattern] abbrev carriageReturn : CodePoint := 13
@[match_pattern] abbrev space : CodePoint := 32
@[match_pattern] abbrev quote : CodePoint := 34
@[match_pattern] abbrev apostrophe : CodePoint := 39
@[match_pattern] abbrev plus : CodePoint := 43
@[match_pattern] abbrev comma : CodePoint := 44
@[match_pattern] abbrev minus : CodePoint := 45
@[match_pattern] abbrev point : CodePoint := 46
@[match_pattern] abbrev slash : CodePoint := 47
@[match_pattern] abbrev zero : CodePoint := 48
@[match_pattern] abbrev colon : CodePoint := 58
@[match_pattern] abbrev openBracket : CodePoint := 91
@[match_pattern] abbrev backslash : CodePoint := 92
@[match_pattern] abbrev closeBracket : CodePoint := 93
@[match_pattern] abbrev underscore : CodePoint := 95
@[match_pattern] abbrev letterU : CodePoint := 117
@[match_pattern] abbrev openBrace : CodePoint := 123
@[match_pattern] abbrev closeBrace : CodePoint := 125

/-- The code point lies between two others, both included. -/
abbrev Between (c low high : CodePoint) : Prop := low ≤ c ∧ c ≤ high

/-- The first half of a surrogate pair. -/
abbrev IsHighSurrogate (c : CodePoint) : Prop := c.Between 0xD800 0xDBFF

abbrev IsLowSurrogate (c : CodePoint) : Prop := c.Between 0xDC00 0xDFFF

abbrev IsSurrogate (c : CodePoint) : Prop := c.Between 0xD800 0xDFFF

/-- A character: a code point within the range of Unicode that is no half of a surrogate pair. -/
abbrev IsScalar (c : CodePoint) : Prop := c < 0x110000 ∧ ¬ c.IsSurrogate

abbrev IsDigit (c : CodePoint) : Prop := c.Between 48 57

def hexValue? (c : CodePoint) : Option Nat :=
  if c.Between 48 57 then some (c - 48)
  else if c.Between 97 102 then some (c - 87)
  else if c.Between 65 70 then some (c - 55)
  else none

def ofPair (high low : CodePoint) : CodePoint :=
  0x10000 + (high - 0xD800) * 0x400 + (low - 0xDC00)

end CodePoint

/-! ### Building texts -/

namespace Text

def ofString (s : String) : Text :=
  s.toList.map Char.toNat

instance : Coe String Text := ⟨ofString⟩

/-- Texts one after the other. -/
def concat (parts : List Text) : Text :=
  parts.flatten

def joined (separator : Text) (parts : List Text) : Text :=
  parts.intersperse separator |>.flatten

def inApostrophes (t : Text) : Text :=
  Text.concat ["'", t, "'"]

def ofNat (n : Nat) : Text :=
  (Nat.toDigits 10 n).map Char.toNat

def ofInt : Int → Text
  | .ofNat n => ofNat n
  | .negSucc n => CodePoint.minus :: ofNat (n + 1)

/-- Lower-case hexadecimal digits of a natural number, without leading zeros. -/
def hexOfNat (n : Nat) : Text :=
  (Nat.toDigits 16 n).map Char.toNat

def hexPadded (width n : Nat) : Text :=
  List.replicate (width - (hexOfNat n).length) CodePoint.zero ++ hexOfNat n

/-! ### Looking at texts -/

instance (t : Text) (texts : List Text) : Decidable (t ∈ texts) :=
  List.instDecidableMemOfLawfulBEq t texts

/-- All code points of the text are characters, so the text has a UTF-8 form. -/
abbrev IsScalar (t : Text) : Prop := ∀ c ∈ t, c.IsScalar

def toString? (t : Text) : Option String :=
  if t.IsScalar then some (String.ofList (t.map Char.ofNat)) else none

/-- The text without the spaces at its two ends, for a given notion of space. -/
def trimmed (isSpace : CodePoint → Bool) (t : Text) : Text :=
  (t.dropWhile isSpace).reverse.dropWhile isSpace |>.reverse

/-- The text with every half of a surrogate pair given by three replacement characters, one for each
byte that the half would take in UTF-8. -/
def legible (t : Text) : Text :=
  t.flatMap fun c => if c.IsSurrogate then List.replicate 3 0xFFFD else [c]

def digitsValue (t : Text) : Nat :=
  t.foldl (fun n c => n * 10 + (c - 48)) 0

@[simp] theorem digitsValue_ofNat (n : Nat) : digitsValue (ofNat n) = n := by
  have h (cs : List Char) (m : Nat) :
      (cs.map Char.toNat).foldl (fun n c => n * 10 + (c - 48)) m = Nat.ofDigitChars 10 cs m := by
    induction cs generalizing m with
    | nil => rfl
    | cons c rest ih =>
      rw [List.map_cons, List.foldl_cons, ih, Nat.mul_comm]
      rfl
  rw [digitsValue, ofNat, h, Nat.ofDigitChars_toDigits (by decide) (by decide)]

/-- A word with `s` where it is not said of one thing. -/
def plural (n : Nat) (word : Text) : Text :=
  if n = 1 then word else word ++ ("s" : Text)

end Text

end ChainRpc
