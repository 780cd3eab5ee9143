import ChainRpc.Text.Codec

/-!
# UTF-8

Decoding runs a machine over the bytes, which is either between two characters or inside one.
It refuses overlong forms and code points above the Unicode range; three-byte forms of surrogates
are read as such or refused, as the reader asks. Encoding refuses surrogates.
-/

namespace ChainRpc.Utf8

/-! ### Encoding -/

/-- The bytes of one code point, surrogates included. -/
def encodePoint (c : CodePoint) : Bytes :=
  let tail (n : Nat) : UInt8 := .ofNat (0x80 + n % 0x40)
  if c < 0x80 then [.ofNat c]
  else if c < 0x800 then [.ofNat (0xC0 + c / 0x40), tail c]
  else if c < 0x10000 then [.ofNat (0xE0 + c / 0x1000), tail (c / 0x40), tail c]
  else [.ofNat (0xF0 + c / 0x40000), tail (c / 0x1000), tail (c / 0x40), tail c]

def encodeAll (t : Text) : Bytes :=
  t.flatMap encodePoint

/-- The first run of surrogates in a text, counting positions from `start`. -/
def firstSurrogates (start : Nat) : Text → Option Unencodable
  | [] => none
  | c :: rest =>
    if c.IsSurrogate then
      some ⟨c, start, 1 + (rest.takeWhile (fun d => decide d.IsSurrogate)).length⟩
    else firstSurrogates (start + 1) rest

def encode (t : Text) : Except Unencodable Bytes :=
  match firstSurrogates 0 t with
  | some fault => .error fault
  | none       => .ok (encodeAll t)

/-! ### Decoding -/

/-- A character of which at least one byte has been read and at least one is missing. -/
structure Pending where
  first : UInt8
  /-- How many bytes have been read. -/
  seen : Nat
  /-- How many bytes are missing after the next one. -/
  later : Nat
  low : Nat
  high : Nat
  /-- The bits read so far. -/
  value : Nat

/-- What the first byte of a character says of the rest, `surrogates` telling whether forms of
surrogates are to be read. -/
def Pending.ofFirst? (surrogates : Bool) (b : UInt8) : Option Pending :=
  let n := b.toNat
  if n < 0xC2 then none
  else if n < 0xE0 then some ⟨b, 1, 0, 0x80, 0xBF, n - 0xC0⟩
  else if n = 0xE0 then some ⟨b, 1, 1, 0xA0, 0xBF, 0⟩
  else if n = 0xED ∧ surrogates = false then some ⟨b, 1, 1, 0x80, 0x9F, 0xD⟩
  else if n < 0xF0 then some ⟨b, 1, 1, 0x80, 0xBF, n - 0xE0⟩
  else if n = 0xF0 then some ⟨b, 1, 2, 0x90, 0xBF, 0⟩
  else if n < 0xF4 then some ⟨b, 1, 2, 0x80, 0xBF, n - 0xF0⟩
  else if n = 0xF4 then some ⟨b, 1, 2, 0x80, 0x8F, 4⟩
  else none

/-- The bits read so far can only become a surrogate. -/
abbrev Pending.IsSurrogate (p : Pending) : Prop :=
  p.seen = 2 ∧ p.later = 0 ∧ 0x360 ≤ p.value ∧ p.value ≤ 0x37F

/-- The fault of a character that stops short at `position`. The two first bytes of a surrogate
count as a wrong continuation of the first one. -/
def Pending.fault (p : Pending) (position : Nat) (reason : Undecodable.Reason) : Undecodable :=
  let start := position - p.seen
  if p.IsSurrogate then ⟨.utf8, p.first, start, 1, .invalidContinuation⟩
  else ⟨.utf8, p.first, start, p.seen, reason⟩

/-- Reads on from between two characters (`none`) or from inside one, `position` bytes having been
read already and `read` being the code points found so far, last first. -/
def decodeFrom (surrogates : Bool) :
    Option Pending → (position : Nat) → (read : Text) → Bytes → Except Undecodable Text
  | none, _, read, [] => .ok read.reverse
  | some p, position, _, [] => .error (p.fault position .unexpectedEnd)
  | none, position, read, b :: rest =>
    if b < 0x80 then decodeFrom surrogates none (position + 1) (b.toNat :: read) rest
    else match Pending.ofFirst? surrogates b with
      | none => .error ⟨.utf8, b, position, 1, .invalidStart⟩
      | some p => decodeFrom surrogates (some p) (position + 1) read rest
  | some p, position, read, b :: rest =>
    if p.low ≤ b.toNat ∧ b.toNat ≤ p.high then
      let value := p.value * 0x40 + b.toNat % 0x40
      match p.later with
      | 0 => decodeFrom surrogates none (position + 1) (value :: read) rest
      | later + 1 =>
        decodeFrom surrogates (some ⟨p.first, p.seen + 1, later, 0x80, 0xBF, value⟩)
          (position + 1) read rest
    else .error (p.fault position .invalidContinuation)

def decode (raw : Bytes) : Except Undecodable Text :=
  decodeFrom false none 0 [] raw

/-- The text that the bytes encode, three-byte forms of surrogates being read as such. -/
def decodeAll (raw : Bytes) : Except Undecodable Text :=
  decodeFrom true none 0 [] raw

/-- The text that the bytes encode, with a replacement character for every run that encodes none. -/
def decodeReplacing (raw : Bytes) : Text :=
  match decode raw with
  | .ok t => t
  | .error fault =>
    if raw = [] then []
    else
      let before := (decode (raw.take fault.start)).toOption.getD []
      before ++ 0xFFFD :: decodeReplacing (raw.drop (fault.start + max 1 fault.width))
termination_by raw.length
decreasing_by
  simp only [List.length_drop]
  have := List.length_pos_iff.mpr ‹raw ≠ []›
  omega

end ChainRpc.Utf8
