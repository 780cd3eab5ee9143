import ChainRpc.Binary64
import ChainRpc.Issue
import ChainRpc.Text.Blank
import ChainRpc.Text.Utf8

/-!
# Lenient integers and texts

The members of envelopes are read leniently. An integer may be given as a truth value, as a
floating-point number without a fraction, or as decimal text; a text may be given as its UTF-8 bytes.
-/

namespace ChainRpc.Lenient

/-! ### Decimal text of an integer -/

/-- Drops the zeros that a number starts with, and the low lines among them, but keeps one zero where
no other digit follows. A minus sign behind them ends them like a digit. -/
def dropZeros : (previous : CodePoint) → Text → Option Text
  | previous, [] => some [previous]
  | previous, c :: rest =>
    if c = .zero ∨ c = .underscore then dropZeros c rest
    else if c.IsDigit ∨ c = .minus then some (c :: rest)
    else if c = .point then some (previous :: c :: rest)
    else none

/-- The text of a number without the zeros it starts with. Only a digit or a minus sign may come
first. -/
def withoutZeros? : Text → Option Text
  | [] => none
  | c :: rest =>
    if c = .zero then dropZeros .zero rest
    else if c.IsDigit ∨ c = .minus then some (c :: rest)
    else none

/-- The text of a signed number without the zeros behind its sign; a plus sign is dropped. -/
def withoutSignedZeros? : Text → Option Text
  | .plus :: .minus :: _ => none
  | .plus :: rest        => withoutZeros? rest
  | .minus :: rest       => (withoutZeros? rest).map (CodePoint.minus :: ·)
  | t                    => withoutZeros? t

/-- Drops a decimal point and the zeros behind it, if there are zeros and nothing else. -/
def withoutFraction (t : Text) : Text :=
  let (whole, tail) := t.span (· != CodePoint.point)
  if 1 < tail.length ∧ (tail.drop 1).all (· == CodePoint.zero) then whole else t

/-- Two low lines stand next to each other. -/
def hasDoubleLine : Text → Bool
  | .underscore :: .underscore :: _ => true
  | _ :: rest => hasDoubleLine rest
  | [] => false

/-- Drops low lines, if none stands at an end or next to another. -/
def withoutLines (t : Text) : Text :=
  if t.head? = some CodePoint.underscore ∨ t.getLast? = some CodePoint.underscore ∨
      hasDoubleLine t = true then t
  else t.filter (· != CodePoint.underscore)

/-- The integer that plain digits spell, after a minus sign or none. They start with a zero only if
it is alone. The digit limit goes before whatever stands behind the digits. -/
def plainInt (t : Text) : Except Cause Int :=
  let (sign, unsigned) := t.span (· == CodePoint.minus)
  let (digits, rest) := unsigned.span fun c => decide c.IsDigit
  if 1 < sign.length ∨ digits = [] then .error .notIntText
  else if digits.head? = some CodePoint.zero ∧ 1 < unsigned.length then .error .notIntText
  else if digitLimit < digits.length then .error .tooLargeForInt
  else if rest ≠ [] then .error .notIntText
  else
    let n : Int := Text.digitsValue digits
    .ok (if sign = [] then n else -n)

/-- The integer that a text spells: with spaces around it, a sign, zeros in front, single low lines
between digits and a fraction of zeros. -/
def intOfText (t : Text) : Except Cause Int :=
  match withoutSignedZeros? (t.trimmed CodePoint.isWhiteSpace) with
  | none   => .error .notIntText
  | some t => plainInt (withoutLines (withoutFraction t))

/-! ### Integers and texts -/

/-- The integer that a floating-point number equals, within 64 bits. -/
def intOfFloat (x : Binary64) : Except Cause Int :=
  if ¬ x.isFinite then .error .notFinite
  else
    match x.toInt? with
    | none => .error .fraction
    | some n => if -2 ^ 63 < n ∧ n < 2 ^ 63 then .ok n else .error .tooLargeForInt

def int : Value → Except Cause Int
  | .int n   => .ok n
  | .bool b  => .ok b.toNat
  | .float x => intOfFloat x
  | .str t   => if t.IsScalar then intOfText t else .error .notUnicode
  | .bytes b =>
    match Utf8.decode b with
    | .ok t    => intOfText t
    | .error _ => .error .notIntText
  | _ => .error .notInt

def text : Value → Except Cause Text
  | .str t => .ok t
  | .bytes b | .buffer b =>
    match Utf8.decode b with
    | .ok t    => .ok t
    | .error _ => .error .notUnicode
  | _ => .error .notText

end ChainRpc.Lenient
