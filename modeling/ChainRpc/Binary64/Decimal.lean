import ChainRpc.Binary64
import ChainRpc.Text.Blank

/-!
# Reading decimal numerals

A numeral is an optional sign and either digits, with at most one decimal point among them and an
optional exponent, or the word for an infinity or for no number in any case. Spaces around it are
dropped, digits may be of any script, and a low line may stand between two digits.
-/

namespace ChainRpc.Binary64

/-- The number nearest to the one written by digits before and after the decimal point and an
exponent. -/
def ofDigits (negative : Bool) (whole fraction : Text) (exponent : Int) : Binary64 :=
  ofDecimal negative (Text.digitsValue (whole ++ fraction)) (exponent - fraction.length)

def splitSign : Text → Bool × Text
  | .minus :: rest => (true, rest)
  | .plus :: rest  => (false, rest)
  | t              => (false, t)

def splitDigits (t : Text) : Text × Text :=
  t.span fun c => decide c.IsDigit

/-- The exponent that a whole text stands for: none for the empty text. -/
def exponent? : Text → Option Int
  | [] => some 0
  | e :: rest =>
    let (negative, digits) := splitSign rest
    if (e = 'e'.toNat ∨ e = 'E'.toNat) ∧ digits ≠ [] ∧ ∀ c ∈ digits, c.IsDigit then
      some (if negative then -(Text.digitsValue digits : Int) else Text.digitsValue digits)
    else none

def ofUnsigned? (negative : Bool) (t : Text) : Option Binary64 :=
  let word := t.map fun c => if c.Between 65 90 then c + 32 else c
  if word = "inf" ∨ word = "infinity" then some (.infinite negative)
  else if word = "nan" then some .nan
  else
    let (whole, rest) := splitDigits t
    let (fraction, rest) := match rest with
      | .point :: rest => splitDigits rest
      | rest           => ([], rest)
    if whole = [] ∧ fraction = [] then none
    else (exponent? rest).map (ofDigits negative whole fraction)

/-- Drops the low lines that stand between two digits; none may stand elsewhere. -/
def dropLines? : Text → Option Text
  | [] => some []
  | [c] => if c = .underscore then none else some [c]
  | .underscore :: _ => none
  | c :: .underscore :: rest =>
    if c.IsDigit ∧ (rest.head?.any fun d => decide d.IsDigit) then
      (dropLines? rest).map (c :: ·)
    else none
  | c :: rest => (dropLines? rest).map (c :: ·)

/-- A digit of any script as the digit of the same value from `0` to `9`. -/
def asciiDigit (c : CodePoint) : CodePoint :=
  match CodePoint.digitValue? c with
  | some n => CodePoint.zero + n
  | none   => c

def ofText? (t : Text) : Option Binary64 := do
  let t ← dropLines? ((t.trimmed CodePoint.isWhiteSpace).map asciiDigit)
  let (negative, rest) := splitSign t
  ofUnsigned? negative rest

end ChainRpc.Binary64
