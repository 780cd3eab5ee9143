import ChainRpc.Binary64

/-!
# The shortest decimal text of a number

Of the decimals that read back as a number, the text shows one with the fewest digits, and of those
the nearest to the number. It is found by trying the two neighbours of the number among the decimals
of one digit, of two digits, and so on; seventeen always suffice. How the digits are laid out is the
choice of each format.
-/

namespace ChainRpc.Binary64

/-! ### Digits -/

/-- The position of the decimal point of a positive quotient: the least `p` for which it is below
`10 ^ p`, searched upwards from a power below it. -/
def pointFrom : (fuel : Nat) → (num den : Nat) → Int → Int
  | 0, _, _, p => p
  | fuel + 1, num, den, p =>
    if num * 10 ^ (-p).toNat < den * 10 ^ p.toNat then p else pointFrom fuel num den (p + 1)

def pointOf (num den : Nat) : Int :=
  let bits : Int := (num.log2 : Int) - den.log2 - 1
  pointFrom 4 num den (Int.fdiv (bits * 30103) 100000 - 1)

/-- The decimal of `count` digits below and the one above a quotient that read back as a number,
nearest first; `grid` is the power of ten that the digits are counted in. -/
def candidates (x : Binary64) (num den : Nat) (grid : Int) : List Nat :=
  let n := num * 10 ^ (-grid).toNat
  let d := den * 10 ^ grid.toNat
  let q := n / d
  let near := nearestEven n d
  let far := if near = q then q + 1 else q
  [near, far].filter fun c => decide (ofDecimal false c grid = x)

/-- Tries decimals of more and more digits. Answers the digits and their power of ten. -/
def shortestFrom (x : Binary64) (num den : Nat) (point : Int) : (fuel count : Nat) → Nat × Int
  | 0, count => (num / den, -(count : Int))
  | fuel + 1, count =>
    match candidates x num den (point - count) with
    | c :: _ => (c, point - count)
    | []     => shortestFrom x num den point fuel (count + 1)

/-- Digits without zeros at the end, and the position of the decimal point. -/
def shortest (exponent : Fin 2047) (fraction : Fin (2 ^ 52)) : Text × Int :=
  let (num, den) := magnitude exponent fraction
  let (c, grid) := shortestFrom (.finite false exponent fraction) num den (pointOf num den) 17 1
  let digits := Text.ofNat c
  ((digits.reverse.dropWhile (· == CodePoint.zero)).reverse, digits.length + grid)

/-! ### Formats -/

/-- How the digits of a number are laid out. -/
structure Layout where
  /-- Decimal points at this position and to its left go with an exponent. -/
  lowPoint : Int
  /-- Decimal points to the right of this position go with an exponent. -/
  highPoint : Int
  exponentDigits : Nat

/-- Digits with a decimal point inside, before or after them. -/
def positional (digits : Text) (point : Int) : Text :=
  if point ≤ 0 then
    Text.concat ["0.", List.replicate (-point).toNat CodePoint.zero, digits]
  else
    let whole := point.toNat
    let padded := digits ++ List.replicate (whole - digits.length) CodePoint.zero
    let tail := padded.drop whole
    Text.concat [padded.take whole, ".", if tail = [] then "0" else tail]

/-- One digit, the others after a decimal point, and a signed exponent. -/
def scientific (least : Nat) (digits : Text) (point : Int) : Text :=
  let exponent := Text.ofNat (point - 1).natAbs
  let fraction : Text := if digits.length ≤ 1 then [] else .point :: digits.drop 1
  let sign : Text := if point ≤ 0 then "-" else "+"
  Text.concat [digits.take 1, fraction, "e", sign,
    List.replicate (least - exponent.length) CodePoint.zero, exponent]

/-- The text of a number in a layout. -/
def render (layout : Layout) : Binary64 → Text
  | .nan => "nan"
  | .infinite negative => if negative then "-inf" else "inf"
  | .finite negative e f =>
    let sign : Text := if negative then "-" else []
    if mantissa e f = 0 then sign ++ "0.0"
    else
      let (digits, point) := shortest e f
      if layout.lowPoint < point ∧ point ≤ layout.highPoint then sign ++ positional digits point
      else sign ++ scientific layout.exponentDigits digits point

/-- Numbers from `0.0001` to below `1e16` are written without an exponent; an exponent has two digits
or more. -/
def displayLayout : Layout := ⟨-4, 16, 2⟩

/-- Numbers from `0.00001` to below `1e16` are written without an exponent. -/
def requestLayout : Layout := ⟨-5, 16, 1⟩

/-! ### Hexadecimal text -/

/-- The exact text in base sixteen: an implied digit, the thirteen digits of the fraction and the
power of two. -/
def hexText : Binary64 → Text
  | .nan => "nan"
  | .infinite negative => if negative then "-inf" else "inf"
  | .finite negative e f =>
    let sign : Text := if negative then "-" else []
    if mantissa e f = 0 then sign ++ "0x0.0p+0"
    else
      let power := scale e + 52
      Text.concat [sign, if e.val = 0 then "0x0." else "0x1.", Text.hexPadded 13 f, "p",
        if power < 0 then [] else "+", Text.ofInt power]

end ChainRpc.Binary64
