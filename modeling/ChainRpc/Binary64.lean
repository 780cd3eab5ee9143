import ChainRpc.Text

/-!
# Binary floating-point numbers of 64 bits

A number is a sign, an exponent field and a fraction field, or an infinity, or not a number. All
arithmetic on them is exact arithmetic on natural numbers: a finite number is a mantissa times a
power of two, and a quotient is rounded to the nearest such number, a tie going to the even mantissa.
-/

namespace ChainRpc

/-- A binary floating-point number of 64 bits, with one value that is not a number. -/
inductive Binary64
  | nan
  | infinite (negative : Bool)
  | finite (negative : Bool) (exponent : Fin 2047) (fraction : Fin (2 ^ 52))
  deriving DecidableEq, Repr

namespace Binary64

/-! ### Looking at a number -/

/-- The significant bits of a finite number; the leading one is implied above the least exponent. -/
def mantissa (exponent : Fin 2047) (fraction : Fin (2 ^ 52)) : Nat :=
  if exponent.val = 0 then fraction else 2 ^ 52 + fraction

/-- The power of two that the mantissa is multiplied by. -/
def scale (exponent : Fin 2047) : Int :=
  (max exponent.val 1 : Nat) - 1075

/-- The absolute value of a finite number as a quotient. -/
def magnitude (exponent : Fin 2047) (fraction : Fin (2 ^ 52)) : Nat × Nat :=
  let m := mantissa exponent fraction
  (m * 2 ^ (scale exponent).toNat, 2 ^ (-scale exponent).toNat)

def isFinite : Binary64 → Bool
  | .finite .. => true
  | _          => false

def isZero : Binary64 → Bool
  | .finite _ e f => mantissa e f = 0
  | _             => false

/-- The integer that a finite number without a fractional part equals. -/
def toInt? : Binary64 → Option Int
  | .finite negative e f =>
    let (n, d) := magnitude e f
    if n % d = 0 then some (if negative then -(n / d : Nat) else (n / d : Nat)) else none
  | _ => none

/-- The interchange format, as a number of 64 bits. -/
def toBits : Binary64 → Nat
  | .nan => 0x7FF8000000000000
  | .infinite negative => negative.toNat * 2 ^ 63 + 2047 * 2 ^ 52
  | .finite negative e f => negative.toNat * 2 ^ 63 + e * 2 ^ 52 + f

/-! ### Rounding a quotient -/

/-- The whole number nearest to a quotient, of two equally near ones the even one. -/
def nearestEven (num den : Nat) : Nat :=
  let q := num / den
  let r := num % den
  if 2 * r < den then q
  else if den < 2 * r then q + 1
  else if q % 2 = 0 then q
  else q + 1

/-- The quotient of a positive quotient and a power of two, as a quotient of naturals. -/
def rescaled (num den : Nat) (power : Int) : Nat × Nat :=
  (num * 2 ^ (-power).toNat, den * 2 ^ power.toNat)

/-- The power of two at which a positive quotient has a mantissa of 53 bits, but not below the least
power there is. -/
def powerOf (num den : Nat) : Int :=
  let estimate : Int := (num.log2 : Int) - den.log2 - 52
  let (n, d) := rescaled num den estimate
  max (-1074) (if n < 2 ^ 52 * d then estimate - 1 else estimate)

/-- The number with a mantissa of at most 53 bits, multiplied by a power of two. -/
def ofMantissa (negative : Bool) (m : Nat) (power : Int) : Binary64 :=
  if m < 2 ^ 52 then .finite negative 0 (Fin.ofNat _ m)
  else
    let exponent := (power + 1075).toNat
    if h : exponent < 2047 then .finite negative ⟨exponent, h⟩ (Fin.ofNat _ (m - 2 ^ 52))
    else .infinite negative

/-- The number nearest to a quotient; too large a quotient becomes infinite. -/
def ofRatio (negative : Bool) (num den : Nat) : Binary64 :=
  if num = 0 then .finite negative 0 0
  else
    let power := powerOf num den
    let (n, d) := rescaled num den power
    let m := nearestEven n d
    if m = 2 ^ 53 then ofMantissa negative (2 ^ 52) (power + 1) else ofMantissa negative m power

/-- The number nearest to `digits · 10 ^ power`. Powers that are out of reach whatever the digits are
not computed. -/
def ofDecimal (negative : Bool) (digits : Nat) (power : Int) : Binary64 :=
  let size : Int := power + (Nat.toDigits 10 digits).length
  if digits = 0 ∨ size < -400 then .finite negative 0 0
  else if 400 < size then .infinite negative
  else ofRatio negative (digits * 10 ^ power.toNat) (10 ^ (-power).toNat)

end Binary64

end ChainRpc
