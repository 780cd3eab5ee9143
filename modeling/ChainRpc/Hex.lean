import ChainRpc.Text

/-!
# Hexadecimal digits

Two digits to a byte. Digits of either case are read, lower-case ones are written.
-/

namespace ChainRpc.Hex

def mark : Text := "0x"

/-- The text behind the mark, if it starts with one. -/
def unmarked? (t : Text) : Option Text :=
  mark.isPrefixOf? t

abbrev IsDigits (t : Text) : Prop := ∀ c ∈ t, c.hexValue?.isSome

def digit (n : Nat) : CodePoint :=
  if n < 10 then 48 + n else 87 + n

def encode : Bytes → Text
  | [] => []
  | b :: rest => digit (b.toNat / 16) :: digit (b.toNat % 16) :: encode rest

/-- The byte string that pairs of digits spell. -/
def decode? : Text → Option Bytes
  | [] => some []
  | [_] => none
  | high :: low :: rest => do
    let h ← high.hexValue?
    let l ← low.hexValue?
    return .ofNat (h * 16 + l) :: (← decode? rest)

/-- The number that digits stand for; other code points count as zero. -/
def value (t : Text) : Nat :=
  t.foldl (fun n c => n * 16 + c.hexValue?.getD 0) 0

@[simp] theorem unmarked?_append (t : Text) : unmarked? (mark ++ t) = some t := rfl

theorem hexValue?_digit {n : Nat} (h : n < 16) : (digit n).hexValue? = some n := by
  revert n
  decide

/-- What was written is read. -/
@[simp] theorem decode?_encode (b : Bytes) : decode? (encode b) = some b := by
  induction b with
  | nil => rfl
  | cons x rest ih =>
    have h := x.toNat_lt
    have e : x.toNat / 16 * 16 + x.toNat % 16 = x.toNat := by omega
    simp only [encode, decode?, hexValue?_digit (show x.toNat / 16 < 16 by omega),
      hexValue?_digit (show x.toNat % 16 < 16 by omega), ih, e, UInt8.ofNat_toNat,
      Option.bind_eq_bind, Option.bind_some, Option.pure_def]

end ChainRpc.Hex
