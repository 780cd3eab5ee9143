import ChainRpc.Text

/-!
# Base 64

Bytes as text: three bytes become four digits of base 64. What is missing from the last three is
marked by equals signs.
-/

namespace ChainRpc.Base64

def digits : Text := "ABCDEFGHIJKLMNOPQRSTUVWXYZabcdefghijklmnopqrstuvwxyz0123456789+/"

def digit (n : Nat) : CodePoint :=
  digits.getD n CodePoint.zero

def padding : CodePoint := '='.toNat

def encode : Bytes → Text
  | a :: b :: c :: rest =>
    let n := a.toNat * 0x10000 + b.toNat * 0x100 + c.toNat
    digit (n / 0x40000) :: digit (n / 0x1000 % 64) :: digit (n / 64 % 64) :: digit (n % 64) ::
      encode rest
  | [a, b] =>
    let n := a.toNat * 0x100 + b.toNat
    [digit (n / 0x400), digit (n / 16 % 64), digit (n % 16 * 4), padding]
  | [a] => [digit (a.toNat / 4), digit (a.toNat % 4 * 16), padding, padding]
  | []  => []

end ChainRpc.Base64
