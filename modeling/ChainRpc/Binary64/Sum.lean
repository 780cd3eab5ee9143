import ChainRpc.Binary64

/-!
# Adding an integer to a number

The sum of a finite number and an integer is the number nearest to the exact sum. A sum of zero is
positive.
-/

namespace ChainRpc.Binary64

def addInt (x : Binary64) (n : Int) : Binary64 :=
  match x with
  | .finite negative e f =>
    let (num, den) := magnitude e f
    let sum : Int := (if negative then -(num : Int) else num) + n * den
    ofRatio (decide (sum < 0)) sum.natAbs den
  | x => x

end ChainRpc.Binary64
