import ChainRpc.Text

/-!
# Runs of code points

Properties of code points are kept as runs of neighbours that share them. Where two properties take
turns, as the cases of letters do, a run holds every other code point.
-/

namespace ChainRpc.CodePoint

/-- The code point lies in one of the runs, which are in ascending order. -/
def within (c : CodePoint) : List (CodePoint × CodePoint) → Bool
  | [] => false
  | (low, high) :: rest => if c < low then false else if c ≤ high then true else within c rest

/-- Code points from a first to a last, with a distance between neighbours. -/
structure Run where
  first : CodePoint
  last : CodePoint
  step : Nat

def Run.holds (r : Run) (c : CodePoint) : Bool :=
  r.first ≤ c && c ≤ r.last && (c - r.first) % r.step == 0

/-- A run of letters, every one or every other, that move by one distance. -/
structure CaseRun where
  first : CodePoint
  last : CodePoint
  step : Nat
  distance : Int

def CaseRun.holds (r : CaseRun) (c : CodePoint) : Bool :=
  Run.holds ⟨r.first, r.last, r.step⟩ c

end ChainRpc.CodePoint
