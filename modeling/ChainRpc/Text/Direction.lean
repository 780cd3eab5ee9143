import ChainRpc.Text.Mark

/-!
# Directions

Which way the code points of host names are written. The runs may also hold code points that no host
name has.
-/

namespace ChainRpc

inductive Direction
  | leftToRight | rightToLeft | arabic | arabicNumber | number
  /-- A mark goes the way of what it marks. -/
  | mark
  | neutral
  deriving DecidableEq, Repr

namespace CodePoint

/-- Runs that hold the letters written from right to left, those of Arabic aside. -/
def rightToLeftRuns : List (CodePoint × CodePoint) := [
  (0x5D0, 0x5F4), (0x7C0, 0x858), (0x10800, 0x10CF2), (0x10E80, 0x10F27), (0x10F70, 0x10FF6),
  (0x1E800, 0x1E959)]

def arabicRuns : List (CodePoint × CodePoint) := [
  (0x620, 0x64A), (0x66E, 0x6EF), (0x6FA, 0x7B1), (0x860, 0x8C9), (0xFE73, 0xFE73),
  (0x10D00, 0x10D23), (0x10F30, 0x10F45)]

/-- Runs that hold the digits that run from left to right among Arabic letters. -/
def arabicNumberRuns : List (CodePoint × CodePoint) := [
  (0x660, 0x669), (0x10D30, 0x10D39)]

def numberRuns : List (CodePoint × CodePoint) := [
  (0x30, 0x39), (0x6F0, 0x6F9)]

def neutralRuns : List (CodePoint × CodePoint) := [
  (0x2D, 0x2D), (0xB7, 0xB7), (0x2B9, 0x2BA), (0x2C6, 0x2CF), (0x2EC, 0x2EC), (0x375, 0x375),
  (0x200C, 0x200D), (0x2E2F, 0x2E2F), (0x30FB, 0x30FB), (0xA67F, 0xA67F), (0xA717, 0xA71F),
  (0xA788, 0xA788)]

def leftToRightMarks : List CodePoint := [0xCBF, 0xCC6, 0x11A07, 0x11A08, 0x11C3F]

def direction (c : CodePoint) : Direction :=
  if c.isNonspacing then
    if c ∈ leftToRightMarks then .leftToRight else .mark
  else if c.within rightToLeftRuns then .rightToLeft
  else if c.within arabicRuns then .arabic
  else if c.within arabicNumberRuns then .arabicNumber
  else if c.within numberRuns then .number
  else if c.within neutralRuns then .neutral
  else .leftToRight

end CodePoint

end ChainRpc
