import ChainRpc.Text

/-!
# Punycode

A label of any code points as letters, digits and hyphens. The ASCII part goes first, behind a hyphen
follow the other code points in ascending order, each as the number of steps that an insertion loop
waits for it. The numbers have digits of base 36, and digits below a threshold that moves with the
numbers seen so far end them.
-/

namespace ChainRpc.Idna.Punycode

/-! ### Numbers -/

def digit (n : Nat) : CodePoint :=
  if n < 26 then n + 97 else n + 22

def digitValue? (c : CodePoint) : Option Nat :=
  if c.Between 97 122 then some (c - 97)
  else if c.Between 65 90 then some (c - 65)
  else if c.Between 48 57 then some (c - 22)
  else none

/-- The threshold of a digit, from its position times 36. -/
def threshold (bias position : Nat) : Nat :=
  max 1 (min 26 (position - bias))

theorem threshold_pos (bias position : Nat) : 0 < threshold bias position := by
  unfold threshold
  omega

def digitsFrom (bias position n : Nat) : Text :=
  let t := threshold bias position
  if n < t then [digit n]
  else digit (t + (n - t) % (36 - t)) :: digitsFrom bias (position + 36) ((n - t) / (36 - t))
termination_by n
decreasing_by
  have := threshold_pos bias position
  have := Nat.div_le_self (n - threshold bias position) (36 - threshold bias position)
  omega

def digits (bias n : Nat) : Text :=
  digitsFrom bias 36 n

/-- The number at the start of a text, from a position on, and the rest. A digit there counts
`weight`. -/
def numberFrom (bias : Nat) : (position weight sum : Nat) → Text → Option (Nat × Text)
  | _, _, _, [] => none
  | position, weight, sum, c :: rest =>
    match digitValue? c with
    | none => none
    | some d =>
      let t := threshold bias position
      if d < t then some (sum + d * weight, rest)
      else numberFrom bias (position + 36) (weight * (36 - t)) (sum + d * weight) rest

theorem length_lt_of_numberFrom {bias position weight sum n : Nat} {t rest : Text}
    (h : numberFrom bias position weight sum t = some (n, rest)) : rest.length < t.length := by
  induction t generalizing position weight sum with
  | nil => simp [numberFrom] at h
  | cons c t ih =>
    simp only [numberFrom] at h
    split at h
    · contradiction
    · split at h
      · simp only [Option.some.injEq, Prod.mk.injEq] at h
        simp [h.2]
      · have := ih h
        simp only [List.length_cons]
        omega

/-- Divides a number until it is at most 455, and answers the bias for what is left. -/
def settle (n bias : Nat) : Nat :=
  if 455 < n then settle (n / 35) (bias + 36) else bias + 36 * n / (n + 38)
termination_by n

/-- The bias after a number, `count` telling how many code points there are by then. -/
def adapt (n count : Nat) (isFirst : Bool) : Nat :=
  let n := if isFirst then n / 700 else n / 2
  settle (n + n / count) 0

def initialBias : Nat := 72

/-! ### Encoding -/

/-- A label half encoded. -/
structure Encoding where
  /-- The steps since the last insertion. -/
  waited : Nat := 0
  bias : Nat := initialBias
  count : Nat
  isFirst : Bool := true
  /-- The digits of the insertions so far, last first. -/
  digits : Text := []

/-- Goes over a code point of the label while `target` is inserted: smaller ones are there already and
are stepped over. -/
def Encoding.visit (target : CodePoint) (s : Encoding) (c : CodePoint) : Encoding :=
  if c < target then { s with waited := s.waited + 1 }
  else if c = target then
    { waited := 0
      bias := adapt s.waited (s.count + 1) s.isFirst
      count := s.count + 1
      isFirst := false
      digits := (Punycode.digits s.bias s.waited).reverse ++ s.digits }
  else s

/-- Goes over the label for each code point to be inserted, in ascending order from `next` on. -/
def Encoding.insertAll (label : Text) : (next : CodePoint) → List CodePoint → Encoding → Encoding
  | _, [], s => s
  | next, target :: rest, s =>
    let s := { s with waited := s.waited + (target - next) * (s.count + 1) }
    let s := label.foldl (Encoding.visit target) s
    insertAll label (target + 1) rest { s with waited := s.waited + 1 }

/-- The ASCII form of a label. -/
def encode (label : Text) : Text :=
  let basic := label.filter (· < 0x80)
  let others := (label.filter (0x80 ≤ ·)).eraseDups.mergeSort
  let s := Encoding.insertAll label 0x80 others { count := basic.length }
  let tail := s.digits.reverse
  if basic = [] then tail else basic ++ [CodePoint.minus] ++ tail

/-! ### Decoding -/

/-- A label and a place in it. -/
structure Cursor where
  /-- What is before the place, last first. -/
  before : Text
  /-- How many code points that is. -/
  place : Nat
  behind : Text

namespace Cursor

/-- Moves code points from the front of the second text to the front of the first. -/
def carry : Nat → Text → Text → Text × Text
  | n + 1, before, c :: behind => carry n (c :: before) behind
  | _, before, behind          => (before, behind)

def moveTo (s : Cursor) (place : Nat) : Cursor :=
  if s.place ≤ place then
    let (before, behind) := carry (place - s.place) s.before s.behind
    ⟨before, place, behind⟩
  else
    let (behind, before) := carry (s.place - place) s.behind s.before
    ⟨before, place, behind⟩

def insert (s : Cursor) (c : CodePoint) : Cursor :=
  ⟨c :: s.before, s.place + 1, s.behind⟩

def label (s : Cursor) : Text :=
  s.before.reverse ++ s.behind

end Cursor

/-- Inserts the code points that numbers stand for, one after the other, the next of which makes
`count` of them. It comes at the cursor or later, with the code point `next` or a greater one. -/
def insertFrom (bias next count : Nat) (isFirst : Bool) (s : Cursor) (t : Text) : Option Text :=
  if t = [] then some s.label
  else
    match h : numberFrom bias 36 1 0 t with
    | none => none
    | some (n, rest) =>
      have : rest.length < t.length := length_lt_of_numberFrom h
      let c := next + (s.place + n) / count
      if 0x10FFFF < c then none
      else
        let s := (s.moveTo ((s.place + n) % count)).insert c
        insertFrom (adapt n count isFirst) c (count + 1) false s rest
termination_by t.length

def decode (t : Text) : Option Text :=
  let (tail, head) := t.reverse.span (· != CodePoint.minus)
  let basic := (head.drop 1).reverse
  insertFrom initialBias 0x80 (basic.length + 1) true ⟨[], 0, basic⟩ tail.reverse

end ChainRpc.Idna.Punycode
