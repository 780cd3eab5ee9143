import ChainRpc.Idna.Label

/-!
# Internationalised names of hosts

A name is a row of labels between points, one of which may stand at the end. Each label goes over the
line in its ASCII form.
-/

namespace ChainRpc.Idna

/-- A full stop, or one of its wide forms, which separate labels as well. -/
def isPoint (c : CodePoint) : Bool :=
  [0x2E, 0x3002, 0xFF0E, 0xFF61].contains c

def labels : Text → List Text
  | [] => [[]]
  | c :: rest =>
    if isPoint c then [] :: labels rest
    else
      match labels rest with
      | [] => [[c]]
      | label :: others => (c :: label) :: others

/-- The labels of a name that is not empty, without the empty one behind a last point, and whether
there was one. -/
def split (name : Text) : Except Fault (List Text × Bool) :=
  match labels name with
  | [[]] => .error .emptyName
  | parts =>
    if parts.getLast? = some [] then .ok (parts.dropLast, true) else .ok (parts, false)

def maxLength (hasLastPoint : Bool) : Nat :=
  if hasLastPoint then 254 else 253

def encode (name : Text) : Except Fault Text := do
  let (parts, hasLastPoint) ← split name
  let encoded ← parts.mapM Label.encode
  let ascii := Text.joined [CodePoint.point] (if hasLastPoint then encoded ++ [[]] else encoded)
  if maxLength hasLastPoint < ascii.length then throw .nameTooLong
  return ascii

/-- Checks what a name stands for whose labels may be in their ASCII form. -/
def check (name : Text) : Except Fault Unit := do
  let (parts, _) ← split name
  parts.forM fun label => Label.checkEither label

end ChainRpc.Idna
