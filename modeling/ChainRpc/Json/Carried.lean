import ChainRpc.Json
import ChainRpc.Text.Utf8

/-!
# Which JSON values can be sent

A value that was accepted as JSON may still have no place in a body: containers may be nested a little
deeper than the writer goes, and texts with lone surrogates have no UTF-8 form. The first such place
from left to right is reported.
-/

namespace ChainRpc

inductive Uncarried
  | tooDeep
  | surrogates (fault : Unencodable)
  deriving DecidableEq, Repr

def Uncarried.message : Uncarried → Text
  | .tooDeep          => "Maximum serialization depth exceeded"
  | .surrogates fault => fault.message

namespace Json

/-- The greatest number of containers around a value that is written, plus one. -/
def writeRoom : Nat := 254

/-- The first run of surrogates in a text as a reason not to write it. -/
def surrogatesOf (t : Text) : Option Uncarried :=
  (Utf8.firstSurrogates 0 t).map .surrogates

mutual

/-- The first reason not to write a value, `room` telling how many more levels there may be. -/
def obstacleWithin : (room : Nat) → Json → Option Uncarried
  | 0, _ => some .tooDeep
  | _ + 1, .str t => surrogatesOf t
  | room + 1, .list items   => obstacleOfItems room items
  | room + 1, .dict entries => obstacleOfEntries room entries
  | _ + 1, _ => .none
termination_by structural _ v => v

def obstacleOfItems : (room : Nat) → List Json → Option Uncarried
  | _, [] => .none
  | room, item :: rest => (obstacleWithin room item).orElse fun _ => obstacleOfItems room rest
termination_by structural _ items => items

/-- The first reason not to write the members of an object; a name comes before its value. -/
def obstacleOfEntries : (room : Nat) → List (Text × Json) → Option Uncarried
  | _, [] => .none
  | room, (name, value) :: rest =>
    (surrogatesOf name).orElse fun _ =>
      (obstacleWithin room value).orElse fun _ => obstacleOfEntries room rest
termination_by structural _ entries => entries

end

/-- The first reason why a value has no place in a request body. -/
def bodyObstacle? (v : Json) : Option Uncarried :=
  v.obstacleWithin writeRoom

end Json

end ChainRpc
