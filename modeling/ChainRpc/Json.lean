import ChainRpc.Binary64
import ChainRpc.Entries

/-!
# JSON values

A JSON value as it stands in a message. Integers and floating-point numbers are kept apart, integers
have any size, and the members of an object keep their order.
-/

namespace ChainRpc

inductive Json
  | null
  | bool (b : Bool)
  | int (n : Int)
  | float (x : Binary64)
  | str (t : Text)
  | list (items : List Json)
  | dict (entries : List (Text × Json))
  deriving Inhabited

namespace Json

/-! ### Equality -/

mutual

protected def decEq : (a b : Json) → Decidable (a = b)
  | .null, .null => isTrue rfl
  | .bool a, .bool b => decidable_of_iff (a = b) (by simp)
  | .int a, .int b => decidable_of_iff (a = b) (by simp)
  | .float a, .float b => decidable_of_iff (a = b) (by simp)
  | .str a, .str b => decidable_of_iff (a = b) (by simp)
  | .list a, .list b =>
    match Json.decEqItems a b with
    | isTrue h  => isTrue (by rw [h])
    | isFalse h => isFalse (by simpa using h)
  | .dict a, .dict b =>
    match Json.decEqEntries a b with
    | isTrue h  => isTrue (by rw [h])
    | isFalse h => isFalse (by simpa using h)
  | .null, .bool _ | .null, .int _ | .null, .float _ | .null, .str _ | .null, .list _
  | .null, .dict _ => isFalse nofun
  | .bool _, .null | .bool _, .int _ | .bool _, .float _ | .bool _, .str _ | .bool _, .list _
  | .bool _, .dict _ => isFalse nofun
  | .int _, .null | .int _, .bool _ | .int _, .float _ | .int _, .str _ | .int _, .list _
  | .int _, .dict _ => isFalse nofun
  | .float _, .null | .float _, .bool _ | .float _, .int _ | .float _, .str _ | .float _, .list _
  | .float _, .dict _ => isFalse nofun
  | .str _, .null | .str _, .bool _ | .str _, .int _ | .str _, .float _ | .str _, .list _
  | .str _, .dict _ => isFalse nofun
  | .list _, .null | .list _, .bool _ | .list _, .int _ | .list _, .float _ | .list _, .str _
  | .list _, .dict _ => isFalse nofun
  | .dict _, .null | .dict _, .bool _ | .dict _, .int _ | .dict _, .float _ | .dict _, .str _
  | .dict _, .list _ => isFalse nofun
termination_by structural a => a

protected def decEqItems : (a b : List Json) → Decidable (a = b)
  | [], [] => isTrue rfl
  | [], _ :: _ | _ :: _, [] => isFalse nofun
  | a :: r, b :: s =>
    match Json.decEq a b, Json.decEqItems r s with
    | isTrue h, isTrue g => isTrue (by rw [h, g])
    | isFalse h, _ => isFalse (by simp [h])
    | _, isFalse h => isFalse (by simp [h])
termination_by structural a => a

protected def decEqEntries : (a b : List (Text × Json)) → Decidable (a = b)
  | [], [] => isTrue rfl
  | [], _ :: _ | _ :: _, [] => isFalse nofun
  | (k, a) :: r, (l, b) :: s =>
    match instDecidableEqList k l, Json.decEq a b, Json.decEqEntries r s with
    | isTrue e, isTrue h, isTrue g => isTrue (by rw [e, h, g])
    | isFalse h, _, _ => isFalse (by simp [h])
    | _, isFalse h, _ => isFalse (by simp [h])
    | _, _, isFalse h => isFalse (by simp [h])
termination_by structural a => a

end

instance : DecidableEq Json := Json.decEq

/-! ### Depth -/

mutual

/-- How many containers are nested in a value, the value itself counted if it is one. -/
def depth : Json → Nat
  | .list items   => depthOfItems items + 1
  | .dict entries => depthOfEntries entries + 1
  | _             => 0
termination_by structural v => v

def depthOfItems : List Json → Nat
  | []           => 0
  | item :: rest => max (depth item) (depthOfItems rest)
termination_by structural items => items

def depthOfEntries : List (Text × Json) → Nat
  | []                => 0
  | (_, value) :: rest => max (depth value) (depthOfEntries rest)
termination_by structural entries => entries

end

end Json

end ChainRpc
