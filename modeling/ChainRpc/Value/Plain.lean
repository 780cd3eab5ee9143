import ChainRpc.Issue

/-!
# Values that are JSON

A value is JSON if it holds no byte string, tuple or record and is not nested too deep. Where it is
not, the issues name the places, a container adding its kind and a position to their paths. A check
that gives a value up because of its depth takes the next occurrence of the same object for a cycle.
-/

namespace ChainRpc.Value

/-- The greatest number of containers around a JSON value, plus one. -/
def jsonRoom : Nat := 255

mutual

/-- The JSON value that a value is, if it is one, `room` telling how many more levels there may be. -/
def json? : (room : Nat) → Value → Option Json
  | 0, _ => none
  | _ + 1, .null    => some .null
  | _ + 1, .bool b  => some (.bool b)
  | _ + 1, .int n   => some (.int n)
  | _ + 1, .float x => some (.float x)
  | _ + 1, .str t   => some (.str t)
  | room + 1, .list items   => (jsonItems? room items).map .list
  | room + 1, .dict entries => (jsonEntries? room entries).map .dict
  | _ + 1, _ => none
termination_by structural _ v => v

/-- The JSON values that the items of a list are. -/
def jsonItems? : (room : Nat) → List Value → Option (List Json)
  | _, [] => some []
  | room, item :: rest => do return (← json? room item) :: (← jsonItems? room rest)
termination_by structural _ items => items

def jsonEntries? : (room : Nat) → List (Text × Value) → Option (List (Text × Json))
  | _, [] => some []
  | room, (key, value) :: rest => do
    return (key, ← json? room value) :: (← jsonEntries? room rest)
termination_by structural _ entries => entries

end

/-! ### Issues -/

/-- The value is one object wherever it occurs. -/
def isShared : Value → Bool
  | .null | .bool _ => true
  | .int n          => -5 ≤ n && n ≤ 256
  | .str []         => true
  | .str [c]        => c < 256
  | .bytes b        => b.length ≤ 1
  | .tuple items    => items.isEmpty
  | _               => false

/-- The value is JSON and holds no others. -/
def isLeaf : Value → Bool
  | .null | .bool _ | .int _ | .float _ | .str _ => true
  | _ => false

/-- Gives a value up because of its depth; `lost` are the shared values given up before. -/
def giveUp (v : Value) (lost : List Value) : List Issue × List Value :=
  if v ∈ lost then (Issue.here .loop, lost)
  else (Issue.here .tooDeep, if v.isShared then v :: lost else lost)

/-- What is wrong with a value that is no container of JSON values. -/
def leafIssues (v : Value) (lost : List Value) : List Issue :=
  if v ∈ lost then Issue.here .loop else if v.isLeaf then [] else Issue.here .notJson

mutual

/-- What keeps a value from being JSON, and the shared values given up so far. -/
def issuesWithin : (room : Nat) → Value → (lost : List Value) → List Issue × List Value
  | 0, v, lost => giveUp v lost
  | room + 1, .list items, lost =>
    let (issues, lost) := itemIssues room 0 items lost
    (Issue.under (.name "list") issues, lost)
  | room + 1, .dict entries, lost =>
    let (issues, lost) := entryIssues room entries lost
    (Issue.under (.name "dict") issues, lost)
  | _ + 1, v, lost => (leafIssues v lost, lost)
termination_by structural _ v => v

/-- What keeps the items of a list, the first of which has a position, from being JSON. -/
def itemIssues : (room position : Nat) → List Value → (lost : List Value) → List Issue × List Value
  | _, _, [], lost => ([], lost)
  | room, position, item :: rest, lost =>
    let (first, lost) := issuesWithin room item lost
    let (others, lost) := itemIssues room (position + 1) rest lost
    (Issue.under (.index position) first ++ others, lost)
termination_by structural _ _ items => items

def entryIssues : (room : Nat) → List (Text × Value) → (lost : List Value) →
    List Issue × List Value
  | _, [], lost => ([], lost)
  | room, (key, value) :: rest, lost =>
    let (first, lost) := issuesWithin room value lost
    let (others, lost) := entryIssues room rest lost
    (Issue.under (.name key.legible) first ++ others, lost)
termination_by structural _ entries => entries

end

def toJson (v : Value) : Checked Json :=
  match v.json? jsonRoom with
  | some j => .ok j
  | none   => .error (v.issuesWithin jsonRoom []).1

def toJsonItems (items : List Value) : Checked (List Json) :=
  match jsonItems? jsonRoom items with
  | some js => .ok js
  | none    => .error (itemIssues jsonRoom 0 items []).1

end ChainRpc.Value
