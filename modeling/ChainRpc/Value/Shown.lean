import ChainRpc.Binary64.Shortest
import ChainRpc.Json.Unreadable
import ChainRpc.Text.Quoted
import ChainRpc.Value

/-!
# How messages show values

Texts and byte strings are quoted, containers are shown with their brackets, and a record with the
name of its class. An integer beyond the digit limit cannot be shown, nor can anything that holds one.
-/

namespace ChainRpc.Value

mutual

def shown? : Value → Option Text
  | .null       => some "None"
  | .bool true  => some "True"
  | .bool false => some "False"
  | .int n      => decimal? n
  | .float x    => some (x.render Binary64.displayLayout)
  | .str t      => some t.quoted
  | .bytes b    => some (Text.ofBytes b)
  | .buffer b   => some (Text.ofMutableBytes b)
  | .list items => do return Text.concat ["[", Text.joined ", " (← shownItems? items), "]"]
  | .tuple [item] => do return Text.concat ["(", ← shown? item, ",)"]
  | .tuple items  => do return Text.concat ["(", Text.joined ", " (← shownItems? items), ")"]
  | .dict entries => do
    let parts ← shownEntries? Text.quoted ": " entries
    return Text.concat [[.openBrace], Text.joined ", " parts, [.closeBrace]]
  | .record cls fields => do
    let parts ← shownEntries? id "=" fields
    return Text.concat [cls.name, "(", Text.joined ", " parts, ")"]
termination_by structural v => v

def shownItems? : List Value → Option (List Text)
  | []           => some []
  | item :: rest => do return (← shown? item) :: (← shownItems? rest)
termination_by structural items => items

/-- The texts of named values, each with its name and a mark between the two. -/
def shownEntries? (name : Text → Text) (mark : Text) : List (Text × Value) → Option (List Text)
  | []               => some []
  | (key, value) :: rest => do
    return Text.concat [name key, mark, ← shown? value] :: (← shownEntries? name mark rest)
termination_by structural entries => entries

end

/-- The text of a value where it is spoken of, and not quoted: a text stands for itself, and a record
is given by its fields. -/
def spoken? : Value → Option Text
  | .str t           => some t
  | .record _ fields => (shownEntries? id "=" fields).map (Text.joined " ")
  | v                => shown? v

end ChainRpc.Value
