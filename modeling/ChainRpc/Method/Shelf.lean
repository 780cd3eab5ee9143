import ChainRpc.Method.Registry

/-!
# Shelves of registries

Several registries side by side, each in a place of its own. What a place has is a handle: the name
of its registry and the address of the dictionary with the methods. Dictionaries are changed where
they lie, so two handles with one address would see each other's changes.
-/

namespace ChainRpc

/-- A registry as it is referred to. -/
structure Handle where
  name : Text
  address : Nat

/-- Dictionaries of methods by their addresses, and handles by the names of their places. -/
structure Shelf where
  dictionaries : List (Entries Method) := []
  handles : Entries Handle := []

/-- A registry as it is found: its name, and its methods under their keys. -/
structure Holding where
  name : Text
  methods : Entries Method := []

namespace Holding

/-- The holding of a new registry, under a name if one is given. -/
def new (name : Option Text) : Holding :=
  { name := name.getD ({} : Registry).name }

/-- The holding of a copy, which has another name if one is given that is not empty. -/
def copy (holding : Holding) (name : Option Text) : Holding :=
  match name with
  | some (c :: cs) => { holding with name := c :: cs }
  | _              => holding

def registry (holding : Holding) : Registry :=
  ⟨holding.name, holding.methods.map (·.2)⟩

def find? (holding : Holding) (name : Text) : Option Method :=
  holding.methods.get? name

/-- The name of a method is taken, and the method is not to replace the one that has it. -/
def refuses (holding : Holding) (m : Method) (replace : Bool) : Bool :=
  holding.methods.has m.name && !replace

def store (holding : Holding) (m : Method) : Holding :=
  { holding with methods := holding.methods.put m.name m }

def ckb : Holding :=
  Method.table.foldl store (new (some "ckb"))

end Holding

namespace Shelf

def holding? (shelf : Shelf) (place : Text) : Option Holding := do
  let handle ← shelf.handles.get? place
  let methods ← shelf.dictionaries[handle.address]?
  return ⟨handle.name, methods⟩

/-- What can be done to a shelf or asked of it. -/
inductive Command
  | create (place : Text) (name : Option Text)
  | copy (source target : Text) (name : Option Text)
  /-- Makes a method and adds it. -/
  | register (place name : Text) (params : List Param) (result : Shape) (description : Option Text)
      (replace : Bool)
  | add (place : Text) (method : Method) (replace : Bool)
  | get (place : Text) (key : Value)
  | contains (place : Text) (key : Value)
  | size (place : Text)
  | iterate (place : Text)
  | list (place : Text)

inductive Answer
  | registered (name : Text)
  | method (m : Method)
  | holds (b : Bool)
  | size (n : Nat)
  | methods (ms : List Method)
  | entries (es : Entries Method)

inductive Fault
  | absent (place : Text)
  | refused (cause : RegistryFault)

/-- Puts a registry with a dictionary of its own into a place. -/
def install (shelf : Shelf) (place : Text) (holding : Holding) : Shelf where
  dictionaries := shelf.dictionaries ++ [holding.methods]
  handles := shelf.handles.put place ⟨holding.name, shelf.dictionaries.length⟩

def standard : Shelf :=
  ({} : Shelf).install "ckb" .ckb

/-- Puts a method into the dictionary of the registry of a place. -/
def store (shelf : Shelf) (place : Text) (m : Method) : Shelf :=
  match shelf.handles.get? place with
  | none        => shelf
  | some handle =>
    { shelf with
      dictionaries := shelf.dictionaries.modify handle.address (Entries.put m.name m) }

def add (shelf : Shelf) (place : Text) (m : Method) (replace : Bool) :
    Except Fault Answer × Shelf :=
  match shelf.holding? place with
  | none         => (.error (.absent place), shelf)
  | some holding =>
    if holding.refuses m replace then (.error (.refused (.alreadyRegistered m.name)), shelf)
    else (.ok (.method m), shelf.store place m)

def ask (shelf : Shelf) (place : Text) (answer : Holding → Except RegistryFault Answer) :
    Except Fault Answer :=
  match shelf.holding? place with
  | none         => .error (.absent place)
  | some holding => (answer holding).mapError .refused

def step (shelf : Shelf) : Command → Except Fault Answer × Shelf
  | .create place name =>
    let holding := Holding.new name
    (.ok (.registered holding.name), shelf.install place holding)
  | .copy source target name =>
    match shelf.holding? source with
    | none         => (.error (.absent source), shelf)
    | some holding =>
      (.ok (.registered (holding.copy name).name), shelf.install target (holding.copy name))
  | .register place name params result description replace =>
    shelf.add place ⟨name, params, result, description⟩ replace
  | .add place m replace => shelf.add place m replace
  | .get place key =>
    (shelf.ask place fun h => (Registry.getBy h.find? key).map .method, shelf)
  | .contains place key =>
    (shelf.ask place fun h => (Registry.findBy h.find? key).map (.holds ·.isSome), shelf)
  | .size place          => (shelf.ask place fun h => .ok (.size h.methods.length), shelf)
  | .iterate place       => (shelf.ask place fun h => .ok (.methods h.registry.methods), shelf)
  | .list place          => (shelf.ask place fun h => .ok (.entries h.methods), shelf)

/-- The place whose registry a command may change. -/
def Command.changes? : Command → Option Text
  | .create place _ | .copy _ place _ | .register place .. | .add place .. => some place
  | _ => none

def run (shelf : Shelf) : List Command → List (Except Fault Answer) × Shelf
  | [] => ([], shelf)
  | command :: rest =>
    let (answer, shelf) := shelf.step command
    let (answers, shelf) := run shelf rest
    (answer :: answers, shelf)

end Shelf

end ChainRpc
