import ChainRpc.Method.Table

/-!
# Registries

A registry holds methods in the order in which their names were first registered. A name is taken
once; only a replacement, which keeps the place, may reuse it.
-/

namespace ChainRpc

/-- A named collection of methods. -/
structure Registry where
  name : Text := "registry"
  methods : List Method := []

inductive RegistryFault
  | alreadyRegistered (name : Text)
  | unknown (name : Value)
  | unhashable (typeName : Text)

def RegistryFault.message : RegistryFault → Text
  | .alreadyRegistered name => Text.concat ["Method ", name.inApostrophes, " already registered"]
  | .unknown name => "unknown RPC method: " ++ name.spoken?.getD tooLargeMessage
  | .unhashable typeName => "unhashable type: " ++ typeName.inApostrophes

namespace Registry

def ckb : Registry := ⟨"ckb", Method.table⟩

def names (r : Registry) : List Text :=
  r.methods.map (·.name)

def size (r : Registry) : Nat :=
  r.methods.length

def find? (r : Registry) (name : Text) : Option Method :=
  r.methods.find? (·.name == name)

/-- Puts a method in the place of the one of the same name. -/
def replaced (m : Method) : List Method → List Method
  | [] => []
  | old :: rest => if old.name = m.name then m :: rest else old :: replaced m rest

/-- Adds a method. One of a name that is taken is refused unless it is to replace the old one. -/
def add (r : Registry) (m : Method) (replace : Bool) : Except RegistryFault Registry :=
  if m.name ∈ r.names then
    if replace then .ok { r with methods := replaced m r.methods }
    else .error (.alreadyRegistered m.name)
  else .ok { r with methods := r.methods ++ [m] }

/-- The method that a value names; only a text names one. -/
def findBy (find? : Text → Option Method) (key : Value) : Except RegistryFault (Option Method) :=
  match key with
  | .str name => .ok (find? name)
  | key =>
    match key.unhashable? with
    | some typeName => .error (.unhashable typeName)
    | none          => .ok none

/-- The method that a value names, which has to be there. -/
def getBy (find? : Text → Option Method) (key : Value) : Except RegistryFault Method := do
  match ← findBy find? key with
  | some m => return m
  | none   => .error (.unknown key)

def get (r : Registry) (key : Value) : Except RegistryFault Method :=
  getBy r.find? key

end Registry

end ChainRpc
