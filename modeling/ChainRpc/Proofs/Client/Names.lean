import ChainRpc.Client.Resumable
import Mathlib.Tactic.Common

/-!
# What names stand for

Each kind of client has its own typed methods, written out with their parameters. They are those that the
table of methods asks for, one for each method, so a name stands for the same in both kinds of clients. Only
the complaints about a call name the class of the client.
-/

namespace ChainRpc

namespace Method

/-- The signature of the typed method of a client class; optional parameters default to null. -/
def signature (m : Method) (className : Text) : Signature where
  label := Text.concat [className, ".", m.name]
  receivers := 1
  params := m.params.map fun p => (p.name, if p.optional then some .null else none)

/-- The typed method that the method asks for. -/
def typed (m : Method) : Client.TypedMethod where
  name := m.name
  params := m.params.map fun p => (p.name, if p.optional then some .null else none)
  called := m

end Method

namespace Client

/-- What a name stands for in a client. -/
inductive TypedName
  | method (m : Method)
  | helper (h : Helper)

namespace TypedName

/-- The typed method or helper of a name. -/
def find? (name : Text) : Option TypedName :=
  match Registry.ckb.find? name with
  | some m => some (.method m)
  | none   => (Helper.all.find? (·.name == name)).map .helper

/-- The signature of a typed method or helper of a client class. -/
def signature (className : Text) : TypedName → Signature
  | .method m => m.signature className
  | .helper h => h.signature className

/-- What a client has under the name. -/
def toAttribute : TypedName → Attribute
  | .method m => .method m.typed
  | .helper h => .helper h

@[simp] lemma signature_toAttribute (className : Text) (found : TypedName) :
    found.toAttribute.signature className = found.signature className := by
  cases found <;> rfl

end TypedName

/-! ### The typed methods of each kind -/

/-- Blocking clients have a typed method for every method of the table, with its parameters. -/
lemma Blocking.methods_eq : Blocking.methods = Method.table.map Method.typed := rfl

/-- So have resumable clients. -/
lemma Resumable.methods_eq : Resumable.methods = Method.table.map Method.typed := rfl

lemma Attribute.find?_typed (name : Text) :
    Attribute.find? (Method.table.map Method.typed) name =
      (TypedName.find? name).map TypedName.toAttribute := by
  have hfind : (Method.table.map Method.typed).find? (·.name == name) =
      (Registry.ckb.find? name).map Method.typed := List.find?_map
  rw [Attribute.find?, TypedName.find?, hfind]
  cases Registry.ckb.find? name with
  | some m => rfl
  | none => cases Helper.all.find? (·.name == name) <;> rfl

/-! ### Calls by a name -/

namespace Resumable

/-- Calls the typed method or helper of a name of a client class, with positional and named
arguments. -/
def typedAs (className : Text) (registry : Registry) (name : Text) (args : List Value)
    (named : Entries Value) : Resumable Value :=
  match TypedName.find? name with
  | none => fail (.noAttribute className name)
  | some found => do
    let bound ← ofAct (ofExcept .call ((found.signature className).bind args named))
    match found with
    | .method m => call registry (.direct m) bound
    | .helper h => helper registry h bound

lemma typed_eq (registry : Registry) (name : Text) (args : List Value) (named : Entries Value) :
    typed registry name args named = typedAs className registry name args named := by
  rw [typed, typedAs, methods_eq, Attribute.find?_typed]
  cases TypedName.find? name with
  | none => rfl
  | some found => cases found <;> rfl

end Resumable

end Client

end ChainRpc
