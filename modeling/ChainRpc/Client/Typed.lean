import ChainRpc.Client.Core

/-!
# Typed methods and helpers

A client of a chain node has typed methods, one for each method that it knows of, and a few helpers over
them. Each is called with positional and named arguments. The helpers follow the tip of the chain where no
block is given, and require a result.
-/

namespace ChainRpc

namespace Client

inductive Helper
  | blockHash | tipBlockHash | genesisHash | blockByHash | blockByNumber | lastBlock | genesisBlock
  | transaction
  deriving DecidableEq, Repr

namespace Helper

def all : List Helper :=
  [.blockHash, .tipBlockHash, .genesisHash, .blockByHash, .blockByNumber, .lastBlock, .genesisBlock,
    .transaction]

def name : Helper → Text
  | .blockHash     => "block_hash"
  | .tipBlockHash  => "tip_block_hash"
  | .genesisHash   => "genesis_hash"
  | .blockByHash   => "block_by_hash"
  | .blockByNumber => "block_by_number"
  | .lastBlock     => "last_block"
  | .genesisBlock  => "genesis_block"
  | .transaction   => "transaction"

def params : Helper → List (Text × Option Value)
  | .blockHash | .blockByNumber => [("number", some .null)]
  | .blockByHash => [("block_hash", none)]
  | .transaction => [("tx_hash", none)]
  | .tipBlockHash | .genesisHash | .lastBlock | .genesisBlock => []

def signature (h : Helper) (className : Text) : Signature where
  label := Text.concat [className, ".", h.name]
  receivers := 1
  params := h.params

end Helper

/-! ### Typed methods -/

/-- A typed method of a client class. It calls a method with what its own parameters are bound to, in their
order. -/
structure TypedMethod where
  name : Text
  params : List (Text × Option Value)
  called : Method

def TypedMethod.signature (t : TypedMethod) (className : Text) : Signature where
  label := Text.concat [className, ".", t.name]
  receivers := 1
  params := t.params

/-- What is called under a name of a client. -/
inductive Attribute
  | method (t : TypedMethod)
  | helper (h : Helper)

namespace Attribute

/-- What a client with these typed methods has under a name. -/
def find? (methods : List TypedMethod) (name : Text) : Option Attribute :=
  match methods.find? (·.name == name) with
  | some t => some (.method t)
  | none   => (Helper.all.find? (·.name == name)).map .helper

def signature (className : Text) : Attribute → Signature
  | .method t => t.signature className
  | .helper h => h.signature className

end Attribute

/-! ### Missing results -/

/-- A hash in the detail of a missing result: a text as it stands, bytes in their wire form. -/
def hashDetail : Value → Text
  | .bytes b | .buffer b => ByteString.encode b
  | v => v.spoken?.getD []

def numberDetail (number : Value) : Text :=
  "block " ++ number.spoken?.getD []

/-- A value that may not be null. -/
def required (method detail : Text) : Value → Except Fault Value
  | .null => .error (.notFound method detail)
  | v     => .ok v

end Client

end ChainRpc
