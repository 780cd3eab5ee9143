import ChainRpc.Client.Blocking

/-!
# The resumable client

An operation stops at every post and hands its body out; it goes on when it is given the answer. In
this way one loop can drive many operations. Running an operation against a connection answers its
posts one after the other.
-/

namespace ChainRpc.Client

/-- An operation under way: it has ended, or it waits for the answer to a body. -/
inductive Task (α : Type)
  | done (result : Except Fault α) (state : State)
  | awaiting (body : Bytes) (state : State) (resume : Except Fault Bytes → State → Task α)

/-- An operation of a resumable client, from the state it starts in. -/
def Resumable (α : Type) := State → Task α

namespace Task

variable {σ α β : Type}

/-- Goes on with a second operation where the first one has ended with a value. -/
def andThen (f : α → Resumable β) : Task α → Task β
  | .done (.ok a) state        => f a state
  | .done (.error fault) state => .done (.error fault) state
  | .awaiting body state resume =>
    .awaiting body state fun answer state => (resume answer state).andThen f

/-- Answers the posts of an operation through a connection until it ends. -/
def run (c : Connection σ) : Task α → Http.Link σ → Except Fault α × Session σ
  | .done result state, link => (result, ⟨state, link⟩)
  | .awaiting body state resume, link =>
    let (delivery, link) := c.endpoint.send c.peer body link
    (resume delivery.result { state with log := state.log ++ delivery.log }).run c link

end Task

namespace Resumable

variable {σ α β : Type}

instance : Monad Resumable where
  pure a := fun state => .done (.ok a) state
  bind x f := fun state => (x state).andThen f

def className : Text := "AsyncCkbClient"

def run (c : Connection σ) (x : Resumable α) : Blocking.Action σ α := fun session =>
  (x session.state).run c session.link

def fail (fault : Fault) : Resumable α := fun state =>
  .done (.error fault) state

/-- A step that needs no link. -/
def ofAct (act : Act α) : Resumable α := fun state =>
  let (result, state) := act state
  .done result state

/-- Hands a body out and waits for the answer. -/
def post (body : Bytes) : Resumable Bytes := fun state =>
  .awaiting body state fun answer state => .done answer state

def nextId : Resumable Nat :=
  ofAct takeId

def call (registry : Registry) (ref : MethodRef) (args : List Value) : Resumable Value := do
  let p ← ofAct (build registry ref args)
  let body ← ofAct (ofExcept .unserializable p.request.encode)
  let answer ← post body
  ofAct (finish p answer)

def callRaw (name params : Value) : Resumable Value := do
  let p ← ofAct (buildRaw name params)
  let body ← ofAct (ofExcept .unserializable p.request.encode)
  let answer ← post body
  ofAct (finish p answer)

def batch (registry : Registry) (calls : List (MethodRef × List Value)) :
    Resumable (List (Except Fault Value)) := do
  let prepared ← ofAct (buildBatch registry calls)
  if prepared.isEmpty then return []
  else
    let body ← ofAct (ofExcept .unserializable (Request.encodeBatch (prepared.map (·.request))))
    let answer ← post body
    ofAct (finishBatch prepared answer)

/-! ### Typed methods and helpers -/

/-- A value that may not be null. -/
def require (method detail : Text) (v : Value) : Resumable Value :=
  ofAct (ofExcept (fun f => f) (required method detail v))

def blockHash (registry : Registry) (number : Value) : Resumable Value := do
  let number ←
    if number = .null then call registry (.direct .getTipBlockNumber) [] else pure number
  let hash ← call registry (.direct .getBlockHash) [number]
  require "get_block_hash" (numberDetail number) hash

def blockByNumber (registry : Registry) (number : Value) : Resumable Value := do
  let number ←
    if number = .null then call registry (.direct .getTipBlockNumber) [] else pure number
  let block ← call registry (.direct .getBlockByNumber) [number]
  require "get_block_by_number" (numberDetail number) block

def blockByHash (registry : Registry) (hash : Value) : Resumable Value := do
  let block ← call registry (.direct .getBlock) [hash]
  require "get_block" (hashDetail hash) block

def transaction (registry : Registry) (hash : Value) : Resumable Value := do
  let found ← call registry (.direct .getTransaction) [hash]
  require "get_transaction" (hashDetail hash) found

def helper (registry : Registry) : Helper → List Value → Resumable Value
  | .blockHash, args     => blockHash registry (args.headD .null)
  | .tipBlockHash, _     => blockHash registry .null
  | .genesisHash, _      => blockHash registry (.int 0)
  | .blockByHash, args   => blockByHash registry (args.headD .null)
  | .blockByNumber, args => blockByNumber registry (args.headD .null)
  | .lastBlock, _        => blockByNumber registry .null
  | .genesisBlock, _     => blockByNumber registry (.int 0)
  | .transaction, args   => transaction registry (args.headD .null)

def methods : List TypedMethod := [
  ⟨"get_block", [("block_hash", none)], .getBlock⟩,
  ⟨"get_block_by_number", [("block_number", none)], .getBlockByNumber⟩,
  ⟨"get_header", [("block_hash", none)], .getHeader⟩,
  ⟨"get_header_by_number", [("block_number", none)], .getHeaderByNumber⟩,
  ⟨"get_transaction", [("tx_hash", none)], .getTransaction⟩,
  ⟨"get_block_hash", [("block_number", none)], .getBlockHash⟩,
  ⟨"get_tip_header", [], .getTipHeader⟩,
  ⟨"get_live_cell", [("out_point", none), ("with_data", none)], .getLiveCell⟩,
  ⟨"get_tip_block_number", [], .getTipBlockNumber⟩,
  ⟨"get_current_epoch", [], .getCurrentEpoch⟩,
  ⟨"get_epoch_by_number", [("epoch_number", none)], .getEpochByNumber⟩,
  ⟨"get_transaction_proof", [("tx_hashes", none), ("block_hash", some .null)],
    .getTransactionProof⟩,
  ⟨"verify_transaction_proof", [("tx_proof", none)], .verifyTransactionProof⟩,
  ⟨"send_transaction", [("tx", none), ("outputs_validator", some .null)], .sendTransaction⟩,
  ⟨"tx_pool_info", [], .getTxPoolInfo⟩,
  ⟨"clear_tx_pool", [], .clearTxPool⟩,
  ⟨"get_blockchain_info", [], .getBlockchainInfo⟩,
  ⟨"local_node_info", [], .localNodeInfo⟩,
  ⟨"get_peers", [], .getPeers⟩,
  ⟨"get_banned_addresses", [], .getBannedAddresses⟩,
  ⟨"clear_banned_addresses", [], .clearBannedAddresses⟩,
  ⟨"set_ban", [("address", none), ("command", none), ("ban_time", some .null),
      ("absolute", some .null), ("reason", some .null)], .setBan⟩,
  ⟨"sync_state", [], .getSyncState⟩,
  ⟨"set_network_active", [("state", none)], .setNetworkActive⟩,
  ⟨"add_node", [("peer_id", none), ("address", none)], .addNode⟩,
  ⟨"remove_node", [("peer_id", none)], .removeNode⟩,
  ⟨"ping_peers", [], .pingPeers⟩,
  ⟨"dry_run_transaction", [("tx", none)], .dryRunTransaction⟩,
  ⟨"calculate_dao_maximum_withdraw", [("out_point", none), ("block_hash", none)],
    .calculateDaoMaximumWithdraw⟩]

def typed (registry : Registry) (name : Text) (args : List Value) (named : Entries Value) :
    Resumable Value :=
  match Attribute.find? methods name with
  | none => fail (.noAttribute className name)
  | some found => do
    let bound ← ofAct (ofExcept .call ((found.signature className).bind args named))
    match found with
    | .method t => call registry (.direct t.called) bound
    | .helper h => helper registry h bound

end Resumable

end ChainRpc.Client
