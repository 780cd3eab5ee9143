import ChainRpc.Client.Typed
import ChainRpc.Http.Transport

/-!
# The blocking client

Every operation runs to its end: it builds a request, posts the body and waits for the answer.
-/

namespace ChainRpc.Client

/-- A client over a peer that keeps a state. -/
structure Connection (σ : Type) where
  registry : Registry := .ckb
  endpoint : Http.Endpoint
  peer : Http.Peer σ

/-- What changes while a client is used. -/
structure Session (σ : Type) where
  state : State := {}
  link : Http.Link σ

namespace Blocking

variable {σ α : Type}

/-- An operation of a blocking client. -/
abbrev Action (σ : Type) := ExceptT Fault (StateM (Session σ))

def className : Text := "CkbClient"

/-- A step that needs no link. -/
def ofAct (act : Act α) : Action σ α := fun session =>
  let (result, state) := act session.state
  (result, { session with state := state })

def post (c : Connection σ) (body : Bytes) : Action σ Bytes := fun session =>
  let (delivery, link) := c.endpoint.send c.peer body session.link
  let state := { session.state with log := session.state.log ++ delivery.log }
  (delivery.result, ⟨state, link⟩)

def nextId : Action σ Nat :=
  ofAct takeId

def submit (c : Connection σ) (p : Prepared) : Action σ Value := do
  let body ← ofAct (ofExcept .unserializable p.request.encode)
  let answer ← post c body
  ofAct (finish p answer)

def call (c : Connection σ) (ref : MethodRef) (args : List Value) : Action σ Value := do
  let p ← ofAct (build c.registry ref args)
  submit c p

/-- Calls a method by name alone, with parameters in their wire form. -/
def callRaw (c : Connection σ) (name params : Value) : Action σ Value := do
  let p ← ofAct (buildRaw name params)
  submit c p

/-- Makes several calls with one post. The results come in the order of the calls; faults that a
client answers for are results. Without calls nothing is sent. -/
def batch (c : Connection σ) (calls : List (MethodRef × List Value)) :
    Action σ (List (Except Fault Value)) := do
  match ← ofAct (buildBatch c.registry calls) with
  | [] => return []
  | prepared => do
    let body ← ofAct (ofExcept .unserializable (Request.encodeBatch (prepared.map (·.request))))
    let answer ← post c body
    ofAct (finishBatch prepared answer)

/-! ### Typed methods and helpers -/

def callTyped (c : Connection σ) (m : Method) (args : List Value) : Action σ Value :=
  call c (.direct m) args

/-- The number of a block: the one given, or that of the tip. -/
def blockNumber (c : Connection σ) : Value → Action σ Value
  | .null  => callTyped c .getTipBlockNumber []
  | number => return number

def blockHash (c : Connection σ) (number : Value) : Action σ Value := do
  let number ← blockNumber c number
  let hash ← callTyped c .getBlockHash [number]
  ofAct (ofExcept (fun f => f) (required "get_block_hash" (numberDetail number) hash))

def blockByNumber (c : Connection σ) (number : Value) : Action σ Value := do
  let number ← blockNumber c number
  let block ← callTyped c .getBlockByNumber [number]
  ofAct (ofExcept (fun f => f) (required "get_block_by_number" (numberDetail number) block))

def blockByHash (c : Connection σ) (hash : Value) : Action σ Value := do
  let block ← callTyped c .getBlock [hash]
  ofAct (ofExcept (fun f => f) (required "get_block" (hashDetail hash) block))

def transaction (c : Connection σ) (hash : Value) : Action σ Value := do
  let found ← callTyped c .getTransaction [hash]
  ofAct (ofExcept (fun f => f) (required "get_transaction" (hashDetail hash) found))

def helper (c : Connection σ) : Helper → List Value → Action σ Value
  | .blockHash, args     => blockHash c (args.headD .null)
  | .tipBlockHash, _     => blockHash c .null
  | .genesisHash, _      => blockHash c (.int 0)
  | .blockByHash, args   => blockByHash c (args.headD .null)
  | .blockByNumber, args => blockByNumber c (args.headD .null)
  | .lastBlock, _        => blockByNumber c .null
  | .genesisBlock, _     => blockByNumber c (.int 0)
  | .transaction, args   => transaction c (args.headD .null)

def methods : List TypedMethod := [
  ⟨"get_block", [("block_hash", none)], .getBlock⟩,
  ⟨"get_block_by_number", [("block_number", none)], .getBlockByNumber⟩,
  ⟨"get_header", [("block_hash", none)], .getHeader⟩,
  ⟨"get_header_by_number", [("block_number", none)], .getHeaderByNumber⟩,
  ⟨"get_transaction", [("tx_hash", none)], .getTransaction⟩,
  ⟨"get_block_hash", [("block_number", none)], .getBlockHash⟩,
  ⟨"get_tip_header", [], .getTipHeader⟩,
  ⟨"get_live_cell", [("out_point", none), ("with_data", none)], .getLiveCell⟩,
  ⟨"get_tip_block_number", [], .getTipBlockNumber⟩,
  ⟨"get_current_epoch", [], .getCurrentEpoch⟩,
  ⟨"get_epoch_by_number", [("epoch_number", none)], .getEpochByNumber⟩,
  ⟨"get_transaction_proof", [("tx_hashes", none), ("block_hash", some .null)],
    .getTransactionProof⟩,
  ⟨"verify_transaction_proof", [("tx_proof", none)], .verifyTransactionProof⟩,
  ⟨"send_transaction", [("tx", none), ("outputs_validator", some .null)], .sendTransaction⟩,
  ⟨"tx_pool_info", [], .getTxPoolInfo⟩,
  ⟨"clear_tx_pool", [], .clearTxPool⟩,
  ⟨"get_blockchain_info", [], .getBlockchainInfo⟩,
  ⟨"local_node_info", [], .localNodeInfo⟩,
  ⟨"get_peers", [], .getPeers⟩,
  ⟨"get_banned_addresses", [], .getBannedAddresses⟩,
  ⟨"clear_banned_addresses", [], .clearBannedAddresses⟩,
  ⟨"set_ban", [("address", none), ("command", none), ("ban_time", some .null),
      ("absolute", some .null), ("reason", some .null)], .setBan⟩,
  ⟨"sync_state", [], .getSyncState⟩,
  ⟨"set_network_active", [("state", none)], .setNetworkActive⟩,
  ⟨"add_node", [("peer_id", none), ("address", none)], .addNode⟩,
  ⟨"remove_node", [("peer_id", none)], .removeNode⟩,
  ⟨"ping_peers", [], .pingPeers⟩,
  ⟨"dry_run_transaction", [("tx", none)], .dryRunTransaction⟩,
  ⟨"calculate_dao_maximum_withdraw", [("out_point", none), ("block_hash", none)],
    .calculateDaoMaximumWithdraw⟩]

/-- Calls the typed method or helper of a name with positional and named arguments. -/
def typed (c : Connection σ) (name : Text) (args : List Value) (named : Entries Value) :
    Action σ Value :=
  match Attribute.find? methods name with
  | none => throw (.noAttribute className name)
  | some found => do
    let bound ← ofAct (ofExcept .call ((found.signature className).bind args named))
    match found with
    | .method t => callTyped c t.called bound
    | .helper h => helper c h bound

def close (c : Connection σ) : Action σ Unit :=
  modify fun session => { session with link := c.endpoint.close session.link }

end Blocking

end ChainRpc.Client
