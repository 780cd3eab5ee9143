import ChainRpc.Shape

/-!
# Shapes of the chain

Scripts, cells, transactions, headers, blocks and proofs as a node writes them. Members that newer
nodes add are ignored.
-/

namespace ChainRpc.Shape

/-! ### Primitives -/

def uint32 : Shape := .uint 32
def uint64 : Shape := .uint 64
def uint128 : Shape := .uint 128
def uint256 : Shape := .uint 256

def h256 : Shape := .fixed 32

def proposalShortId : Shape := .fixed 10

def scriptHashType : Shape := .oneOf ["data", "type", "data1", "data2"]
def depType : Shape := .oneOf ["code", "dep_group"]
def txStatusKind : Shape := .oneOf ["pending", "proposed", "committed", "unknown", "rejected"]
def cellStatusKind : Shape := .oneOf ["live", "dead", "unknown"]
def outputsValidator : Shape := .oneOf ["passthrough", "well_known_scripts_only"]

/-! ### Scripts, cells and transactions -/

/-- The class that every record of a node extends. -/
def ckbModel : Shape := .record ⟨"CkbModel", []⟩ []

def script : Shape := ckbModel.extending "Script" [
  field "code_hash" h256,
  field "hash_type" scriptHashType,
  field "args" .bytes]

def outPoint : Shape := ckbModel.extending "OutPoint" [
  field "tx_hash" h256,
  field "index" uint32]

def cellInput : Shape := ckbModel.extending "CellInput" [
  field "since" uint64,
  field "previous_output" outPoint]

/-- The type script of a cell is called `type` on the wire. -/
def cellOutput : Shape := ckbModel.extending "CellOutput" [
  field "capacity" uint64,
  field "lock" script,
  (⟨"type_", "type"⟩, .optional script)]

def cellDep : Shape := ckbModel.extending "CellDep" [
  field "out_point" outPoint,
  field "dep_type" depType]

def transaction : Shape := ckbModel.extending "Transaction" [
  field "version" uint32,
  field "cell_deps" (.list cellDep),
  field "header_deps" (.list h256),
  field "inputs" (.list cellInput),
  field "outputs" (.list cellOutput),
  field "outputs_data" (.list .bytes),
  field "witnesses" (.list .bytes)]

def transactionView : Shape := transaction.extending "TransactionView" [
  field "hash" h256]

def txStatus : Shape := ckbModel.extending "TxStatus" [
  field "status" txStatusKind,
  field "block_hash" (.optional h256),
  field "reason" (.optional .lenientText)]

def transactionWithStatus : Shape := ckbModel.extending "TransactionWithStatus" [
  field "transaction" (.optional transactionView),
  field "tx_status" txStatus,
  field "cycles" (.optional uint64)]

def cellData : Shape := ckbModel.extending "CellData" [
  field "content" .bytes,
  field "hash" h256]

def cellInfo : Shape := ckbModel.extending "CellInfo" [
  field "output" cellOutput,
  field "data" (.optional cellData)]

def cellWithStatus : Shape := ckbModel.extending "CellWithStatus" [
  field "cell" (.optional cellInfo),
  field "status" cellStatusKind]

/-! ### Headers, blocks and epochs -/

def header : Shape := ckbModel.extending "Header" [
  field "version" uint32,
  field "compact_target" uint32,
  field "timestamp" uint64,
  field "number" uint64,
  field "epoch" uint64,
  field "parent_hash" h256,
  field "transactions_root" h256,
  field "proposals_hash" h256,
  field "extra_hash" h256,
  field "dao" h256,
  field "nonce" uint128]

def headerView : Shape := header.extending "HeaderView" [
  field "hash" h256]

def uncleBlockView : Shape := ckbModel.extending "UncleBlockView" [
  field "header" headerView,
  field "proposals" (.list proposalShortId)]

def blockView : Shape := ckbModel.extending "BlockView" [
  field "header" headerView,
  field "uncles" (.list uncleBlockView),
  field "transactions" (.list transactionView),
  field "proposals" (.list proposalShortId),
  field "extension" (.optional .bytes)]

def epochView : Shape := ckbModel.extending "EpochView" [
  field "number" uint64,
  field "start_number" uint64,
  field "length" uint64,
  field "compact_target" uint32]

/-! ### Proofs and experiments -/

def merkleProof : Shape := ckbModel.extending "MerkleProof" [
  field "indices" (.list uint32),
  field "lemmas" (.list h256)]

def transactionProof : Shape := ckbModel.extending "TransactionProof" [
  field "block_hash" h256,
  field "witnesses_root" h256,
  field "proof" merkleProof]

def dryRunResult : Shape := ckbModel.extending "DryRunResult" [
  field "cycles" uint64]

end ChainRpc.Shape
