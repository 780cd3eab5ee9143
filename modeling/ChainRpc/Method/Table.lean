import ChainRpc.Method
import ChainRpc.Shape.Node

/-!
# The methods of a node

The methods that a node of the chain answers, in the order of its modules.
-/

namespace ChainRpc.Method

def required (name : Text) (shape : Shape) : Param := ⟨name, shape, false⟩

def optional (name : Text) (shape : Shape) : Param := ⟨name, shape, true⟩

def of (name : Text) (params : List Param) (result : Shape) : Method := ⟨name, params, result, none⟩

open Shape

/-! ### Chain -/

def getBlock := of "get_block" [required "block_hash" h256] (.optional blockView)

def getBlockByNumber :=
  of "get_block_by_number" [required "block_number" uint64] (.optional blockView)

def getHeader := of "get_header" [required "block_hash" h256] (.optional headerView)

def getHeaderByNumber :=
  of "get_header_by_number" [required "block_number" uint64] (.optional headerView)

def getTransaction :=
  of "get_transaction" [required "tx_hash" h256] (.optional transactionWithStatus)

def getBlockHash := of "get_block_hash" [required "block_number" uint64] (.optional h256)

def getTipHeader := of "get_tip_header" [] headerView

def getLiveCell :=
  of "get_live_cell" [required "out_point" outPoint, required "with_data" .bool] cellWithStatus

def getTipBlockNumber := of "get_tip_block_number" [] uint64

def getCurrentEpoch := of "get_current_epoch" [] epochView

def getEpochByNumber :=
  of "get_epoch_by_number" [required "epoch_number" uint64] (.optional epochView)

def getTransactionProof :=
  of "get_transaction_proof" [required "tx_hashes" (.list h256), optional "block_hash" h256]
    transactionProof

def verifyTransactionProof :=
  of "verify_transaction_proof" [required "tx_proof" transactionProof] (.list h256)

/-! ### Pool and statistics -/

def sendTransaction :=
  of "send_transaction" [required "tx" transaction, optional "outputs_validator" outputsValidator]
    h256

def getTxPoolInfo := of "tx_pool_info" [] txPoolInfo

def clearTxPool := of "clear_tx_pool" [] .null

def getBlockchainInfo := of "get_blockchain_info" [] chainInfo

/-! ### Net -/

def localNodeInfo := of "local_node_info" [] localNode

def getPeers := of "get_peers" [] (.list remoteNode)

def getBannedAddresses := of "get_banned_addresses" [] (.list bannedAddr)

def clearBannedAddresses := of "clear_banned_addresses" [] .null

def setBan :=
  of "set_ban" [required "address" .text, required "command" banCommand, optional "ban_time" uint64,
    optional "absolute" .bool, optional "reason" .text] .null

def getSyncState := of "sync_state" [] syncState

def setNetworkActive := of "set_network_active" [required "state" .bool] .null

def addNode := of "add_node" [required "peer_id" .text, required "address" .text] .null

def removeNode := of "remove_node" [required "peer_id" .text] .null

def pingPeers := of "ping_peers" [] .null

/-! ### Experiments -/

def dryRunTransaction := of "dry_run_transaction" [required "tx" transaction] dryRunResult

def calculateDaoMaximumWithdraw :=
  of "calculate_dao_maximum_withdraw" [required "out_point" outPoint, required "block_hash" h256]
    uint64

def table : List Method := [
  getBlock, getBlockByNumber, getHeader, getHeaderByNumber, getTransaction, getBlockHash,
  getTipHeader, getLiveCell, getTipBlockNumber, getCurrentEpoch, getEpochByNumber,
  getTransactionProof, verifyTransactionProof, sendTransaction, getTxPoolInfo, clearTxPool,
  getBlockchainInfo, localNodeInfo, getPeers, getBannedAddresses, clearBannedAddresses, setBan,
  getSyncState, setNetworkActive, addNode, removeNode, pingPeers, dryRunTransaction,
  calculateDaoMaximumWithdraw]

end ChainRpc.Method
