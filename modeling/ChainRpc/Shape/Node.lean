import ChainRpc.Shape.Chain

/-!
# Shapes of the node

What a node tells of its pool, of its view of the chain and of its peers.
-/

namespace ChainRpc.Shape

def banCommand : Shape := .oneOf ["insert", "delete"]

/-! ### Pool and statistics -/

def txPoolInfo : Shape := ckbModel.extending "TxPoolInfo" [
  field "tip_hash" h256,
  field "tip_number" uint64,
  field "pending" uint64,
  field "proposed" uint64,
  field "orphan" uint64,
  field "total_tx_size" uint64,
  field "total_tx_cycles" uint64,
  field "min_fee_rate" uint64,
  field "last_txs_updated_at" uint64]

def alertMessage : Shape := ckbModel.extending "AlertMessage" [
  field "id" uint32,
  field "priority" uint32,
  field "notice_until" uint64,
  field "message" .lenientText]

def chainInfo : Shape := ckbModel.extending "ChainInfo" [
  field "chain" .lenientText,
  field "median_time" uint64,
  field "epoch" uint64,
  field "difficulty" uint256,
  field "is_initial_block_download" .bool,
  field "alerts" (.list alertMessage)]

/-! ### Net -/

def nodeAddress : Shape := ckbModel.extending "NodeAddress" [
  field "address" .lenientText,
  field "score" uint64]

def localNodeProtocol : Shape := ckbModel.extending "LocalNodeProtocol" [
  field "id" uint64,
  field "name" .lenientText,
  field "support_versions" (.list .lenientText)]

def localNode : Shape := ckbModel.extending "LocalNode" [
  field "version" .lenientText,
  field "node_id" .lenientText,
  field "active" .bool,
  field "addresses" (.list nodeAddress),
  field "protocols" (.list localNodeProtocol),
  field "connections" uint64]

def remoteNodeProtocol : Shape := ckbModel.extending "RemoteNodeProtocol" [
  field "id" uint64,
  field "version" .lenientText]

def peerSyncState : Shape := ckbModel.extending "PeerSyncState" [
  field "best_known_header_hash" (.optional h256),
  field "best_known_header_number" (.optional uint64),
  field "last_common_header_hash" (.optional h256),
  field "last_common_header_number" (.optional uint64),
  field "unknown_header_list_size" uint64,
  field "inflight_count" uint64,
  field "can_fetch_count" uint64]

def remoteNode : Shape := ckbModel.extending "RemoteNode" [
  field "version" .lenientText,
  field "node_id" .lenientText,
  field "addresses" (.list nodeAddress),
  field "is_outbound" .bool,
  field "connected_duration" uint64,
  field "last_ping_duration" (.optional uint64),
  field "sync_state" (.optional peerSyncState),
  field "protocols" (.list remoteNodeProtocol)]

def bannedAddr : Shape := ckbModel.extending "BannedAddr" [
  field "address" .lenientText,
  field "ban_until" uint64,
  field "ban_reason" .lenientText,
  field "created_at" uint64]

def syncState : Shape := ckbModel.extending "SyncState" [
  field "ibd" .bool,
  field "best_known_block_number" uint64,
  field "best_known_block_timestamp" uint64,
  field "orphan_blocks_count" uint64,
  field "inflight_blocks_count" uint64,
  field "fast_time" uint64,
  field "normal_time" uint64,
  field "low_time" uint64]

end ChainRpc.Shape
