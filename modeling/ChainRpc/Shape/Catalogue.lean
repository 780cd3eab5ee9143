import ChainRpc.Shape.Node

/-!
# The catalogue of shapes

Every class of records and every type that a parameter or result can name.
-/

namespace ChainRpc.Shape

def records : List Shape := [
  ckbModel, script, outPoint, cellInput, cellOutput, cellDep, transaction, transactionView, txStatus,
  transactionWithStatus, cellData, cellInfo, cellWithStatus, header, headerView, uncleBlockView,
  blockView, epochView, merkleProof, transactionProof, dryRunResult, txPoolInfo, alertMessage,
  chainInfo, nodeAddress, localNodeProtocol, localNode, remoteNodeProtocol, peerSyncState, remoteNode,
  bannedAddr, syncState]

def className? : Shape → Option Text
  | .record cls _ => some cls.name
  | _             => none

def record? (className : Text) : Option Shape :=
  records.find? fun shape => shape.className? == some className

/-- The types that are no classes of records. -/
def types : Entries Shape := [
  ("Uint32", uint32), ("Uint64", uint64), ("Uint128", uint128), ("Uint256", uint256),
  ("H256", h256), ("ProposalShortId", proposalShortId), ("JsonBytes", .bytes),
  ("StrictBool", .bool), ("StrictStr", .text), ("JsonValue", .json), ("None", .null),
  ("ScriptHashType", scriptHashType), ("DepType", depType),
  ("OutputsValidator", outputsValidator), ("BanCommand", banCommand),
  ("List[H256]", .list h256), ("List[Uint32]", .list uint32), ("Optional[H256]", .optional h256),
  ("AnnotatedInt", .lenientInt)]

def named? (name : Text) : Option Shape :=
  (types.get? name).orElse fun _ => record? name

end ChainRpc.Shape
