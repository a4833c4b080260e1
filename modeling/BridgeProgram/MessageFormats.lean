import BridgeProgram.ByteStrings
import BridgeProgram.ProgramStates

namespace BridgeProgram.MessageFormats

open BridgeProgram.ByteStrings
open BridgeProgram.ProgramStates

/-- `message_data` of `bridge_asset_target_chain`. -/
def bridgeAssetTargetChainMessageData (sender recipient sourceMint mint : Vector UInt8 32)
    (receiveAmount nonce : UInt64) (sourceTxId : Vector UInt8 64)
    (additionalSolGas : UInt64) : List UInt8 :=
  sender.toList ++ recipient.toList ++ sourceMint.toList ++ mint.toList ++
    toBeBytes receiveAmount ++ toBeBytes nonce ++ sourceTxId.toList ++
    toBeBytes additionalSolGas

/-- `message_data` of `bridge_asset_target_chain_sol`. -/
def bridgeAssetTargetChainSolMessageData (sender recipient : Vector UInt8 32)
    (receiveAmount nonce : UInt64) (sourceTxId : Vector UInt8 64) : List UInt8 :=
  sender.toList ++ recipient.toList ++ solMintPubkey.toList ++
    toBeBytes receiveAmount ++ toBeBytes nonce ++ sourceTxId.toList

/-- `message_data` of `issue_bridge_proof`; the SOL instruction puts
`SOL_MINT_PUBKEY` for the mint. -/
def issueBridgeProofMessageData (signer recipient mint : Vector UInt8 32)
    (amount bridgeProofNonce : UInt64) : List UInt8 :=
  signer.toList ++ recipient.toList ++ mint.toList ++ toBeBytes amount ++
    toBeBytes bridgeProofNonce

/-- `rawMessage` of `getMessageHash`. -/
def rawMessageForBridgeAsset (sender recipient mint : Vector UInt8 32)
    (receiveAmount nonce : UInt64) (sourceTxId : Vector UInt8 64)
    (additionalSolGas : UInt64) : List UInt8 :=
  sender.toList ++ recipient.toList ++ mint.toList ++ toBeBytes receiveAmount ++
    toBeBytes nonce ++ sourceTxId.toList ++ toBeBytes additionalSolGas

/-- `rawMessage` of `getMessageHashForBridgeAssetTargetChainSol`. -/
def rawMessageForBridgeAssetTargetChainSol (sender recipient mint : Vector UInt8 32)
    (receiveAmount nonce : UInt64) (sourceTxId : Vector UInt8 64) : List UInt8 :=
  sender.toList ++ recipient.toList ++ mint.toList ++ toBeBytes receiveAmount ++
    toBeBytes nonce ++ sourceTxId.toList

/-- `rawMessage` of `getMessageHashForBridgingMessage`. -/
def rawMessageForBridgingMessage (sender recipient : Vector UInt8 32)
    (message : List UInt8) (nonce : UInt64) (sourceTxId : Vector UInt8 64) : List UInt8 :=
  sender.toList ++ recipient.toList ++ message ++ toBeBytes nonce ++ sourceTxId.toList

/-- `rawMessage` of `getMessageHashForCrossChainCall`. -/
def rawMessageForCrossChainCall (sender : Vector UInt8 32) (call : List UInt8)
    (nonce : UInt64) (sourceTxId : Vector UInt8 64) : List UInt8 :=
  sender.toList ++ call ++ toBeBytes nonce ++ sourceTxId.toList

@[simp] theorem length_bridgeAssetTargetChainMessageData
    (sender recipient sourceMint mint : Vector UInt8 32) (receiveAmount nonce : UInt64)
    (sourceTxId : Vector UInt8 64) (additionalSolGas : UInt64) :
    (bridgeAssetTargetChainMessageData sender recipient sourceMint mint receiveAmount
      nonce sourceTxId additionalSolGas).length = 216 := by
  simp [bridgeAssetTargetChainMessageData]

@[simp] theorem length_bridgeAssetTargetChainSolMessageData
    (sender recipient : Vector UInt8 32) (receiveAmount nonce : UInt64)
    (sourceTxId : Vector UInt8 64) :
    (bridgeAssetTargetChainSolMessageData sender recipient receiveAmount nonce
      sourceTxId).length = 176 := by
  simp [bridgeAssetTargetChainSolMessageData]

@[simp] theorem length_rawMessageForBridgeAsset (sender recipient mint : Vector UInt8 32)
    (receiveAmount nonce : UInt64) (sourceTxId : Vector UInt8 64) (additionalSolGas : UInt64) :
    (rawMessageForBridgeAsset sender recipient mint receiveAmount nonce sourceTxId
      additionalSolGas).length = 184 := by
  simp [rawMessageForBridgeAsset]

@[simp] theorem length_rawMessageForBridgingMessage (sender recipient : Vector UInt8 32)
    (message : List UInt8) (nonce : UInt64) (sourceTxId : Vector UInt8 64) :
    (rawMessageForBridgingMessage sender recipient message nonce sourceTxId).length =
      message.length + 136 := by
  simp only [rawMessageForBridgingMessage, List.length_append, Vector.length_toList,
    length_toBeBytes]
  omega

@[simp] theorem length_rawMessageForCrossChainCall (sender : Vector UInt8 32)
    (call : List UInt8) (nonce : UInt64) (sourceTxId : Vector UInt8 64) :
    (rawMessageForCrossChainCall sender call nonce sourceTxId).length =
      call.length + 104 := by
  simp only [rawMessageForCrossChainCall, List.length_append, Vector.length_toList,
    length_toBeBytes]
  omega

end BridgeProgram.MessageFormats
