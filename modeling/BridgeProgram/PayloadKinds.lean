import BridgeProgram.MessageFormats

namespace BridgeProgram.PayloadKinds

open BridgeProgram.ByteStrings
open BridgeProgram.MessageFormats

inductive PayloadKind
  | tokenPayout
  | solPayout
  | bridgedMessage
  | crossChainCall
  deriving DecidableEq

/-- The byte string is hashed and signed for some payload of the kind. -/
def IsPreimage : PayloadKind → List UInt8 → Prop
  | .tokenPayout, bytes =>
      ∃ sender recipient sourceMint mint receiveAmount nonce sourceTxId additionalSolGas,
        bridgeAssetTargetChainMessageData sender recipient sourceMint mint receiveAmount nonce
          sourceTxId additionalSolGas = bytes
  | .solPayout, bytes =>
      ∃ sender recipient receiveAmount nonce sourceTxId,
        bridgeAssetTargetChainSolMessageData sender recipient receiveAmount nonce sourceTxId =
          bytes
  | .bridgedMessage, bytes =>
      ∃ sender recipient message nonce sourceTxId,
        rawMessageForBridgingMessage sender recipient message nonce sourceTxId = bytes
  | .crossChainCall, bytes =>
      ∃ sender call nonce sourceTxId,
        rawMessageForCrossChainCall sender call nonce sourceTxId = bytes

theorem length_of_tokenPayout {bytes : List UInt8} (h : IsPreimage .tokenPayout bytes) :
    bytes.length = 216 := by
  obtain ⟨_, _, _, _, _, _, _, _, rfl⟩ := h
  exact length_bridgeAssetTargetChainMessageData ..

theorem length_of_solPayout {bytes : List UInt8} (h : IsPreimage .solPayout bytes) :
    bytes.length = 176 := by
  obtain ⟨_, _, _, _, _, rfl⟩ := h
  exact length_bridgeAssetTargetChainSolMessageData ..

theorem exists_nonce_and_txId (bytes : List UInt8) (h : 72 ≤ bytes.length) :
    ∃ body nonce, ∃ sourceTxId : Vector UInt8 64,
      bytes = body ++ toBeBytes nonce ++ sourceTxId.toList ∧
        body.length = bytes.length - 72 := by
  have hnonce : ((bytes.drop (bytes.length - 72)).take 8).length = 8 := by
    simp only [List.length_take, List.length_drop]
    omega
  have htxId : ((bytes.drop (bytes.length - 72)).drop 8).length = 64 := by
    simp only [List.length_drop]
    omega
  obtain ⟨nonce, hnonce⟩ := exists_toBeBytes_eq hnonce
  obtain ⟨sourceTxId, htxId⟩ := exists_toList_eq htxId
  refine ⟨bytes.take (bytes.length - 72), nonce, sourceTxId, ?_, by simp⟩
  rw [hnonce, htxId, List.append_assoc, List.take_append_drop, List.take_append_drop]

theorem exists_key (bytes : List UInt8) (h : 32 ≤ bytes.length) :
    ∃ (key : Vector UInt8 32) (rest : List UInt8), bytes = key.toList ++ rest ∧
      rest.length = bytes.length - 32 := by
  have hkey : (bytes.take 32).length = 32 := by
    rw [List.length_take]
    omega
  obtain ⟨key, hkey⟩ := exists_toList_eq hkey
  exact ⟨key, bytes.drop 32, by rw [hkey, List.take_append_drop], List.length_drop⟩

theorem isPreimage_crossChainCall {bytes : List UInt8} :
    IsPreimage .crossChainCall bytes ↔ 104 ≤ bytes.length := by
  constructor
  · rintro ⟨sender, call, nonce, sourceTxId, rfl⟩
    rw [length_rawMessageForCrossChainCall]
    omega
  · intro h
    obtain ⟨body, nonce, sourceTxId, hbytes, hbody⟩ :=
      exists_nonce_and_txId bytes (by omega)
    obtain ⟨sender, call, rfl, -⟩ := exists_key body (by omega)
    exact ⟨sender, call, nonce, sourceTxId, hbytes.symm⟩

theorem isPreimage_bridgedMessage {bytes : List UInt8} :
    IsPreimage .bridgedMessage bytes ↔ 136 ≤ bytes.length := by
  constructor
  · rintro ⟨sender, recipient, message, nonce, sourceTxId, rfl⟩
    rw [length_rawMessageForBridgingMessage]
    omega
  · intro h
    obtain ⟨body, nonce, sourceTxId, hbytes, hbody⟩ :=
      exists_nonce_and_txId bytes (by omega)
    obtain ⟨sender, rest, rfl, hrest⟩ := exists_key body (by omega)
    obtain ⟨recipient, message, rfl, -⟩ := exists_key rest (by omega)
    refine ⟨sender, recipient, message, nonce, sourceTxId, ?_⟩
    rw [hbytes, rawMessageForBridgingMessage, ← List.append_assoc]

/-- Two different kinds share a byte string unless both are payouts: the token
and the SOL payout never do, and any string of at least 136 bytes is a bridged
message as well as a cross-chain call, every payout among them. -/
theorem payouts_never_share_a_preimage :
    (∀ bytes, IsPreimage .tokenPayout bytes → ¬ IsPreimage .solPayout bytes) ∧
    (∀ bytes, IsPreimage .bridgedMessage bytes ↔ 136 ≤ bytes.length) ∧
    (∀ bytes, IsPreimage .crossChainCall bytes ↔ 104 ≤ bytes.length) ∧
    (∀ bytes, IsPreimage .tokenPayout bytes ∨ IsPreimage .solPayout bytes →
      IsPreimage .bridgedMessage bytes ∧ IsPreimage .crossChainCall bytes) := by
  refine ⟨fun bytes htoken hsol => ?_, fun _ => isPreimage_bridgedMessage,
    fun _ => isPreimage_crossChainCall, fun bytes hpayout => ?_⟩
  · have htoken := length_of_tokenPayout htoken
    have hsol := length_of_solPayout hsol
    omega
  · rw [isPreimage_bridgedMessage, isPreimage_crossChainCall]
    rcases hpayout with htoken | hsol
    · have := length_of_tokenPayout htoken
      omega
    · have := length_of_solPayout hsol
      omega

/-- The bytes of a payout of one SOL are those of a cross-chain call that its
sender can request. -/
theorem sol_payout_is_cross_chain_call :
    ¬ ∀ bytes kind kind', IsPreimage kind bytes → IsPreimage kind' bytes → kind = kind' := by
  intro h
  have hsol : IsPreimage .solPayout (bridgeAssetTargetChainSolMessageData
      (Vector.replicate 32 1) (Vector.replicate 32 2) 1000000000 3 (Vector.replicate 64 4)) :=
    ⟨_, _, _, _, _, rfl⟩
  have hcall := isPreimage_crossChainCall.mpr
    (show 104 ≤ _ by rw [length_of_solPayout hsol]; decide)
  exact absurd (h _ _ _ hsol hcall) (by decide)

end BridgeProgram.PayloadKinds
