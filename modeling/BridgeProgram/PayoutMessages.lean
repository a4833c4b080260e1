import BridgeProgram.PayoutSteps
import BridgeProgram.SymbolicRuntime

namespace BridgeProgram.PayoutMessages

open BridgeProgram.BridgeProgramEntry
open BridgeProgram.ByteStrings
open BridgeProgram.MessageFormats
open BridgeProgram.PayoutSteps
open BridgeProgram.ProgramStates
open BridgeProgram.RegistryModel
open BridgeProgram.SolanaRuntime
open BridgeProgram.SymbolicRuntime

/-- The kind of a payout and the values that its message is made of. -/
inductive PayoutFields (Key : Type)
  | token (sender recipient sourceMint mint : Key) (receiveAmount nonce : UInt64)
      (sourceTxId : Vector UInt8 64) (additionalSolGas : UInt64)
  | sol (sender recipient : Key) (receiveAmount nonce : UInt64)
      (sourceTxId : Vector UInt8 64)
  deriving DecidableEq

namespace PayoutFields

variable {Key Key' : Type}

/-- The same payout with its keys written differently. -/
def map (f : Key → Key') : PayoutFields Key → PayoutFields Key'
  | token sender recipient sourceMint mint receiveAmount nonce sourceTxId additionalSolGas =>
      token (f sender) (f recipient) (f sourceMint) (f mint) receiveAmount nonce sourceTxId
        additionalSolGas
  | sol sender recipient receiveAmount nonce sourceTxId =>
      sol (f sender) (f recipient) receiveAmount nonce sourceTxId

theorem map_injective {f : Key → Key'} (injective : Function.Injective f) :
    Function.Injective (map f) := by
  intro x y h
  cases x with
  | token =>
      cases y with
      | token => simpa only [map, token.injEq, injective.eq_iff] using h
      | sol => cases h
  | sol =>
      cases y with
      | token => cases h
      | sol => simpa only [map, sol.injEq, injective.eq_iff] using h

/-- The byte string that the payout hashes. -/
def messageData : PayoutFields (Vector UInt8 32) → List UInt8
  | token sender recipient sourceMint mint receiveAmount nonce sourceTxId additionalSolGas =>
      bridgeAssetTargetChainMessageData sender recipient sourceMint mint receiveAmount nonce
        sourceTxId additionalSolGas
  | sol sender recipient receiveAmount nonce sourceTxId =>
      bridgeAssetTargetChainSolMessageData sender recipient receiveAmount nonce sourceTxId

end PayoutFields

theorem token_fields_of_messageData {sender recipient sourceMint mint sender' recipient'
      sourceMint' mint' : Vector UInt8 32}
    {receiveAmount nonce receiveAmount' nonce' : UInt64}
    {sourceTxId sourceTxId' : Vector UInt8 64} {additionalSolGas additionalSolGas' : UInt64}
    (h : bridgeAssetTargetChainMessageData sender recipient sourceMint mint receiveAmount nonce
        sourceTxId additionalSolGas =
      bridgeAssetTargetChainMessageData sender' recipient' sourceMint' mint' receiveAmount'
        nonce' sourceTxId' additionalSolGas') :
    PayoutFields.token sender recipient sourceMint mint receiveAmount nonce sourceTxId
        additionalSolGas =
      .token sender' recipient' sourceMint' mint' receiveAmount' nonce' sourceTxId'
        additionalSolGas' := by
  simp only [bridgeAssetTargetChainMessageData, List.append_assoc] at h
  obtain ⟨hsender, h⟩ := List.append_inj h (by simp)
  obtain ⟨hrecipient, h⟩ := List.append_inj h (by simp)
  obtain ⟨hsourceMint, h⟩ := List.append_inj h (by simp)
  obtain ⟨hmint, h⟩ := List.append_inj h (by simp)
  obtain ⟨hreceiveAmount, h⟩ := List.append_inj h (by simp)
  obtain ⟨hnonce, h⟩ := List.append_inj h (by simp)
  obtain ⟨hsourceTxId, hgas⟩ := List.append_inj h (by simp)
  rw [Vector.toList_inj.mp hsender, Vector.toList_inj.mp hrecipient,
    Vector.toList_inj.mp hsourceMint, Vector.toList_inj.mp hmint,
    toBeBytes_inj.mp hreceiveAmount, toBeBytes_inj.mp hnonce, Vector.toList_inj.mp hsourceTxId,
    toBeBytes_inj.mp hgas]

theorem sol_fields_of_messageData {sender recipient sender' recipient' : Vector UInt8 32}
    {receiveAmount nonce receiveAmount' nonce' : UInt64}
    {sourceTxId sourceTxId' : Vector UInt8 64}
    (h : bridgeAssetTargetChainSolMessageData sender recipient receiveAmount nonce sourceTxId =
      bridgeAssetTargetChainSolMessageData sender' recipient' receiveAmount' nonce'
        sourceTxId') :
    PayoutFields.sol sender recipient receiveAmount nonce sourceTxId =
      .sol sender' recipient' receiveAmount' nonce' sourceTxId' := by
  simp only [bridgeAssetTargetChainSolMessageData, List.append_assoc] at h
  obtain ⟨hsender, h⟩ := List.append_inj h (by simp)
  obtain ⟨hrecipient, h⟩ := List.append_inj h (by simp)
  have h := List.append_cancel_left h
  obtain ⟨hreceiveAmount, h⟩ := List.append_inj h (by simp)
  obtain ⟨hnonce, hsourceTxId⟩ := List.append_inj h (by simp)
  rw [Vector.toList_inj.mp hsender, Vector.toList_inj.mp hrecipient,
    toBeBytes_inj.mp hreceiveAmount, toBeBytes_inj.mp hnonce, Vector.toList_inj.mp hsourceTxId]

/-- Neither two payouts of one kind nor two of different kinds share a message. -/
theorem messageData_injective : Function.Injective PayoutFields.messageData := by
  intro x y h
  cases x with
  | token =>
      cases y with
      | token => exact token_fields_of_messageData h
      | sol =>
          have hlength := congrArg List.length h
          simp [PayoutFields.messageData] at hlength
  | sol =>
      cases y with
      | token =>
          have hlength := congrArg List.length h
          simp [PayoutFields.messageData] at hlength
      | sol => exact sol_fields_of_messageData h

variable {Pubkey Hash : Type}

/-- The payout that an instruction asks for. -/
def payoutFields? : Instruction Pubkey Hash → Option (PayoutFields Pubkey)
  | .bridgeAssetTargetChain a _ sourceTxId sender sourceMint receiveAmount nonce
      additionalSolGas =>
      some (.token sender a.recipient sourceMint a.mint receiveAmount nonce sourceTxId
        additionalSolGas)
  | .bridgeAssetTargetChainSol a _ sourceTxId sender receiveAmount nonce =>
      some (.sol sender a.recipient receiveAmount nonce sourceTxId)
  | _ => none

variable {rt : Runtime Pubkey Hash} {ix : Instruction Pubkey Hash} {p : PayoutCall Pubkey Hash}
  {f : PayoutFields Pubkey}

theorem hash_of_messageMatches (kind : payout? ix = some p) (fields : payoutFields? ix = some f)
    (hmessage : MessageMatches rt ix) :
    rt.hash (f.map rt.pubkeyBytes).messageData = p.msgHash := by
  cases ix with
  | bridgeAssetTargetChain =>
      obtain rfl := Option.some.inj kind
      obtain rfl := Option.some.inj fields
      exact hmessage.2
  | bridgeAssetTargetChainSol =>
      obtain rfl := Option.some.inj kind
      obtain rfl := Option.some.inj fields
      exact hmessage
  | _ => simp [payout?] at kind

theorem messageMatches_of_executed [DecidableEq Pubkey] [DecidableEq Hash]
    {s s' : State Pubkey Hash} {call : Call Pubkey Hash} {returned : Option UInt64}
    (kind : payout? call.ix = some p) (executed : execute rt s call = .ok (s', returned)) :
    MessageMatches rt call.ix := by
  obtain ⟨q, -, pays⟩ := paysWith_of_executed kind executed
  obtain ⟨_, _, _, _, run⟩ := pays
  exact run.message

/-- All payouts that pass the message check for one message hash are of one kind
and agree in every field. Every payout that succeeds has passed the check. -/
theorem approval_is_for_one_payout [DecidableEq Pubkey] [DecidableEq Hash]
    (injective : Function.Injective rt.hash) (keys : Function.Injective rt.pubkeyBytes) :
    Function.Injective PayoutFields.messageData ∧
    (∀ ix ix' (p p' : PayoutCall Pubkey Hash) f f', payout? ix = some p →
      payout? ix' = some p' → payoutFields? ix = some f → payoutFields? ix' = some f' →
      MessageMatches rt ix → MessageMatches rt ix' → p.msgHash = p'.msgHash → f = f') ∧
    ∀ s call s' returned (p : PayoutCall Pubkey Hash), payout? call.ix = some p →
      execute rt s call = .ok (s', returned) → MessageMatches rt call.ix := by
  refine ⟨messageData_injective, ?_, fun _ _ _ _ _ => messageMatches_of_executed⟩
  intro ix ix' p p' f f' kind kind' fields fields' matches_ matches' same
  have hhash : rt.hash (f.map rt.pubkeyBytes).messageData =
      rt.hash (f'.map rt.pubkeyBytes).messageData := by
    rw [hash_of_messageMatches kind fields matches_,
      hash_of_messageMatches kind' fields' matches', same]
  exact PayoutFields.map_injective keys (messageData_injective (injective hhash))

/-- A runtime whose keys are their bytes and whose digests are what was hashed. -/
def byteRuntime : Runtime (Vector UInt8 32) (List UInt8) where
  programId := Vector.replicate 32 1
  systemProgram := Vector.replicate 32 0
  ed25519Program := Vector.replicate 32 2
  tokenMetadataProgram := Vector.replicate 32 3
  tokenPrograms := [Vector.replicate 32 4, Vector.replicate 32 5]
  defaultPubkey := Vector.replicate 32 0
  defaultHash := List.replicate 32 0
  pubkeyBytes key := key
  hashBytes digest := paddedBytes 32 digest
  hash bytes := bytes
  createProgramAddress _ bump := some (Vector.replicate 32 bump)
  findProgramAddress _ := (Vector.replicate 32 255, 255)
  create_find _ := rfl
  associatedTokenAddress owner _ _ := owner
  metadataAddress mint := mint
  minimumBalance len := (128 + len) * 6960
  mintLen := 82
  tokenAccountLen _ := 165
  metadataLen := 679
  transferFee _ _ := 0
  tokenDollarValue price amount decimals :=
    UInt64.ofNat (price * amount.toNat / 10 ^ decimals.toNat).floor.toNat
  solDollarValue lamports := UInt64.ofNat (lamports.toNat * 200 / 1000000000)
  solayer := false
  solMintNativeSol _ _ := 0
  solBurnNativeSol _ _ := 0

/-- The fields of a payout of one SOL. -/
def oneSol : PayoutFields (Vector UInt8 32) :=
  .sol (Vector.replicate 32 6) (Vector.replicate 32 7) 1000000000 1 (Vector.replicate 64 8)

/-- A payout of some lamports with the message hash of one SOL. -/
def payWithHashOfOneSol (receiveAmount : UInt64) : Instruction (Vector UInt8 32) (List UInt8) :=
  .bridgeAssetTargetChainSol
    { operator := Vector.replicate 32 9
      recipient := Vector.replicate 32 7
      bridgeHandler := Vector.replicate 32 10
      bridgeProof := Vector.replicate 32 11
      guardianInfo := Vector.replicate 32 12
      verifiedSignatures := Vector.replicate 32 13 }
    oneSol.messageData (Vector.replicate 64 8) (Vector.replicate 32 6) receiveAmount 1

theorem approval_is_for_one_payout_sample :
    MessageMatches byteRuntime (payWithHashOfOneSol 1000000000) ∧
      ¬ MessageMatches byteRuntime (payWithHashOfOneSol 2000000000) := by
  have hmatches : MessageMatches byteRuntime (payWithHashOfOneSol 1000000000) := rfl
  refine ⟨hmatches, fun hmessage => ?_⟩
  have hsame := (approval_is_for_one_payout (fun _ _ h => h) (fun _ _ h => h)).2.1
    (payWithHashOfOneSol 1000000000) (payWithHashOfOneSol 2000000000) _ _ oneSol _
    rfl rfl rfl rfl hmatches hmessage rfl
  have hamount : (1000000000 : UInt64) = 2000000000 := (PayoutFields.sol.inj hsame).2.2.1
  cases hamount

/-- `getMessageHash`. -/
def getMessageHash (rt : Runtime Pubkey Hash) (sender recipient mint : Vector UInt8 32)
    (receiveAmount nonce : UInt64) (sourceTxId : Vector UInt8 64)
    (additionalSolGas : UInt64) : Hash :=
  rt.hash (rawMessageForBridgeAsset sender recipient mint receiveAmount nonce sourceTxId
    additionalSolGas)

/-- `getMessageHashForBridgeAssetTargetChainSol`. -/
def getMessageHashForBridgeAssetTargetChainSol (rt : Runtime Pubkey Hash)
    (sender recipient mint : Vector UInt8 32) (receiveAmount nonce : UInt64)
    (sourceTxId : Vector UInt8 64) : Hash :=
  rt.hash (rawMessageForBridgeAssetTargetChainSol sender recipient mint receiveAmount nonce
    sourceTxId)

/-- The client's `Ed25519Signature`, whose message is a digest. -/
structure SignedDigest (Hash : Type) where
  pubkey : Vector UInt8 32
  signature : Vector UInt8 64
  msg : Hash

/-- The public key and the signing function of a guardian. -/
structure Keypair (Hash : Type) where
  publicKey : Vector UInt8 32
  sign : Hash → Vector UInt8 64

/-- The digest of a message with a guardian's signature. -/
def Keypair.signed (keypair : Keypair Hash) (msg : Hash) : SignedDigest Hash where
  pubkey := keypair.publicKey
  signature := keypair.sign msg
  msg := msg

/-- `constructSig`. -/
def constructSig (rt : Runtime Pubkey Hash) (keypair : Keypair Hash)
    (sender recipient mint : Vector UInt8 32) (receiveAmount nonce : UInt64)
    (sourceTxId : Vector UInt8 64) (additionalSolGas : UInt64) : SignedDigest Hash :=
  keypair.signed (getMessageHash rt sender recipient mint receiveAmount nonce sourceTxId
    additionalSolGas)

/-- `constructSigForBridgeAssetTargetChainSol`. -/
def constructSigForBridgeAssetTargetChainSol (rt : Runtime Pubkey Hash)
    (keypair : Keypair Hash) (sender recipient mint : Vector UInt8 32)
    (receiveAmount nonce : UInt64) (sourceTxId : Vector UInt8 64) : SignedDigest Hash :=
  keypair.signed (getMessageHashForBridgeAssetTargetChainSol rt sender recipient mint
    receiveAmount nonce sourceTxId)

theorem rawMessageForBridgeAsset_ne (sender recipient sourceMint targetMint mint :
      Vector UInt8 32) (receiveAmount nonce : UInt64) (sourceTxId : Vector UInt8 64)
    (additionalSolGas : UInt64) :
    rawMessageForBridgeAsset sender recipient mint receiveAmount nonce sourceTxId
        additionalSolGas ≠
      bridgeAssetTargetChainMessageData sender recipient sourceMint targetMint receiveAmount
        nonce sourceTxId additionalSolGas := by
  intro h
  have hlength := congrArg List.length h
  simp at hlength

theorem rawMessageForBridgeAssetTargetChainSol_eq_iff (sender recipient mint :
      Vector UInt8 32) (receiveAmount nonce : UInt64) (sourceTxId : Vector UInt8 64) :
    rawMessageForBridgeAssetTargetChainSol sender recipient mint receiveAmount nonce
        sourceTxId =
      bridgeAssetTargetChainSolMessageData sender recipient receiveAmount nonce sourceTxId ↔
      mint = solMintPubkey := by
  constructor
  · intro h
    simp only [rawMessageForBridgeAssetTargetChainSol, bridgeAssetTargetChainSolMessageData,
      List.append_assoc] at h
    have h := List.append_cancel_left (List.append_cancel_left h)
    exact Vector.toList_inj.mp (List.append_inj h (by simp)).1
  · rintro rfl
    rfl

/-- The client never hashes and signs what the program hashes for a token payout,
whichever mint it is given, and no token payout accepts the client's hash. For a
SOL payout it does exactly when it is given `SOL_MINT_PUBKEY`. -/
theorem client_message_never_matches [DecidableEq Pubkey] [DecidableEq Hash]
    (injective : Function.Injective rt.hash) (keypair : Keypair Hash)
    (sender recipient sourceMint targetMint mint : Vector UInt8 32)
    (receiveAmount nonce : UInt64) (sourceTxId : Vector UInt8 64) (additionalSolGas : UInt64) :
    (rawMessageForBridgeAsset sender recipient mint receiveAmount nonce sourceTxId
        additionalSolGas ≠
      bridgeAssetTargetChainMessageData sender recipient sourceMint targetMint receiveAmount
        nonce sourceTxId additionalSolGas) ∧
    (rawMessageForBridgeAssetTargetChainSol sender recipient mint receiveAmount nonce
        sourceTxId =
      bridgeAssetTargetChainSolMessageData sender recipient receiveAmount nonce sourceTxId ↔
      mint = solMintPubkey) ∧
    ((constructSig rt keypair sender recipient mint receiveAmount nonce sourceTxId
        additionalSolGas).msg ≠
      rt.hash (bridgeAssetTargetChainMessageData sender recipient sourceMint targetMint
        receiveAmount nonce sourceTxId additionalSolGas)) ∧
    ((constructSigForBridgeAssetTargetChainSol rt keypair sender recipient mint receiveAmount
        nonce sourceTxId).msg =
      rt.hash (bridgeAssetTargetChainSolMessageData sender recipient receiveAmount nonce
        sourceTxId) ↔ mint = solMintPubkey) ∧
    ∀ s call s' returned a senderKey sourceMintKey, call.ix = .bridgeAssetTargetChain a
      (constructSig rt keypair sender recipient mint receiveAmount nonce sourceTxId
        additionalSolGas).msg sourceTxId senderKey sourceMintKey receiveAmount nonce
        additionalSolGas → execute rt s call ≠ .ok (s', returned) := by
  refine ⟨rawMessageForBridgeAsset_ne _ _ _ _ _ _ _ _ _,
    rawMessageForBridgeAssetTargetChainSol_eq_iff .., ?_, ?_, ?_⟩
  · intro h
    exact rawMessageForBridgeAsset_ne _ _ _ _ _ _ _ _ _ (injective h)
  · rw [← rawMessageForBridgeAssetTargetChainSol_eq_iff sender recipient mint receiveAmount
      nonce sourceTxId]
    exact injective.eq_iff
  · intro s call s' returned a senderKey sourceMintKey hix executed
    obtain ⟨p, kind⟩ : ∃ p, payout? call.ix = some p := by
      rw [hix]
      exact ⟨_, rfl⟩
    have hmessage := messageMatches_of_executed kind executed
    rw [hix] at hmessage
    -- the program's message is longer whoever sender, recipient and mints are
    have hlength := congrArg List.length (injective hmessage.2)
    simp at hlength

theorem client_message_never_matches_sample :
    (constructSig byteRuntime ⟨Vector.replicate 32 2, fun _ => Vector.replicate 64 3⟩
        (Vector.replicate 32 6) (Vector.replicate 32 7) solMintPubkey 996000000 5
        (Vector.replicate 64 8) 0).msg ≠
      bridgeAssetTargetChainMessageData (Vector.replicate 32 6) (Vector.replicate 32 7)
        solMintPubkey solMintPubkey 996000000 5 (Vector.replicate 64 8) 0 :=
  (client_message_never_matches (fun _ _ h => h) _ _ _ _ _ _ _ _ _ _).2.2.1

/-- Even for a transfer between equal mints the two messages differ. -/
theorem client_message_lacks_a_mint :
    ¬ ∀ sender recipient sourceMint targetMint receiveAmount nonce sourceTxId additionalSolGas,
      (rawMessageForBridgeAsset sender recipient sourceMint receiveAmount nonce sourceTxId
          additionalSolGas =
        bridgeAssetTargetChainMessageData sender recipient sourceMint targetMint receiveAmount
          nonce sourceTxId additionalSolGas ∨
      rawMessageForBridgeAsset sender recipient targetMint receiveAmount nonce sourceTxId
          additionalSolGas =
        bridgeAssetTargetChainMessageData sender recipient sourceMint targetMint receiveAmount
          nonce sourceTxId additionalSolGas) ∧
      rawMessageForBridgeAssetTargetChainSol sender recipient solMintPubkey receiveAmount nonce
          sourceTxId =
        bridgeAssetTargetChainSolMessageData sender recipient receiveAmount nonce
          sourceTxId := by
  intro h
  obtain ⟨hsource | htarget, -⟩ := h (Vector.replicate 32 6) (Vector.replicate 32 7)
    (Vector.replicate 32 1) (Vector.replicate 32 1) 996000000 5 (Vector.replicate 64 8) 0
  · exact rawMessageForBridgeAsset_ne _ _ _ _ _ _ _ _ _ hsource
  · exact rawMessageForBridgeAsset_ne _ _ _ _ _ _ _ _ _ htarget

end BridgeProgram.PayoutMessages
