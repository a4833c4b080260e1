import BridgeProgram.MessageFormats
import BridgeProgram.TokenInstructions

namespace BridgeProgram.TargetInstructions

open BridgeProgram.AnchorAccounts
open BridgeProgram.CheckedResult
open BridgeProgram.MessageFormats
open BridgeProgram.ProgramStates
open BridgeProgram.SolanaRuntime
open BridgeProgram.TokenInstructions
open BridgeProgram.TokenPrograms

variable {Pubkey Hash : Type} [DecidableEq Pubkey] [DecidableEq Hash]

/-- Contents of a new target proof account: all bytes zero. -/
def zeroBridgeProof (rt : Runtime Pubkey Hash) : BridgeProof Pubkey Hash where
  bump := 0
  msgHash := rt.defaultHash
  txId := Vector.replicate 64 0
  userAccount := rt.defaultPubkey
  createdAt := 0

/-- The lazy reset of the remaining instant budget. -/
def resetInstantCap (clock : Clock) (h : BridgeHandler Pubkey) : BridgeHandler Pubkey :=
  if h.instantBridgeCapEpoch ≠ clock.epoch then
    { h with
      instantBridgeCapRemainedDollar := solanaDollarCapPerEpoch
      instantBridgeCapEpoch := clock.epoch }
  else h

/-- "validate instant bridge cap": charge `dollarValue`, or let the payout wait.
The subtraction is plain in one copy of the code and checked in the other; the
branch excludes an underflow in both. -/
def chargeInstantCap (clock : Clock) (createdAt dollarValue : UInt64)
    (h : BridgeHandler Pubkey) : Except ProgramError (BridgeHandler Pubkey) :=
  let h := resetInstantCap clock h
  if h.instantBridgeCapRemainedDollar < dollarValue then do
    let awaitingTime ← checkedSub clock.unixTimestamp.toNat createdAt.toNat .panic
    require (solanaPostInstantCapAwaitingTimeSeconds.toNat ≤ awaitingTime)
      (.bridge .instantBridgeCapExceeded)
    pure h
  else
    pure { h with
      instantBridgeCapRemainedDollar := h.instantBridgeCapRemainedDollar - dollarValue }

/-- The signer count and threshold checks. -/
def checkApprovals (h : BridgeHandler Pubkey) (g : GuardianInfo Pubkey)
    (v : VerifiedSignatures) : Except ProgramError Unit := do
  require (v.pubkeyIndex ≠ [] ∧ v.pubkeyIndex.length ≤ g.guardians.length ∧
      v.pubkeyIndex.length ≤ maxGuardianSignatures)
    (.bridge .invalidSignerCount)
  require (h.guardianThreshold.toNat ≤ v.pubkeyIndex.length)
    (.bridge .guardianThresholdNotMet)

/-- `mint_sol_to_recipient`; `accountIdx` is the position of `recipient`. -/
def mintSolToRecipient (rt : Runtime Pubkey Hash) (s : State Pubkey Hash)
    (recipient : Pubkey) (lamports accountIdx : UInt64) :
    Except ProgramError (State Pubkey Hash) := do
  require (rt.solayer = true) (.bridge .invalidOSForMintingSol)
  require (rt.solMintNativeSol lamports accountIdx = 0) (.bridge .failToMintSol)
  let total ← checkedAdd (s.lamports recipient) lamports.toNat .panic
  pure (s.setLamports recipient total)

/-- `transfer_sol_to_recipient`: direct edits of the two balances, the second
one made after the first. -/
def transferSolToRecipient (rt : Runtime Pubkey Hash) (s : State Pubkey Hash)
    (bridgeHandler recipient : Pubkey) (dataLen : Nat) (lamports : UInt64) :
    Except ProgramError (State Pubkey Hash) := do
  let floor ← checkedAdd (rt.minimumBalance dataLen) lamports.toNat .panic
  require (floor ≤ s.lamports bridgeHandler) (.bridge .insufficientFunds)
  let left ← checkedSub (s.lamports bridgeHandler) lamports.toNat .panic
  let s := s.setLamports bridgeHandler left
  let total ← checkedAdd (s.lamports recipient) lamports.toNat .panic
  pure (s.setLamports recipient total)

/-- Lamports for the recipient: minted on Solayer, taken from the handler on Solana. -/
def paySol (rt : Runtime Pubkey Hash) (s : State Pubkey Hash) (chain : Chain)
    (bridgeHandler recipient : Pubkey) (dataLen : Nat) (lamports accountIdx : UInt64) :
    Except ProgramError (State Pubkey Hash) :=
  match chain with
  | .solayer => mintSolToRecipient rt s recipient lamports accountIdx
  | .solana => transferSolToRecipient rt s bridgeHandler recipient dataLen lamports

/-- What a payout stores in its proof account. -/
def payoutProof (clock : Clock) (bump : UInt8) (message : Hash)
    (sourceTxId : Vector UInt8 64) (recipient : Pubkey) : BridgeProof Pubkey Hash where
  bump := bump
  msgHash := message
  txId := sourceTxId
  userAccount := recipient
  createdAt := clock.unixTimestamp

structure BridgeAssetTargetChain (Pubkey : Type) where
  operator : Pubkey
  mint : Pubkey
  recipient : Pubkey
  recipientVault : Pubkey
  bridgeHandler : Pubkey
  bridgeHandlerVault : Pubkey
  bridgeProof : Pubkey
  guardianInfo : Pubkey
  verifiedSignatures : Pubkey
  tokenInfo : Pubkey
  tokenProgram : Pubkey

/-- The account `recipient_vault`: the recipient's associated token account,
created when it does not exist. -/
def initRecipientVaultIfNeeded (rt : Runtime Pubkey Hash) (s : State Pubkey Hash)
    (a : BridgeAssetTargetChain Pubkey) : Except ProgramError (State Pubkey Hash) := do
  let s ← (if (s.data a.recipientVault).isSystem then
      createAssociatedToken rt s a.operator a.recipientVault a.recipient a.mint
        a.tokenProgram
    else pure s)
  let (owner, t) ← readTokenAccount s a.recipientVault
  require (owner ∈ rt.tokenPrograms) (.anchor .accountOwnedByWrongProgram)
  require (t.mint = a.mint) (.anchor .constraintTokenMint)
  require (t.owner = a.recipient) (.anchor .constraintTokenOwner)
  require (owner = a.tokenProgram) (.anchor .constraintAssociatedTokenTokenProgram)
  require (rt.associatedTokenAddress a.recipient a.mint a.tokenProgram = a.recipientVault)
    (.anchor .accountNotAssociatedTokenAccount)
  pure s

/-- The account `bridge_handler_vault`: the handler's associated token account. -/
def loadBridgeHandlerVault (rt : Runtime Pubkey Hash) (s : State Pubkey Hash)
    (a : BridgeAssetTargetChain Pubkey) : Except ProgramError (TokenAccount Pubkey) := do
  let (owner, t) ← readTokenAccount s a.bridgeHandlerVault
  require (owner ∈ rt.tokenPrograms) (.anchor .accountOwnedByWrongProgram)
  require (t.owner = a.bridgeHandler) (.anchor .constraintTokenOwner)
  require (rt.associatedTokenAddress a.bridgeHandler a.mint a.tokenProgram =
    a.bridgeHandlerVault) (.anchor .constraintAssociated)
  require (owner = a.tokenProgram) (.anchor .constraintAssociatedTokenTokenProgram)
  pure t

/-- The dollar value of a token payout, `None` for a mint that is not listed. -/
def getWhitelistedTokenPrice (rt : Runtime Pubkey Hash) (mint : Pubkey)
    (amount : UInt64) (decimals : UInt8) : Option UInt64 :=
  (solanaWhitelistedTokens.find? fun entry => entry.1 == rt.pubkeyBytes mint).map
    fun entry => rt.tokenDollarValue entry.2 amount decimals

/-- The instant cap of a token payout applies to listed mints on Solana. -/
def chargeTokenPayout (rt : Runtime Pubkey Hash) (clock : Clock) (mint : Pubkey)
    (receiveAmount : UInt64) (decimals : UInt8) (createdAt : UInt64)
    (h : BridgeHandler Pubkey) : Except ProgramError (BridgeHandler Pubkey) := do
  if h.chain = .solana ∧ isTokenWhitelisted (rt.pubkeyBytes mint) = true then
    let dollarValue ← okOr (getWhitelistedTokenPrice rt mint receiveAmount decimals)
      (.bridge .tokenNotExists)
    chargeInstantCap clock createdAt dollarValue h
  else pure h

/-- The part of the instruction that releases or mints the tokens. -/
def payTokens (rt : Runtime Pubkey Hash) (s : State Pubkey Hash)
    (a : BridgeAssetTargetChain Pubkey) (chain : Chain) (t : TokenInfo Pubkey)
    (vaultAmount : Nat) (decimals : UInt8) (receiveAmount : UInt64) :
    Except ProgramError (State Pubkey Hash) := do
  if isNativeOn chain t then
    require (receiveAmount.toNat ≤ vaultAmount) (.bridge .insufficientFunds)
    transferChecked rt s a.tokenProgram a.bridgeHandlerVault a.recipientVault a.mint
      a.bridgeHandler receiveAmount.toNat decimals
  else if isWrappedOn chain t then
    mintTo s a.tokenProgram a.mint a.recipientVault a.bridgeHandler receiveAmount.toNat
  else .error (.bridge .invalidTokenInfo)

def bridgeAssetTargetChain (rt : Runtime Pubkey Hash) (signers : List Pubkey)
    (s : State Pubkey Hash) (a : BridgeAssetTargetChain Pubkey) (msgHash : Hash)
    (sourceTxId : Vector UInt8 64) (sender sourceMint : Pubkey)
    (receiveAmount nonce additionalSolGas : UInt64) :
    Except ProgramError (State Pubkey Hash) := do
  checkSigner signers a.operator
  checkTokenProgram rt a.tokenProgram
  let m ← loadMint rt s a.tokenProgram a.mint
  let h ← loadBridgeHandler rt s a.bridgeHandler
  require (h.operator = a.operator) (.bridge .invalidOperator)
  let vault ← loadBridgeHandlerVault rt s a
  let g ← loadGuardianInfo rt s a.bridgeHandler a.guardianInfo
  let v ← loadVerifiedSignatures rt s a.bridgeHandler msgHash a.verifiedSignatures
  require (a.verifiedSignatures ≠ a.operator) (.anchor .constraintClose)
  let t ← loadTokenInfo rt s a.bridgeHandler a.mint a.tokenInfo
  let s ← initRecipientVaultIfNeeded rt s a
  let (s, proofBump) ← initAccount rt s a.operator
    (.bridgeProofTarget a.bridgeHandler (rt.hash sourceTxId.toList)) a.bridgeProof
    (.bridgeProof (zeroBridgeProof rt))
  require (h.pause = false) (.bridge .bridgePaused)
  let h ← chargeTokenPayout rt s.clock a.mint receiveAmount m.decimals v.createdAt h
  checkApprovals h g v
  require (additionalSolGas ≤ maxAdditionalSolGas) (.bridge .tooMuchAdditionalSolGas)
  let message := rt.hash (bridgeAssetTargetChainMessageData (rt.pubkeyBytes sender)
    (rt.pubkeyBytes a.recipient) (rt.pubkeyBytes sourceMint) (rt.pubkeyBytes a.mint)
    receiveAmount nonce sourceTxId additionalSolGas)
  require (message = msgHash) (.bridge .invalidGuardianSignatureMessage)
  let s ← payTokens rt s a h.chain t vault.amount m.decimals receiveAmount
  let proof := payoutProof s.clock proofBump message sourceTxId a.recipient
  let s ← (if 0 < additionalSolGas then
      paySol rt s h.chain a.bridgeHandler a.recipient
        (ProgramData.space (.bridgeHandler h : ProgramData Pubkey Hash)) additionalSolGas 2
    else pure s)
  let s ← exitAccount .mutable s a.bridgeHandler (.bridgeHandler h)
  let s ← exitAccount .mutable s a.bridgeProof (.bridgeProof proof)
  closeAccount s a.verifiedSignatures a.operator

structure BridgeAssetTargetChainSol (Pubkey : Type) where
  operator : Pubkey
  recipient : Pubkey
  bridgeHandler : Pubkey
  bridgeProof : Pubkey
  guardianInfo : Pubkey
  verifiedSignatures : Pubkey

/-- The instant cap of a SOL payout applies on Solana. -/
def chargeSolPayout (rt : Runtime Pubkey Hash) (clock : Clock) (receiveAmount : UInt64)
    (createdAt : UInt64) (h : BridgeHandler Pubkey) :
    Except ProgramError (BridgeHandler Pubkey) :=
  if h.chain = .solana then
    chargeInstantCap clock createdAt (rt.solDollarValue receiveAmount) h
  else pure h

def bridgeAssetTargetChainSol (rt : Runtime Pubkey Hash) (signers : List Pubkey)
    (s : State Pubkey Hash) (a : BridgeAssetTargetChainSol Pubkey) (msgHash : Hash)
    (sourceTxId : Vector UInt8 64) (sender : Pubkey) (receiveAmount nonce : UInt64) :
    Except ProgramError (State Pubkey Hash) := do
  checkSigner signers a.operator
  let h ← loadBridgeHandler rt s a.bridgeHandler
  require (h.operator = a.operator) (.bridge .invalidOperator)
  let g ← loadGuardianInfo rt s a.bridgeHandler a.guardianInfo
  let v ← loadVerifiedSignatures rt s a.bridgeHandler msgHash a.verifiedSignatures
  require (a.verifiedSignatures ≠ a.operator) (.anchor .constraintClose)
  let (s, proofBump) ← initAccount rt s a.operator
    (.bridgeProofTarget a.bridgeHandler (rt.hash sourceTxId.toList)) a.bridgeProof
    (.bridgeProof (zeroBridgeProof rt))
  require (h.pause = false) (.bridge .bridgePaused)
  let h ← chargeSolPayout rt s.clock receiveAmount v.createdAt h
  checkApprovals h g v
  let message := rt.hash (bridgeAssetTargetChainSolMessageData (rt.pubkeyBytes sender)
    (rt.pubkeyBytes a.recipient) receiveAmount nonce sourceTxId)
  require (message = msgHash) (.bridge .invalidGuardianSignatureMessage)
  let proof := payoutProof s.clock proofBump message sourceTxId a.recipient
  let s ← paySol rt s h.chain a.bridgeHandler a.recipient
    (ProgramData.space (.bridgeHandler h : ProgramData Pubkey Hash)) receiveAmount 1
  let s ← exitAccount .mutable s a.bridgeHandler (.bridgeHandler h)
  let s ← exitAccount .mutable s a.bridgeProof (.bridgeProof proof)
  closeAccount s a.verifiedSignatures a.operator

end BridgeProgram.TargetInstructions
