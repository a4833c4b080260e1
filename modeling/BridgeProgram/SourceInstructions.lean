import BridgeProgram.MessageFormats
import BridgeProgram.TokenInstructions

namespace BridgeProgram.SourceInstructions

open BridgeProgram.AnchorAccounts
open BridgeProgram.CheckedResult
open BridgeProgram.MessageFormats
open BridgeProgram.ProgramStates
open BridgeProgram.SolanaRuntime
open BridgeProgram.TokenInstructions
open BridgeProgram.TokenPrograms

variable {Pubkey Hash : Type} [DecidableEq Pubkey]

/-- Contents of a new source proof account: all bytes zero. -/
def zeroBridgeProofSourceChain (rt : Runtime Pubkey Hash) :
    BridgeProofSourceChain Pubkey Hash where
  bump := 0
  msgHash := rt.defaultHash
  userAccount := rt.defaultPubkey
  createdAt := 0

/-- `burn_sol`. -/
def burnSol (rt : Runtime Pubkey Hash) (s : State Pubkey Hash) (signer : Pubkey)
    (lamports : UInt64) : Except ProgramError (State Pubkey Hash) := do
  require (rt.solayer = true) (.bridge .invalidOSForBurningSol)
  require (rt.solBurnNativeSol lamports 0 = 0) (.bridge .failToBurnSol)
  let left ← checkedSub (s.lamports signer) lamports.toNat .panic
  pure (s.setLamports signer left)

/-- `self.bridge_handler.nonce = nonce.checked_add(1).unwrap()`. -/
def takeNonce (h : BridgeHandler Pubkey) :
    Except ProgramError (UInt64 × BridgeHandler Pubkey) := do
  let next ← checkedAdd h.nonce.toNat 1 .panic
  pure (h.nonce, { h with nonce := UInt64.ofNat next })

/-- `issue_bridge_proof`, the same code in both instructions but for the mint. -/
def issueBridgeProof (rt : Runtime Pubkey Hash) (clock : Clock) (bump : UInt8)
    (signer recipient : Pubkey) (mint : Vector UInt8 32)
    (amount bridgeProofNonce : UInt64) : BridgeProofSourceChain Pubkey Hash where
  bump := bump
  msgHash := rt.hash (issueBridgeProofMessageData (rt.pubkeyBytes signer)
    (rt.pubkeyBytes recipient) mint amount bridgeProofNonce)
  userAccount := signer
  createdAt := clock.unixTimestamp

structure BridgeAssetSourceChain (Pubkey : Type) where
  signer : Pubkey
  mint : Pubkey
  signerVault : Pubkey
  bridgeHandler : Pubkey
  bridgeHandlerVault : Pubkey
  bridgeProof : Pubkey
  tokenInfo : Pubkey
  feeVault : Pubkey
  tokenProgram : Pubkey

/-- The account `signer_vault`: a token account of the signer for the mint. -/
def loadSignerVault (rt : Runtime Pubkey Hash) (s : State Pubkey Hash)
    (a : BridgeAssetSourceChain Pubkey) : Except ProgramError (TokenAccount Pubkey) := do
  let (owner, t) ← readTokenAccount s a.signerVault
  require (owner ∈ rt.tokenPrograms) (.anchor .accountOwnedByWrongProgram)
  require (t.owner = a.signer) (.anchor .constraintTokenOwner)
  require (t.mint = a.mint) (.anchor .constraintTokenMint)
  require (owner = a.tokenProgram) (.anchor .constraintTokenTokenProgram)
  pure t

/-- The part of the instruction that takes `additional_sol_gas` from the signer. -/
def takeAdditionalSolGas (rt : Runtime Pubkey Hash) (s : State Pubkey Hash)
    (chain : Chain) (signer bridgeHandler : Pubkey) (additionalSolGas : UInt64) :
    Except ProgramError (State Pubkey Hash) := do
  require (additionalSolGas ≤ maxAdditionalSolGas) (.bridge .tooMuchAdditionalSolGas)
  if 0 < additionalSolGas then
    require (minSolBridgeAmount ≤ additionalSolGas) (.bridge .tooLittleAdditionalSolGas)
    match chain with
    | .solayer => burnSol rt s signer additionalSolGas
    | .solana => systemTransfer s signer bridgeHandler additionalSolGas.toNat
  else pure s

/-- What the first source call of a mint stores: a token of the handler's chain. -/
def registeredTokenInfo (chain : Chain) (bump : UInt8) (mint targetMint : Pubkey) :
    TokenInfo Pubkey :=
  match chain with
  | .solana =>
      { bump, solanaMint := mint, solayerMint := targetMint,
        isSolanaNativeToken := true, isSolayerNativeToken := false, pause := false }
  | .solayer =>
      { bump, solanaMint := targetMint, solayerMint := mint,
        isSolanaNativeToken := false, isSolayerNativeToken := true, pause := false }

/-- The part of the instruction that locks or burns the tokens, and registers
the mint when neither flag of its token info is set. -/
def takeTokens (rt : Runtime Pubkey Hash) (s : State Pubkey Hash)
    (a : BridgeAssetSourceChain Pubkey) (chain : Chain) (decimals : UInt8)
    (t : TokenInfo Pubkey) (tokenInfoBump : UInt8) (amount : UInt64)
    (targetMint : Pubkey) : Except ProgramError (State Pubkey Hash × TokenInfo Pubkey) := do
  if !t.isSolanaNativeToken && !t.isSolayerNativeToken then
    let s ← transferChecked rt s a.tokenProgram a.signerVault a.bridgeHandlerVault a.mint
      a.signer amount.toNat decimals
    let s ← (match chain with
      | .solayer => systemTransfer s a.signer a.feeVault metadataCreationFee.toNat
      | .solana => pure s)
    pure (s, registeredTokenInfo chain tokenInfoBump a.mint targetMint)
  else
    require (t.pause = false) (.bridge .tokenPaused)
    if isNativeOn chain t then
      let s ← transferChecked rt s a.tokenProgram a.signerVault a.bridgeHandlerVault a.mint
        a.signer amount.toNat decimals
      pure (s, t)
    else if isWrappedOn chain t then
      let s ← burn s a.tokenProgram a.mint a.signerVault a.signer amount.toNat
      pure (s, t)
    else pure (s, t)

def bridgeAssetSourceChain (rt : Runtime Pubkey Hash) (signers : List Pubkey)
    (s : State Pubkey Hash) (a : BridgeAssetSourceChain Pubkey)
    (bridgeProofNonce amount : UInt64) (recipient targetMint : Pubkey)
    (additionalSolGas : UInt64) : Except ProgramError (State Pubkey Hash × UInt64) := do
  checkSigner signers a.signer
  checkTokenProgram rt a.tokenProgram
  let m ← loadMint rt s a.tokenProgram a.mint
  let signerVault ← loadSignerVault rt s a
  let h ← loadBridgeHandler rt s a.bridgeHandler
  require (h.feeVault = a.feeVault) (.anchor .constraintHasOne)
  let (s, proofBump) ← initAccount rt s a.signer
    (.bridgeProofSource a.bridgeHandler a.signer bridgeProofNonce) a.bridgeProof
    (.bridgeProofSourceChain (zeroBridgeProofSourceChain rt))
  let (s, t, tokenInfoBump) ← initIfNeeded rt s a.signer
    (.tokenInfo a.bridgeHandler a.mint) a.tokenInfo ProgramData.tokenInfo?
    (.tokenInfo (zeroTokenInfo rt))
  let s ← initIfNeededAndCheckBridgeHandlerVault rt s a.signer a.bridgeHandlerVault
    a.bridgeHandler a.mint a.tokenProgram
  require (h.pause = false) (.bridge .bridgePaused)
  require (amount.toNat ≤ signerVault.amount) (.bridge .insufficientAmount)
  let s ← systemTransfer s a.signer a.feeVault h.feeInfo.bridgeAssetFee.toNat
  let s ← takeAdditionalSolGas rt s h.chain a.signer a.bridgeHandler additionalSolGas
  let (s, t) ← takeTokens rt s a h.chain m.decimals t tokenInfoBump amount targetMint
  let (nonce, h) ← takeNonce h
  let proof := issueBridgeProof rt s.clock proofBump a.signer recipient
    (rt.pubkeyBytes a.mint) amount bridgeProofNonce
  let s ← exitAccount .mutable s a.bridgeHandler (.bridgeHandler h)
  let s ← exitAccount .mutable s a.bridgeProof (.bridgeProofSourceChain proof)
  let s ← exitAccount .mutable s a.tokenInfo (.tokenInfo t)
  pure (s, nonce)

structure BridgeAssetSourceChainSol (Pubkey : Type) where
  signer : Pubkey
  bridgeHandler : Pubkey
  bridgeProof : Pubkey
  feeVault : Pubkey

def bridgeAssetSourceChainSol (rt : Runtime Pubkey Hash) (signers : List Pubkey)
    (s : State Pubkey Hash) (a : BridgeAssetSourceChainSol Pubkey)
    (bridgeProofNonce amount : UInt64) (recipient : Pubkey) :
    Except ProgramError (State Pubkey Hash × UInt64) := do
  checkSigner signers a.signer
  let h ← loadBridgeHandler rt s a.bridgeHandler
  require (h.feeVault = a.feeVault) (.anchor .constraintHasOne)
  let (s, proofBump) ← initAccount rt s a.signer
    (.bridgeProofSource a.bridgeHandler a.signer bridgeProofNonce) a.bridgeProof
    (.bridgeProofSourceChain (zeroBridgeProofSourceChain rt))
  require (h.pause = false) (.bridge .bridgePaused)
  require (minSolBridgeAmount ≤ amount) (.bridge .tooLittleSolBridgeAmount)
  let s ← systemTransfer s a.signer a.feeVault h.feeInfo.bridgeAssetFee.toNat
  require (amount.toNat ≤ s.lamports a.signer) (.bridge .insufficientAmount)
  let s ← (match h.chain with
    | .solana => systemTransfer s a.signer a.bridgeHandler amount.toNat
    | .solayer => burnSol rt s a.signer amount)
  let (nonce, h) ← takeNonce h
  let proof := issueBridgeProof rt s.clock proofBump a.signer recipient solMintPubkey
    amount bridgeProofNonce
  let s ← exitAccount .mutable s a.bridgeHandler (.bridgeHandler h)
  let s ← exitAccount .mutable s a.bridgeProof (.bridgeProofSourceChain proof)
  pure (s, nonce)

end BridgeProgram.SourceInstructions
