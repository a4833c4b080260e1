import BridgeProgram.AnchorAccounts
import BridgeProgram.TokenPrograms

namespace BridgeProgram.TokenInstructions

open BridgeProgram.AnchorAccounts
open BridgeProgram.CheckedResult
open BridgeProgram.ProgramStates
open BridgeProgram.SolanaRuntime
open BridgeProgram.TokenPrograms

variable {Pubkey Hash : Type} [DecidableEq Pubkey]

/-- Contents of a new token info account: all bytes zero. -/
def zeroTokenInfo (rt : Runtime Pubkey Hash) : TokenInfo Pubkey where
  bump := 0
  solanaMint := rt.defaultPubkey
  solayerMint := rt.defaultPubkey
  isSolanaNativeToken := false
  isSolayerNativeToken := false
  pause := false

/-- The condition under which a token is locked and released on the handler's chain. -/
def isNativeOn (chain : Chain) (t : TokenInfo Pubkey) : Bool :=
  (chain == .solana && t.isSolanaNativeToken) ||
    (chain == .solayer && t.isSolayerNativeToken)

/-- The condition under which a token is burned and minted on the handler's chain. -/
def isWrappedOn (chain : Chain) (t : TokenInfo Pubkey) : Bool :=
  (chain == .solana && !t.isSolanaNativeToken) ||
    (chain == .solayer && !t.isSolayerNativeToken)

/-- `init_if_needed_and_check_bridge_handler_vault`, the same code in
`add_token` and `bridge_asset_source_chain`. The owner that is compared at the
end is the owner after the account was created. -/
def initIfNeededAndCheckBridgeHandlerVault (rt : Runtime Pubkey Hash)
    (s : State Pubkey Hash) (payer bridgeHandlerVault bridgeHandler mint
      tokenProgram : Pubkey) : Except ProgramError (State Pubkey Hash) := do
  let s ← (if (s.data bridgeHandlerVault).owner rt = rt.systemProgram then
      createAssociatedToken rt s payer bridgeHandlerVault bridgeHandler mint tokenProgram
    else pure s)
  let (ownerProgram, tokenAccount) ← readTokenAccount s bridgeHandlerVault
  require (tokenAccount.mint = mint) (.anchor .constraintTokenMint)
  require (tokenAccount.owner = bridgeHandler) (.anchor .constraintTokenOwner)
  require (ownerProgram = tokenProgram) (.anchor .constraintAssociatedTokenTokenProgram)
  require (bridgeHandlerVault = rt.associatedTokenAddress bridgeHandler mint tokenProgram)
    (.anchor .accountNotAssociatedTokenAccount)
  require (rt.minimumBalance (rt.tokenAccountLen mint) ≤ s.lamports bridgeHandlerVault)
    (.anchor .constraintRentExempt)
  pure s

structure AddToken (Pubkey : Type) where
  operator : Pubkey
  bridgeHandler : Pubkey
  mint : Pubkey
  sourceMint : Pubkey
  bridgeHandlerVault : Pubkey
  metadata : Pubkey
  tokenInfo : Pubkey
  tokenProgram : Pubkey

/-- The account `mint` of `add_token`: created at the address of its seeds with
the handler as authority, or checked when it exists. -/
def initMintIfNeeded (rt : Runtime Pubkey Hash) (s : State Pubkey Hash)
    (a : AddToken Pubkey) (decimal : UInt8) : Except ProgramError (State Pubkey Hash) := do
  require ((rt.findProgramAddress (.mint a.bridgeHandler a.sourceMint)).1 = a.mint)
    (.anchor .constraintSeeds)
  let s ← (if (s.data a.mint).isSystem then
      createAccount rt s a.operator a.mint rt.mintLen
        (.mint a.tokenProgram
          { supply := 0, decimals := decimal, mintAuthority := some a.bridgeHandler })
    else pure s)
  let m ← loadMint rt s a.tokenProgram a.mint
  require (m.mintAuthority = some a.bridgeHandler) (.anchor .constraintMintMintAuthority)
  require (m.decimals = decimal) (.anchor .constraintMintDecimals)
  pure s

/-- What `add_token` stores for a token that was not registered. -/
def addedTokenInfo (chain : Chain) (bump : UInt8) (mint sourceMint : Pubkey) :
    TokenInfo Pubkey :=
  let (solanaMint, solayerMint) := match chain with
    | .solana => (mint, sourceMint)
    | .solayer => (sourceMint, mint)
  let (isSolanaNativeToken, isSolayerNativeToken) := match chain with
    | .solana => (false, true)
    | .solayer => (true, false)
  { bump, solanaMint, solayerMint, isSolanaNativeToken, isSolayerNativeToken,
    pause := false }

def addToken (rt : Runtime Pubkey Hash) (signers : List Pubkey) (s : State Pubkey Hash)
    (a : AddToken Pubkey) (decimal : UInt8) (name symbol uri : Option String) :
    Except ProgramError (State Pubkey Hash) := do
  checkSigner signers a.operator
  checkTokenProgram rt a.tokenProgram
  let h ← loadBridgeHandler rt s a.bridgeHandler
  require (h.operator = a.operator) (.bridge .invalidOperator)
  let s ← initMintIfNeeded rt s a decimal
  require (rt.metadataAddress a.mint = a.metadata) (.anchor .constraintAddress)
  let (s, t, bump) ← initIfNeeded rt s a.operator (.tokenInfo a.bridgeHandler a.mint)
    a.tokenInfo ProgramData.tokenInfo? (.tokenInfo (zeroTokenInfo rt))
  let s ← initIfNeededAndCheckBridgeHandlerVault rt s a.operator a.bridgeHandlerVault
    a.bridgeHandler a.mint a.tokenProgram
  if t.isSolanaNativeToken || t.isSolayerNativeToken then
    exitAccount .mutable s a.tokenInfo (.tokenInfo t)
  else
    -- metadata is only created on Solana
    let s ← (if name.isSome ∧ symbol.isSome ∧ uri.isSome ∧ h.chain = .solana then
        createAccount rt s a.operator a.metadata rt.metadataLen
          (.foreign rt.tokenMetadataProgram)
      else pure s)
    exitAccount .mutable s a.tokenInfo
      (.tokenInfo (addedTokenInfo h.chain bump a.mint a.sourceMint))

structure PauseToken (Pubkey : Type) where
  manager : Pubkey
  bridgeHandler : Pubkey
  mint : Pubkey
  tokenInfo : Pubkey
  tokenProgram : Pubkey

/-- Both instructions on the context `PauseToken`, whose account list declares
no account `mut`. -/
def setTokenPause (rt : Runtime Pubkey Hash) (signers : List Pubkey)
    (s : State Pubkey Hash) (a : PauseToken Pubkey) (pause : Bool) :
    Except ProgramError (State Pubkey Hash) := do
  checkSigner signers a.manager
  let h ← loadBridgeHandler rt s a.bridgeHandler
  require (h.manager = a.manager) (.bridge .unauthorized)
  checkTokenProgram rt a.tokenProgram
  let _ ← loadMint rt s a.tokenProgram a.mint
  let t ← loadTokenInfo rt s a.bridgeHandler a.mint a.tokenInfo
  exitAccount .readonly s a.tokenInfo (.tokenInfo { t with pause })

def pauseToken (rt : Runtime Pubkey Hash) (signers : List Pubkey)
    (s : State Pubkey Hash) (a : PauseToken Pubkey) :
    Except ProgramError (State Pubkey Hash) :=
  setTokenPause rt signers s a true

def unpauseToken (rt : Runtime Pubkey Hash) (signers : List Pubkey)
    (s : State Pubkey Hash) (a : PauseToken Pubkey) :
    Except ProgramError (State Pubkey Hash) :=
  setTokenPause rt signers s a false

end BridgeProgram.TokenInstructions
