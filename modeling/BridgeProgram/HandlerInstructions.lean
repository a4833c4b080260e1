import BridgeProgram.AnchorAccounts

namespace BridgeProgram.HandlerInstructions

open BridgeProgram.AnchorAccounts
open BridgeProgram.CheckedResult
open BridgeProgram.ProgramStates
open BridgeProgram.SolanaRuntime

variable {Pubkey Hash : Type} [DecidableEq Pubkey]

structure Initialize (Pubkey : Type) where
  signer : Pubkey
  bridgeHandler : Pubkey
  guardianInfo : Pubkey
  feeVault : Pubkey
  manager : Pubkey
  operator : Pubkey

/-- The argument `chain` of `initialize`. -/
def chainOfU8 (chain : UInt8) : Except ProgramError Chain :=
  if chain = 1 then .ok .solana
  else if chain = 2 then .ok .solayer
  else .error (.bridge .invalidChain)

/-- Contents of a new handler account: all bytes zero. -/
def zeroBridgeHandler (rt : Runtime Pubkey Hash) : BridgeHandler Pubkey where
  bump := 0
  initNonce := 0
  pause := false
  nonce := 0
  chain := .solana
  feeVault := rt.defaultPubkey
  manager := rt.defaultPubkey
  operator := rt.defaultPubkey
  guardianInfo := rt.defaultPubkey
  guardianThreshold := 0
  instantBridgeCapRemainedDollar := 0
  instantBridgeCapEpoch := 0
  feeInfo := { bridgeAssetFee := 0, bridgeMessageFee := 0, crossChainCallFee := 0 }

/-- What `Initialize::initialize` stores in the handler. -/
def initialHandler (a : Initialize Pubkey) (bump : UInt8) (initNonce : UInt64)
    (chain : Chain) (clock : Clock) : BridgeHandler Pubkey where
  bump := bump
  initNonce := initNonce
  pause := false
  nonce := 0
  chain := chain
  feeVault := a.feeVault
  manager := a.manager
  operator := a.operator
  guardianInfo := a.guardianInfo
  guardianThreshold := 255
  instantBridgeCapRemainedDollar := solanaDollarCapPerEpoch
  instantBridgeCapEpoch := clock.epoch
  feeInfo := FixedFeeInfo.default

def initializeHandler (rt : Runtime Pubkey Hash) (signers : List Pubkey)
    (s : State Pubkey Hash) (a : Initialize Pubkey) (initNonce : UInt64) (chain : UInt8) :
    Except ProgramError (State Pubkey Hash) := do
  checkSigner signers a.signer
  let (s, handlerBump) ← initAccount rt s a.signer (.bridgeHandler initNonce)
    a.bridgeHandler (.bridgeHandler (zeroBridgeHandler rt))
  let (s, guardianBump) ← initAccount rt s a.signer (.guardianInfo a.bridgeHandler)
    a.guardianInfo (.guardianInfo { bump := 0, guardians := [] })
  let chain ← chainOfU8 chain
  let s ← exitAccount .mutable s a.bridgeHandler
    (.bridgeHandler (initialHandler a handlerBump initNonce chain s.clock))
  exitAccount .mutable s a.guardianInfo
    (.guardianInfo { bump := guardianBump, guardians := [] })

/-- The instructions whose accounts are a signing `manager` and its mutable
`bridge_handler`: they replace the handler by `update` of it. -/
def updateByManager (rt : Runtime Pubkey Hash) (signers : List Pubkey)
    (s : State Pubkey Hash) (manager bridgeHandler : Pubkey)
    (update : BridgeHandler Pubkey → Except ProgramError (BridgeHandler Pubkey)) :
    Except ProgramError (State Pubkey Hash) := do
  checkSigner signers manager
  let h ← loadBridgeHandler rt s bridgeHandler
  require (h.manager = manager) (.bridge .unauthorized)
  let h ← update h
  exitAccount .mutable s bridgeHandler (.bridgeHandler h)

structure PauseBridge (Pubkey : Type) where
  manager : Pubkey
  bridgeHandler : Pubkey

structure UpdateFeeVault (Pubkey : Type) where
  manager : Pubkey
  bridgeHandler : Pubkey
  newFeeVault : Pubkey

structure UpdateFeeInfo (Pubkey : Type) where
  manager : Pubkey
  bridgeHandler : Pubkey

structure UpdateInstantBridgeCap (Pubkey : Type) where
  manager : Pubkey
  bridgeHandler : Pubkey

structure UpdateOperator (Pubkey : Type) where
  manager : Pubkey
  bridgeHandler : Pubkey
  newOperator : Pubkey

structure UpdateManager (Pubkey : Type) where
  manager : Pubkey
  bridgeHandler : Pubkey
  newManager : Pubkey

def pauseBridge (h : BridgeHandler Pubkey) :
    Except ProgramError (BridgeHandler Pubkey) :=
  pure { h with pause := true }

def unpauseBridge (h : BridgeHandler Pubkey) :
    Except ProgramError (BridgeHandler Pubkey) :=
  pure { h with pause := false }

/-- The new vault must differ from the stored one. -/
def updateFeeVault (newFeeVault : Pubkey) (h : BridgeHandler Pubkey) :
    Except ProgramError (BridgeHandler Pubkey) := do
  require (newFeeVault ≠ h.feeVault) (.anchor .constraintRaw)
  pure { h with feeVault := newFeeVault }

def updateFeeInfo (feeInfo : FixedFeeInfo) (h : BridgeHandler Pubkey) :
    Except ProgramError (BridgeHandler Pubkey) :=
  pure { h with feeInfo }

def updateInstantBridgeCap (instantBridgeCap : UInt64) (h : BridgeHandler Pubkey) :
    Except ProgramError (BridgeHandler Pubkey) :=
  pure { h with instantBridgeCapRemainedDollar := instantBridgeCap }

def updateOperator (newOperator : Pubkey) (h : BridgeHandler Pubkey) :
    Except ProgramError (BridgeHandler Pubkey) :=
  pure { h with operator := newOperator }

def updateManager (newManager : Pubkey) (h : BridgeHandler Pubkey) :
    Except ProgramError (BridgeHandler Pubkey) :=
  pure { h with manager := newManager }

structure AddGuardian (Pubkey : Type) where
  manager : Pubkey
  bridgeHandler : Pubkey
  guardianInfo : Pubkey
  guardian : Pubkey

structure RemoveGuardian (Pubkey : Type) where
  manager : Pubkey
  bridgeHandler : Pubkey
  guardianInfo : Pubkey
  guardian : Pubkey

structure UpdateGuardianThreshold (Pubkey : Type) where
  manager : Pubkey
  bridgeHandler : Pubkey
  guardianInfo : Pubkey

/-- The manager's handler together with its guardian list. -/
def loadManagedGuardians (rt : Runtime Pubkey Hash) (signers : List Pubkey)
    (s : State Pubkey Hash) (manager bridgeHandler guardianInfo : Pubkey) :
    Except ProgramError (BridgeHandler Pubkey × GuardianInfo Pubkey) := do
  checkSigner signers manager
  let h ← loadBridgeHandler rt s bridgeHandler
  require (h.manager = manager) (.bridge .unauthorized)
  let g ← loadGuardianInfo rt s bridgeHandler guardianInfo
  pure (h, g)

def addGuardian (rt : Runtime Pubkey Hash) (signers : List Pubkey)
    (s : State Pubkey Hash) (a : AddGuardian Pubkey) :
    Except ProgramError (State Pubkey Hash) := do
  let (_, g) ← loadManagedGuardians rt signers s a.manager a.bridgeHandler a.guardianInfo
  require (a.guardian ∉ g.guardians) (.bridge .guardianAlreadyExists)
  let g := { g with guardians := g.guardians ++ [a.guardian] }
  exitAccount .mutable s a.guardianInfo (.guardianInfo g)

def removeGuardian (rt : Runtime Pubkey Hash) (signers : List Pubkey)
    (s : State Pubkey Hash) (a : RemoveGuardian Pubkey) :
    Except ProgramError (State Pubkey Hash) := do
  let (h, g) ← loadManagedGuardians rt signers s a.manager a.bridgeHandler a.guardianInfo
  require (a.guardian ∈ g.guardians) (.bridge .guardianNotFound)
  let g := { g with guardians := g.guardians.filter (· ≠ a.guardian) }
  require (h.guardianThreshold.toNat ≤ g.guardians.length)
    (.bridge .guardianThresholdNotMet)
  exitAccount .mutable s a.guardianInfo (.guardianInfo g)

def updateGuardianThreshold (rt : Runtime Pubkey Hash) (signers : List Pubkey)
    (s : State Pubkey Hash) (a : UpdateGuardianThreshold Pubkey)
    (guardianThreshold : UInt8) : Except ProgramError (State Pubkey Hash) := do
  let (h, g) ← loadManagedGuardians rt signers s a.manager a.bridgeHandler a.guardianInfo
  require (0 < guardianThreshold ∧ guardianThreshold ≤ UInt8.ofNat maxGuardianCount)
    (.bridge .invalidGuardianThreshold)
  let minimumThreshold := UInt8.ofNat g.guardians.length / 2 + 1
  require (minimumThreshold ≤ guardianThreshold) (.bridge .invalidGuardianThreshold)
  require (guardianThreshold.toNat ≤ g.guardians.length)
    (.bridge .guardianThresholdNotMet)
  exitAccount .mutable s a.bridgeHandler (.bridgeHandler { h with guardianThreshold })

end BridgeProgram.HandlerInstructions
