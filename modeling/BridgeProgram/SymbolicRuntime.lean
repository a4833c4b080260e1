import BridgeProgram.ClientEncoding
import BridgeProgram.RegistryModel

/-!
A runtime on which the program can be run: a digest is the hashed string itself,
and a program-derived address is the term of its seeds. Both are collision free
by construction.
-/

namespace BridgeProgram.SymbolicRuntime

open BridgeProgram.BridgeProgramEntry
open BridgeProgram.ClientEncoding
open BridgeProgram.Ed25519Instruction
open BridgeProgram.MessageFormats
open BridgeProgram.ProgramStates
open BridgeProgram.RegistryModel
open BridgeProgram.SolanaRuntime

/-- Public keys: key pairs and fixed programs are atoms, derived addresses are
built from them. -/
inductive Key
  | atom (n : Nat)
  | pair (a b : Key)
  deriving DecidableEq

abbrev Digest := List UInt8

def Key.ofBytes : List UInt8 → Key
  | [] => .atom 0
  | byte :: bytes => .pair (.atom byte.toNat) (.ofBytes bytes)

def Key.leaves : Key → List Nat
  | .atom n => [n]
  | .pair a b => a.leaves ++ b.leaves

theorem Key.ofBytes_inj {bytes bytes' : List UInt8} :
    Key.ofBytes bytes = Key.ofBytes bytes' ↔ bytes = bytes' := by
  induction bytes generalizing bytes' with
  | nil => cases bytes' <;> simp [Key.ofBytes]
  | cons byte bytes ih =>
      cases bytes' with
      | nil => simp [Key.ofBytes]
      | cons byte' bytes' => simp [Key.ofBytes, ih, UInt8.toNat_inj]

/-- The term of the seeds of an address. -/
def encodeSeeds : Seeds Key Digest → Key
  | .bridgeHandler initNonce => .pair (.atom 0) (.atom initNonce.toNat)
  | .guardianInfo bridgeHandler => .pair (.atom 1) bridgeHandler
  | .verifiedSignatures bridgeHandler msgHash =>
      .pair (.atom 2) (.pair bridgeHandler (.ofBytes msgHash))
  | .tokenInfo bridgeHandler mint => .pair (.atom 3) (.pair bridgeHandler mint)
  | .mint bridgeHandler sourceMint => .pair (.atom 4) (.pair bridgeHandler sourceMint)
  | .bridgeProofSource bridgeHandler signer nonce =>
      .pair (.atom 5) (.pair bridgeHandler (.pair signer (.atom nonce.toNat)))
  | .bridgeProofTarget bridgeHandler sourceTxHash =>
      .pair (.atom 6) (.pair bridgeHandler (.ofBytes sourceTxHash))

theorem encodeSeeds_inj {seeds seeds' : Seeds Key Digest} :
    encodeSeeds seeds = encodeSeeds seeds' ↔ seeds = seeds' := by
  cases seeds <;> cases seeds' <;>
    simp [encodeSeeds, Key.ofBytes_inj, UInt64.toNat_inj]

def symbolicAddress (seeds : Seeds Key Digest) (bump : UInt8) : Key :=
  .pair (.atom bump.toNat) (encodeSeeds seeds)

/-- The first bytes of a list, filled up with zeros. -/
def paddedBytes (width : Nat) (bytes : List UInt8) : Vector UInt8 width :=
  ⟨⟨(bytes ++ List.replicate width 0).take width⟩, by simp⟩

def symbolicRuntime (solayer : Bool) : Runtime Key Digest where
  programId := .atom 1001
  systemProgram := .atom 0
  ed25519Program := .atom 1002
  tokenMetadataProgram := .atom 1003
  tokenPrograms := [.atom 1004, .atom 1005]
  defaultPubkey := .atom 0
  defaultHash := List.replicate 32 0
  pubkeyBytes key := paddedBytes 32 (key.leaves.map UInt8.ofNat)
  hashBytes digest := paddedBytes 32 digest
  hash bytes := bytes
  createProgramAddress seeds bump := some (symbolicAddress seeds bump)
  findProgramAddress seeds := (symbolicAddress seeds 255, 255)
  create_find _ := rfl
  associatedTokenAddress owner mint tokenProgram :=
    .pair (.atom 1006) (.pair owner (.pair tokenProgram mint))
  metadataAddress mint := .pair (.atom 1007) mint
  minimumBalance len := (128 + len) * 6960
  mintLen := 82
  tokenAccountLen _ := 165
  metadataLen := 679
  transferFee _ _ := 0
  tokenDollarValue price amount decimals :=
    UInt64.ofNat (price * amount.toNat / 10 ^ decimals.toNat).floor.toNat
  solDollarValue lamports := UInt64.ofNat (lamports.toNat * 200 / 1000000000)
  solayer := solayer
  solMintNativeSol _ _ := 0
  solBurnNativeSol _ _ := 0

theorem symbolicRuntime_collisionFree (solayer : Bool) :
    CollisionFree (symbolicRuntime solayer) := by
  intro seeds bump seeds' bump' a h h'
  have heq : symbolicAddress seeds bump = symbolicAddress seeds' bump' :=
    Option.some.inj (h.trans h'.symm)
  simp only [symbolicAddress, Key.pair.injEq, Key.atom.injEq, encodeSeeds_inj,
    UInt8.toNat_inj] at heq
  exact ⟨heq.2, heq.1⟩

theorem symbolicRuntime_associated (solayer : Bool) :
    AssociatedAddresses (symbolicRuntime solayer) where
  injective heq := by
    simp only [symbolicRuntime, Key.pair.injEq, true_and] at heq
    exact ⟨heq.1, heq.2.2, heq.2.1⟩
  ne_owner owner mint tokenProgram heq := by
    have hsize := congrArg sizeOf heq
    simp only [symbolicRuntime, Key.pair.sizeOf_spec] at hsize
    omega
  ne_mint owner mint tokenProgram heq := by
    have hsize := congrArg sizeOf heq
    simp only [symbolicRuntime, Key.pair.sizeOf_spec] at hsize
    omega
  not_program owner mint tokenProgram seeds bump heq := by
    simp only [symbolicRuntime, symbolicAddress, Option.some.injEq, Key.pair.injEq,
      Key.atom.injEq] at heq
    have := bump.toNat_lt
    omega

theorem hasKey_atom (solayer : Bool) (n : Nat) : HasKey (symbolicRuntime solayer) (.atom n) where
  not_program seeds bump heq := by simp [symbolicRuntime, symbolicAddress] at heq
  not_associated owner mint tokenProgram heq := by simp [symbolicRuntime] at heq

/-- A ledger without any account of the program, on which the given wallets own
lamports. -/
def ledgerOf (wallets : List (Key × Nat)) : State Key Digest where
  lamports a := (wallets.lookup a).getD 0
  data _ := .system
  clock := { epoch := 0, unixTimestamp := 0 }

theorem genesis_ledgerOf (wallets : List (Key × Nat)) : Genesis (ledgerOf wallets) :=
  fun _ => rfl

def handlerKey (initNonce : UInt64) : Key :=
  symbolicAddress (.bridgeHandler initNonce) 255

def guardiansKey (bridgeHandler : Key) : Key :=
  symbolicAddress (.guardianInfo bridgeHandler) 255

def approvalsKey (bridgeHandler : Key) (msgHash : Digest) : Key :=
  symbolicAddress (.verifiedSignatures bridgeHandler msgHash) 255

def proofKey (bridgeHandler : Key) (sourceTxId : Vector UInt8 64) : Key :=
  symbolicAddress (.bridgeProofTarget bridgeHandler sourceTxId.toList) 255

/-- A call of an instruction that is alone in its transaction. -/
def callBy (signer : Key) (ix : Instruction Key Digest) : Call Key Digest where
  signers := [signer]
  ixSysvar := { instructions := [{ programId := .atom 1001, accounts := [], data := [] }]
                currentIndex := 0 }
  ix := ix

/-- A new handler, whose fee vault is the manager. -/
def initializeBy (signer : Key) (initNonce : UInt64) (chain : UInt8)
    (manager operator : Key) : Call Key Digest :=
  callBy signer (.initializeHandler
    { signer, bridgeHandler := handlerKey initNonce
      guardianInfo := guardiansKey (handlerKey initNonce)
      feeVault := manager, manager, operator } initNonce chain)

def addGuardianBy (manager bridgeHandler guardian : Key) : Call Key Digest :=
  callBy manager (.addGuardian
    { manager, bridgeHandler, guardianInfo := guardiansKey bridgeHandler, guardian })

def removeGuardianBy (manager bridgeHandler guardian : Key) : Call Key Digest :=
  callBy manager (.removeGuardian
    { manager, bridgeHandler, guardianInfo := guardiansKey bridgeHandler, guardian })

def updateThresholdBy (manager bridgeHandler : Key) (threshold : UInt8) : Call Key Digest :=
  callBy manager (.updateGuardianThreshold
    { manager, bridgeHandler, guardianInfo := guardiansKey bridgeHandler } threshold)

/-- The ed25519 instruction with signatures of the given keys over a digest. -/
def signatureInstruction (keys : List Key) (msgHash : Digest) : TxInstruction Key where
  programId := .atom 1002
  accounts := []
  data := (makeEd25519InstDataPacked
    (keys.map fun key =>
      { pubkey := (symbolicRuntime false).pubkeyBytes key
        signature := Vector.replicate 64 0
        msg := (symbolicRuntime false).hashBytes msgHash }) u16Max).getD []

/-- A call of `verify_signature` after an ed25519 instruction with signatures of
the given keys. -/
def verifyBy (operator bridgeHandler : Key) (msgHash : Digest) (signerIndexes : List UInt8)
    (keys : List Key) : Call Key Digest where
  signers := [operator]
  ixSysvar := { instructions := [signatureInstruction keys msgHash,
                  { programId := .atom 1001, accounts := [], data := [] }]
                currentIndex := 1 }
  ix := .verifySignature
    { operator, bridgeHandler, guardianInfo := guardiansKey bridgeHandler
      verifiedSignatures := approvalsKey bridgeHandler msgHash } msgHash signerIndexes

/-- A request for a SOL payout. -/
structure SolTransfer where
  sender : Key
  recipient : Key
  amount : UInt64
  nonce : UInt64
  sourceTxId : Vector UInt8 64

def SolTransfer.msgHash (x : SolTransfer) : Digest :=
  bridgeAssetTargetChainSolMessageData ((symbolicRuntime false).pubkeyBytes x.sender)
    ((symbolicRuntime false).pubkeyBytes x.recipient) x.amount x.nonce x.sourceTxId

def paySolBy (operator bridgeHandler : Key) (x : SolTransfer) : Call Key Digest :=
  callBy operator (.bridgeAssetTargetChainSol
    { operator, recipient := x.recipient, bridgeHandler
      bridgeProof := proofKey bridgeHandler x.sourceTxId
      guardianInfo := guardiansKey bridgeHandler
      verifiedSignatures := approvalsKey bridgeHandler x.msgHash }
    x.msgHash x.sourceTxId x.sender x.amount x.nonce)

def updateCapBy (manager bridgeHandler : Key) (instantBridgeCap : UInt64) : Call Key Digest :=
  callBy manager (.updateInstantBridgeCap { manager, bridgeHandler } instantBridgeCap)

/-- The account of a source proof. -/
def sourceProofKey (bridgeHandler signer : Key) (bridgeProofNonce : UInt64) : Key :=
  symbolicAddress (.bridgeProofSource bridgeHandler signer bridgeProofNonce) 255

def bridgeSolBy (signer bridgeHandler feeVault : Key) (bridgeProofNonce amount : UInt64)
    (recipient : Key) : Call Key Digest :=
  callBy signer (.bridgeAssetSourceChainSol
    { signer, bridgeHandler, bridgeProof := sourceProofKey bridgeHandler signer bridgeProofNonce
      feeVault } bridgeProofNonce amount recipient)

/-- The mint that `add_token` creates for a token of the other chain. -/
def mintKey (bridgeHandler sourceMint : Key) : Key :=
  symbolicAddress (.mint bridgeHandler sourceMint) 255

def tokenInfoKey (bridgeHandler mint : Key) : Key :=
  symbolicAddress (.tokenInfo bridgeHandler mint) 255

def vaultKey (owner mint : Key) : Key :=
  (symbolicRuntime false).associatedTokenAddress owner mint (.atom 1004)

def addTokenBy (operator bridgeHandler sourceMint : Key) : Call Key Digest :=
  let mint := mintKey bridgeHandler sourceMint
  callBy operator (.addToken
    { operator, bridgeHandler, mint, sourceMint
      bridgeHandlerVault := vaultKey bridgeHandler mint
      metadata := (symbolicRuntime false).metadataAddress mint
      tokenInfo := tokenInfoKey bridgeHandler mint
      tokenProgram := .atom 1004 } 6 none none none)

/-- A request for a token payout without additional SOL. -/
structure TokenTransfer where
  sender : Key
  recipient : Key
  sourceMint : Key
  mint : Key
  amount : UInt64
  nonce : UInt64
  sourceTxId : Vector UInt8 64

def TokenTransfer.msgHash (x : TokenTransfer) : Digest :=
  bridgeAssetTargetChainMessageData ((symbolicRuntime false).pubkeyBytes x.sender)
    ((symbolicRuntime false).pubkeyBytes x.recipient)
    ((symbolicRuntime false).pubkeyBytes x.sourceMint)
    ((symbolicRuntime false).pubkeyBytes x.mint) x.amount x.nonce x.sourceTxId 0

def payTokenBy (operator bridgeHandler : Key) (x : TokenTransfer) : Call Key Digest :=
  callBy operator (.bridgeAssetTargetChain
    { operator, mint := x.mint, recipient := x.recipient
      recipientVault := vaultKey x.recipient x.mint, bridgeHandler
      bridgeHandlerVault := vaultKey bridgeHandler x.mint
      bridgeProof := proofKey bridgeHandler x.sourceTxId
      guardianInfo := guardiansKey bridgeHandler
      verifiedSignatures := approvalsKey bridgeHandler x.msgHash
      tokenInfo := tokenInfoKey bridgeHandler x.mint
      tokenProgram := .atom 1004 }
    x.msgHash x.sourceTxId x.sender x.sourceMint x.amount x.nonce 0)

def pauseTokenBy (manager bridgeHandler mint : Key) : Call Key Digest :=
  callBy manager (.pauseToken
    { manager, bridgeHandler, mint, tokenInfo := tokenInfoKey bridgeHandler mint
      tokenProgram := .atom 1004 })

/-- A call of `bridge_asset_source_chain`. -/
def bridgeTokenWithGasBy (signer bridgeHandler mint feeVault : Key)
    (bridgeProofNonce amount : UInt64) (recipient targetMint : Key)
    (additionalSolGas : UInt64) : Call Key Digest :=
  callBy signer (.bridgeAssetSourceChain
    { signer, mint, signerVault := vaultKey signer mint, bridgeHandler
      bridgeHandlerVault := vaultKey bridgeHandler mint
      bridgeProof := sourceProofKey bridgeHandler signer bridgeProofNonce
      tokenInfo := tokenInfoKey bridgeHandler mint, feeVault
      tokenProgram := .atom 1004 } bridgeProofNonce amount recipient targetMint additionalSolGas)

/-- A call of `bridge_asset_source_chain` without additional SOL. -/
def bridgeTokenBy (signer bridgeHandler mint feeVault : Key) (bridgeProofNonce amount : UInt64)
    (recipient targetMint : Key) : Call Key Digest :=
  bridgeTokenWithGasBy signer bridgeHandler mint feeVault bridgeProofNonce amount recipient
    targetMint 0

/-- The account is accepted as a handler and its contents pass a test. -/
def checkHandler (s : State Key Digest) (a : Key) (test : BridgeHandler Key → Bool) : Bool :=
  match s.programData a with
  | some (.bridgeHandler h) => handlerKey h.initNonce = a ∧ h.bump = 255 ∧ test h
  | _ => false

/-- The guardian list of a handler exists and passes a test. -/
def checkGuardians (s : State Key Digest) (bridgeHandler : Key)
    (test : GuardianInfo Key → Bool) : Bool :=
  match s.programData (guardiansKey bridgeHandler) with
  | some (.guardianInfo g) => g.bump = 255 ∧ test g
  | _ => false

/-- The token info of a mint exists and passes a test. -/
def checkTokenInfo (s : State Key Digest) (bridgeHandler mint : Key)
    (test : TokenInfo Key → Bool) : Bool :=
  match s.programData (tokenInfoKey bridgeHandler mint) with
  | some (.tokenInfo t) => t.bump = 255 ∧ test t
  | _ => false

theorem exists_handlerAt (solayer : Bool) (s : State Key Digest) (a : Key)
    (test : BridgeHandler Key → Bool) (h : checkHandler s a test = true) :
    ∃ x, HandlerAt (symbolicRuntime solayer) s.programData a x ∧ test x = true := by
  unfold checkHandler at h
  split at h
  next x hstored =>
      obtain ⟨rfl, hbump, htest⟩ := of_decide_eq_true h
      refine ⟨x, ⟨hstored, ?_⟩, htest⟩
      rw [hbump]
      rfl
  next => cases h

theorem exists_guardiansAt (solayer : Bool) (s : State Key Digest) (bridgeHandler : Key)
    (test : GuardianInfo Key → Bool) (h : checkGuardians s bridgeHandler test = true) :
    ∃ g, GuardiansAt (symbolicRuntime solayer) s.programData bridgeHandler
      (guardiansKey bridgeHandler) g ∧ test g = true := by
  unfold checkGuardians at h
  split at h
  next g hstored =>
      obtain ⟨hbump, htest⟩ := of_decide_eq_true h
      refine ⟨g, ⟨hstored, ?_⟩, htest⟩
      rw [hbump]
      rfl
  next => cases h

theorem exists_tokenInfoAt (solayer : Bool) (s : State Key Digest) (bridgeHandler mint : Key)
    (test : TokenInfo Key → Bool) (h : checkTokenInfo s bridgeHandler mint test = true) :
    ∃ t, TokenInfoAt (symbolicRuntime solayer) s.programData bridgeHandler mint
      (tokenInfoKey bridgeHandler mint) t ∧ test t = true := by
  unfold checkTokenInfo at h
  split at h
  next t hstored =>
      obtain ⟨hbump, htest⟩ := of_decide_eq_true h
      refine ⟨t, ⟨hstored, ?_⟩, htest⟩
      rw [hbump]
      rfl
  next => cases h

def sampleLedger : State Key Digest :=
  ledgerOf [(.atom 5, 1000000000), (.atom 6, 1000000000)]

def sampleTransfer : SolTransfer where
  sender := .atom 20
  recipient := .atom 21
  amount := 5000000
  nonce := 0
  sourceTxId := Vector.replicate 64 9

/-- A Solayer handler with one guardian, which approves one SOL payout. -/
def sampleApproval : List (Call Key Digest) :=
  let bridgeHandler := handlerKey 7
  [ initializeBy (.atom 5) 7 2 (.atom 5) (.atom 6),
    addGuardianBy (.atom 5) bridgeHandler (.atom 11),
    updateThresholdBy (.atom 5) bridgeHandler 1,
    verifyBy (.atom 6) bridgeHandler sampleTransfer.msgHash [0] [.atom 11] ]

/-- The payout is made. -/
def samplePayout : List (Call Key Digest) :=
  sampleApproval ++ [paySolBy (.atom 6) (handlerKey 7) sampleTransfer]

theorem samplePayout_isOk :
    (executeAll (symbolicRuntime true) sampleLedger samplePayout).isOk = true := by
  decide +kernel

/-- A Solana handler, which owns bridged SOL and has one payout approved. -/
def fundedApproval : List (Call Key Digest) :=
  let bridgeHandler := handlerKey 7
  [ initializeBy (.atom 5) 7 1 (.atom 5) (.atom 6),
    addGuardianBy (.atom 5) bridgeHandler (.atom 11),
    updateThresholdBy (.atom 5) bridgeHandler 1,
    verifyBy (.atom 6) bridgeHandler sampleTransfer.msgHash [0] [.atom 11],
    bridgeSolBy (.atom 5) bridgeHandler (.atom 5) 0 10000000 (.atom 20) ]

/-- The payout of the sample transfer. -/
def samplePayment : Call Key Digest :=
  paySolBy (.atom 6) (handlerKey 7) sampleTransfer

theorem fundedApproval_isOk :
    (executeAll (symbolicRuntime false) sampleLedger fundedApproval).isOk = true := by
  decide +kernel

/-- The mint of the token that the sample handler registers. -/
def sampleMint : Key :=
  mintKey (handlerKey 7) (.atom 30)

/-- A transfer of that token whose message names the given source mint. -/
def tokenTransferNaming (sourceMint : Key) : TokenTransfer where
  sender := .atom 20
  recipient := .atom 5
  sourceMint := sourceMint
  mint := sampleMint
  amount := 1000
  nonce := 1
  sourceTxId := Vector.replicate 64 10

/-- A Solayer handler with one guardian registers a token and approves a transfer. -/
def approvedTokenTransfer (sourceMint : Key) : List (Call Key Digest) :=
  let bridgeHandler := handlerKey 7
  [ initializeBy (.atom 5) 7 2 (.atom 5) (.atom 6),
    addGuardianBy (.atom 5) bridgeHandler (.atom 11),
    updateThresholdBy (.atom 5) bridgeHandler 1,
    addTokenBy (.atom 6) bridgeHandler (.atom 30),
    verifyBy (.atom 6) bridgeHandler (tokenTransferNaming sourceMint).msgHash [0] [.atom 11] ]

theorem approvedTokenTransfer_isOk :
    ∀ sourceMint ∈ [Key.atom 30, .atom 31],
      (executeAll (symbolicRuntime true) sampleLedger
        (approvedTokenTransfer sourceMint)).isOk = true ∧
      (executeAll (symbolicRuntime true) (stateAfter (symbolicRuntime true) sampleLedger
        (approvedTokenTransfer sourceMint))
        [payTokenBy (.atom 6) (handlerKey 7) (tokenTransferNaming sourceMint)]).isOk =
          true := by
  decide +kernel

/-- The transfer is paid out, so that key 5 has tokens. -/
def paidTokens : List (Call Key Digest) :=
  approvedTokenTransfer (.atom 30) ++
    [payTokenBy (.atom 6) (handlerKey 7) (tokenTransferNaming (.atom 30))]

theorem paidTokens_isOk :
    (executeAll (symbolicRuntime true) sampleLedger paidTokens).isOk = true := by
  decide +kernel

/-- A source call of key 5 for the sample token. -/
def sampleSourceCall (additionalSolGas : UInt64) : Call Key Digest :=
  bridgeTokenWithGasBy (.atom 5) (handlerKey 7) sampleMint (.atom 5) 0 100 (.atom 20) (.atom 30)
    additionalSolGas

end BridgeProgram.SymbolicRuntime
