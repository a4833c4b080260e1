import Mathlib.Data.Rat.Defs
import Mathlib.Tactic.Ring

namespace BridgeProgram.ProgramStates

def pubkeySerializedSize : Nat := 32
def signatureSerializedSize : Nat := 64
def signatureOffsetsSerializedSize : Nat := 14
def signatureOffsetsStart : Nat := 2
def messageDataSize : Nat := 32

def maxGuardianSignatures : Nat := 10
def maxGuardianCount : Nat := 15

def lamportsPerSol : UInt64 := 1000000000
def maxAdditionalSolGas : UInt64 := lamportsPerSol / 2
def minSolBridgeAmount : UInt64 := 5000000
def metadataCreationFee : UInt64 := 10000000

/-- `So11111111111111111111111111111111111111111`. -/
def solMintPubkey : Vector UInt8 32 :=
  #v[6, 155, 136, 87, 254, 171, 129, 132, 251, 104, 127, 99, 70, 24, 192, 53,
    218, 196, 57, 220, 26, 235, 59, 85, 152, 160, 240, 0, 0, 0, 0, 0]

/-- Mints with an instant cap, and their prices in dollars. -/
def solanaWhitelistedTokens : List (Vector UInt8 32 × ℚ) :=
  [ -- USDC
    (#v[198, 250, 122, 243, 190, 219, 173, 58, 61, 101, 243, 106, 171, 201, 116, 49,
      177, 187, 228, 194, 210, 246, 224, 228, 124, 166, 2, 3, 69, 47, 93, 97], 1),
    -- USDT
    (#v[206, 1, 14, 96, 175, 237, 178, 39, 23, 189, 99, 25, 47, 84, 20, 90,
      63, 150, 90, 51, 187, 130, 210, 199, 2, 158, 178, 206, 30, 32, 130, 100], 1),
    -- LAYER
    (#v[4, 232, 210, 15, 236, 106, 168, 99, 138, 248, 40, 77, 37, 89, 143, 223,
      204, 43, 11, 11, 27, 183, 69, 140, 177, 234, 115, 223, 191, 44, 244, 193], 1),
    -- PENGU
    (#v[29, 140, 207, 135, 172, 1, 71, 186, 231, 86, 235, 150, 58, 46, 246, 36,
      76, 150, 145, 86, 154, 142, 192, 143, 0, 32, 162, 235, 143, 189, 181, 161], 4 / 100),
    -- FARTCOIN
    (#v[121, 120, 183, 20, 69, 60, 211, 232, 122, 235, 31, 192, 155, 240, 103, 249,
      108, 210, 212, 214, 155, 87, 19, 149, 170, 155, 241, 134, 175, 249, 218, 63], 15 / 10),
    -- RAY
    (#v[55, 153, 140, 203, 242, 208, 69, 139, 97, 92, 188, 198, 177, 163, 103, 196,
      116, 158, 159, 239, 115, 6, 98, 46, 27, 27, 88, 145, 1, 32, 188, 154], 3)]

/-- Whether a mint, given by its bytes, is on the list. -/
def isTokenWhitelisted (mint : Vector UInt8 32) : Bool :=
  solanaWhitelistedTokens.any fun entry => entry.1 == mint

def solanaDollarValue : UInt64 := 200
def solanaDollarCapPerEpoch : UInt64 := 1000000
def solanaPostInstantCapAwaitingTimeSeconds : UInt64 := 6 * 60 * 60

inductive BridgeHandlerError
  | bridgePaused
  | invalidChain
  | invalidOperator
  | invalidFeeVault
  | invalidMsgHash
  | sourceMintAlreadyExists
  | tokenAlreadyExists
  | tokenNotExists
  | invalidFee
  | unauthorized
  | sameOperator
  | tokenPaused
  | insufficientAmount
  | feeCalculationError
  | bridgeAmtCalculationError
  | invalidRecipientVault
  | insufficientFunds
  | invalidEd25519ProgramId
  | invalidEd25519Accounts
  | invalidEd25519Data
  | invalidGuardianSigCount
  | invalidGuardianSignatureMessage
  | invalidGuardianSignaturePubKey
  | invalidEd25519SigInput
  | guardianAlreadyExists
  | guardianNotFound
  | invalidGuardianThreshold
  | invalidSignerCount
  | invalidSignerIndexes
  | guardianSignatureAlreadyExists
  | invalidVerifiedSignaturesBump
  | guardianThresholdNotMet
  | tooMuchAdditionalSolGas
  | tooLittleAdditionalSolGas
  | invalidAdditionalSolGas
  | tooLittleSolBridgeAmount
  | failToMintSol
  | failToBurnSol
  | invalidOSForMintingSol
  | invalidOSForBurningSol
  | invalidTokenInfo
  | instantBridgeCapExceeded
  deriving DecidableEq, Repr

/-- Failed constraints of an instruction's account list. -/
inductive AnchorError
  | accountNotSigner
  | accountNotInitialized
  | accountOwnedByWrongProgram
  | accountDiscriminatorMismatch
  | accountDidNotSerialize
  | accountNotAssociatedTokenAccount
  | constraintHasOne
  | constraintRaw
  | constraintAddress
  | constraintSeeds
  | constraintClose
  | constraintRentExempt
  | constraintTokenMint
  | constraintTokenOwner
  | constraintTokenTokenProgram
  | constraintAssociated
  | constraintAssociatedTokenTokenProgram
  | constraintMintMintAuthority
  | constraintMintDecimals
  | constraintMintTokenProgram
  | invalidProgramId
  deriving DecidableEq, Repr

/-- Failures of the system, token and metadata programs. -/
inductive CpiError
  | accountAlreadyInUse
  | insufficientLamports
  | transferFromMustNotCarryData
  | insufficientTokens
  | overflow
  | mintMismatch
  | ownerMismatch
  | mintDecimalsMismatch
  | invalidSeeds
  | invalidAccountData
  deriving DecidableEq, Repr

/-- Why an instruction fails. `panic` is an abort: an arithmetic overflow, an
`unwrap` of nothing, or an index out of range. -/
inductive ProgramError
  | bridge (e : BridgeHandlerError)
  | anchor (e : AnchorError)
  | cpi (e : CpiError)
  | invalidArgument
  | panic
  deriving DecidableEq, Repr

inductive Chain
  | solana
  | solayer
  deriving DecidableEq, Repr

/-- Fees in lamports. -/
structure FixedFeeInfo where
  bridgeAssetFee : UInt64
  bridgeMessageFee : UInt64
  crossChainCallFee : UInt64
  deriving DecidableEq, Repr

def FixedFeeInfo.default : FixedFeeInfo where
  bridgeAssetFee := 500000
  bridgeMessageFee := 500000
  crossChainCallFee := 500000

structure BridgeHandler (Pubkey : Type) where
  bump : UInt8
  initNonce : UInt64
  pause : Bool
  nonce : UInt64
  chain : Chain
  feeVault : Pubkey
  manager : Pubkey
  operator : Pubkey
  guardianInfo : Pubkey
  guardianThreshold : UInt8
  instantBridgeCapRemainedDollar : UInt64
  instantBridgeCapEpoch : UInt64
  feeInfo : FixedFeeInfo
  deriving DecidableEq

structure BridgeProof (Pubkey Hash : Type) where
  bump : UInt8
  msgHash : Hash
  txId : Vector UInt8 64
  userAccount : Pubkey
  createdAt : UInt64
  deriving DecidableEq

structure BridgeProofSourceChain (Pubkey Hash : Type) where
  bump : UInt8
  msgHash : Hash
  userAccount : Pubkey
  createdAt : UInt64
  deriving DecidableEq

structure GuardianInfo (Pubkey : Type) where
  bump : UInt8
  guardians : List Pubkey
  deriving DecidableEq

structure TokenInfo (Pubkey : Type) where
  bump : UInt8
  solanaMint : Pubkey
  solayerMint : Pubkey
  isSolanaNativeToken : Bool
  isSolayerNativeToken : Bool
  pause : Bool
  deriving DecidableEq

structure VerifiedSignatures where
  bump : UInt8
  pubkeyIndex : List UInt8
  createdAt : UInt64
  deriving DecidableEq

/-- Contents of an account that the bridge program owns. -/
inductive ProgramData (Pubkey Hash : Type)
  | bridgeHandler (h : BridgeHandler Pubkey)
  | bridgeProof (p : BridgeProof Pubkey Hash)
  | bridgeProofSourceChain (p : BridgeProofSourceChain Pubkey Hash)
  | guardianInfo (g : GuardianInfo Pubkey)
  | tokenInfo (t : TokenInfo Pubkey)
  | verifiedSignatures (v : VerifiedSignatures)
  deriving DecidableEq

namespace ProgramData

variable {Pubkey Hash : Type}

def bridgeHandler? : ProgramData Pubkey Hash → Option (BridgeHandler Pubkey)
  | .bridgeHandler h => some h
  | _ => none

def guardianInfo? : ProgramData Pubkey Hash → Option (GuardianInfo Pubkey)
  | .guardianInfo g => some g
  | _ => none

def tokenInfo? : ProgramData Pubkey Hash → Option (TokenInfo Pubkey)
  | .tokenInfo t => some t
  | _ => none

def verifiedSignatures? : ProgramData Pubkey Hash → Option VerifiedSignatures
  | .verifiedSignatures v => some v
  | _ => none

/-- Account size: the discriminator and `INIT_SPACE`. -/
def space : ProgramData Pubkey Hash → Nat
  | .bridgeHandler _ => 8 + 188
  | .bridgeProof _ => 8 + 137
  | .bridgeProofSourceChain _ => 8 + 73
  | .guardianInfo _ => 8 + (1 + (4 + maxGuardianCount * 32))
  | .tokenInfo _ => 8 + 68
  | .verifiedSignatures _ => 8 + (1 + (4 + maxGuardianSignatures) + 8)

/-- Length of the serialised contents. -/
def serializedLen : ProgramData Pubkey Hash → Nat
  | .guardianInfo g => 8 + (1 + (4 + g.guardians.length * 32))
  | .verifiedSignatures v => 8 + (1 + (4 + v.pubkeyIndex.length) + 8)
  | d => d.space

@[simp] theorem bridgeHandler?_eq_some {d : ProgramData Pubkey Hash}
    {h : BridgeHandler Pubkey} : d.bridgeHandler? = some h ↔ d = .bridgeHandler h := by
  cases d <;> simp [bridgeHandler?]

@[simp] theorem guardianInfo?_eq_some {d : ProgramData Pubkey Hash}
    {g : GuardianInfo Pubkey} : d.guardianInfo? = some g ↔ d = .guardianInfo g := by
  cases d <;> simp [guardianInfo?]

@[simp] theorem tokenInfo?_eq_some {d : ProgramData Pubkey Hash}
    {t : TokenInfo Pubkey} : d.tokenInfo? = some t ↔ d = .tokenInfo t := by
  cases d <;> simp [tokenInfo?]

@[simp] theorem verifiedSignatures?_eq_some {d : ProgramData Pubkey Hash}
    {v : VerifiedSignatures} :
    d.verifiedSignatures? = some v ↔ d = .verifiedSignatures v := by
  cases d <;> simp [verifiedSignatures?]

end ProgramData

end BridgeProgram.ProgramStates
