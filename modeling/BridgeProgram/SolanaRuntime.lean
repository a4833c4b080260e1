import Mathlib.Logic.Function.Basic
import BridgeProgram.CheckedResult
import BridgeProgram.ProgramStates

/-!
The accounts of a ledger and what the runtime, the system program and address
derivation do to them. Public keys and digests are arbitrary types: a key or a
digest is used only through equality and through its bytes.
-/

namespace BridgeProgram.SolanaRuntime

open BridgeProgram.CheckedResult
open BridgeProgram.ProgramStates

/-- Seeds of the accounts at program-derived addresses. -/
inductive Seeds (Pubkey Hash : Type)
  | bridgeHandler (initNonce : UInt64)
  | guardianInfo (bridgeHandler : Pubkey)
  | verifiedSignatures (bridgeHandler : Pubkey) (msgHash : Hash)
  | tokenInfo (bridgeHandler mint : Pubkey)
  | mint (bridgeHandler sourceMint : Pubkey)
  | bridgeProofSource (bridgeHandler signer : Pubkey) (bridgeProofNonce : UInt64)
  | bridgeProofTarget (bridgeHandler : Pubkey) (sourceTxHash : Hash)
  deriving DecidableEq

/-- A mint account of a token program. -/
structure Mint (Pubkey : Type) where
  supply : Nat
  decimals : UInt8
  mintAuthority : Option Pubkey
  deriving DecidableEq

/-- A token account of a token program. -/
structure TokenAccount (Pubkey : Type) where
  mint : Pubkey
  owner : Pubkey
  amount : Nat
  deriving DecidableEq

/-- Contents of an account together with the program that owns it. -/
inductive AccountData (Pubkey Hash : Type)
  /-- Owned by the system program, without data: a wallet or an unused address. -/
  | system
  /-- Owned by the bridge program. -/
  | program (d : ProgramData Pubkey Hash)
  | mint (tokenProgram : Pubkey) (m : Mint Pubkey)
  | tokenAccount (tokenProgram : Pubkey) (t : TokenAccount Pubkey)
  /-- Anything else that some other program owns. -/
  | foreign (owner : Pubkey)
  deriving DecidableEq

/-- The time stamp is the `i64` of the clock cast to `u64`. -/
structure Clock where
  epoch : UInt64
  unixTimestamp : UInt64
  deriving DecidableEq

/-- A ledger: lamports and contents of every address, and the clock. -/
structure State (Pubkey Hash : Type) where
  lamports : Pubkey → Nat
  data : Pubkey → AccountData Pubkey Hash
  clock : Clock

/-- One top-level instruction of a transaction. -/
structure TxInstruction (Pubkey : Type) where
  programId : Pubkey
  accounts : List Pubkey
  data : List UInt8
  deriving DecidableEq

/-- The instructions sysvar: the instructions of the running transaction and the
index of the current one. -/
structure InstructionsSysvar (Pubkey : Type) where
  instructions : List (TxInstruction Pubkey)
  currentIndex : Nat

/-- The code and the constants that the bridge program gets from elsewhere. -/
structure Runtime (Pubkey Hash : Type) where
  /-- `declare_id!` of the bridge program. -/
  programId : Pubkey
  systemProgram : Pubkey
  ed25519Program : Pubkey
  tokenMetadataProgram : Pubkey
  /-- Programs that `Interface<TokenInterface>` admits. -/
  tokenPrograms : List Pubkey
  /-- `Pubkey::default()`. -/
  defaultPubkey : Pubkey
  /-- The digest of 32 zero bytes, the content of a new account. -/
  defaultHash : Hash
  pubkeyBytes : Pubkey → Vector UInt8 32
  hashBytes : Hash → Vector UInt8 32
  /-- `solana_program::hash::hash`. -/
  hash : List UInt8 → Hash
  createProgramAddress : Seeds Pubkey Hash → UInt8 → Option Pubkey
  findProgramAddress : Seeds Pubkey Hash → Pubkey × UInt8
  create_find : ∀ seeds, createProgramAddress seeds (findProgramAddress seeds).2 =
    some (findProgramAddress seeds).1
  /-- Address of the token account of an owner for a mint and a token program. -/
  associatedTokenAddress : (owner mint tokenProgram : Pubkey) → Pubkey
  metadataAddress : (mint : Pubkey) → Pubkey
  /-- `Rent::minimum_balance`. -/
  minimumBalance : Nat → Nat
  mintLen : Nat
  tokenAccountLen : (mint : Pubkey) → Nat
  metadataLen : Nat
  /-- What a mint's transfer fee keeps of a transferred amount. -/
  transferFee : (mint : Pubkey) → Nat → Nat
  /-- The dollar value of an amount of a token of a given price, cast to `u64`. -/
  tokenDollarValue : (price : ℚ) → (amount : UInt64) → (decimals : UInt8) → UInt64
  /-- The dollar value of lamports, cast to `u64`. -/
  solDollarValue : (lamports : UInt64) → UInt64
  /-- Whether the program is built with feature `solayer`. -/
  solayer : Bool
  solMintNativeSol : (amount accountIdx : UInt64) → UInt64
  solBurnNativeSol : (amount accountIdx : UInt64) → UInt64

theorem Runtime.create_of_find {Pubkey Hash : Type} (rt : Runtime Pubkey Hash)
    {seeds : Seeds Pubkey Hash} {a : Pubkey} {bump : UInt8}
    (found : rt.findProgramAddress seeds = (a, bump)) :
    rt.createProgramAddress seeds bump = some a := by
  have hcreate := rt.create_find seeds
  rwa [found] at hcreate

/-- Program-derived addresses of different seeds or bumps never coincide. -/
def CollisionFree {Pubkey Hash : Type} (rt : Runtime Pubkey Hash) : Prop :=
  ∀ seeds bump seeds' bump' a, rt.createProgramAddress seeds bump = some a →
    rt.createProgramAddress seeds' bump' = some a → seeds = seeds' ∧ bump = bump'

/-- The token account of an owner for a mint has an address of its own. -/
structure AssociatedAddresses {Pubkey Hash : Type} (rt : Runtime Pubkey Hash) : Prop where
  injective : ∀ {owner mint tokenProgram owner' mint' tokenProgram'},
    rt.associatedTokenAddress owner mint tokenProgram =
      rt.associatedTokenAddress owner' mint' tokenProgram' →
    owner = owner' ∧ mint = mint' ∧ tokenProgram = tokenProgram'
  ne_owner : ∀ owner mint tokenProgram,
    rt.associatedTokenAddress owner mint tokenProgram ≠ owner
  ne_mint : ∀ owner mint tokenProgram,
    rt.associatedTokenAddress owner mint tokenProgram ≠ mint
  not_program : ∀ owner mint tokenProgram seeds bump,
    rt.createProgramAddress seeds bump ≠
      some (rt.associatedTokenAddress owner mint tokenProgram)

/-- A key with a private key is no derived address. -/
structure HasKey {Pubkey Hash : Type} (rt : Runtime Pubkey Hash) (a : Pubkey) : Prop where
  not_program : ∀ seeds bump, rt.createProgramAddress seeds bump ≠ some a
  not_associated : ∀ owner mint tokenProgram,
    rt.associatedTokenAddress owner mint tokenProgram ≠ a

section Accounts

variable {Pubkey Hash : Type}

/-- The program that owns an account. -/
def AccountData.owner (rt : Runtime Pubkey Hash) : AccountData Pubkey Hash → Pubkey
  | .system => rt.systemProgram
  | .program _ => rt.programId
  | .mint tokenProgram _ => tokenProgram
  | .tokenAccount tokenProgram _ => tokenProgram
  | .foreign owner => owner

def AccountData.program? : AccountData Pubkey Hash → Option (ProgramData Pubkey Hash)
  | .program d => some d
  | _ => none

def AccountData.isSystem : AccountData Pubkey Hash → Bool
  | .system => true
  | _ => false

@[simp] theorem AccountData.program?_eq_some {d : AccountData Pubkey Hash}
    {p : ProgramData Pubkey Hash} : d.program? = some p ↔ d = .program p := by
  cases d <;> simp [program?]

@[simp] theorem AccountData.isSystem_iff {d : AccountData Pubkey Hash} :
    d.isSystem = true ↔ d = .system := by
  cases d <;> simp [isSystem]

/-- What the bridge program stores at an address. -/
def State.programData (s : State Pubkey Hash) (a : Pubkey) :
    Option (ProgramData Pubkey Hash) :=
  (s.data a).program?

@[simp] theorem programData_eq_some {s : State Pubkey Hash} {a : Pubkey}
    {d : ProgramData Pubkey Hash} :
    s.programData a = some d ↔ s.data a = .program d := by
  simp [State.programData]

variable [DecidableEq Pubkey]

def State.setLamports (s : State Pubkey Hash) (a : Pubkey) (n : Nat) : State Pubkey Hash :=
  { s with lamports := Function.update s.lamports a n }

def State.setData (s : State Pubkey Hash) (a : Pubkey) (d : AccountData Pubkey Hash) :
    State Pubkey Hash :=
  { s with data := Function.update s.data a d }

@[simp] theorem setLamports_lamports (s : State Pubkey Hash) (a : Pubkey) (n : Nat) :
    (s.setLamports a n).lamports = Function.update s.lamports a n := rfl

@[simp] theorem setLamports_data (s : State Pubkey Hash) (a : Pubkey) (n : Nat) :
    (s.setLamports a n).data = s.data := rfl

@[simp] theorem setLamports_clock (s : State Pubkey Hash) (a : Pubkey) (n : Nat) :
    (s.setLamports a n).clock = s.clock := rfl

@[simp] theorem setData_lamports (s : State Pubkey Hash) (a : Pubkey)
    (d : AccountData Pubkey Hash) : (s.setData a d).lamports = s.lamports := rfl

@[simp] theorem setData_data (s : State Pubkey Hash) (a : Pubkey)
    (d : AccountData Pubkey Hash) :
    (s.setData a d).data = Function.update s.data a d := rfl

@[simp] theorem setData_clock (s : State Pubkey Hash) (a : Pubkey)
    (d : AccountData Pubkey Hash) : (s.setData a d).clock = s.clock := rfl

/-- `system_program::transfer`; the caller has checked that `source` signs. -/
def systemTransfer (s : State Pubkey Hash) (source target : Pubkey) (lamports : Nat) :
    Except ProgramError (State Pubkey Hash) := do
  require ((s.data source).isSystem = true) (.cpi .transferFromMustNotCarryData)
  let left ← checkedSub (s.lamports source) lamports (.cpi .insufficientLamports)
  let s := s.setLamports source left
  let total ← checkedAdd (s.lamports target) lamports .panic
  pure (s.setLamports target total)

/-- Anchor's account creation: fund the address up to the rent of `len` bytes,
allocate it and assign it to the owner of `contents`. -/
def createAccount (rt : Runtime Pubkey Hash) (s : State Pubkey Hash) (payer a : Pubkey)
    (len : Nat) (contents : AccountData Pubkey Hash) :
    Except ProgramError (State Pubkey Hash) := do
  require ((s.data a).isSystem = true) (.cpi .accountAlreadyInUse)
  require (payer ≠ a) (.cpi .accountAlreadyInUse)
  let required := max (rt.minimumBalance len) 1 - s.lamports a
  let s ← systemTransfer s payer a required
  pure (s.setData a contents)

end Accounts

end BridgeProgram.SolanaRuntime
