import BridgeProgram.LedgerInvariants
import BridgeProgram.SymbolicRuntime

namespace BridgeProgram.AccountNamespaces

open BridgeProgram.BridgeProgramEntry
open BridgeProgram.LedgerInvariants
open BridgeProgram.ProgramStates
open BridgeProgram.RegistryModel
open BridgeProgram.SeedStrings
open BridgeProgram.SolanaRuntime
open BridgeProgram.SymbolicRuntime
open BridgeProgram.TransitionRuns

variable {Pubkey Hash : Type} [DecidableEq Pubkey] [DecidableEq Hash]
  {rt : Runtime Pubkey Hash} {s : State Pubkey Hash}

theorem role_or_collision {derive : List UInt8 → Option Pubkey}
    (derived : DerivedFromStrings rt derive) (reachable : LedgerReachable rt s)
    {seeds : Seeds Pubkey Hash} {bump : UInt8} {a : Pubkey} {d : ProgramData Pubkey Hash}
    (address : rt.createProgramAddress seeds bump = some a) (stored : s.programData a = some d) :
    role seeds = storedRole d ∨ ∃ seeds' bump', role seeds' = storedRole d ∧
      Collision derive a (addressString rt seeds bump) (addressString rt seeds' bump') := by
  obtain ⟨seeds', bump', address', hrole⟩ := seeds_of_reachable reachable stored
  rcases eq_or_collision derived address address' with rfl | collision
  · exact .inl hrole
  · exact .inr ⟨seeds', bump', hrole, collision⟩

theorem role_of_collisionFree (collisionFree : CollisionFree rt)
    (reachable : LedgerReachable rt s) {seeds : Seeds Pubkey Hash} {bump : UInt8} {a : Pubkey}
    {d : ProgramData Pubkey Hash} (address : rt.createProgramAddress seeds bump = some a)
    (stored : s.programData a = some d) : role seeds = storedRole d := by
  obtain ⟨seeds', bump', address', hrole⟩ := seeds_of_reachable reachable stored
  obtain rfl := (collisionFree _ _ _ _ _ address address').1
  exact hrole

/-- Different roles or parameters always give different seed strings. So accounts
share an address only by a collision of the address derivation, and without one every
account that the program has written is at an address of its own role. -/
theorem account_namespaces_disjoint :
    (∀ seeds seeds' : ByteSeeds, seeds ≠ seeds' →
      ∀ bump bump', seedString seeds bump ≠ seedString seeds' bump') ∧
    (∀ derive, DerivedFromStrings rt derive →
      (∀ seeds seeds' bump bump' a, rt.createProgramAddress seeds bump = some a →
        rt.createProgramAddress seeds' bump' = some a → seeds = seeds' ∨
          Collision derive a (addressString rt seeds bump) (addressString rt seeds' bump')) ∧
      ∀ s, LedgerReachable rt s → ∀ seeds bump a d,
        rt.createProgramAddress seeds bump = some a → s.programData a = some d →
        role seeds = storedRole d ∨ ∃ seeds' bump', role seeds' = storedRole d ∧
          Collision derive a (addressString rt seeds bump) (addressString rt seeds' bump')) ∧
    (CollisionFree rt → ∀ s, LedgerReachable rt s → ∀ seeds bump a d,
      rt.createProgramAddress seeds bump = some a → s.programData a = some d →
      role seeds = storedRole d) := by
  refine ⟨?_, ?_, ?_⟩
  · intro seeds seeds' hne bump bump' hstring
    exact hne (seedString_inj.mp hstring).1
  · intro derive derived
    constructor
    · intro seeds seeds' bump bump' a address address'
      exact eq_or_collision derived address address'
    · intro s reachable seeds bump a d address stored
      exact role_or_collision derived reachable address stored
  · intro collisionFree s reachable seeds bump a d address stored
    exact role_of_collisionFree collisionFree reachable address stored

/-- An address in place of a digest: the end of a string, backwards. -/
def lastBytes (text : List UInt8) : Vector UInt8 32 :=
  paddedBytes 32 text.reverse

/-- A runtime whose keys and digests are their bytes. -/
def stringRuntime : Runtime (Vector UInt8 32) (Vector UInt8 32) where
  programId := Vector.replicate 32 1
  systemProgram := Vector.replicate 32 0
  ed25519Program := Vector.replicate 32 2
  tokenMetadataProgram := Vector.replicate 32 3
  tokenPrograms := [Vector.replicate 32 4, Vector.replicate 32 5]
  defaultPubkey := Vector.replicate 32 0
  defaultHash := Vector.replicate 32 0
  pubkeyBytes key := key
  hashBytes digest := digest
  hash bytes := paddedBytes 32 bytes
  createProgramAddress seeds bump := some (lastBytes (seedString seeds bump))
  findProgramAddress seeds := (lastBytes (seedString seeds 255), 255)
  create_find _ := rfl
  associatedTokenAddress owner mint tokenProgram :=
    lastBytes (owner.toList ++ tokenProgram.toList ++ mint.toList)
  metadataAddress mint := lastBytes mint.toList
  minimumBalance len := (128 + len) * 6960
  mintLen := 82
  tokenAccountLen _ := 165
  metadataLen := 679
  transferFee _ _ := 0
  tokenDollarValue price amount decimals :=
    UInt64.ofNat (price * amount.toNat / 10 ^ decimals.toNat).floor.toNat
  solDollarValue lamports := UInt64.ofNat (lamports.toNat * 200 / 1000000000)
  solayer := false
  solMintNativeSol _ _ := 0
  solBurnNativeSol _ _ := 0

theorem derivedFromStrings_sample :
    DerivedFromStrings stringRuntime fun text => some (lastBytes text) where
  pubkeyBytes := Function.injective_id
  hashBytes := Function.injective_id
  create seeds bump := by
    cases seeds <;> rfl

/-- A ledger on which every address has lamports. -/
def richLedger : State (Vector UInt8 32) (Vector UInt8 32) where
  lamports _ := 1000000000
  data _ := .system
  clock := { epoch := 0, unixTimestamp := 0 }

def stringHandlerKey : Vector UInt8 32 :=
  (stringRuntime.findProgramAddress (.bridgeHandler 7)).1

/-- The handler of nonce 7 is created. -/
def initializeStringHandler : Call (Vector UInt8 32) (Vector UInt8 32) where
  signers := [Vector.replicate 32 9]
  ixSysvar := { instructions := [], currentIndex := 0 }
  ix := .initializeHandler
    { signer := Vector.replicate 32 9
      bridgeHandler := stringHandlerKey
      guardianInfo := (stringRuntime.findProgramAddress (.guardianInfo stringHandlerKey)).1
      feeVault := Vector.replicate 32 9
      manager := Vector.replicate 32 9
      operator := Vector.replicate 32 9 } 7 1

theorem initializeStringHandler_isOk :
    (executeAll stringRuntime richLedger [initializeStringHandler]).isOk = true := by
  decide +kernel

theorem account_namespaces_disjoint_sample :
    (let s := stateAfter stringRuntime richLedger [initializeStringHandler]
      ∀ d, s.programData stringHandlerKey = some d →
        role (.bridgeHandler 7 : ByteSeeds) = storedRole d ∨
          ∃ seeds bump, role seeds = storedRole d ∧
            Collision (fun text => some (lastBytes text)) stringHandlerKey
              (addressString stringRuntime (.bridgeHandler 7) 255)
              (addressString stringRuntime seeds bump)) ∧
    let s := stateAfter (symbolicRuntime true) sampleLedger samplePayout
    ∀ seeds bump a d, (symbolicRuntime true).createProgramAddress seeds bump = some a →
      s.programData a = some d → role seeds = storedRole d := by
  constructor
  · intro s d stored
    have hreachable : LedgerReachable stringRuntime s :=
      ⟨richLedger, _, fun _ => rfl, run_callTrace initializeStringHandler_isOk⟩
    obtain ⟨-, hstrings, -⟩ := @account_namespaces_disjoint _ _ _ _ stringRuntime
    exact (hstrings _ derivedFromStrings_sample).2 s hreachable _ _ _ d rfl stored
  · intro s
    have hreachable : LedgerReachable (symbolicRuntime true) s :=
      ⟨sampleLedger, _, genesis_ledgerOf _, run_callTrace samplePayout_isOk⟩
    obtain ⟨-, -, hsymbolic⟩ := @account_namespaces_disjoint _ _ _ _ (symbolicRuntime true)
    exact hsymbolic (symbolicRuntime_collisionFree true) s hreachable

end BridgeProgram.AccountNamespaces
