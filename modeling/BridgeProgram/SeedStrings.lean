import BridgeProgram.ByteStrings
import BridgeProgram.SolanaRuntime

/-!
The byte strings from which the addresses of the program's accounts are derived:
the seeds of an account one after the other, without separators, and a bump byte.
-/

namespace BridgeProgram.SeedStrings

open BridgeProgram.ByteStrings
open BridgeProgram.ProgramStates
open BridgeProgram.SolanaRuntime

/-- What an account at a program-derived address is for. -/
inductive Role
  | bridgeHandler
  | guardianInfo
  | verifiedSignatures
  | tokenInfo
  | mint
  | bridgeProofSource
  | bridgeProofTarget
  deriving DecidableEq

/-- The literal with which the seeds of an account begin. -/
def Role.literal : Role → String
  | .bridgeHandler => "bridge_handler"
  | .guardianInfo => "guardian_info"
  | .verifiedSignatures => "verified_signatures"
  | .tokenInfo => "token_info"
  | .mint => "mint"
  | .bridgeProofSource => "bridge_proof"
  | .bridgeProofTarget => "bridge_proof"

def Role.literalBytes (role : Role) : List UInt8 :=
  role.literal.toUTF8.data.toList

/-- The lengths of the seeds after the literal. -/
def Role.fieldWidths : Role → List Nat
  | .bridgeHandler => [8]
  | .guardianInfo => [32]
  | .verifiedSignatures => [32, 32]
  | .tokenInfo => [32, 32]
  | .mint => [32, 32]
  | .bridgeProofSource => [32, 32, 8]
  | .bridgeProofTarget => [32, 32]

def Role.widths (role : Role) : List Nat :=
  role.literalBytes.length :: role.fieldWidths

theorem Role.widths_sum_inj {role role' : Role} :
    role.widths.sum = role'.widths.sum ↔ role = role' := by
  cases role <;> cases role' <;> decide

section Accounts

variable {Pubkey Hash Pubkey' Hash' : Type}

def role : Seeds Pubkey Hash → Role
  | .bridgeHandler .. => .bridgeHandler
  | .guardianInfo .. => .guardianInfo
  | .verifiedSignatures .. => .verifiedSignatures
  | .tokenInfo .. => .tokenInfo
  | .mint .. => .mint
  | .bridgeProofSource .. => .bridgeProofSource
  | .bridgeProofTarget .. => .bridgeProofTarget

/-- The role of an account that the program has written. -/
def storedRole : ProgramData Pubkey Hash → Role
  | .bridgeHandler _ => .bridgeHandler
  | .bridgeProof _ => .bridgeProofTarget
  | .bridgeProofSourceChain _ => .bridgeProofSource
  | .guardianInfo _ => .guardianInfo
  | .tokenInfo _ => .tokenInfo
  | .verifiedSignatures _ => .verifiedSignatures

theorem storedRole_ne_mint (d : ProgramData Pubkey Hash) : storedRole d ≠ .mint := by
  cases d <;> simp [storedRole]

/-- Seeds with other keys and digests. -/
def mapSeeds (f : Pubkey → Pubkey') (g : Hash → Hash') : Seeds Pubkey Hash → Seeds Pubkey' Hash'
  | .bridgeHandler initNonce => .bridgeHandler initNonce
  | .guardianInfo bridgeHandler => .guardianInfo (f bridgeHandler)
  | .verifiedSignatures bridgeHandler msgHash => .verifiedSignatures (f bridgeHandler) (g msgHash)
  | .tokenInfo bridgeHandler mint => .tokenInfo (f bridgeHandler) (f mint)
  | .mint bridgeHandler sourceMint => .mint (f bridgeHandler) (f sourceMint)
  | .bridgeProofSource bridgeHandler signer bridgeProofNonce =>
      .bridgeProofSource (f bridgeHandler) (f signer) bridgeProofNonce
  | .bridgeProofTarget bridgeHandler sourceTxHash =>
      .bridgeProofTarget (f bridgeHandler) (g sourceTxHash)

theorem mapSeeds_injective {f : Pubkey → Pubkey'} {g : Hash → Hash'}
    (hf : Function.Injective f) (hg : Function.Injective g) :
    Function.Injective (mapSeeds f g) := by
  intro seeds seeds' h
  cases seeds <;> cases seeds' <;> simp_all [mapSeeds, hf.eq_iff, hg.eq_iff]

end Accounts

abbrev ByteSeeds := Seeds (Vector UInt8 32) (Vector UInt8 32)

/-- The seeds after the literal. -/
def seedFields : ByteSeeds → List (List UInt8)
  | .bridgeHandler initNonce => [toBeBytes initNonce]
  | .guardianInfo bridgeHandler => [bridgeHandler.toList]
  | .verifiedSignatures bridgeHandler msgHash => [bridgeHandler.toList, msgHash.toList]
  | .tokenInfo bridgeHandler mint => [bridgeHandler.toList, mint.toList]
  | .mint bridgeHandler sourceMint => [bridgeHandler.toList, sourceMint.toList]
  | .bridgeProofSource bridgeHandler signer bridgeProofNonce =>
      [bridgeHandler.toList, signer.toList, toBeBytes bridgeProofNonce]
  | .bridgeProofTarget bridgeHandler sourceTxHash =>
      [bridgeHandler.toList, sourceTxHash.toList]

/-- The seeds of an account. -/
def seedParts (seeds : ByteSeeds) : List (List UInt8) :=
  (role seeds).literalBytes :: seedFields seeds

/-- What `create_program_address` hashes before the id of the program. -/
def seedString (seeds : ByteSeeds) (bump : UInt8) : List UInt8 :=
  (seedParts seeds ++ [[bump]]).flatten

theorem lengths_seedParts (seeds : ByteSeeds) :
    (seedParts seeds).map List.length = (role seeds).widths := by
  cases seeds <;> simp [seedParts, seedFields, role, Role.widths, Role.fieldWidths]

theorem length_seedString (seeds : ByteSeeds) (bump : UInt8) :
    (seedString seeds bump).length = (role seeds).widths.sum + 1 := by
  rw [seedString, List.length_flatten, List.map_append, lengths_seedParts]
  simp

theorem seedFields_inj {seeds seeds' : ByteSeeds} (hrole : role seeds = role seeds')
    (hfields : seedFields seeds = seedFields seeds') : seeds = seeds' := by
  cases seeds <;> cases seeds' <;>
    simp_all [role, seedFields, toBeBytes_inj, Vector.toList_inj]

/-- The string of an account determines its role and its parameters. -/
theorem seedString_inj {seeds seeds' : ByteSeeds} {bump bump' : UInt8} :
    seedString seeds bump = seedString seeds' bump' ↔ seeds = seeds' ∧ bump = bump' := by
  refine ⟨?_, by rintro ⟨rfl, rfl⟩; rfl⟩
  intro h
  -- the lengths tell the role, and a role has fields of fixed widths
  have hrole : role seeds = role seeds' := by
    have hlength := congrArg List.length h
    rw [length_seedString, length_seedString, Nat.add_right_cancel_iff] at hlength
    exact Role.widths_sum_inj.mp hlength
  have hparts : seedParts seeds ++ [[bump]] = seedParts seeds' ++ [[bump']] := by
    apply List.eq_iff_flatten_eq.mpr
    refine ⟨h, ?_⟩
    rw [List.map_append, List.map_append, lengths_seedParts, lengths_seedParts, hrole]
    rfl
  obtain ⟨hseeds, hbump⟩ := List.append_inj' hparts rfl
  have hfields := (List.cons.inj hseeds).2
  exact ⟨seedFields_inj hrole hfields, by simpa using hbump⟩

section Addresses

variable {Pubkey Hash : Type}

/-- The string of an account whose parameters are keys and digests. -/
def addressString (rt : Runtime Pubkey Hash) (seeds : Seeds Pubkey Hash) (bump : UInt8) :
    List UInt8 :=
  seedString (mapSeeds rt.pubkeyBytes rt.hashBytes seeds) bump

/-- Keys and digests are known by their bytes, and an address is derived from the
string of its account alone. -/
structure DerivedFromStrings (rt : Runtime Pubkey Hash)
    (derive : List UInt8 → Option Pubkey) : Prop where
  pubkeyBytes : Function.Injective rt.pubkeyBytes
  hashBytes : Function.Injective rt.hashBytes
  create : ∀ seeds bump, rt.createProgramAddress seeds bump = derive (addressString rt seeds bump)

/-- Two strings that give one address. -/
structure Collision {Address : Type} (derive : List UInt8 → Option Address)
    (a : Address) (text text' : List UInt8) : Prop where
  ne : text ≠ text'
  left : derive text = some a
  right : derive text' = some a

theorem eq_or_collision {rt : Runtime Pubkey Hash} {derive : List UInt8 → Option Pubkey}
    (derived : DerivedFromStrings rt derive) {seeds seeds' : Seeds Pubkey Hash}
    {bump bump' : UInt8} {a : Pubkey} (address : rt.createProgramAddress seeds bump = some a)
    (address' : rt.createProgramAddress seeds' bump' = some a) :
    seeds = seeds' ∨
      Collision derive a (addressString rt seeds bump) (addressString rt seeds' bump') := by
  rw [derived.create] at address address'
  by_cases hstring : addressString rt seeds bump = addressString rt seeds' bump'
  · left
    apply mapSeeds_injective derived.pubkeyBytes derived.hashBytes
    exact (seedString_inj.mp hstring).1
  · right
    exact ⟨hstring, address, address'⟩

end Addresses

end BridgeProgram.SeedStrings
