import Mathlib.Data.List.Dedup
import BridgeProgram.AnchorAccounts
import BridgeProgram.Ed25519Instruction

namespace BridgeProgram.SignatureInstructions

open BridgeProgram.AnchorAccounts
open BridgeProgram.CheckedResult
open BridgeProgram.Ed25519Instruction
open BridgeProgram.ProgramStates
open BridgeProgram.SolanaRuntime

variable {Pubkey Hash : Type} [DecidableEq Pubkey]

structure VerifySignature (Pubkey : Type) where
  operator : Pubkey
  bridgeHandler : Pubkey
  guardianInfo : Pubkey
  verifiedSignatures : Pubkey

/-- The checks of `VerifySignature::verify_signature` before the signatures are
looked at, and the keys at the given positions. A position outside the guardian
list aborts. -/
def selectSigners (guardians : List Pubkey) (pubkeyIndex signerIndexes : List UInt8) :
    Except ProgramError (List Pubkey) := do
  require (signerIndexes ≠ [] ∧ signerIndexes.length ≤ guardians.length)
    (.bridge .invalidSignerCount)
  require (!signerIndexes.any fun index => pubkeyIndex.contains index)
    (.bridge .guardianSignatureAlreadyExists)
  require (signerIndexes.dedup.length = signerIndexes.length)
    (.bridge .invalidSignerIndexes)
  let concatSigCount := pubkeyIndex.length + signerIndexes.length
  require (concatSigCount ≤ guardians.length ∧ concatSigCount ≤ maxGuardianSignatures)
    (.bridge .invalidGuardianSigCount)
  signerIndexes.mapM fun index => okOr guardians[index.toNat]? .panic

/-- What must hold of the positions of a `verify_signature` call, and the keys at
them. -/
structure SignersSelected (guardians : List Pubkey) (pubkeyIndex signerIndexes : List UInt8)
    (guardianSigners : List Pubkey) : Prop where
  nonempty : signerIndexes ≠ []
  count : signerIndexes.length ≤ guardians.length
  fresh : ∀ i ∈ signerIndexes, i ∉ pubkeyIndex
  nodup : signerIndexes.Nodup
  total : pubkeyIndex.length + signerIndexes.length ≤ guardians.length
  limit : pubkeyIndex.length + signerIndexes.length ≤ maxGuardianSignatures
  keys : List.Forall₂ (fun i k => guardians[i.toNat]? = some k) signerIndexes guardianSigners

omit [DecidableEq Pubkey] in
theorem selectSigners_eq_ok {guardians : List Pubkey} {pubkeyIndex signerIndexes : List UInt8}
    {guardianSigners : List Pubkey} :
    selectSigners guardians pubkeyIndex signerIndexes = .ok guardianSigners ↔
      SignersSelected guardians pubkeyIndex signerIndexes guardianSigners := by
  have hdedup : signerIndexes.dedup.length = signerIndexes.length ↔ signerIndexes.Nodup :=
    ⟨fun h => List.dedup_eq_self.mp ((List.dedup_sublist signerIndexes).eq_of_length h),
      fun h => by rw [h.dedup]⟩
  simp only [selectSigners, bind_eq_ok, require_eq_ok, mapM_eq_ok, okOr_eq_ok, hdedup,
    Bool.not_eq_true', List.any_eq_false, List.contains_iff_mem]
  constructor
  · rintro ⟨-, ⟨nonempty, count⟩, -, fresh, -, nodup, -, ⟨total, limit⟩, keys⟩
    exact ⟨nonempty, count, fresh, nodup, total, limit, keys⟩
  · rintro ⟨nonempty, count, fresh, nodup, total, limit, keys⟩
    exact ⟨(), ⟨nonempty, count⟩, (), fresh, (), nodup, (), ⟨total, limit⟩, keys⟩

def verifySignature (rt : Runtime Pubkey Hash) (signers : List Pubkey)
    (ixSysvar : InstructionsSysvar Pubkey) (s : State Pubkey Hash)
    (a : VerifySignature Pubkey) (msgHash : Hash) (signerIndexes : List UInt8) :
    Except ProgramError (State Pubkey Hash) := do
  checkSigner signers a.operator
  let _ ← loadBridgeHandler rt s a.bridgeHandler
  let g ← loadGuardianInfo rt s a.bridgeHandler a.guardianInfo
  let (s, v, bump) ← initIfNeeded rt s a.operator
    (.verifiedSignatures a.bridgeHandler msgHash) a.verifiedSignatures
    ProgramData.verifiedSignatures?
    (.verifiedSignatures { bump := 0, pubkeyIndex := [], createdAt := 0 })
  let guardianSigners ← selectSigners g.guardians v.pubkeyIndex signerIndexes
  verifyEd25519Ix rt ixSysvar guardianSigners (rt.hashBytes msgHash)
  exitAccount .mutable s a.verifiedSignatures
    (.verifiedSignatures { bump := bump
                           pubkeyIndex := v.pubkeyIndex ++ signerIndexes
                           createdAt := s.clock.unixTimestamp })

end BridgeProgram.SignatureInstructions
