import BridgeProgram.PayoutAvailability
import BridgeProgram.RentExemption
import BridgeProgram.VerificationTransactions

namespace BridgeProgram.ApprovalAvailability

open BridgeProgram.AccountEffects
open BridgeProgram.AnchorAccounts
open BridgeProgram.ApprovalBatches
open BridgeProgram.BalanceEffects
open BridgeProgram.BalanceShifts
open BridgeProgram.BridgeProgramEntry
open BridgeProgram.CheckedResult
open BridgeProgram.ClientEncoding
open BridgeProgram.ClientRoundTrip
open BridgeProgram.Ed25519Instruction
open BridgeProgram.PayoutAvailability
open BridgeProgram.PayoutSteps
open BridgeProgram.ProgramStates
open BridgeProgram.RegistryModel
open BridgeProgram.RentExemption
open BridgeProgram.SignatureInstructions
open BridgeProgram.SolanaRuntime
open BridgeProgram.SourceSteps
open BridgeProgram.ThresholdAttainable
open BridgeProgram.VerificationTransactions

variable {Pubkey Hash : Type}

/-- The rent of the approvals, if they are not there yet. -/
def approvalsCost (rt : Runtime Pubkey Hash) [DecidableEq Pubkey] (s : State Pubkey Hash)
    (target : ApprovalTarget Pubkey Hash) : ℕ :=
  openRent rt s target.verifiedSignatures approvalsLen

/-- The positions that are approved so far; there may be no account yet. -/
def StoredPositions (rt : Runtime Pubkey Hash) (s : State Pubkey Hash)
    (target : ApprovalTarget Pubkey Hash) (stored : List UInt8) : Prop :=
  s.data target.verifiedSignatures = .system ∧ stored = [] ∨
    ∃ v, ApprovalsAt rt s.programData target.bridgeHandler target.msgHash
        target.verifiedSignatures v ∧ v.pubkeyIndex = stored ∧
      v.createdAt ≤ s.clock.unixTimestamp

variable [DecidableEq Pubkey]

/-- What submissions need of a state. -/
structure CanApprove (rt : Runtime Pubkey Hash) (s : State Pubkey Hash) (operator : Pubkey)
    (target : ApprovalTarget Pubkey Hash) (g : GuardianInfo Pubkey) (stored : List UInt8) :
    Prop where
  handler : ∃ h, HandlerAt rt s.programData target.bridgeHandler h
  guardians : GuardiansAt rt s.programData target.bridgeHandler target.guardianInfo g
  address : (rt.findProgramAddress
    (.verifiedSignatures target.bridgeHandler target.msgHash)).1 = target.verifiedSignatures
  positions : StoredPositions rt s target stored
  wallet : s.data operator = .system
  apart : operator ≠ target.verifiedSignatures
  rent : approvalsCost rt s target ≤ s.lamports operator
  room : s.lamports target.verifiedSignatures + approvalsCost rt s target < 2 ^ 64

/-- In `t` the approvals have the given positions; what else has changed is that `operator`
has paid their rent. -/
structure Approved (rt : Runtime Pubkey Hash) (s t : State Pubkey Hash) (operator : Pubkey)
    (target : ApprovalTarget Pubkey Hash) (v : VerifiedSignatures) : Prop where
  approvals : ApprovalsAt rt t.programData target.bridgeHandler target.msgHash
    target.verifiedSignatures v
  moves : Moves s t (moved operator target.verifiedSignatures (approvalsCost rt s target)) 0
  kept : ∀ b, b ≠ target.verifiedSignatures → t.data b = s.data b
  time : v.createdAt ≤ t.clock.unixTimestamp

variable {rt : Runtime Pubkey Hash} {s t : State Pubkey Hash} {operator : Pubkey}
  {target : ApprovalTarget Pubkey Hash} {g : GuardianInfo Pubkey} {stored : List UInt8}

omit [DecidableEq Pubkey] in
theorem StoredPositions.ne_of_data (positions : StoredPositions rt s target stored) {b : Pubkey}
    (opened : s.data b ≠ .system)
    (other : ∀ v, s.data b ≠ .program (.verifiedSignatures v)) :
    b ≠ target.verifiedSignatures := by
  rintro rfl
  rcases positions with ⟨hsystem, -⟩ | ⟨v, happrovals, -⟩
  · exact opened hsystem
  · exact other v (programData_eq_some.mp happrovals.stored)

theorem CanApprove.opened (can : CanApprove rt s operator target g stored)
    (exempt : RentExempt rt s) :
    ∃ u v bump, initIfNeeded rt s operator
      (.verifiedSignatures target.bridgeHandler target.msgHash) target.verifiedSignatures
      ProgramData.verifiedSignatures?
      (.verifiedSignatures { bump := 0, pubkeyIndex := [], createdAt := 0 }) = .ok (u, v, bump) ∧
      v.pubkeyIndex = stored := by
  have hrent := can.rent
  have hroom := can.room
  rcases can.positions with ⟨hsystem, rfl⟩ | ⟨v, happrovals, hstored, -⟩
  · have hsystem' := AccountData.isSystem_iff.mpr hsystem
    unfold approvalsCost openRent at hrent hroom
    rw [if_pos hsystem'] at hrent hroom
    obtain ⟨u, hcreate⟩ := createAccount_ok rt approvalsLen
      (.program (.verifiedSignatures { bump := 0, pubkeyIndex := [], createdAt := 0 })) hsystem
      can.apart can.wallet hrent hroom
    have hnew := (createAccount_data hcreate).2.1
    obtain ⟨-, -, -, -, hmoves, -⟩ := createAccount_moves rfl hcreate
    have hlamports := hmoves.lamports target.verifiedSignatures
    rw [moved_apply, if_pos rfl, if_neg can.apart.symm] at hlamports
    unfold topUp at hlamports
    refine ⟨u, { bump := 0, pubkeyIndex := [], createdAt := 0 }, (rt.findProgramAddress
      (.verifiedSignatures target.bridgeHandler target.msgHash)).2, ?_, rfl⟩
    simp only [initIfNeeded, if_pos hsystem', bind_eq_ok, require_eq_ok, pure_eq_ok,
      loadAccount_eq_ok, Prod.mk.injEq]
    refine ⟨(), can.address, u, hcreate, _, ⟨_, by rw [hnew, Function.update_self], rfl⟩, (), ?_,
      rfl, rfl, trivial⟩
    change rt.minimumBalance approvalsLen ≤ _
    omega
  · have hdata := programData_eq_some.mp happrovals.stored
    have hexempt : rt.minimumBalance approvalsLen ≤ s.lamports target.verifiedSignatures :=
      exempt _ _ happrovals.stored
    exact ⟨s, v, _, (initIfNeeded_stored hdata).mpr ⟨can.address, hexempt, rfl, rfl, rfl⟩,
      hstored⟩

variable [DecidableEq Hash]

end BridgeProgram.ApprovalAvailability
