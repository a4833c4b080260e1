import BridgeProgram.LedgerInvariants
import BridgeProgram.SymbolicRuntime

namespace BridgeProgram.ReplayProtection

open BridgeProgram.AccountEffects
open BridgeProgram.BridgeProgramEntry
open BridgeProgram.LedgerInvariants
open BridgeProgram.ProgramStates
open BridgeProgram.RegistryModel
open BridgeProgram.RegistryRefinement
open BridgeProgram.SolanaRuntime
open BridgeProgram.SymbolicRuntime
open BridgeProgram.TargetInstructions
open BridgeProgram.TransitionRuns

variable {Pubkey Hash : Type} [DecidableEq Pubkey]

/-- A successful payout of a handler for a source transaction. -/
def paysOut (bridgeHandler : Pubkey) (sourceTxId : Vector UInt8 64) :
    Event Pubkey Hash → Bool
  | .call call _ =>
      match payout? call.ix with
      | some p => p.bridgeHandler = bridgeHandler ∧ p.sourceTxId = sourceTxId
      | none => false
  | .other => false

theorem exists_pays_of_paysOut {bridgeHandler : Pubkey} {sourceTxId : Vector UInt8 64}
    {event : Event Pubkey Hash} (h : paysOut bridgeHandler sourceTxId event = true) :
    ∃ p, Pays p event ∧ p.bridgeHandler = bridgeHandler ∧ p.sourceTxId = sourceTxId := by
  cases event with
  | call call returned =>
      simp only [paysOut] at h
      cases hp : payout? call.ix with
      | none => simp [hp] at h
      | some p => exact ⟨p, ⟨call, returned, rfl, hp⟩, by simpa [hp] using h⟩
  | other => simp [paysOut] at h

variable [DecidableEq Hash] {rt : Runtime Pubkey Hash} {s₀ s s' : State Pubkey Hash}
  {bridgeHandler : Pubkey} {sourceTxId : Vector UInt8 64}

omit [DecidableEq Pubkey] [DecidableEq Hash] in
/-- The proof account of a source transaction exists. -/
def ProofStored (rt : Runtime Pubkey Hash) (bridgeHandler : Pubkey)
    (sourceTxId : Vector UInt8 64) (s : State Pubkey Hash) : Prop :=
  ∃ proof, s.programData (rt.findProgramAddress
    (.bridgeProofTarget bridgeHandler (rt.hash sourceTxId.toList))).1 =
      some (.bridgeProof proof)

theorem proofStored_kept {event : Event Pubkey Hash} (step : LedgerStep rt s event s')
    (stored : ProofStored rt bridgeHandler sourceTxId s) :
    ProofStored rt bridgeHandler sourceTxId s' := by
  obtain ⟨proof, hproof⟩ := stored
  exact ⟨proof, bridgeProof_kept step hproof⟩

theorem payout_creates_proof {event : Event Pubkey Hash} (step : LedgerStep rt s event s')
    (pays : paysOut bridgeHandler sourceTxId event = true) :
    ¬ ProofStored rt bridgeHandler sourceTxId s ∧
      ProofStored rt bridgeHandler sourceTxId s' := by
  obtain ⟨p, hp, rfl, rfl⟩ := exists_pays_of_paysOut pays
  obtain ⟨call, returned, h, h', g, v, bump, -, payout, -, hpost⟩ := payout_of_pays step hp
  simp only [ProofStored, payout.proofAddress]
  constructor
  · rintro ⟨proof, hproof⟩
    rw [payout.proofFresh] at hproof
    cases hproof
  · have hne : p.bridgeProof ≠ p.verifiedSignatures :=
      ne_of_contents payout.proofFresh payout.approvals.stored (by simp)
    rw [hpost, afterPayout, Function.update_of_ne hne, Function.update_self]
    exact ⟨_, rfl⟩

/-- Along a run from any state, the payouts of a transaction number at most one,
and none follows once the proof is stored. -/
theorem count_payouts {trace : List (LedgerTransition Pubkey Hash)}
    (run : LedgerRun rt s₀ trace s) :
    trace.countP (fun t => paysOut bridgeHandler sourceTxId t.label) ≤ 1 ∧
      (0 < trace.countP (fun t => paysOut bridgeHandler sourceTxId t.label) →
        ProofStored rt bridgeHandler sourceTxId s) := by
  induction run with
  | nil => simp
  | @snoc t t' trace label run next ih =>
      obtain ⟨hcount, hstored⟩ := ih
      rw [List.countP_append, List.countP_singleton]
      by_cases hpays : paysOut bridgeHandler sourceTxId label = true
      · obtain ⟨hfresh, hafter⟩ := payout_creates_proof next hpays
        have hzero : trace.countP (fun t => paysOut bridgeHandler sourceTxId t.label) = 0 :=
          Nat.eq_zero_of_not_pos fun hpos => hfresh (hstored hpos)
        rw [if_pos hpays, hzero]
        exact ⟨Nat.le_refl 1, fun _ => hafter⟩
      · rw [if_neg hpays, Nat.add_zero]
        exact ⟨hcount, fun hpos => proofStored_kept next (hstored hpos)⟩

/-- In every run, a source transaction is paid out at most once by a handler,
and every proof account keeps its contents. -/
theorem source_transaction_paid_at_most_once
    {trace : List (LedgerTransition Pubkey Hash)} (run : LedgerRun rt s₀ trace s)
    (bridgeHandler : Pubkey) (sourceTxId : Vector UInt8 64) :
    trace.countP (fun t => paysOut bridgeHandler sourceTxId t.label) ≤ 1 ∧
      ∀ a proof, s₀.programData a = some (.bridgeProof proof) →
        s.programData a = some (.bridgeProof proof) := by
  refine ⟨(count_payouts run).1, fun a proof stored => ?_⟩
  exact run.invariant (fun s => s.programData a = some (.bridgeProof proof))
    (fun _ _ step => bridgeProof_kept step) stored

theorem source_transaction_paid_at_most_once_sample :
    0 < (callTrace (symbolicRuntime true) sampleLedger samplePayout).countP
        (fun t => paysOut (handlerKey 7) sampleTransfer.sourceTxId t.label) ∧
      ((callTrace (symbolicRuntime true) sampleLedger samplePayout).countP
        (fun t => paysOut (handlerKey 7) sampleTransfer.sourceTxId t.label) ≤ 1 ∧
      ∀ a proof, sampleLedger.programData a = some (.bridgeProof proof) →
        (stateAfter (symbolicRuntime true) sampleLedger samplePayout).programData a =
          some (.bridgeProof proof)) :=
  ⟨by decide +kernel,
    source_transaction_paid_at_most_once (run_callTrace samplePayout_isOk) _ _⟩

end BridgeProgram.ReplayProtection
