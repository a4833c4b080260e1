import BridgeProgram.HandlerInstructions
import BridgeProgram.ListPositions
import BridgeProgram.SignatureInstructions
import BridgeProgram.SourceInstructions
import BridgeProgram.TargetInstructions
import BridgeProgram.TransitionRuns

/-!
The program's instructions as one type, their execution, and the runs of a
ledger: calls of the program in any order, interleaved with anything else that
happens on the chain.
-/

namespace BridgeProgram.BridgeProgramEntry

open BridgeProgram.CheckedResult
open BridgeProgram.HandlerInstructions
open BridgeProgram.ListPositions
open BridgeProgram.ProgramStates
open BridgeProgram.SignatureInstructions
open BridgeProgram.SolanaRuntime
open BridgeProgram.SourceInstructions
open BridgeProgram.TargetInstructions
open BridgeProgram.TokenInstructions
open BridgeProgram.TransitionRuns

/-- The instructions of `bridge_program`, with their accounts and arguments. -/
inductive Instruction (Pubkey Hash : Type)
  | initializeHandler (a : Initialize Pubkey) (initNonce : UInt64) (chain : UInt8)
  | addToken (a : AddToken Pubkey) (decimal : UInt8) (name symbol uri : Option String)
  | pauseToken (a : PauseToken Pubkey)
  | unpauseToken (a : PauseToken Pubkey)
  | pauseBridge (a : PauseBridge Pubkey)
  | unpauseBridge (a : PauseBridge Pubkey)
  | bridgeAssetSourceChain (a : BridgeAssetSourceChain Pubkey)
      (bridgeProofNonce amount : UInt64) (recipient targetMint : Pubkey)
      (additionalSolGas : UInt64)
  | bridgeAssetSourceChainSol (a : BridgeAssetSourceChainSol Pubkey)
      (bridgeProofNonce amount : UInt64) (recipient : Pubkey)
  | bridgeAssetTargetChain (a : BridgeAssetTargetChain Pubkey) (msgHash : Hash)
      (sourceTxId : Vector UInt8 64) (sender sourceMint : Pubkey)
      (receiveAmount nonce additionalSolGas : UInt64)
  | bridgeAssetTargetChainSol (a : BridgeAssetTargetChainSol Pubkey) (msgHash : Hash)
      (sourceTxId : Vector UInt8 64) (sender : Pubkey) (receiveAmount nonce : UInt64)
  | addGuardian (a : AddGuardian Pubkey)
  | removeGuardian (a : RemoveGuardian Pubkey)
  | updateGuardianThreshold (a : UpdateGuardianThreshold Pubkey) (guardianThreshold : UInt8)
  | verifySignature (a : VerifySignature Pubkey) (msgHash : Hash)
      (signerIndexes : List UInt8)
  | updateFeeVault (a : UpdateFeeVault Pubkey)
  | updateFeeInfo (a : UpdateFeeInfo Pubkey) (feeInfo : FixedFeeInfo)
  | updateInstantBridgeCap (a : UpdateInstantBridgeCap Pubkey) (instantBridgeCap : UInt64)
  | updateOperator (a : UpdateOperator Pubkey)
  | updateManager (a : UpdateManager Pubkey)

/-- A call of the program: the keys that sign the transaction, the instructions
sysvar, and the instruction. -/
structure Call (Pubkey Hash : Type) where
  signers : List Pubkey
  ixSysvar : InstructionsSysvar Pubkey
  ix : Instruction Pubkey Hash

variable {Pubkey Hash : Type} [DecidableEq Pubkey] [DecidableEq Hash]

/-- The manager's updates of a handler: the manager and handler accounts, and
the update. -/
def managerUpdate? :
    Instruction Pubkey Hash → Option (Pubkey × Pubkey ×
      (BridgeHandler Pubkey → Except ProgramError (BridgeHandler Pubkey)))
  | .pauseBridge a => some (a.manager, a.bridgeHandler, pauseBridge)
  | .unpauseBridge a => some (a.manager, a.bridgeHandler, unpauseBridge)
  | .updateFeeVault a => some (a.manager, a.bridgeHandler, updateFeeVault a.newFeeVault)
  | .updateFeeInfo a feeInfo => some (a.manager, a.bridgeHandler, updateFeeInfo feeInfo)
  | .updateInstantBridgeCap a cap =>
      some (a.manager, a.bridgeHandler, updateInstantBridgeCap cap)
  | .updateOperator a => some (a.manager, a.bridgeHandler, updateOperator a.newOperator)
  | .updateManager a => some (a.manager, a.bridgeHandler, updateManager a.newManager)
  | _ => none

/-- Execution of one instruction: the next state and the value returned by the
source calls. A failed instruction has no effect. -/
def execute (rt : Runtime Pubkey Hash) (s : State Pubkey Hash) (call : Call Pubkey Hash) :
    Except ProgramError (State Pubkey Hash × Option UInt64) :=
  let silent (result : Except ProgramError (State Pubkey Hash)) :
      Except ProgramError (State Pubkey Hash × Option UInt64) := do
    pure (← result, none)
  let returning (result : Except ProgramError (State Pubkey Hash × UInt64)) :
      Except ProgramError (State Pubkey Hash × Option UInt64) := do
    let (s, nonce) ← result
    pure (s, some nonce)
  let byManager (manager bridgeHandler : Pubkey)
      (update : BridgeHandler Pubkey → Except ProgramError (BridgeHandler Pubkey)) :=
    silent (updateByManager rt call.signers s manager bridgeHandler update)
  match call.ix with
  | .initializeHandler a initNonce chain =>
      silent (initializeHandler rt call.signers s a initNonce chain)
  | .addToken a decimal name symbol uri =>
      silent (addToken rt call.signers s a decimal name symbol uri)
  | .pauseToken a => silent (pauseToken rt call.signers s a)
  | .unpauseToken a => silent (unpauseToken rt call.signers s a)
  | .pauseBridge a => byManager a.manager a.bridgeHandler pauseBridge
  | .unpauseBridge a => byManager a.manager a.bridgeHandler unpauseBridge
  | .bridgeAssetSourceChain a bridgeProofNonce amount recipient targetMint gas =>
      returning (bridgeAssetSourceChain rt call.signers s a bridgeProofNonce amount
        recipient targetMint gas)
  | .bridgeAssetSourceChainSol a bridgeProofNonce amount recipient =>
      returning (bridgeAssetSourceChainSol rt call.signers s a bridgeProofNonce amount
        recipient)
  | .bridgeAssetTargetChain a msgHash sourceTxId sender sourceMint amount nonce gas =>
      silent (bridgeAssetTargetChain rt call.signers s a msgHash sourceTxId sender
        sourceMint amount nonce gas)
  | .bridgeAssetTargetChainSol a msgHash sourceTxId sender amount nonce =>
      silent (bridgeAssetTargetChainSol rt call.signers s a msgHash sourceTxId sender
        amount nonce)
  | .addGuardian a => silent (addGuardian rt call.signers s a)
  | .removeGuardian a => silent (removeGuardian rt call.signers s a)
  | .updateGuardianThreshold a threshold =>
      silent (updateGuardianThreshold rt call.signers s a threshold)
  | .verifySignature a msgHash signerIndexes =>
      silent (verifySignature rt call.signers call.ixSysvar s a msgHash signerIndexes)
  | .updateFeeVault a =>
      byManager a.manager a.bridgeHandler (updateFeeVault a.newFeeVault)
  | .updateFeeInfo a feeInfo =>
      byManager a.manager a.bridgeHandler (updateFeeInfo feeInfo)
  | .updateInstantBridgeCap a cap =>
      byManager a.manager a.bridgeHandler (updateInstantBridgeCap cap)
  | .updateOperator a => byManager a.manager a.bridgeHandler (updateOperator a.newOperator)
  | .updateManager a => byManager a.manager a.bridgeHandler (updateManager a.newManager)

/-- What happens on a ledger: a successful call of the program with the value it
returned, or anything else. -/
inductive Event (Pubkey Hash : Type)
  | call (call : Call Pubkey Hash) (returned : Option UInt64)
  | other

omit [DecidableEq Pubkey] [DecidableEq Hash] in
/-- What other programs and the passing of time can do: only the owner of an
account changes its data or takes its lamports. -/
structure OtherChange (s s' : State Pubkey Hash) : Prop where
  programData : s'.programData = s.programData
  lamports : ∀ a, s.programData a ≠ none → s.lamports a ≤ s'.lamports a

/-- One step of a ledger. -/
inductive LedgerStep (rt : Runtime Pubkey Hash) :
    State Pubkey Hash → Event Pubkey Hash → State Pubkey Hash → Prop
  | call {s s' : State Pubkey Hash} {call : Call Pubkey Hash} {returned : Option UInt64}
      (executed : execute rt s call = .ok (s', returned)) :
      LedgerStep rt s (.call call returned) s'
  | other {s s' : State Pubkey Hash} (change : OtherChange s s') :
      LedgerStep rt s .other s'

omit [DecidableEq Pubkey] [DecidableEq Hash] in
/-- A ledger on which the program has not run. -/
def Genesis (s : State Pubkey Hash) : Prop :=
  ∀ a, s.programData a = none

abbrev LedgerTransition (Pubkey Hash : Type) :=
  Transition (State Pubkey Hash) (Event Pubkey Hash)

abbrev LedgerRun (rt : Runtime Pubkey Hash) :=
  Run (LedgerStep rt)

/-- Ledger states reachable from a genesis ledger. -/
abbrev LedgerReachable (rt : Runtime Pubkey Hash) (s : State Pubkey Hash) : Prop :=
  Reachable (LedgerStep rt) Genesis s

/-- Execution of a list of calls, each of which must succeed: the transitions
made and the state reached. -/
def executeAll (rt : Runtime Pubkey Hash) (s : State Pubkey Hash) :
    List (Call Pubkey Hash) →
      Except ProgramError (List (LedgerTransition Pubkey Hash) × State Pubkey Hash)
  | [] => .ok ([], s)
  | call :: calls => do
      let (t, returned) ← execute rt s call
      let (trace, s') ← executeAll rt t calls
      pure (⟨s, .call call returned, t⟩ :: trace, s')

theorem run_of_executeAll {rt : Runtime Pubkey Hash} {s s' : State Pubkey Hash}
    {calls : List (Call Pubkey Hash)} {trace : List (LedgerTransition Pubkey Hash)}
    (h : executeAll rt s calls = .ok (trace, s')) : LedgerRun rt s trace s' := by
  induction calls generalizing s trace with
  | nil =>
      simp only [executeAll, Except.ok.injEq, Prod.mk.injEq] at h
      obtain ⟨rfl, rfl⟩ := h
      exact .nil s
  | cons call calls ih =>
      simp only [executeAll, bind_eq_ok, Prod.exists, pure_eq_ok, Prod.mk.injEq] at h
      obtain ⟨t, returned, hcall, trace, u, hrest, rfl, rfl⟩ := h
      exact .cons (.call hcall) (ih hrest)

/-- The transitions of a list of calls. -/
def callTrace (rt : Runtime Pubkey Hash) (s : State Pubkey Hash)
    (calls : List (Call Pubkey Hash)) : List (LedgerTransition Pubkey Hash) :=
  match executeAll rt s calls with
  | .ok (trace, _) => trace
  | .error _ => []

/-- The state after a list of calls. -/
def stateAfter (rt : Runtime Pubkey Hash) (s : State Pubkey Hash)
    (calls : List (Call Pubkey Hash)) : State Pubkey Hash :=
  match executeAll rt s calls with
  | .ok (_, s') => s'
  | .error _ => s

theorem run_callTrace {rt : Runtime Pubkey Hash} {s : State Pubkey Hash}
    {calls : List (Call Pubkey Hash)} (h : (executeAll rt s calls).isOk = true) :
    LedgerRun rt s (callTrace rt s calls) (stateAfter rt s calls) := by
  unfold callTrace stateAfter
  cases hresult : executeAll rt s calls with
  | error e => simp [hresult, Except.isOk, Except.toBool] at h
  | ok result => exact run_of_executeAll hresult

theorem exists_step_of_executeAll (rt : Runtime Pubkey Hash) (s : State Pubkey Hash)
    (call : Call Pubkey Hash) (h : (executeAll rt s [call]).isOk = true) :
    ∃ returned, LedgerStep rt s (.call call returned) (stateAfter rt s [call]) := by
  cases hcall : execute rt s call with
  | error e =>
      rw [executeAll, hcall] at h
      cases h
  | ok result =>
      have hafter : stateAfter rt s [call] = result.1 := by
        simp only [stateAfter, executeAll, hcall]
        rfl
      exact ⟨result.2, hafter ▸ .call hcall⟩

theorem labels_callTrace {rt : Runtime Pubkey Hash} {s : State Pubkey Hash}
    {calls : List (Call Pubkey Hash)} (h : (executeAll rt s calls).isOk = true) :
    List.Forall₂ (fun t call => ∃ returned, t.label = .call call returned)
      (callTrace rt s calls) calls := by
  have hlabels : ∀ calls s trace s', executeAll rt s calls = .ok (trace, s') →
      List.Forall₂ (fun (t : LedgerTransition Pubkey Hash) call =>
        ∃ returned, t.label = .call call returned) trace calls := by
    intro calls
    induction calls with
    | nil =>
        intro s trace s' hall
        simp only [executeAll, Except.ok.injEq, Prod.mk.injEq] at hall
        obtain ⟨rfl, rfl⟩ := hall
        exact .nil
    | cons first calls ih =>
        intro s trace s' hall
        simp only [executeAll, bind_eq_ok, Prod.exists, pure_eq_ok, Prod.mk.injEq] at hall
        obtain ⟨t, returned, -, rest, u, hrest, rfl, rfl⟩ := hall
        exact .cons ⟨returned, rfl⟩ (ih _ _ _ hrest)
  unfold callTrace
  cases hresult : executeAll rt s calls with
  | error e => simp [hresult, Except.isOk, Except.toBool] at h
  | ok result => exact hlabels _ _ _ _ hresult

theorem exists_transition_of_mem {rt : Runtime Pubkey Hash} {s : State Pubkey Hash}
    {calls : List (Call Pubkey Hash)} (h : (executeAll rt s calls).isOk = true)
    {call : Call Pubkey Hash} (hcall : call ∈ calls) :
    ∃ t ∈ callTrace rt s calls, ∃ returned, t.label = .call call returned :=
  exists_left_of_mem (labels_callTrace h) hcall

theorem exists_call_of_mem {rt : Runtime Pubkey Hash} {s : State Pubkey Hash}
    {calls : List (Call Pubkey Hash)} (h : (executeAll rt s calls).isOk = true)
    {t : LedgerTransition Pubkey Hash} (ht : t ∈ callTrace rt s calls) :
    ∃ call ∈ calls, ∃ returned, t.label = .call call returned :=
  exists_right_of_mem (labels_callTrace h) ht

end BridgeProgram.BridgeProgramEntry
