import BridgeProgram.BalanceTotals
import BridgeProgram.CallEffects
import BridgeProgram.SymbolicRuntime

namespace BridgeProgram.LamportConservation

open BridgeProgram.AccountEffects
open BridgeProgram.AnchorAccounts
open BridgeProgram.BalanceEffects
open BridgeProgram.BalanceShifts
open BridgeProgram.BalanceTotals
open BridgeProgram.BridgeProgramEntry
open BridgeProgram.CallEffects
open BridgeProgram.CheckedResult
open BridgeProgram.HandlerInstructions
open BridgeProgram.PayoutSteps
open BridgeProgram.ProgramStates
open BridgeProgram.RegistryCells
open BridgeProgram.RegistryModel
open BridgeProgram.RegistryRefinement
open BridgeProgram.SignatureInstructions
open BridgeProgram.SolanaRuntime
open BridgeProgram.SourceInstructions
open BridgeProgram.SourceSteps
open BridgeProgram.SymbolicRuntime
open BridgeProgram.TargetInstructions
open BridgeProgram.TokenInstructions
open BridgeProgram.TokenPrograms
open BridgeProgram.TransitionRuns

variable {Pubkey Hash : Type}

/-- The handler at an address is one of Solayer. -/
def onSolayer (s : State Pubkey Hash) (bridgeHandler : Pubkey) : Bool :=
  ((s.programData bridgeHandler).bind ProgramData.bridgeHandler?).any fun h =>
    h.chain = .solayer

/-- What a call adds to the lamports on the chain. -/
def nativeChange (s : State Pubkey Hash) (ix : Instruction Pubkey Hash) : ℤ :=
  match source? ix, payout? ix with
  | some c, _ => if onSolayer s c.bridgeHandler then -(solRequest ix : ℤ) else 0
  | none, some p => if onSolayer s p.bridgeHandler then (solAmount ix : ℤ) else 0
  | none, none => 0

theorem onSolayer_of_handlerAt {rt : Runtime Pubkey Hash} {s : State Pubkey Hash}
    {bridgeHandler : Pubkey} {h : BridgeHandler Pubkey}
    (handler : HandlerAt rt s.programData bridgeHandler h) :
    onSolayer s bridgeHandler = true ↔ h.chain = .solayer := by
  rw [onSolayer, handler.stored]
  exact decide_eq_true_iff

variable [DecidableEq Pubkey]

theorem hasTotal_solShift (chain : Chain) (bridgeHandler recipient : Pubkey) (n : ℕ) :
    HasTotal (solShift chain bridgeHandler recipient n)
      (if chain = .solayer then (n : ℤ) else 0) := by
  cases chain with
  | solana => exact .moved bridgeHandler recipient n
  | solayer => exact .single recipient (n : ℤ)

theorem hasTotal_solTaken (chain : Chain) (signer bridgeHandler : Pubkey) (n : ℕ) :
    HasTotal (solTaken chain signer bridgeHandler n)
      (if chain = .solayer then -(n : ℤ) else 0) := by
  cases chain with
  | solana => exact .moved signer bridgeHandler n
  | solayer => exact .single signer (-(n : ℤ))

variable {rt : Runtime Pubkey Hash} {s t s' : State Pubkey Hash}

theorem hasTotal_rentShift (rt : Runtime Pubkey Hash) (s : State Pubkey Hash)
    (ix : Instruction Pubkey Hash) : HasTotal (rentShift rt s ix) 0 := by
  cases ix with
  | bridgeAssetSourceChain a =>
      exact ((HasTotal.moved ..).add (.moved ..)).add (.moved ..)
  | bridgeAssetSourceChainSol a => exact .moved ..
  | _ => exact .zero

theorem hasTotal_sourceShift (h : BridgeHandler Pubkey) (info : TokenInfo Pubkey)
    (c : SourceCall Pubkey) (ix : Instruction Pubkey Hash) :
    HasTotal (sourceShift rt s h info c ix)
      (if h.chain = .solayer then -(solRequest ix : ℤ) else 0) := by
  have hall := (((hasTotal_rentShift rt s ix).add
    (.moved c.signer c.feeVault h.feeInfo.bridgeAssetFee.toNat)).add
    (hasTotal_solTaken h.chain c.signer c.bridgeHandler (solRequest ix))).add
    (.moved c.signer c.feeVault (metadataFee h.chain info ix))
  rwa [zero_add, zero_add, add_zero] at hall

theorem hasTotal_payoutShift (chain : Chain) (p : PayoutCall Pubkey Hash)
    (ix : Instruction Pubkey Hash) :
    HasTotal (payoutShift rt s chain p ix)
      (if chain = .solayer then (solAmount ix : ℤ) else 0) := by
  have hall := (((HasTotal.moved p.operator (vaultOf p ix) (openCost rt s ix)).add
    (.moved p.operator p.bridgeProof (proofCost rt s p))).add
    (hasTotal_solShift chain p.bridgeHandler p.recipient (solAmount ix))).add
    (.moved p.verifiedSignatures p.operator (refund s p ix))
  rwa [zero_add, zero_add, add_zero] at hall

/-- Lamports are at most moved. -/
def Conserves (s s' : State Pubkey Hash) : Prop :=
  Rebalanced s.lamports s'.lamports 0

omit [DecidableEq Pubkey] in
theorem Conserves.refl (s : State Pubkey Hash) : Conserves s s :=
  Rebalanced.refl _

omit [DecidableEq Pubkey] in
theorem Conserves.trans (h₁ : Conserves s t) (h₂ : Conserves t s') : Conserves s s' := by
  have h := Rebalanced.trans h₁ h₂
  rwa [add_zero] at h

omit [DecidableEq Pubkey] in
theorem conserves_of_eq (h : s'.lamports = s.lamports) : Conserves s s' := by
  rw [Conserves, h]
  exact .refl _

section Blocks

variable {payer a : Pubkey}

theorem createAccount_conserves {len : ℕ} {d : AccountData Pubkey Hash}
    (h : createAccount rt s payer a len d = .ok s') : Conserves s s' := by
  simp only [createAccount, bind_eq_ok, pure_eq_ok] at h
  obtain ⟨-, -, -, -, t, htransfer, rfl⟩ := h
  obtain ⟨-, -, -, hmoves, -⟩ := systemTransfer_moves htransfer
  exact ⟨_, hmoves.lamports, .moved ..⟩

theorem exitAccount_conserves {w : Writability} {d : ProgramData Pubkey Hash}
    (h : exitAccount w s a d = .ok s') : Conserves s s' := by
  cases w with
  | readonly =>
      obtain rfl := pure_eq_ok.mp h
      exact .refl s
  | mutable =>
      obtain ⟨-, rfl⟩ := exitAccount_eq_ok.mp h
      exact conserves_of_eq rfl

theorem initAccount_conserves {seeds : Seeds Pubkey Hash} {fresh : ProgramData Pubkey Hash}
    {bump : UInt8} (h : initAccount rt s payer seeds a fresh = .ok (s', bump)) :
    Conserves s s' := by
  simp only [initAccount, bind_eq_ok, pure_eq_ok, Prod.mk.injEq] at h
  obtain ⟨-, -, t, hcreate, rfl, -⟩ := h
  exact createAccount_conserves hcreate

theorem created_conserves {p : Prop} [Decidable p] {len : ℕ} {d : AccountData Pubkey Hash}
    (h : (if p then createAccount rt s payer a len d else pure s) = .ok s') :
    Conserves s s' := by
  split at h
  · exact createAccount_conserves h
  · obtain rfl := pure_eq_ok.mp h
    exact .refl s

theorem initIfNeeded_conserves {α : Type} {seeds : Seeds Pubkey Hash}
    {read : ProgramData Pubkey Hash → Option α} {fresh : ProgramData Pubkey Hash} {x : α}
    {bump : UInt8} (h : initIfNeeded rt s payer seeds a read fresh = .ok (s', x, bump)) :
    Conserves s s' := by
  simp only [initIfNeeded, bind_eq_ok, pure_eq_ok, Prod.mk.injEq] at h
  obtain ⟨-, -, t, hcreate, -, -, -, -, rfl, -⟩ := h
  exact created_conserves hcreate

theorem vault_conserves {bridgeHandler mint tokenProgram : Pubkey}
    (h : initIfNeededAndCheckBridgeHandlerVault rt s payer a bridgeHandler mint tokenProgram =
      .ok s') : Conserves s s' := by
  simp only [initIfNeededAndCheckBridgeHandlerVault, bind_eq_ok, Prod.exists, pure_eq_ok] at h
  obtain ⟨t, hcreate, -, -, -, -, -, -, -, -, -, -, -, -, -, rfl⟩ := h
  split at hcreate
  · simp only [createAssociatedToken, bind_eq_ok] at hcreate
    obtain ⟨-, -, -, -, hcreate⟩ := hcreate
    exact createAccount_conserves hcreate
  · obtain rfl := pure_eq_ok.mp hcreate
    exact .refl s

end Blocks

theorem initializeHandler_conserves {signers : List Pubkey} {x : Initialize Pubkey}
    {initNonce : UInt64} {n : UInt8}
    (h : initializeHandler rt signers s x initNonce n = .ok s') : Conserves s s' := by
  simp only [initializeHandler, bind_eq_ok, Prod.exists] at h
  obtain ⟨-, -, s₁, handlerBump, hhandler, s₂, guardianBump, hguardians, chain, -, s₃, hexit₁,
    hexit₂⟩ := h
  exact (((initAccount_conserves hhandler).trans (initAccount_conserves hguardians)).trans
    (exitAccount_conserves hexit₁)).trans (exitAccount_conserves hexit₂)

theorem verifySignature_conserves {signers : List Pubkey} {ixSysvar : InstructionsSysvar Pubkey}
    {x : VerifySignature Pubkey} {msgHash : Hash} {signerIndexes : List UInt8}
    (h : verifySignature rt signers ixSysvar s x msgHash signerIndexes = .ok s') :
    Conserves s s' := by
  simp only [verifySignature, bind_eq_ok, Prod.exists] at h
  obtain ⟨-, -, y, -, g, -, s₁, v, bump, hinit, keys, -, -, -, hexit⟩ := h
  exact (initIfNeeded_conserves hinit).trans (exitAccount_conserves hexit)

theorem addToken_conserves {signers : List Pubkey} {x : AddToken Pubkey} {decimal : UInt8}
    {name symbol uri : Option String}
    (h : addToken rt signers s x decimal name symbol uri = .ok s') : Conserves s s' := by
  simp only [addToken, initMintIfNeeded, bind_eq_ok, Prod.exists, pure_eq_ok] at h
  obtain ⟨-, -, -, -, y, -, -, -, s₁, ⟨-, -, _, hmint, -, -, -, -, -, -, rfl⟩, -, -, s₂, info,
    bump, htoken, s₃, hvault, h⟩ := h
  have hopened := ((created_conserves hmint).trans (initIfNeeded_conserves htoken)).trans
    (vault_conserves hvault)
  split at h
  · exact hopened.trans (exitAccount_conserves h)
  · simp only [bind_eq_ok] at h
    obtain ⟨s₄, hmetadata, hexit⟩ := h
    exact (hopened.trans (created_conserves hmetadata)).trans (exitAccount_conserves hexit)

theorem updateByManager_conserves {signers : List Pubkey} {manager bridgeHandler : Pubkey}
    {update : BridgeHandler Pubkey → Except ProgramError (BridgeHandler Pubkey)}
    (h : updateByManager rt signers s manager bridgeHandler update = .ok s') :
    Conserves s s' := by
  simp only [updateByManager, bind_eq_ok] at h
  obtain ⟨-, -, x, -, -, -, y, -, hexit⟩ := h
  exact exitAccount_conserves hexit

theorem addGuardian_conserves {signers : List Pubkey} {x : AddGuardian Pubkey}
    (h : addGuardian rt signers s x = .ok s') : Conserves s s' := by
  simp only [addGuardian, bind_eq_ok, Prod.exists] at h
  obtain ⟨y, g, -, -, -, hexit⟩ := h
  exact exitAccount_conserves hexit

theorem removeGuardian_conserves {signers : List Pubkey} {x : RemoveGuardian Pubkey}
    (h : removeGuardian rt signers s x = .ok s') : Conserves s s' := by
  simp only [removeGuardian, bind_eq_ok, Prod.exists] at h
  obtain ⟨y, g, -, -, -, -, -, hexit⟩ := h
  exact exitAccount_conserves hexit

theorem updateGuardianThreshold_conserves {signers : List Pubkey}
    {x : UpdateGuardianThreshold Pubkey} {n : UInt8}
    (h : updateGuardianThreshold rt signers s x n = .ok s') : Conserves s s' := by
  simp only [updateGuardianThreshold, bind_eq_ok, Prod.exists] at h
  obtain ⟨y, g, -, -, -, -, -, -, -, hexit⟩ := h
  exact exitAccount_conserves hexit

theorem setTokenPause_conserves {signers : List Pubkey} {x : PauseToken Pubkey} {pause : Bool}
    (h : setTokenPause rt signers s x pause = .ok s') : Conserves s s' := by
  simp only [setTokenPause, bind_eq_ok] at h
  obtain ⟨-, -, y, -, -, -, -, -, m, -, t, -, hexit⟩ := h
  exact exitAccount_conserves hexit

variable [DecidableEq Hash] {call : Call Pubkey Hash} {returned : Option UInt64}

theorem quiet_conserves (noSource : source? call.ix = none) (noPayout : payout? call.ix = none)
    (executed : execute rt s call = .ok (s', returned)) : Conserves s s' := by
  obtain ⟨signers, ixSysvar, ix⟩ := call
  cases ix with
  | bridgeAssetSourceChain | bridgeAssetSourceChainSol => simp [source?] at noSource
  | bridgeAssetTargetChain | bridgeAssetTargetChainSol => simp [payout?] at noPayout
  | _ =>
      simp only [execute, bind_eq_ok, pure_eq_ok, Prod.mk.injEq] at executed
      obtain ⟨u, hcall, rfl, -⟩ := executed
      first
        | exact initializeHandler_conserves hcall
        | exact addToken_conserves hcall
        | exact setTokenPause_conserves hcall
        | exact updateByManager_conserves hcall
        | exact addGuardian_conserves hcall
        | exact removeGuardian_conserves hcall
        | exact updateGuardianThreshold_conserves hcall
        | exact verifySignature_conserves hcall

/-- Every call changes the sum of all lamports by what the chain mints and burns for it. -/
theorem execute_rebalances (executed : execute rt s call = .ok (s', returned)) :
    Rebalanced s.lamports s'.lamports (nativeChange s call.ix) := by
  cases hsource : source? call.ix with
  | some c =>
      obtain ⟨h, info, effect⟩ := source_effect hsource executed
      have hchange : nativeChange s call.ix =
          if h.chain = .solayer then -(solRequest call.ix : ℤ) else 0 := by
        simp only [nativeChange, hsource, onSolayer_of_handlerAt effect.handler]
      rw [hchange]
      exact ⟨_, effect.lamports, hasTotal_sourceShift h info c call.ix⟩
  | none =>
      cases hpayout : payout? call.ix with
      | some p =>
          obtain ⟨q, pays⟩ := paysWith_of_executed hpayout executed
          have hchange : nativeChange s call.ix =
              if q.handler.chain = .solayer then (solAmount call.ix : ℤ) else 0 := by
            simp only [nativeChange, hsource, hpayout, onSolayer_of_handlerAt pays.payout.handler]
          rw [hchange]
          exact ⟨_, pays.moves.1.lamports, hasTotal_payoutShift q.handler.chain p call.ix⟩
      | none =>
          have hchange : nativeChange s call.ix = 0 := by
            simp only [nativeChange, hsource, hpayout]
          rw [hchange]
          exact quiet_conserves hsource hpayout executed

omit [DecidableEq Pubkey] [DecidableEq Hash] in
theorem onSolayer_of_data {a : Pubkey} {h : BridgeHandler Pubkey}
    (stored : s.data a = .program (.bridgeHandler h)) :
    onSolayer s a = true ↔ h.chain = .solayer := by
  rw [onSolayer, programData_eq_some.mpr stored]
  exact decide_eq_true_iff

omit [DecidableEq Hash] in
theorem solayer_of_burnSol {signer : Pubkey} {lamports : UInt64}
    (h : burnSol rt s signer lamports = .ok s') : rt.solayer = true := by
  simp only [burnSol, bind_eq_ok, require_eq_ok] at h
  obtain ⟨-, hsolayer, -⟩ := h
  exact hsolayer

omit [DecidableEq Hash] in
theorem solayer_of_mintSol {recipient : Pubkey} {lamports accountIdx : UInt64}
    (h : mintSolToRecipient rt s recipient lamports accountIdx = .ok s') :
    rt.solayer = true := by
  simp only [mintSolToRecipient, bind_eq_ok, require_eq_ok] at h
  obtain ⟨-, hsolayer, -⟩ := h
  exact hsolayer

omit [DecidableEq Hash] in
theorem solayer_of_sourceToken {signers : List Pubkey} {x : BridgeAssetSourceChain Pubkey}
    {n amount : UInt64} {recipient targetMint : Pubkey} {gas nonce : UInt64}
    (h : bridgeAssetSourceChain rt signers s x n amount recipient targetMint gas =
      .ok (s', nonce)) (on : onSolayer s x.bridgeHandler = true) (positive : 0 < gas) :
    rt.solayer = true := by
  simp only [bridgeAssetSourceChain, bind_eq_ok, Prod.exists, loadBridgeHandler_eq_ok] at h
  obtain ⟨-, -, -, -, -, -, -, -, y, ⟨hdata, -⟩, -, -, s₁, bump, -, s₂, info, infoBump, -, s₃, -,
    -, -, -, -, s₄, -, s₅, hgas, -⟩ := h
  simp only [takeAdditionalSolGas, if_pos positive, (onSolayer_of_data hdata).mp on, bind_eq_ok]
    at hgas
  obtain ⟨-, -, -, -, hburn⟩ := hgas
  exact solayer_of_burnSol hburn

omit [DecidableEq Hash] in
theorem solayer_of_sourceSol {signers : List Pubkey} {x : BridgeAssetSourceChainSol Pubkey}
    {n amount : UInt64} {recipient : Pubkey} {nonce : UInt64}
    (h : bridgeAssetSourceChainSol rt signers s x n amount recipient = .ok (s', nonce))
    (on : onSolayer s x.bridgeHandler = true) : rt.solayer = true := by
  simp only [bridgeAssetSourceChainSol, bind_eq_ok, Prod.exists, loadBridgeHandler_eq_ok] at h
  obtain ⟨-, -, y, ⟨hdata, -⟩, -, -, s₁, bump, -, -, -, -, -, s₂, -, -, -, s₃, hsol, -⟩ := h
  rw [(onSolayer_of_data hdata).mp on] at hsol
  exact solayer_of_burnSol hsol

theorem solayer_of_source {c : SourceCall Pubkey} (kind : source? call.ix = some c)
    (executed : execute rt s call = .ok (s', returned)) (on : onSolayer s c.bridgeHandler = true)
    (positive : solRequest call.ix ≠ 0) : rt.solayer = true := by
  obtain ⟨signers, ixSysvar, ix⟩ := call
  cases ix with
  | bridgeAssetSourceChain x n amount recipient targetMint gas =>
      obtain rfl := Option.some.inj kind
      simp only [execute, bind_eq_ok, Prod.exists, pure_eq_ok, Prod.mk.injEq] at executed
      obtain ⟨u, nonce, hcall, -⟩ := executed
      exact solayer_of_sourceToken hcall on (UInt64.pos_iff_ne_zero.mpr fun hzero =>
        positive (by rw [hzero]; rfl))
  | bridgeAssetSourceChainSol x n amount recipient =>
      obtain rfl := Option.some.inj kind
      simp only [execute, bind_eq_ok, Prod.exists, pure_eq_ok, Prod.mk.injEq] at executed
      obtain ⟨u, nonce, hcall, -⟩ := executed
      exact solayer_of_sourceSol hcall on
  | _ => simp [source?] at kind

omit [DecidableEq Hash] in
theorem solayer_of_solStep {ix : Instruction Pubkey Hash}
    (h : solStep rt s .solayer ix = .ok s') (positive : solAmount ix ≠ 0) :
    rt.solayer = true := by
  cases ix with
  | bridgeAssetTargetChain x msgHash sourceTxId sender sourceMint amount nonce gas =>
      have hpositive : 0 < gas := UInt64.pos_iff_ne_zero.mpr fun hzero =>
        positive (by rw [hzero]; rfl)
      simp only [solStep, if_pos hpositive] at h
      exact solayer_of_mintSol h
  | bridgeAssetTargetChainSol => exact solayer_of_mintSol h
  | _ => exact absurd rfl positive

theorem nativeChange_of_solana (build : rt.solayer = false)
    (executed : execute rt s call = .ok (s', returned)) : nativeChange s call.ix = 0 := by
  have hbuild : ¬ rt.solayer = true := by simp [build]
  cases hsource : source? call.ix with
  | some c =>
      simp only [nativeChange, hsource]
      split_ifs with hon
      · by_contra hne
        exact hbuild (solayer_of_source hsource executed hon fun hzero => hne (by simp [hzero]))
      · rfl
  | none =>
      cases hpayout : payout? call.ix with
      | none => simp only [nativeChange, hsource, hpayout]
      | some p =>
          obtain ⟨q, pays⟩ := paysWith_of_executed hpayout executed
          have hhandler := onSolayer_of_handlerAt pays.payout.handler
          obtain ⟨-, s₁, s₂, s₃, s₄, run⟩ := pays
          have hsol := run.sol
          simp only [nativeChange, hsource, hpayout]
          split_ifs with hon
          · rw [hhandler.mp hon] at hsol
            by_contra hne
            exact hbuild (solayer_of_solStep hsol fun hzero => hne (by simp [hzero]))
          · rfl

/-- What a transition adds to the lamports on the chain, if `outside` says so of the steps
that are not calls. -/
def totalChange (outside : LedgerTransition Pubkey Hash → ℤ) (t : LedgerTransition Pubkey Hash) :
    ℤ :=
  match t.label with
  | .call call _ => nativeChange t.pre call.ix
  | .other => outside t

theorem run_rebalances {trace : List (LedgerTransition Pubkey Hash)}
    (run : LedgerRun rt s trace s') {outside : LedgerTransition Pubkey Hash → ℤ}
    (others : ∀ t ∈ trace, t.label = .other →
      Rebalanced t.pre.lamports t.post.lamports (outside t)) :
    Rebalanced s.lamports s'.lamports (trace.map (totalChange outside)).sum := by
  induction run with
  | nil => exact .refl _
  | @snoc t t' before label run next ih =>
      have hbefore := ih fun u hu => others u (List.mem_append_left _ hu)
      have hlast : Rebalanced t.lamports t'.lamports (totalChange outside ⟨t, label, t'⟩) := by
        cases next with
        | call executed => exact execute_rebalances executed
        | other change => exact others ⟨t, .other, t'⟩ (by simp) rfl
      rw [List.map_append, List.sum_append, List.map_singleton, List.sum_singleton]
      exact hbefore.trans hlast

/-- Along every run the sum of all lamports changes by what the chain mints and burns for
calls, and by what happens outside the program. A program built for Solana has no part in
it. -/
theorem lamports_conserved {trace : List (LedgerTransition Pubkey Hash)}
    (run : LedgerRun rt s trace s') (outside : LedgerTransition Pubkey Hash → ℤ)
    (others : ∀ t ∈ trace, t.label = .other →
      Rebalanced t.pre.lamports t.post.lamports (outside t)) :
    Rebalanced s.lamports s'.lamports (trace.map (totalChange outside)).sum ∧
      (∀ S : Finset Pubkey, (∀ a ∉ S, s'.lamports a = s.lamports a) →
        ∑ a ∈ S, (s'.lamports a : ℤ) =
          ∑ a ∈ S, (s.lamports a : ℤ) + (trace.map (totalChange outside)).sum) ∧
      (rt.solayer = false → ∀ t ∈ trace, t.label ≠ .other → totalChange outside t = 0) := by
  have hrun := run_rebalances run others
  refine ⟨hrun, fun S hS => hrun.sum_eq hS, ?_⟩
  intro build t ht hcall
  have hstep := run.step_of_mem ht
  obtain ⟨pre, label, post⟩ := t
  cases hstep with
  | call executed => exact nativeChange_of_solana build executed
  | other => exact absurd rfl hcall

theorem lamports_conserved_sample :
    Rebalanced sampleLedger.lamports
      (stateAfter (symbolicRuntime true) sampleLedger samplePayout).lamports 5000000 := by
  have hsum : ((callTrace (symbolicRuntime true) sampleLedger samplePayout).map
      (totalChange fun _ => 0)).sum = 5000000 := by
    decide +kernel
  rw [← hsum]
  refine (lamports_conserved (run_callTrace samplePayout_isOk) (fun _ => 0) ?_).1
  intro t ht hother
  obtain ⟨call, -, returned, hlabel⟩ := exists_call_of_mem samplePayout_isOk ht
  rw [hlabel] at hother
  cases hother

end BridgeProgram.LamportConservation
