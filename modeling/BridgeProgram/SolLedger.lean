import BridgeProgram.CallEffects
import BridgeProgram.InstantCapRuns

namespace BridgeProgram.SolLedger

open BridgeProgram.AccountEffects
open BridgeProgram.AccountKeeping
open BridgeProgram.AnchorAccounts
open BridgeProgram.BalanceEffects
open BridgeProgram.BalanceShifts
open BridgeProgram.BridgeProgramEntry
open BridgeProgram.CallEffects
open BridgeProgram.CheckedResult
open BridgeProgram.HandlerInstructions
open BridgeProgram.InstantCapRuns
open BridgeProgram.LedgerInvariants
open BridgeProgram.PayoutSteps
open BridgeProgram.ProgramStates
open BridgeProgram.RegistryCells
open BridgeProgram.RegistryModel
open BridgeProgram.SolanaRuntime
open BridgeProgram.SourceSteps
open BridgeProgram.SymbolicRuntime
open BridgeProgram.TransitionRuns

variable {Pubkey Hash : Type}

def IsHandler (s : State Pubkey Hash) (a : Pubkey) : Prop :=
  ∃ h, s.programData a = some (.bridgeHandler h)

variable [DecidableEq Pubkey]

/-- Lamports that a successful source call locks in the handler. -/
def lockedLamports (bridgeHandler : Pubkey) : Event Pubkey Hash → ℕ
  | .call call _ =>
      if sourceHandler? call.ix = some bridgeHandler then solRequest call.ix else 0
  | .other => 0

/-- Lamports that a successful payout takes from the handler. -/
def paidLamports (bridgeHandler : Pubkey) : Event Pubkey Hash → ℕ
  | .call call _ =>
      if (payout? call.ix).map PayoutCall.bridgeHandler = some bridgeHandler
      then solAmount call.ix else 0
  | .other => 0

/-- Rent that the operator of a payout pays and gets back. -/
def rentMoved (rt : Runtime Pubkey Hash) (s : State Pubkey Hash) (p : PayoutCall Pubkey Hash)
    (ix : Instruction Pubkey Hash) : Pubkey → ℤ :=
  moved p.operator (vaultOf p ix) (openCost rt s ix) +
    moved p.operator p.bridgeProof (proofCost rt s p) +
    moved p.verifiedSignatures p.operator (refund s p ix)

/-- A payout credits its recipient with the lamports that it takes from the handler,
which may be the recipient. -/
structure SolPayment (rt : Runtime Pubkey Hash) (s s' : State Pubkey Hash)
    (p : PayoutCall Pubkey Hash) (ix : Instruction Pubkey Hash) : Prop where
  lamports : Shifted s.lamports s'.lamports
    (rentMoved rt s p ix + moved p.bridgeHandler p.recipient (solAmount ix))
  debited : s'.lamports p.bridgeHandler + solAmount ix =
    s.lamports p.bridgeHandler + if p.recipient = p.bridgeHandler then solAmount ix else 0

/-- The lamports of a handler after a run, and how the run changed them. -/
structure LamportsBacked (rt : Runtime Pubkey Hash)
    (trace : List (LedgerTransition Pubkey Hash)) (s' : State Pubkey Hash)
    (bridgeHandler : Pubkey) : Prop where
  floor : rt.minimumBalance handlerLen ≤ s'.lamports bridgeHandler
  backed : rt.minimumBalance handlerLen +
      (trace.map fun t => lockedLamports bridgeHandler t.label).sum ≤
    s'.lamports bridgeHandler + (trace.map fun t => paidLamports bridgeHandler t.label).sum
  lowered : ∀ t ∈ trace, IsHandler t.pre bridgeHandler →
    t.post.lamports bridgeHandler < t.pre.lamports bridgeHandler →
    ∃ call returned p, t.label = .call call returned ∧ payout? call.ix = some p ∧
      p.bridgeHandler = bridgeHandler
  paid : ∀ t ∈ trace, ∀ call returned p, t.label = .call call returned →
    payout? call.ix = some p → p.bridgeHandler = bridgeHandler →
    SolPayment rt t.pre t.post p call.ix

variable {rt : Runtime Pubkey Hash} {s s' : State Pubkey Hash} {event : Event Pubkey Hash}
  {bridgeHandler : Pubkey}

theorem minimumBalance_le_of_initAccount {payer a : Pubkey} {seeds : Seeds Pubkey Hash}
    {fresh : ProgramData Pubkey Hash} {bump : UInt8}
    (h : initAccount rt s payer seeds a fresh = .ok (s', bump)) :
    rt.minimumBalance fresh.space ≤ s'.lamports a := by
  obtain ⟨-, hne, -, -, hmoves, -⟩ := initAccount_moves h
  have hshift := hmoves.lamports a
  rw [moved_apply, if_pos rfl, if_neg hne.symm] at hshift
  unfold topUp at hshift
  omega

theorem minimumBalance_le_of_initializeHandler {signers : List Pubkey} {x : Initialize Pubkey}
    {initNonce : UInt64} {n : UInt8}
    (h : initializeHandler rt signers s x initNonce n = .ok s') :
    rt.minimumBalance handlerLen ≤ s'.lamports x.bridgeHandler := by
  simp only [initializeHandler, bind_eq_ok, Prod.exists] at h
  obtain ⟨-, -, s₁, handlerBump, hhandler, s₂, guardianBump, hguardians, chain, -, s₃, hexit₁,
    hexit₂⟩ := h
  have hfunded := minimumBalance_le_of_initAccount hhandler
  obtain ⟨-, -, hdata, -⟩ := initAccount_effect hhandler
  have hstored : s₁.data x.bridgeHandler ≠ .system :=
    data_ne_system_of_program (by rw [hdata, Function.update_self]; exact Option.some_ne_none _)
  have hkeeps : Keeps ∅ s₁ s₂ := (initAccount_keeps hguardians).toKeeps
  have hkept := hkeeps.lamports _ hstored
  obtain ⟨-, rfl⟩ := exitAccount_eq_ok.mp hexit₁
  obtain ⟨-, rfl⟩ := exitAccount_eq_ok.mp hexit₂
  exact hfunded.trans hkept

variable [DecidableEq Hash]

theorem backed_step (step : LedgerStep rt s event s') {h : BridgeHandler Pubkey}
    (stored : s.programData bridgeHandler = some (.bridgeHandler h)) (chain : h.chain = .solana) :
    s.lamports bridgeHandler + lockedLamports bridgeHandler event ≤
      s'.lamports bridgeHandler + paidLamports bridgeHandler event := by
  have hdata := programData_eq_some.mp stored
  cases step with
  | other change =>
      exact change.lamports _ (by rw [stored]; exact Option.some_ne_none _)
  | @call _ call returned executed =>
      simp only [lockedLamports, paidLamports, sourceHandler?_eq]
      cases callEffect executed with
      | quiet noSource noPayout keeps =>
          rw [noSource, noPayout]
          exact keeps.lamports _ (by rw [hdata]; simp)
      | @requested c h' t kind effect _ =>
          have hne : bridgeHandler ≠ c.signer := by
            rintro rfl
            cases hdata.symm.trans effect.signer
          have hge : _ ≤ sourceShift rt s h' t c call.ix bridgeHandler := sourceShift_ge kind hne
          have hshift := effect.lamports bridgeHandler
          rw [kind, payout?_of_source kind]
          simp only [Option.map_some, Option.map_none, Option.some.injEq, reduceCtorEq, if_false]
          by_cases hhandler : c.bridgeHandler = bridgeHandler
          · have hsame := effect.handler.stored
            rw [hhandler, stored] at hsame
            have heq : h = h' := by simpa using hsame
            rw [if_pos ⟨by rw [← heq]; exact chain, hhandler.symm⟩] at hge
            rw [if_pos hhandler]
            omega
          · rw [if_neg (fun hand => hhandler hand.2.symm)] at hge
            rw [if_neg hhandler]
            omega
      | @paid p q pays =>
          rw [pays.1, source?_of_payout pays.1]
          simp only [Option.map_some, Option.map_none, Option.some.injEq, reduceCtorEq, if_false]
          by_cases hhandler : p.bridgeHandler = bridgeHandler
          · subst hhandler
            rw [if_pos rfl]
            exact pays.handler_ge
          · rw [if_neg hhandler]
            have hoperator : bridgeHandler ≠ p.operator := by
              rintro rfl
              cases hdata.symm.trans pays.accounts.operator
            have happrovals : bridgeHandler ≠ p.verifiedSignatures := by
              rintro rfl
              cases hdata.symm.trans pays.accounts.approvals
            exact pays.lamports_ge hoperator (Ne.symm hhandler) happrovals

theorem payout_of_lowered (step : LedgerStep rt s event s') {h : BridgeHandler Pubkey}
    (stored : s.programData bridgeHandler = some (.bridgeHandler h)) (chain : h.chain = .solana)
    (lowered : s'.lamports bridgeHandler < s.lamports bridgeHandler) :
    ∃ call returned p, event = .call call returned ∧ payout? call.ix = some p ∧
      p.bridgeHandler = bridgeHandler := by
  have hbacked := backed_step step stored chain
  cases event with
  | other =>
      simp only [lockedLamports, paidLamports] at hbacked
      omega
  | call call returned =>
      simp only [paidLamports] at hbacked
      split at hbacked
      next hpayout =>
          obtain ⟨p, kind, hhandler⟩ := Option.map_eq_some_iff.mp hpayout
          exact ⟨call, returned, p, rfl, kind, hhandler⟩
      next => omega

omit [DecidableEq Hash] in
theorem solPayment_of_pays {call : Call Pubkey Hash} {p : PayoutCall Pubkey Hash}
    {q : PayoutQuote Pubkey} (pays : PaysWith rt s call p q s')
    (chain : q.handler.chain = .solana) : SolPayment rt s s' p call.ix where
  lamports := by
    have hmoves := pays.moves.1.lamports
    rw [chain] at hmoves
    convert hmoves using 1
    rw [rentMoved, payoutShift, solShift]
    abel
  debited := pays.handler_eq chain

theorem floor_step (step : LedgerStep rt s event s') (solana : OnSolana bridgeHandler s)
    (floor : IsHandler s bridgeHandler →
      rt.minimumBalance handlerLen ≤ s.lamports bridgeHandler)
    (handler : IsHandler s' bridgeHandler) :
    rt.minimumBalance handlerLen ≤ s'.lamports bridgeHandler := by
  by_cases hexists : IsHandler s bridgeHandler
  · obtain ⟨h, stored⟩ := hexists
    have hfloor := floor ⟨h, stored⟩
    by_cases hlowered : s'.lamports bridgeHandler < s.lamports bridgeHandler
    case neg => omega
    obtain ⟨call, returned, p, rfl, kind, rfl⟩ :=
      payout_of_lowered step stored (solana h stored) hlowered
    cases step with
    | call executed =>
        obtain ⟨q, pays⟩ := paysWith_of_executed kind executed
        have hchain := solana _ pays.payout.handler.stored
        have hpaid := pays.handler_eq hchain
        rcases pays.floor hchain with hzero | hleft
        · split_ifs at hpaid <;> omega
        · split_ifs at hpaid <;> omega
  · obtain ⟨h', stored'⟩ := handler
    rcases ledger_cell step bridgeHandler with hsame | ⟨call, returned, rfl, hwrite⟩
    · exact absurd ⟨h', hsame.symm.trans stored'⟩ hexists
    · rw [stored'] at hwrite
      generalize hold : s.programData bridgeHandler = old at hwrite
      cases hwrite with
      | handlerCreated ix signed account address =>
          obtain ⟨signers, ixSysvar, ix'⟩ := call
          subst ix account
          cases step with
          | call executed =>
              simp only [execute, bind_eq_ok, pure_eq_ok, Prod.mk.injEq] at executed
              obtain ⟨u, hcall, rfl, -⟩ := executed
              exact minimumBalance_le_of_initializeHandler hcall
      | handlerChanged => exact absurd ⟨_, hold⟩ hexists

theorem lockedLamports_eq_zero (step : LedgerStep rt s event s')
    (absent : ¬ IsHandler s bridgeHandler) : lockedLamports bridgeHandler event = 0 := by
  cases step with
  | other => rfl
  | @call _ call returned executed =>
      refine if_neg fun hsource => absent ?_
      rw [sourceHandler?_eq] at hsource
      obtain ⟨c, kind, rfl⟩ := Option.map_eq_some_iff.mp hsource
      obtain ⟨h, t, effect⟩ := source_effect kind executed
      exact ⟨h, effect.handler.stored⟩

omit [DecidableEq Pubkey] [DecidableEq Hash] in
/-- Lamports that a handler owns beyond its rent. -/
def spare (rt : Runtime Pubkey Hash) (bridgeHandler : Pubkey) (s : State Pubkey Hash) : ℕ :=
  match s.programData bridgeHandler with
  | some (.bridgeHandler _) => s.lamports bridgeHandler - rt.minimumBalance handlerLen
  | _ => 0

omit [DecidableEq Pubkey] [DecidableEq Hash] in
theorem spare_of_handler (handler : IsHandler s bridgeHandler) :
    spare rt bridgeHandler s = s.lamports bridgeHandler - rt.minimumBalance handlerLen := by
  obtain ⟨h, stored⟩ := handler
  rw [spare, stored]

omit [DecidableEq Pubkey] [DecidableEq Hash] in
theorem spare_of_absent (absent : ¬ IsHandler s bridgeHandler) :
    spare rt bridgeHandler s = 0 := by
  unfold spare
  split
  next h stored => exact absurd ⟨h, stored⟩ absent
  next => rfl

/-- The lamports of a Solana handler cover its rent and the difference between what
was locked and what was paid, and only payouts lower them. -/
theorem sol_ledger_conserved {s₀ : State Pubkey Hash}
    {trace : List (LedgerTransition Pubkey Hash)} (genesis : Genesis s₀)
    (run : LedgerRun rt s₀ trace s) {h : BridgeHandler Pubkey}
    (handler : HandlerAt rt s.programData bridgeHandler h) (chain : h.chain = .solana) :
    LamportsBacked rt trace s bridgeHandler := by
  have hsolana : ∀ t ∈ trace, OnSolana bridgeHandler t.pre :=
    fun t ht => onSolana_of_mem run handler chain ht
  let funded : State Pubkey Hash → Prop := fun s =>
    IsHandler s bridgeHandler → rt.minimumBalance handlerLen ≤ s.lamports bridgeHandler
  have hkeep : ∀ t ∈ trace, LedgerStep rt t.pre t.label t.post → funded t.pre → funded t.post :=
    fun t ht next hpre => floor_step next (hsolana t ht) hpre
  have hinit : funded s₀ := by
    rintro ⟨x, stored⟩
    cases (genesis bridgeHandler).symm.trans stored
  have hfloor : rt.minimumBalance handlerLen ≤ s.lamports bridgeHandler :=
    run.invariant funded hkeep hinit ⟨h, handler.stored⟩
  have hbalance : spare rt bridgeHandler s₀ +
        (trace.map fun t => lockedLamports bridgeHandler t.label).sum ≤
      spare rt bridgeHandler s +
        (trace.map fun t => paidLamports bridgeHandler t.label).sum :=
    run.sum_credit_le _ _ _ (by
      intro t ht next
      obtain ⟨hpre, hpost⟩ := run.invariant_of_mem funded hkeep hinit ht
      by_cases hexists : IsHandler t.pre bridgeHandler
      · obtain ⟨x, stored⟩ := id hexists
        obtain ⟨x', stored', -⟩ := identity_kept next stored
        have hbacked := backed_step next stored (hsolana t ht x stored)
        have hpre' := hpre hexists
        have hpost' := hpost ⟨x', stored'⟩
        rw [spare_of_handler hexists, spare_of_handler ⟨x', stored'⟩]
        omega
      · rw [spare_of_absent hexists, lockedLamports_eq_zero next hexists]
        exact Nat.zero_le _)
  have habsent : ¬ IsHandler s₀ bridgeHandler := by
    rintro ⟨x, stored⟩
    cases (genesis bridgeHandler).symm.trans stored
  rw [spare_of_absent habsent, spare_of_handler ⟨h, handler.stored⟩] at hbalance
  refine ⟨hfloor, by omega, ?_, ?_⟩
  · rintro t ht ⟨x, stored⟩ hlowered
    exact payout_of_lowered (run.step_of_mem ht) stored (hsolana t ht x stored) hlowered
  · rintro t ht call returned p hlabel kind rfl
    have next := run.step_of_mem ht
    rw [hlabel] at next
    cases next with
    | call executed =>
        obtain ⟨q, pays⟩ := paysWith_of_executed kind executed
        exact solPayment_of_pays pays (hsolana t ht _ pays.payout.handler.stored)

theorem sol_ledger_conserved_sample :
    let calls := fundedApproval ++ [samplePayment]
    LamportsBacked (symbolicRuntime false) (callTrace (symbolicRuntime false) sampleLedger calls)
      (stateAfter (symbolicRuntime false) sampleLedger calls) (handlerKey 7) := by
  intro calls
  have hok : (executeAll (symbolicRuntime false) sampleLedger calls).isOk = true := by
    decide +kernel
  obtain ⟨h, handler, htest⟩ := exists_handlerAt false
    (stateAfter (symbolicRuntime false) sampleLedger calls) (handlerKey 7)
    (fun h => h.chain == .solana) (by decide +kernel)
  exact sol_ledger_conserved (genesis_ledgerOf _) (run_callTrace hok) handler (by simpa using htest)

end BridgeProgram.SolLedger
