import BridgeProgram.SourceAvailability
import BridgeProgram.SymbolicRuntime

namespace BridgeProgram.TokenPause

open BridgeProgram.AccountEffects
open BridgeProgram.AnchorAccounts
open BridgeProgram.BridgeProgramEntry
open BridgeProgram.CheckedResult
open BridgeProgram.LedgerInvariants
open BridgeProgram.ProgramStates
open BridgeProgram.RegistryCells
open BridgeProgram.RegistryModel
open BridgeProgram.RegistryRefinement
open BridgeProgram.SolanaRuntime
open BridgeProgram.SourceAvailability
open BridgeProgram.SymbolicRuntime
open BridgeProgram.TokenInstructions
open BridgeProgram.TokenPrograms
open BridgeProgram.TransitionRuns

variable {Pubkey Hash : Type} [DecidableEq Pubkey] [DecidableEq Hash]
  {rt : Runtime Pubkey Hash} {s s' : State Pubkey Hash} {call : Call Pubkey Hash}
  {returned : Option UInt64} {event : Event Pubkey Hash} {h : BridgeHandler Pubkey}
  {a : Pubkey}

omit [DecidableEq Hash] in
theorem handlerChange_nonce_le {r : Registry Pubkey Hash} {h' : BridgeHandler Pubkey}
    (change : HandlerChange rt r call returned a h h') : h.nonce ≤ h'.nonce := by
  cases change with
  | managed kind signed updated =>
      rw [(managerUpdate_frame kind updated).2.1]
      exact UInt64.le_refl _
  | numbered kind nonce room =>
      rw [UInt64.le_iff_toNat_le, UInt64.toNat_add, UInt64.toNat_one, Nat.mod_eq_of_lt room]
      exact Nat.le_succ _
  | charged kind handler same =>
      obtain ⟨remained, epoch, rfl⟩ := same
      exact UInt64.le_refl _
  | threshold => exact UInt64.le_refl _

theorem nonce_le_step (step : LedgerStep rt s event s')
    (handler : HandlerAt rt s.programData a h) :
    ∃ h', HandlerAt rt s'.programData a h' ∧ h.nonce ≤ h'.nonce := by
  obtain ⟨h', handler', -⟩ := handlerAt_kept step handler
  refine ⟨h', handler', ?_⟩
  obtain ⟨h'', hstored, hchange⟩ := handler_kept step handler.stored
  rw [handler'.stored] at hstored
  simp only [Option.some.injEq, ProgramData.bridgeHandler.injEq] at hstored
  subst hstored
  rcases hchange with rfl | ⟨call, returned, -, change⟩
  · exact UInt64.le_refl _
  · exact handlerChange_nonce_le change

theorem nonce_le_run {trace : List (LedgerTransition Pubkey Hash)}
    (run : LedgerRun rt s trace s') (handler : HandlerAt rt s.programData a h) :
    ∃ h', HandlerAt rt s'.programData a h' ∧ h.nonce ≤ h'.nonce := by
  refine run.invariant (fun u => ∃ h', HandlerAt rt u.programData a h' ∧ h.nonce ≤ h'.nonce) ?_
    ⟨h, handler, UInt64.le_refl _⟩
  rintro t - step ⟨h', handler', hle⟩
  obtain ⟨h'', handler'', hle'⟩ := nonce_le_step step handler'
  exact ⟨h'', handler'', UInt64.le_trans hle hle'⟩

theorem room_of_sourceCall {bridgeHandler mint : Pubkey}
    (source : SourceCallOn bridgeHandler mint call)
    (executed : execute rt s call = .ok (s', returned)) :
    ∃ h, HandlerAt rt s.programData bridgeHandler h ∧ h.nonce.toNat + 1 < 2 ^ 64 := by
  obtain ⟨x, n, amount, recipient, targetMint, gas, hix, rfl, -⟩ := source
  have step := (execute_refines executed).1
  obtain ⟨signers, ixSysvar, ix⟩ := call
  obtain rfl : ix = _ := hix
  generalize s'.programData = r' at step
  cases step with
  | bridgeAssetSourceChain request => exact ⟨_, request.handler, request.room⟩
  | managed kind => simp [managerUpdate?] at kind
  | tokenPause kind => simp [tokenPause?] at kind
  | payout kind => simp [payout?] at kind

theorem pauseToken_eq_ok {a : PauseToken Pubkey} (ix : call.ix = .pauseToken a)
    (paused : execute rt s call = .ok (s', returned)) :
    s' = s ∧ ∃ m t, TokenInfoAt rt s.programData a.bridgeHandler a.mint a.tokenInfo t ∧
      s.data a.mint = .mint a.tokenProgram m ∧ a.tokenProgram ∈ rt.tokenPrograms := by
  obtain ⟨signers, ixSysvar, ix'⟩ := call
  obtain rfl : ix' = _ := ix
  simp only [execute, pauseToken, setTokenPause, checkTokenProgram, bind_eq_ok, require_eq_ok,
    loadMint_eq_ok, exitAccount, pure_eq_ok, Prod.mk.injEq] at paused
  obtain ⟨u, ⟨-, -, h, -, -, -, -, -, m, ⟨hmint, hprogram⟩, t, htoken, rfl⟩, rfl, -⟩ := paused
  exact ⟨rfl, m, t, tokenInfoAt_of_load htoken, hmint, hprogram⟩

/-- A successful `unpause_token` for this token of this handler. -/
def UnpausesToken (bridgeHandler mint : Pubkey) : Event Pubkey Hash → Prop
  | .call call _ =>
      ∃ a, call.ix = .unpauseToken a ∧ a.bridgeHandler = bridgeHandler ∧ a.mint = mint
  | .other => False

omit [DecidableEq Hash] in
theorem not_unpausesToken {bridgeHandler mint : Pubkey} (managed : ManagedOrOther event) :
    ¬ UnpausesToken bridgeHandler mint event := by
  cases event with
  | call call returned =>
      rintro ⟨x, hix, -⟩
      exact managed (by rw [hix]; rfl)
  | other => exact id

/-- Until the token is unpaused, every source call for it fails. -/
def PauseHolds (rt : Runtime Pubkey Hash) (s : State Pubkey Hash)
    (bridgeHandler mint : Pubkey) : Prop :=
  ∀ trace x, LedgerRun rt s trace x →
    (∀ u ∈ trace, ¬ UnpausesToken bridgeHandler mint u.label) →
    ∀ call, SourceCallOn bridgeHandler mint call →
      ∀ x' returned, execute rt x call ≠ .ok (x', returned)

theorem pauseHolds_of_nonces_used {bridgeHandler mint : Pubkey}
    (handler : HandlerAt rt s.programData bridgeHandler h)
    (used : h.nonce.toNat + 1 = 2 ^ 64) : PauseHolds rt s bridgeHandler mint := by
  intro trace x run _ call source x' returned executed
  obtain ⟨h', handler', hle⟩ := nonce_le_run run handler
  obtain ⟨h'', handler'', room⟩ := room_of_sourceCall source executed
  obtain rfl : h' = h'' := handler'.unique handler''
  rw [UInt64.le_iff_toNat_le] at hle
  omega

/-- A pause takes effect exactly when the handler has used its request numbers, so
that no source call would succeed without the pause either. -/
theorem pause_holds_iff_nonces_used (collisionFree : CollisionFree rt)
    (assoc : AssociatedAddresses rt) (rentFits : RentFits rt)
    (reachable : LedgerReachable rt s) {a : PauseToken Pubkey} (ix : call.ix = .pauseToken a)
    (paused : execute rt s call = .ok (s', returned))
    (handler : HandlerAt rt s.programData a.bridgeHandler h) :
    PauseHolds rt s' a.bridgeHandler a.mint ↔ h.nonce.toNat + 1 = 2 ^ 64 := by
  obtain ⟨rfl, m, t, token, mintData, program⟩ := pauseToken_eq_ok ix paused
  refine ⟨fun holds => ?_, pauseHolds_of_nonces_used handler⟩
  by_contra hunused
  have hbound := h.nonce.toNat_lt
  have room : h.nonce.toNat + 1 < 2 ^ 64 := by omega
  obtain ⟨trace, x, run, hmanaged, next, x', returned', source, executed⟩ :=
    exists_source_call collisionFree assoc rentFits reachable handler room token mintData program
  exact holds trace x run (fun u hu => not_unpausesToken (hmanaged u hu)) next source x'
    returned' executed

theorem symbolicRuntime_accountRent (solayer : Bool) (len : ℕ) :
    accountRent (symbolicRuntime solayer) len = max ((128 + len) * 6960) 1 := rfl

theorem symbolicRuntime_rentFits (solayer : Bool) : RentFits (symbolicRuntime solayer) where
  sourceProof := by
    rw [symbolicRuntime_accountRent, sourceProofLen]
    omega
  tokenAccount mint := by
    have hlen : (symbolicRuntime solayer).tokenAccountLen mint = 165 := rfl
    rw [symbolicRuntime_accountRent, hlen]
    omega

theorem pause_holds_iff_nonces_used_sample :
    let s := stateAfter (symbolicRuntime true) sampleLedger (approvedTokenTransfer (.atom 30))
    ∃ s' returned h,
      execute (symbolicRuntime true) s (pauseTokenBy (.atom 5) (handlerKey 7) sampleMint) =
        .ok (s', returned) ∧
      HandlerAt (symbolicRuntime true) s.programData (handlerKey 7) h ∧
      (PauseHolds (symbolicRuntime true) s' (handlerKey 7) sampleMint ↔
        h.nonce.toNat + 1 = 2 ^ 64) := by
  intro s
  obtain ⟨hok, -⟩ := approvedTokenTransfer_isOk (.atom 30) (by simp)
  have hreachable : LedgerReachable (symbolicRuntime true) s :=
    ⟨sampleLedger, _, genesis_ledgerOf _, run_callTrace hok⟩
  obtain ⟨returned, hstep⟩ := exists_step_of_executeAll (symbolicRuntime true) s
    (pauseTokenBy (.atom 5) (handlerKey 7) sampleMint) (by decide +kernel)
  obtain ⟨h, handler, -⟩ := exists_handlerAt true s (handlerKey 7) (fun _ => true)
    (by decide +kernel)
  generalize stateAfter (symbolicRuntime true) s
    [pauseTokenBy (.atom 5) (handlerKey 7) sampleMint] = s' at hstep
  clear_value s
  cases hstep with
  | call paused =>
      exact ⟨s', returned, h, paused, handler,
        pause_holds_iff_nonces_used (symbolicRuntime_collisionFree true)
          (symbolicRuntime_associated true) (symbolicRuntime_rentFits true) hreachable rfl
          paused handler⟩

/-- The sample token is paused, and then tokens are burned for the other chain. -/
theorem paused_token_burned :
    ¬ ∀ s, LedgerReachable (symbolicRuntime true) s →
      ∀ call a s' returned, call.ix = .pauseToken a →
        execute (symbolicRuntime true) s call = .ok (s', returned) →
        PauseHolds (symbolicRuntime true) s' a.bridgeHandler a.mint := by
  intro hpause
  let rt := symbolicRuntime true
  let s := stateAfter rt sampleLedger paidTokens
  let pause := pauseTokenBy (.atom 5) (handlerKey 7) sampleMint
  let source := sampleSourceCall 0
  have hreachable : LedgerReachable rt s :=
    ⟨sampleLedger, _, genesis_ledgerOf _, run_callTrace paidTokens_isOk⟩
  obtain ⟨returned, hstep⟩ := exists_step_of_executeAll rt s pause (by decide +kernel)
  obtain ⟨returned', hsource⟩ := exists_step_of_executeAll rt (stateAfter rt s [pause]) source
    (by decide +kernel)
  generalize stateAfter rt s [pause] = s' at hstep hsource
  generalize stateAfter rt s' [source] = s'' at hsource
  clear_value s
  cases hstep with
  | call paused =>
      cases hsource with
      | call executed =>
          exact hpause s hreachable pause _ s' returned rfl paused [] s' (.nil s') (by simp) source
            ⟨_, _, _, _, _, _, rfl, rfl, rfl⟩ s'' returned' executed

end BridgeProgram.TokenPause
