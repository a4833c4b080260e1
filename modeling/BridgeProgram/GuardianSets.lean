import BridgeProgram.GuardianMajority

namespace BridgeProgram.GuardianSets

open BridgeProgram.BridgeProgramEntry
open BridgeProgram.GuardianMajority
open BridgeProgram.HandlerInstructions
open BridgeProgram.LedgerInvariants
open BridgeProgram.ProgramStates
open BridgeProgram.RegistryCells
open BridgeProgram.RegistryModel
open BridgeProgram.RegistryRefinement
open BridgeProgram.SolanaRuntime
open BridgeProgram.SymbolicRuntime
open BridgeProgram.TransitionRuns

variable {Pubkey Hash : Type} [DecidableEq Pubkey] [DecidableEq Hash]
  {rt : Runtime Pubkey Hash} {s s' : State Pubkey Hash} {event : Event Pubkey Hash}
  {bridgeHandler : Pubkey} {h : BridgeHandler Pubkey}
  {trace : List (LedgerTransition Pubkey Hash)}

/-- The threshold of a new handler is still stored. -/
def ThresholdUnset (rt : Runtime Pubkey Hash) (bridgeHandler : Pubkey)
    (s : State Pubkey Hash) : Prop :=
  ∀ h, HandlerAt rt s.programData bridgeHandler h → h.guardianThreshold = 255

theorem thresholdUnset_step (step : LedgerStep rt s event s')
    (kept : ¬ UpdatesThreshold bridgeHandler event)
    (unset : ThresholdUnset rt bridgeHandler s) : ThresholdUnset rt bridgeHandler s' := by
  intro h' handler'
  have hstored := handler'.stored
  rcases ledger_cell step bridgeHandler with hsame | ⟨call, returned, rfl, hwrite⟩
  · exact unset h' ⟨hsame.symm.trans hstored, handler'.address⟩
  · rw [hstored] at hwrite
    generalize s.programData bridgeHandler = old at hwrite
    cases hwrite with
    | handlerCreated => rfl
    | handlerChanged handler change =>
        have hbefore := unset _ handler
        cases change with
        | managed kind signed updated => rw [(managerUpdate_frame kind updated).2.2, hbefore]
        | numbered => exact hbefore
        | charged kind account same => rw [same.guardianThreshold, hbefore]
        | threshold ix account => exact absurd ⟨call, returned, _, _, rfl, ix, account⟩ kept

theorem thresholdUnset_run {s₀ : State Pubkey Hash} (genesis : Genesis s₀)
    (run : LedgerRun rt s₀ trace s)
    (kept : ∀ t ∈ trace, ¬ UpdatesThreshold bridgeHandler t.label) :
    ThresholdUnset rt bridgeHandler s := by
  refine run.invariant (ThresholdUnset rt bridgeHandler)
    (fun t ht step => thresholdUnset_step step (kept t ht)) ?_
  intro h handler
  have hstored := handler.stored
  rw [genesis bridgeHandler] at hstored
  cases hstored

/-- No account of approvals holds 255 signatures. -/
theorem no_payout_of_thresholdUnset (unset : ThresholdUnset rt bridgeHandler s)
    (step : LedgerStep rt s event s') {p : PayoutCall Pubkey Hash} (pays : Pays p event)
    (account : p.bridgeHandler = bridgeHandler) : False := by
  subst account
  obtain ⟨call, returned, h, h', g, v, bump, rfl, payout, -, -⟩ := payout_of_pays step pays
  have happroved := payout.approved
  rw [unset h payout.handler] at happroved
  have hlimit := payout.counted.2.2
  unfold maxGuardianSignatures at hlimit
  have h255 : (255 : UInt8).toNat = 255 := rfl
  omega

/-- The threshold of a handler is between 1 and the number of its guardians. -/
def ThresholdMet (rt : Runtime Pubkey Hash) (bridgeHandler : Pubkey)
    (s : State Pubkey Hash) : Prop :=
  ∀ h a g, HandlerAt rt s.programData bridgeHandler h →
    GuardiansAt rt s.programData bridgeHandler a g →
    1 ≤ h.guardianThreshold.toNat ∧ h.guardianThreshold.toNat ≤ g.guardians.length

theorem thresholdMet_step (collisionFree : CollisionFree rt) (reachable : LedgerReachable rt s)
    (step : LedgerStep rt s event s') (handler : HandlerAt rt s.programData bridgeHandler h)
    (met : ThresholdMet rt bridgeHandler s) : ThresholdMet rt bridgeHandler s' := by
  intro h' a g' handler' guardians'
  obtain ⟨g, guardians, change⟩ :=
    guardianSet_step collisionFree reachable step handler handler' guardians'
  obtain ⟨hpos, hle⟩ := met h a g handler guardians
  cases change with
  | same threshold list =>
      rw [threshold, list]
      exact ⟨hpos, hle⟩
  | added adds threshold length =>
      rw [threshold, length]
      exact ⟨hpos, hle.trans (Nat.le_succ _)⟩
  | removed threshold length enough =>
      rw [threshold]
      exact ⟨hpos, enough⟩
  | updated list checked => exact ⟨UInt8.lt_iff_toNat_lt.mp checked.range.1, checked.attainable⟩

theorem thresholdMet_run (collisionFree : CollisionFree rt) {s₀ : State Pubkey Hash}
    (genesis : Genesis s₀) (run : LedgerRun rt s₀ trace s)
    (updated : ∃ t ∈ trace, UpdatesThreshold bridgeHandler t.label) :
    ThresholdMet rt bridgeHandler s := by
  obtain ⟨t, ht, updates⟩ := updated
  obtain ⟨before, after, rfl⟩ := List.append_of_mem ht
  obtain ⟨hbefore, hstep, hafter⟩ := run.split_at
  have hreachable : LedgerReachable rt t.pre := ⟨s₀, before, genesis, hbefore⟩
  obtain ⟨⟨h, handler⟩, hchecked⟩ := checked_of_update collisionFree hreachable hstep updates
  have hmet : ThresholdMet rt bridgeHandler t.post := by
    intro h' a g handler' guardians'
    obtain ⟨-, checked⟩ := hchecked h' a g handler' guardians'
    exact ⟨UInt8.lt_iff_toNat_lt.mp checked.range.1, checked.attainable⟩
  refine (hafter.invariant (fun s => LedgerReachable rt s ∧
    (∃ h, HandlerAt rt s.programData bridgeHandler h) ∧ ThresholdMet rt bridgeHandler s)
    ?_ ⟨hreachable.next hstep, ⟨h, handler⟩, hmet⟩).2.2
  rintro u - next ⟨hpre, ⟨h, handler⟩, met⟩
  obtain ⟨h', handler', -⟩ := handlerAt_kept next handler
  exact ⟨hpre.next next, ⟨h', handler'⟩, thresholdMet_step collisionFree hpre next handler met⟩

/-- A handler has a guardian list. -/
def GuardiansExist (rt : Runtime Pubkey Hash) (s : State Pubkey Hash) : Prop :=
  ∀ bridgeHandler h, HandlerAt rt s.programData bridgeHandler h →
    ∃ a g, GuardiansAt rt s.programData bridgeHandler a g

theorem guardiansAt_kept (step : LedgerStep rt s event s') {a : Pubkey}
    {g : GuardianInfo Pubkey} (guardians : GuardiansAt rt s.programData bridgeHandler a g) :
    ∃ g', GuardiansAt rt s'.programData bridgeHandler a g' := by
  obtain ⟨g', hstored, hchange⟩ := guardians_kept step guardians.stored
  have haddress := guardians.address
  refine ⟨g', hstored, ?_⟩
  rcases hchange with rfl | ⟨call, returned, -, change⟩
  · exact haddress
  · cases change <;> exact haddress

omit [DecidableEq Hash] in
theorem guardians_of_initializeHandler {clock : Clock}
    {r r' : Registry Pubkey Hash} {call : Call Pubkey Hash} {returned : Option UInt64}
    (step : RegistryStep rt clock r call returned r') {i : Initialize Pubkey}
    {initNonce : UInt64} {n : UInt8} (ix : call.ix = .initializeHandler i initNonce n) :
    ∃ a g, GuardiansAt rt r' i.bridgeHandler a g := by
  cases step with
  | @initializeHandler _ _ i' _ _ _ _ guardianBump _ _ guardianAddress =>
      obtain ⟨rfl, -, -⟩ := Instruction.initializeHandler.inj ix
      exact ⟨i'.guardianInfo, _, by rw [Function.update_self], rt.create_of_find guardianAddress⟩
  | managed kind => simp [managerUpdate?, ix] at kind
  | tokenPause kind => simp [tokenPause?, ix] at kind
  | payout kind => simp [payout?, ix] at kind
  | _ => cases ix

theorem guardiansExist_step (step : LedgerStep rt s event s') (exist : GuardiansExist rt s) :
    GuardiansExist rt s' := by
  intro bridgeHandler h' handler'
  have hkept : ∀ {h}, HandlerAt rt s.programData bridgeHandler h →
      ∃ a g, GuardiansAt rt s'.programData bridgeHandler a g := by
    intro h handler
    obtain ⟨a, g, guardians⟩ := exist bridgeHandler h handler
    exact ⟨a, guardiansAt_kept step guardians⟩
  rcases ledgerStep_registry step with hsame | ⟨call, returned, rfl, hregistry⟩
  · rw [hsame] at handler'
    exact hkept handler'
  · rcases cell hregistry bridgeHandler with hsame | hwrite
    · exact hkept ⟨hsame.symm.trans handler'.stored, handler'.address⟩
    · rw [handler'.stored] at hwrite
      generalize hold : s.programData bridgeHandler = old at hwrite
      cases hwrite with
      | handlerCreated ix signed account address =>
          subst account
          exact guardians_of_initializeHandler hregistry ix
      | handlerChanged handler change => exact hkept ⟨hold, handler.address⟩

theorem guardiansExist_of_reachable (reachable : LedgerReachable rt s) : GuardiansExist rt s :=
  reachable.invariant (GuardiansExist rt)
    (fun s genesis bridgeHandler h handler => by
      have hstored := handler.stored
      rw [genesis bridgeHandler] at hstored
      cases hstored)
    fun _ _ _ => guardiansExist_step

/-- What holds of a handler's guardians and threshold after a run. -/
structure GuardianSetAfter (rt : Runtime Pubkey Hash) (bridgeHandler : Pubkey)
    (trace : List (LedgerTransition Pubkey Hash)) (s : State Pubkey Hash)
    (h : BridgeHandler Pubkey) (g : GuardianInfo Pubkey) : Prop where
  nodup : g.guardians.Nodup
  fits : g.guardians.length ≤ maxGuardianCount
  closed : (∀ t ∈ trace, ¬ UpdatesThreshold bridgeHandler t.label) →
    ∀ call p s' returned, payout? call.ix = some p → p.bridgeHandler = bridgeHandler →
      execute rt s call ≠ .ok (s', returned)
  met : (∃ t ∈ trace, UpdatesThreshold bridgeHandler t.label) →
    1 ≤ h.guardianThreshold.toNat ∧ h.guardianThreshold.toNat ≤ g.guardians.length

/-- After every run from a genesis ledger, a handler has one guardian list, which
is well formed, no payout succeeds as long as no threshold was set, and then the
list has at least as many guardians as the threshold says. -/
theorem guardian_set_after_run (collisionFree : CollisionFree rt) {s₀ : State Pubkey Hash}
    (genesis : Genesis s₀) (run : LedgerRun rt s₀ trace s)
    (handler : HandlerAt rt s.programData bridgeHandler h) :
    ∃ a g, GuardiansAt rt s.programData bridgeHandler a g ∧
      (∀ a' g', GuardiansAt rt s.programData bridgeHandler a' g' → a' = a ∧ g' = g) ∧
      GuardianSetAfter rt bridgeHandler trace s h g := by
  have hreachable : LedgerReachable rt s := ⟨s₀, trace, genesis, run⟩
  obtain ⟨a, g, guardians⟩ := guardiansExist_of_reachable hreachable _ _ handler
  obtain ⟨hnodup, hfits⟩ := guardianListsValid_of_reachable hreachable a g guardians.stored
  refine ⟨a, g, guardians, ?_, hnodup, hfits, ?_, ?_⟩
  · intro a' g' guardians'
    exact guardiansAt_unique collisionFree (canonical_of_reachable hreachable) guardians'
      guardians
  · intro kept call p s' returned kind account executed
    exact no_payout_of_thresholdUnset (thresholdUnset_run genesis run kept) (.call executed)
      ⟨call, returned, rfl, kind⟩ account
  · intro updated
    exact thresholdMet_run collisionFree genesis run updated h a g handler guardians

theorem guardian_set_after_run_sample :
    let trace := callTrace (symbolicRuntime true) sampleLedger sampleApproval
    let s := stateAfter (symbolicRuntime true) sampleLedger sampleApproval
    ∃ h a g, GuardiansAt (symbolicRuntime true) s.programData (handlerKey 7) a g ∧
      (∀ a' g', GuardiansAt (symbolicRuntime true) s.programData (handlerKey 7) a' g' →
        a' = a ∧ g' = g) ∧
      GuardianSetAfter (symbolicRuntime true) (handlerKey 7) trace s h g := by
  intro trace s
  have hrun : LedgerRun (symbolicRuntime true) sampleLedger trace s :=
    run_callTrace (by decide +kernel)
  obtain ⟨h, handler, -⟩ := exists_handlerAt true s (handlerKey 7) (fun _ => true)
    (by decide +kernel)
  clear_value trace s
  exact ⟨h, guardian_set_after_run (symbolicRuntime_collisionFree true) (genesis_ledgerOf _)
    hrun handler⟩

end BridgeProgram.GuardianSets
