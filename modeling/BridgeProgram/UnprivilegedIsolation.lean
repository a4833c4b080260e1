import BridgeProgram.DerivedAccounts
import BridgeProgram.OutsiderIssuance
import BridgeProgram.TokenRegistry

namespace BridgeProgram.UnprivilegedIsolation

open BridgeProgram.BalanceEffects
open BridgeProgram.BridgeProgramEntry
open BridgeProgram.CallEffects
open BridgeProgram.DerivedAccounts
open BridgeProgram.LedgerInvariants
open BridgeProgram.OutsiderIssuance
open BridgeProgram.ProgramStates
open BridgeProgram.RegistryCells
open BridgeProgram.RegistryModel
open BridgeProgram.RegistryRefinement
open BridgeProgram.SolanaRuntime
open BridgeProgram.SymbolicRuntime
open BridgeProgram.TokenEffects
open BridgeProgram.TokenRegistry
open BridgeProgram.TransitionRuns

variable {Pubkey Hash : Type}

/-- Neither the manager nor the operator that the handler has signs the transition. -/
def Unprivileged (bridgeHandler : Pubkey) (u : LedgerTransition Pubkey Hash) : Prop :=
  ∀ call returned h, u.label = .call call returned →
    u.pre.programData bridgeHandler = some (.bridgeHandler h) →
    h.manager ∉ call.signers ∧ h.operator ∉ call.signers

/-- From `s` to `s'` the handler only takes requests: it gains lamports and tokens, its
mints lose supply, and nothing of it changes but its nonce. -/
structure Untouched (rt : Runtime Pubkey Hash) (s s' : State Pubkey Hash)
    (bridgeHandler : Pubkey) (h : BridgeHandler Pubkey) : Prop where
  handler : ∃ nonce, HandlerAt rt s'.programData bridgeHandler { h with nonce }
  guardians : ∀ a g, GuardiansAt rt s.programData bridgeHandler a g →
    GuardiansAt rt s'.programData bridgeHandler a g
  tokens : ∀ a t, s.programData a = some (.tokenInfo t) →
    s'.programData a = some (.tokenInfo t)
  proofs : ∀ a p, s.programData a = some (.bridgeProof p) →
    s'.programData a = some (.bridgeProof p)
  sourceProofs : ∀ a p, s.programData a = some (.bridgeProofSourceChain p) →
    s'.programData a = some (.bridgeProofSourceChain p)
  lamports : s.lamports bridgeHandler ≤ s'.lamports bridgeHandler
  vaults : ∀ a tokenProgram w, s.data a = .tokenAccount tokenProgram w →
    w.owner = bridgeHandler →
    ∃ w', s'.data a = .tokenAccount tokenProgram w' ∧ w'.mint = w.mint ∧
      w'.owner = bridgeHandler ∧ w.amount ≤ w'.amount
  mints : ∀ a tokenProgram m, s.data a = .mint tokenProgram m →
    m.mintAuthority = some bridgeHandler →
    ∃ m', s'.data a = .mint tokenProgram m' ∧ m'.mintAuthority = some bridgeHandler ∧
      m'.supply ≤ m.supply

variable {rt : Runtime Pubkey Hash} {s s' s₁ : State Pubkey Hash} {bridgeHandler : Pubkey}
  {h : BridgeHandler Pubkey}

theorem Untouched.refl (handler : HandlerAt rt s.programData bridgeHandler h) :
    Untouched rt s s bridgeHandler h where
  handler := ⟨h.nonce, handler⟩
  guardians _ _ guardians := guardians
  tokens _ _ stored := stored
  proofs _ _ stored := stored
  sourceProofs _ _ stored := stored
  lamports := Nat.le_refl _
  vaults _ _ w hdata howner := ⟨w, hdata, rfl, howner, Nat.le_refl _⟩
  mints _ _ m hdata hauthority := ⟨m, hdata, hauthority, Nat.le_refl _⟩

theorem Untouched.trans {nonce : UInt64} (h₁ : Untouched rt s s₁ bridgeHandler h)
    (h₂ : Untouched rt s₁ s' bridgeHandler { h with nonce }) :
    Untouched rt s s' bridgeHandler h where
  handler := h₂.handler
  guardians a g guardians := h₂.guardians a g (h₁.guardians a g guardians)
  tokens a t stored := h₂.tokens a t (h₁.tokens a t stored)
  proofs a p stored := h₂.proofs a p (h₁.proofs a p stored)
  sourceProofs a p stored := h₂.sourceProofs a p (h₁.sourceProofs a p stored)
  lamports := h₁.lamports.trans h₂.lamports
  vaults a tokenProgram w hdata howner := by
    obtain ⟨w₁, hdata₁, hmint₁, howner₁, hle₁⟩ := h₁.vaults a tokenProgram w hdata howner
    obtain ⟨w₂, hdata₂, hmint₂, howner₂, hle₂⟩ := h₂.vaults a tokenProgram w₁ hdata₁ howner₁
    exact ⟨w₂, hdata₂, hmint₂.trans hmint₁, howner₂, hle₁.trans hle₂⟩
  mints a tokenProgram m hdata hauthority := by
    obtain ⟨m₁, hdata₁, hauthority₁, hle₁⟩ := h₁.mints a tokenProgram m hdata hauthority
    obtain ⟨m₂, hdata₂, hauthority₂, hle₂⟩ := h₂.mints a tokenProgram m₁ hdata₁ hauthority₁
    exact ⟨m₂, hdata₂, hauthority₂, hle₂.trans hle₁⟩

variable [DecidableEq Pubkey] [DecidableEq Hash] {event : Event Pubkey Hash}

theorem not_pays (step : LedgerStep rt s event s')
    (unprivileged : Unprivileged bridgeHandler ⟨s, event, s'⟩)
    (handler : HandlerAt rt s.programData bridgeHandler h) {p : PayoutCall Pubkey Hash}
    (pays : Pays p event) : bridgeHandler ≠ p.bridgeHandler := by
  rintro rfl
  obtain ⟨call, returned, h₁, _, _, _, _, rfl, payout, -⟩ := payout_of_pays step pays
  have hsame : h₁ = h := payout.handler.unique handler
  have hoperator := (unprivileged call returned h rfl handler.stored).2
  rw [← hsame, payout.operator] at hoperator
  exact hoperator payout.signed

theorem handler_untouched (step : LedgerStep rt s event s')
    (unprivileged : Unprivileged bridgeHandler ⟨s, event, s'⟩)
    (handler : HandlerAt rt s.programData bridgeHandler h) :
    ∃ nonce, HandlerAt rt s'.programData bridgeHandler { h with nonce } := by
  obtain ⟨h', hstored, hchange⟩ := handler_kept step handler.stored
  suffices hnonce : ∃ nonce, h' = { h with nonce } by
    obtain ⟨nonce, rfl⟩ := hnonce
    exact ⟨nonce, hstored, handler.address⟩
  rcases hchange with rfl | ⟨call, returned, rfl, change⟩
  · exact ⟨h'.nonce, rfl⟩
  · obtain ⟨hmanager, -⟩ := unprivileged call returned h rfl handler.stored
    cases change with
    | managed kind signed updated => exact absurd signed hmanager
    | numbered => exact ⟨_, rfl⟩
    | charged kind hhandler same =>
        exact absurd hhandler.symm
          (not_pays step unprivileged handler ⟨call, returned, rfl, kind⟩)
    | threshold ix hhandler managed =>
        exact absurd (managed.manager ▸ managed.signed) hmanager

theorem guardians_untouched (collisionFree : CollisionFree rt) (step : LedgerStep rt s event s')
    (unprivileged : Unprivileged bridgeHandler ⟨s, event, s'⟩) {a : Pubkey}
    {g : GuardianInfo Pubkey} (guardians : GuardiansAt rt s.programData bridgeHandler a g) :
    GuardiansAt rt s'.programData bridgeHandler a g := by
  obtain ⟨g', hstored, hchange⟩ := guardians_kept step guardians.stored
  rcases hchange with rfl | ⟨call, returned, rfl, change⟩
  · exact ⟨hstored, guardians.address⟩
  · exfalso
    have hmanaged : ∀ {manager bridgeHandler' h₁}, ¬ ManagedGuardians rt s.programData
        call.signers manager bridgeHandler' a h₁ g := by
      intro manager bridgeHandler' h₁ managed
      obtain rfl := guardiansAt_owner collisionFree guardians managed.guardians
      have hmanager := (unprivileged call returned h₁ rfl managed.handler.stored).1
      rw [managed.manager] at hmanager
      exact hmanager managed.signed
    cases change with
    | added ix account managed => exact hmanaged managed
    | removed ix account managed => exact hmanaged managed

theorem untouched_step (collisionFree : CollisionFree rt) (reachable : LedgerReachable rt s)
    (step : LedgerStep rt s event s') (respects : event = .other → RespectsDerived rt s s')
    (unprivileged : Unprivileged bridgeHandler ⟨s, event, s'⟩)
    (handler : HandlerAt rt s.programData bridgeHandler h) :
    Untouched rt s s' bridgeHandler h where
  handler := handler_untouched step unprivileged handler
  guardians _ _ := guardians_untouched collisionFree step unprivileged
  tokens _ _ := tokenInfo_kept reachable step
  proofs _ _ := bridgeProof_kept step
  sourceProofs _ _ := sourceProof_kept step
  lamports := by
    have hdata := programData_eq_some.mp handler.stored
    cases step with
    | other change => exact change.lamports _ (by rw [handler.stored]; simp)
    | @call _ call returned executed =>
        refine (callEffect executed).lamports_kept (by rw [hdata]; simp) fun p kind => ?_
        have hne := not_pays (.call executed) unprivileged handler ⟨call, returned, rfl, kind⟩
        refine ⟨hne, ?_⟩
        rintro rfl
        obtain ⟨q, pays⟩ := PayoutSteps.paysWith_of_executed kind executed
        cases hdata.symm.trans pays.accounts.approvals
  vaults a tokenProgram w hdata howner := by
    cases step with
    | other change =>
        obtain ⟨w', hdata', hmint, howner', hle⟩ := (respects rfl).taken a tokenProgram w hdata
          (howner ▸ isDerived_of_handler handler)
        exact ⟨w', hdata', hmint, howner'.trans howner, hle⟩
    | @call _ call returned executed =>
        have effect := callEffect executed
        have hle := vault_kept effect hdata
          (by rw [howner, programData_eq_some.mp handler.stored]; simp)
          (fun p kind => howner ▸
            not_pays (.call executed) unprivileged handler ⟨call, returned, rfl, kind⟩)
        rw [amounts, hdata] at hle
        exact ⟨_, tokenAccount_kept effect hdata, rfl, howner, hle⟩
  mints a tokenProgram m hdata hauthority := by
    cases step with
    | other change =>
        exact (respects rfl).issued a tokenProgram m bridgeHandler hdata hauthority
          (isDerived_of_handler handler)
    | @call _ call returned executed =>
        have effect := callEffect executed
        have hle := supply_kept effect hdata (fun p kind heq =>
          not_pays (.call executed) unprivileged handler ⟨call, returned, rfl, kind⟩
            (Option.some.inj (hauthority.symm.trans heq)))
        have hsupply : amounts s a = m.supply := by rw [amounts, hdata]; rfl
        exact ⟨_, mint_kept effect hdata, hauthority, hsupply ▸ hle⟩

/-- A run in which neither its manager nor its operator signs leaves a handler, its
guardians, tokens, proofs and balances alone. -/
theorem unprivileged_run_leaves_handler (collisionFree : CollisionFree rt)
    (reachable : LedgerReachable rt s) {trace : List (LedgerTransition Pubkey Hash)}
    (run : LedgerRun rt s trace s') (respectful : Respectful rt trace)
    (unprivileged : ∀ u ∈ trace, Unprivileged bridgeHandler u)
    (handler : HandlerAt rt s.programData bridgeHandler h) :
    Untouched rt s s' bridgeHandler h := by
  induction run with
  | nil => exact .refl handler
  | @snoc t t' trace event run next ih =>
      have hfirst := ih (fun u hu => respectful u (List.mem_append_left _ hu))
        (fun u hu => unprivileged u (List.mem_append_left _ hu))
      obtain ⟨nonce, handler'⟩ := hfirst.handler
      have hlast : ⟨t, event, t'⟩ ∈ trace ++ [⟨t, event, t'⟩] :=
        List.mem_append_right _ (List.mem_singleton_self _)
      exact hfirst.trans (untouched_step collisionFree (reachable.run run) next
        (respectful _ hlast) (unprivileged _ hlast) handler')

/-- An outsider runs a handler of its own, and makes a request to another one. -/
def outsiderCalls : List (Call Key Digest) :=
  ownHandler ++ [outsiderPayout, addTokenBy (.atom 9) (handlerKey 7) (.atom 30),
    bridgeSolBy (.atom 9) (handlerKey 1) (.atom 5) 0 10000000 (.atom 20)]

theorem unprivileged_run_leaves_handler_sample :
    ∃ h, HandlerAt (symbolicRuntime true) establishedState.programData (handlerKey 1) h ∧
      Untouched (symbolicRuntime true) establishedState
        (stateAfter (symbolicRuntime true) establishedState outsiderCalls) (handlerKey 1) h := by
  have hok : (executeAll (symbolicRuntime true) establishedState outsiderCalls).isOk = true := by
    decide +kernel
  have hroles : ∀ u ∈ callTrace (symbolicRuntime true) establishedState outsiderCalls,
      ∀ d ∈ u.pre.programData (handlerKey 1), ∀ h ∈ d.bridgeHandler?,
        h.manager = .atom 5 ∧ h.operator = .atom 6 := by
    decide +kernel
  have hsigners : ∀ call ∈ outsiderCalls, call.signers = [.atom 9] := by decide +kernel
  obtain ⟨h, handler, -⟩ := exists_handlerAt true establishedState (handlerKey 1)
    (fun _ => true) (by decide +kernel)
  refine ⟨h, handler, unprivileged_run_leaves_handler (symbolicRuntime_collisionFree true)
    ⟨outsiderLedger, _, genesis_ledgerOf _, run_callTrace establishedHandler_isOk⟩
    (run_callTrace hok) (respectful_callTrace hok) ?_ handler⟩
  intro u hu call returned x hlabel stored
  obtain ⟨hmanager, hoperator⟩ := hroles u hu _ stored x rfl
  obtain ⟨call', hcall', returned', hlabel'⟩ := exists_call_of_mem hok hu
  obtain ⟨rfl, -⟩ := Event.call.inj (hlabel.symm.trans hlabel')
  rw [hsigners call hcall', hmanager, hoperator]
  decide

end BridgeProgram.UnprivilegedIsolation
