import BridgeProgram.LedgerInvariants
import BridgeProgram.SymbolicRuntime

namespace BridgeProgram.OutsiderIssuance

open BridgeProgram.BridgeProgramEntry
open BridgeProgram.Ed25519Instruction
open BridgeProgram.LedgerInvariants
open BridgeProgram.ProgramStates
open BridgeProgram.RegistryCells
open BridgeProgram.RegistryModel
open BridgeProgram.RegistryRefinement
open BridgeProgram.SolanaRuntime
open BridgeProgram.SymbolicRuntime
open BridgeProgram.TransitionRuns

variable {Pubkey Hash : Type}

/-- No key of the party is manager, operator or guardian of a handler. -/
def Outsider (rt : Runtime Pubkey Hash) (s : State Pubkey Hash) (party : Pubkey → Prop) :
    Prop :=
  ∀ a h, HandlerAt rt s.programData a h → ¬ party h.manager ∧ ¬ party h.operator ∧
    ∀ b g, GuardiansAt rt s.programData a b g → ∀ k ∈ g.guardians, ¬ party k

/-- A call is signed by the party only, and so is every message that the ed25519
precompile checks in its transaction. -/
structure CallByParty (rt : Runtime Pubkey Hash) (party : Pubkey → Prop)
    (call : Call Pubkey Hash) : Prop where
  signers : ∀ k ∈ call.signers, party k
  signatures : ∀ signature, PrecompileChecked rt call.ixSysvar.instructions signature →
    ∃ k, party k ∧ signature.pubkey = (rt.pubkeyBytes k).toList

def EventByParty (rt : Runtime Pubkey Hash) (party : Pubkey → Prop)
    (event : Event Pubkey Hash) : Prop :=
  ∀ call returned, event = .call call returned → CallByParty rt party call

/-- The instruction pays out native SOL under a handler: a SOL payout, or a token
payout with additional SOL. -/
def PaysSol (bridgeHandler : Pubkey) : Instruction Pubkey Hash → Prop
  | .bridgeAssetTargetChain a _ _ _ _ _ _ additionalSolGas =>
      a.bridgeHandler = bridgeHandler ∧ 0 < additionalSolGas
  | .bridgeAssetTargetChainSol a .. => a.bridgeHandler = bridgeHandler
  | _ => False

/-- A successful `mint_sol_to_recipient` under a handler. -/
def MintsSol (rt : Runtime Pubkey Hash) (bridgeHandler : Pubkey)
    (t : LedgerTransition Pubkey Hash) : Prop :=
  ∃ call returned h, t.label = .call call returned ∧ PaysSol bridgeHandler call.ix ∧
    HandlerAt rt t.pre.programData bridgeHandler h ∧ h.chain = .solayer

/-- A successful `initialize` of a handler that the party signed. -/
def InitializedBy (party : Pubkey → Prop) (bridgeHandler : Pubkey)
    (event : Event Pubkey Hash) : Prop :=
  ∃ call returned a initNonce chain, event = .call call returned ∧
    call.ix = .initializeHandler a initNonce chain ∧ a.bridgeHandler = bridgeHandler ∧
    party a.signer

theorem PaysSol.payout {bridgeHandler : Pubkey} {ix : Instruction Pubkey Hash}
    (h : PaysSol bridgeHandler ix) :
    ∃ p, payout? ix = some p ∧ p.bridgeHandler = bridgeHandler := by
  cases ix with
  | bridgeAssetTargetChain => exact ⟨_, rfl, h.1⟩
  | bridgeAssetTargetChainSol => exact ⟨_, rfl, h⟩
  | _ => exact h.elim

variable [DecidableEq Pubkey] [DecidableEq Hash] {rt : Runtime Pubkey Hash}
  {s s' : State Pubkey Hash} {event : Event Pubkey Hash} {party : Pubkey → Prop}
  {bridgeHandler : Pubkey}

omit [DecidableEq Hash] in
theorem roles_kept {r : Registry Pubkey Hash} {call : Call Pubkey Hash}
    {returned : Option UInt64} {h h' : BridgeHandler Pubkey}
    (change : HandlerChange rt r call returned bridgeHandler h h')
    (unsigned : h.manager ∉ call.signers) :
    h'.manager = h.manager ∧ h'.operator = h.operator := by
  cases change with
  | managed kind signed updated => exact absurd signed unsigned
  | numbered => exact ⟨rfl, rfl⟩
  | charged kind handler same =>
      obtain ⟨remained, epoch, rfl⟩ := same
      exact ⟨rfl, rfl⟩
  | threshold => exact ⟨rfl, rfl⟩

/-- The handler at an address gives the party no role. -/
def ForeignHandler (rt : Runtime Pubkey Hash) (party : Pubkey → Prop) (bridgeHandler : Pubkey)
    (s : State Pubkey Hash) : Prop :=
  ∃ h, HandlerAt rt s.programData bridgeHandler h ∧ ¬ party h.manager ∧ ¬ party h.operator

theorem foreignHandler_step (step : LedgerStep rt s event s')
    (byParty : EventByParty rt party event) (foreign : ForeignHandler rt party bridgeHandler s) :
    ForeignHandler rt party bridgeHandler s' := by
  obtain ⟨h, handler, hmanager, hoperator⟩ := foreign
  obtain ⟨h', handler', -⟩ := handlerAt_kept step handler
  obtain ⟨h'', hstored, hchange⟩ := handler_kept step handler.stored
  obtain rfl : h'' = h' := by simpa using hstored.symm.trans handler'.stored
  refine ⟨h'', handler', ?_⟩
  rcases hchange with rfl | ⟨call, returned, rfl, change⟩
  · exact ⟨hmanager, hoperator⟩
  · have hsigners := (byParty call returned rfl).signers
    obtain ⟨hm, ho⟩ := roles_kept change fun hmem => hmanager (hsigners _ hmem)
    exact ⟨hm ▸ hmanager, ho ▸ hoperator⟩

theorem handler_origin {s₀ : State Pubkey Hash}
    {before : List (LedgerTransition Pubkey Hash)} (run : LedgerRun rt s₀ before s)
    (byParty : ∀ t ∈ before, EventByParty rt party t.label) {h : BridgeHandler Pubkey}
    (handler : HandlerAt rt s.programData bridgeHandler h) :
    (∃ h₀, HandlerAt rt s₀.programData bridgeHandler h₀) ∨
      ∃ t ∈ before, InitializedBy party bridgeHandler t.label := by
  induction run generalizing h with
  | nil => exact .inl ⟨h, handler⟩
  | @snoc t t' before label run next ih =>
      have hlast := byParty _ (List.mem_append_right _ (List.mem_singleton_self _))
      have hearlier : ∀ {h}, HandlerAt rt t.programData bridgeHandler h →
          (∃ h₀, HandlerAt rt s₀.programData bridgeHandler h₀) ∨
            ∃ u ∈ before ++ [⟨t, label, t'⟩], InitializedBy party bridgeHandler u.label := by
        intro h hpre
        rcases ih (fun u hu => byParty u (List.mem_append_left _ hu)) hpre with h₀ | ⟨u, hu, hi⟩
        · exact .inl h₀
        · exact .inr ⟨u, List.mem_append_left _ hu, hi⟩
      have hstored := handler.stored
      rcases ledger_cell next bridgeHandler with hsame | ⟨call, returned, rfl, hwrite⟩
      · exact hearlier ⟨hsame.symm.trans hstored, handler.address⟩
      · rw [hstored] at hwrite
        generalize hold : t.programData bridgeHandler = old at hwrite
        cases hwrite with
        | @handlerCreated i initNonce n bump chain ix signed account address =>
            exact .inr ⟨_, List.mem_append_right _ (List.mem_singleton_self _), call, returned,
              i, initNonce, n, rfl, ix, account, (hlast call returned rfl).signers _ signed⟩
        | handlerChanged hpre change => exact hearlier hpre

theorem not_foreign_of_mintsSol (step : LedgerStep rt s event s')
    (byParty : EventByParty rt party event)
    (mints : MintsSol rt bridgeHandler ⟨s, event, s'⟩) :
    ¬ ForeignHandler rt party bridgeHandler s := by
  rintro ⟨h₁, handler₁, -, hoperator⟩
  obtain ⟨call, returned, -, rfl, hpays, -, -⟩ := mints
  obtain ⟨p, kind, rfl⟩ := hpays.payout
  obtain ⟨_, _, h, h', g, v, bump, hcall, payout, -, -⟩ :=
    payout_of_pays step ⟨call, returned, rfl, kind⟩
  obtain ⟨rfl, rfl⟩ := Event.call.inj hcall
  obtain rfl : h₁ = h := handler₁.unique payout.handler
  rw [payout.operator] at hoperator
  exact hoperator ((byParty call returned rfl).signers _ payout.signed)

/-- In a run that an outsider alone signs, native SOL is issued only under
handlers that did not exist at the start and that the outsider has initialised. -/
theorem outsider_issues_only_under_own_handler {s₀ : State Pubkey Hash}
    (outsider : Outsider rt s₀ party) {trace : List (LedgerTransition Pubkey Hash)}
    (run : LedgerRun rt s₀ trace s) (byParty : ∀ t ∈ trace, EventByParty rt party t.label) :
    ∀ before t after, trace = before ++ t :: after → ∀ bridgeHandler,
      MintsSol rt bridgeHandler t →
      (∀ h, ¬ HandlerAt rt s₀.programData bridgeHandler h) ∧
        ∃ u ∈ before, InitializedBy party bridgeHandler u.label := by
  rintro before t after rfl bridgeHandler mints
  obtain ⟨hbefore, hstep, -⟩ := run.split_at
  have hparty : ∀ u ∈ before, EventByParty rt party u.label :=
    fun u hu => byParty u (List.mem_append_left _ hu)
  have hnew : ∀ h, ¬ HandlerAt rt s₀.programData bridgeHandler h := by
    intro h handler
    obtain ⟨hmanager, hoperator, -⟩ := outsider _ h handler
    have hforeign := hbefore.invariant (ForeignHandler rt party bridgeHandler)
      (fun u hu next => foreignHandler_step next (hparty u hu))
      ⟨h, handler, hmanager, hoperator⟩
    exact not_foreign_of_mintsSol hstep (byParty t (by simp)) mints hforeign
  obtain ⟨call, returned, h, -, -, handler, -⟩ := id mints
  rcases handler_origin hbefore hparty handler with ⟨h₀, handler₀⟩ | hinit
  · exact absurd handler₀ (hnew h₀)
  · exact ⟨hnew, hinit⟩

def outsiderLedger : State Key Digest :=
  ledgerOf [(.atom 5, 1000000000), (.atom 9, 1000000000)]

/-- A Solayer handler of other parties. -/
def establishedHandler : List (Call Key Digest) :=
  [ initializeBy (.atom 5) 1 2 (.atom 5) (.atom 6),
    addGuardianBy (.atom 5) (handlerKey 1) (.atom 11),
    updateThresholdBy (.atom 5) (handlerKey 1) 1 ]

/-- The outsider is signer, manager, operator and guardian of a handler of its own. -/
def ownHandler : List (Call Key Digest) :=
  [ initializeBy (.atom 9) 7 2 (.atom 9) (.atom 9),
    addGuardianBy (.atom 9) (handlerKey 7) (.atom 9),
    updateThresholdBy (.atom 9) (handlerKey 7) 1,
    verifyBy (.atom 9) (handlerKey 7) sampleTransfer.msgHash [0] [.atom 9] ]

def outsiderPayout : Call Key Digest :=
  paySolBy (.atom 9) (handlerKey 7) sampleTransfer

def establishedState : State Key Digest :=
  stateAfter (symbolicRuntime true) outsiderLedger establishedHandler

theorem establishedHandler_isOk :
    (executeAll (symbolicRuntime true) outsiderLedger establishedHandler).isOk = true := by
  decide +kernel

theorem outsider_established :
    Outsider (symbolicRuntime true) establishedState (fun k => k = .atom 9) := by
  have hroles : ∀ a ∈ establishedHandler.flatMap fun call => writtenAccounts call.ix,
      ∀ d ∈ establishedState.programData a,
        (∀ h ∈ d.bridgeHandler?, h.manager ≠ .atom 9 ∧ h.operator ≠ .atom 9) ∧
        ∀ g ∈ d.guardianInfo?, ∀ k ∈ g.guardians, k ≠ .atom 9 := by
    decide +kernel
  have hwritten : ∀ {a d}, establishedState.programData a = some d →
      a ∈ establishedHandler.flatMap fun call => writtenAccounts call.ix :=
    mem_writtenAccounts_of_stored (genesis_ledgerOf _) establishedHandler_isOk
  intro a h handler
  obtain ⟨hmanager, hoperator⟩ :=
    (hroles a (hwritten handler.stored) _ handler.stored).1 h rfl
  refine ⟨hmanager, hoperator, fun b g guardians => ?_⟩
  exact (hroles b (hwritten guardians.stored) _ guardians.stored).2 g rfl

theorem callByParty_outsider {call : Call Key Digest}
    (h : call ∈ ownHandler ++ [outsiderPayout]) :
    CallByParty (symbolicRuntime true) (fun k => k = .atom 9) call := by
  have hcalls : ∀ call ∈ ownHandler ++ [outsiderPayout],
      (∀ k ∈ call.signers, k = .atom 9) ∧
      ∀ ix ∈ call.ixSysvar.instructions, ix.programId = .atom 1002 →
        ∀ checked ∈ readRecords call.ixSysvar.instructions ix.data, ∀ signature ∈ checked,
          signature.pubkey = ((symbolicRuntime true).pubkeyBytes (.atom 9)).toList := by
    decide +kernel
  obtain ⟨hsigners, hsignatures⟩ := hcalls call h
  refine ⟨hsigners, ?_⟩
  rintro signature ⟨ix, hix, hprogram, checked, hchecked, hmem⟩
  exact ⟨_, rfl, hsignatures ix hix hprogram checked hchecked signature hmem⟩

theorem outsiderPayout_run :
    let before := callTrace (symbolicRuntime true) establishedState ownHandler
    let s := stateAfter (symbolicRuntime true) establishedState ownHandler
    ∃ returned s', LedgerRun (symbolicRuntime true) establishedState
        (before ++ [⟨s, .call outsiderPayout returned, s'⟩]) s' ∧
      MintsSol (symbolicRuntime true) (handlerKey 7)
        ⟨s, .call outsiderPayout returned, s'⟩ ∧
      ∀ t ∈ before ++ [⟨s, .call outsiderPayout returned, s'⟩],
        EventByParty (symbolicRuntime true) (fun k => k = .atom 9) t.label := by
  intro before s
  have hok : (executeAll (symbolicRuntime true) establishedState ownHandler).isOk = true := by
    decide +kernel
  have hrun : LedgerRun (symbolicRuntime true) establishedState before s := run_callTrace hok
  obtain ⟨returned, hstep⟩ := exists_step_of_executeAll (symbolicRuntime true) s outsiderPayout
    (by decide +kernel)
  obtain ⟨x, hhandler, hx⟩ := exists_handlerAt true s (handlerKey 7)
    (fun x => x.chain = .solayer) (by decide +kernel)
  have hcalls : ∀ t ∈ before, ∃ call ∈ ownHandler, ∃ returned, t.label = .call call returned :=
    fun t ht => exists_call_of_mem hok ht
  clear_value before s
  refine ⟨returned, _, hrun.snoc hstep, ⟨_, returned, x, rfl, rfl, hhandler,
    of_decide_eq_true hx⟩, ?_⟩
  intro t ht call returned' hlabel
  refine callByParty_outsider ?_
  rcases List.mem_append.mp ht with ht | ht
  · obtain ⟨call', hcall', returned'', hlabel'⟩ := hcalls t ht
    obtain ⟨rfl, -⟩ := Event.call.inj (hlabel.symm.trans hlabel')
    exact List.mem_append_left _ hcall'
  · obtain rfl := List.mem_singleton.mp ht
    obtain ⟨rfl, -⟩ := Event.call.inj hlabel
    exact List.mem_append_right _ (List.mem_singleton_self _)

theorem outsider_issues_only_under_own_handler_sample :
    (∀ h, ¬ HandlerAt (symbolicRuntime true) establishedState.programData (handlerKey 7) h) ∧
      ∃ u ∈ callTrace (symbolicRuntime true) establishedState ownHandler,
        InitializedBy (fun k => k = .atom 9) (handlerKey 7) u.label := by
  obtain ⟨returned, s', hrun, hmints, hparty⟩ := outsiderPayout_run
  exact outsider_issues_only_under_own_handler outsider_established hrun hparty _ _ [] rfl
    (handlerKey 7) hmints

/-- The outsider alone initialises a handler, approves and makes a payout, and
the payout issues native SOL. -/
theorem outsider_issues_sol :
    ¬ ∀ s₀, LedgerReachable (symbolicRuntime true) s₀ → ∀ party : Key → Prop,
      Outsider (symbolicRuntime true) s₀ party →
      ∀ trace s, LedgerRun (symbolicRuntime true) s₀ trace s →
        (∀ t ∈ trace, EventByParty (symbolicRuntime true) party t.label) →
        ∀ t ∈ trace, ∀ bridgeHandler,
          ¬ MintsSol (symbolicRuntime true) bridgeHandler t := by
  intro h
  have hreachable : LedgerReachable (symbolicRuntime true) establishedState :=
    ⟨outsiderLedger, _, genesis_ledgerOf _, run_callTrace establishedHandler_isOk⟩
  obtain ⟨returned, s', hrun, hmints, hparty⟩ := outsiderPayout_run
  exact h _ hreachable _ outsider_established _ _ hrun hparty _
    (List.mem_append_right _ (List.mem_singleton_self _)) (handlerKey 7) hmints

end BridgeProgram.OutsiderIssuance
