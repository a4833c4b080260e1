import BridgeProgram.CallEffects
import BridgeProgram.LedgerInvariants
import BridgeProgram.SymbolicRuntime

namespace BridgeProgram.PausedBridge

open BridgeProgram.AccountEffects
open BridgeProgram.AccountKeeping
open BridgeProgram.BalanceEffects
open BridgeProgram.BridgeProgramEntry
open BridgeProgram.CallEffects
open BridgeProgram.CheckedResult
open BridgeProgram.HandlerInstructions
open BridgeProgram.LedgerInvariants
open BridgeProgram.ProgramStates
open BridgeProgram.RegistryCells
open BridgeProgram.RegistryModel
open BridgeProgram.RegistryRefinement
open BridgeProgram.SolanaRuntime
open BridgeProgram.SourceSteps
open BridgeProgram.SymbolicRuntime
open BridgeProgram.TokenPrograms
open BridgeProgram.TransitionRuns

variable {Pubkey Hash : Type}

/-- The handler that an instruction is addressed to. -/
def addressee : Instruction Pubkey Hash → Pubkey
  | .initializeHandler a .. => a.bridgeHandler
  | .addToken a .. => a.bridgeHandler
  | .pauseToken a => a.bridgeHandler
  | .unpauseToken a => a.bridgeHandler
  | .pauseBridge a => a.bridgeHandler
  | .unpauseBridge a => a.bridgeHandler
  | .bridgeAssetSourceChain a .. => a.bridgeHandler
  | .bridgeAssetSourceChainSol a .. => a.bridgeHandler
  | .bridgeAssetTargetChain a .. => a.bridgeHandler
  | .bridgeAssetTargetChainSol a .. => a.bridgeHandler
  | .addGuardian a => a.bridgeHandler
  | .removeGuardian a => a.bridgeHandler
  | .updateGuardianThreshold a _ => a.bridgeHandler
  | .verifySignature a .. => a.bridgeHandler
  | .updateFeeVault a => a.bridgeHandler
  | .updateFeeInfo a _ => a.bridgeHandler
  | .updateInstantBridgeCap a _ => a.bridgeHandler
  | .updateOperator a => a.bridgeHandler
  | .updateManager a => a.bridgeHandler

/-- An instruction addressed to the handler, but not `unpause_bridge`; or time that
passes. -/
def StaysPaused (bridgeHandler : Pubkey) (u : LedgerTransition Pubkey Hash) : Prop :=
  match u.label with
  | .call call _ => addressee call.ix = bridgeHandler ∧ ∀ a, call.ix ≠ .unpauseBridge a
  | .other => u.post.data = u.pre.data ∧ u.post.lamports = u.pre.lamports

/-- From `s` to `s'` the handler issues no number, moves no lamports and no tokens, and
no bridge proof appears or goes. New token accounts and mints are empty. -/
structure Frozen (rt : Runtime Pubkey Hash) (s s' : State Pubkey Hash) (bridgeHandler : Pubkey)
    (h : BridgeHandler Pubkey) : Prop where
  handler : ∃ h', HandlerAt rt s'.programData bridgeHandler h' ∧ h'.pause = true ∧
    h'.nonce = h.nonce
  lamports : s'.lamports bridgeHandler = s.lamports bridgeHandler
  vaults : ∀ a tokenProgram w, s.data a = .tokenAccount tokenProgram w →
    s'.data a = .tokenAccount tokenProgram w
  newVaults : ∀ a tokenProgram w, s'.data a = .tokenAccount tokenProgram w →
    s.data a = .tokenAccount tokenProgram w ∨ s.data a = .system ∧ w.amount = 0
  mints : ∀ a tokenProgram m, s.data a = .mint tokenProgram m →
    s'.data a = .mint tokenProgram m
  newMints : ∀ a tokenProgram m, s'.data a = .mint tokenProgram m →
    s.data a = .mint tokenProgram m ∨ s.data a = .system ∧ m.supply = 0
  sourceProofs : ∀ a proof, s'.programData a = some (.bridgeProofSourceChain proof) ↔
    s.programData a = some (.bridgeProofSourceChain proof)
  targetProofs : ∀ a proof, s'.programData a = some (.bridgeProof proof) ↔
    s.programData a = some (.bridgeProof proof)

/-- Contents that are a bridge proof. -/
def IsProof (d : ProgramData Pubkey Hash) : Prop :=
  (∃ proof, d = .bridgeProofSourceChain proof) ∨ ∃ proof, d = .bridgeProof proof

variable [DecidableEq Pubkey] {rt : Runtime Pubkey Hash} {s s' t : State Pubkey Hash}
  {call : Call Pubkey Hash} {returned : Option UInt64} {bridgeHandler a : Pubkey}
  {h : BridgeHandler Pubkey}

omit [DecidableEq Pubkey] in
theorem source_addressee {ix : Instruction Pubkey Hash} {c : SourceCall Pubkey}
    (kind : source? ix = some c) : c.bridgeHandler = addressee ix := by
  cases ix with
  | bridgeAssetSourceChain | bridgeAssetSourceChainSol =>
      obtain rfl := Option.some.inj kind
      rfl
  | _ => simp [source?] at kind

omit [DecidableEq Pubkey] in
theorem payout_addressee {ix : Instruction Pubkey Hash} {p : PayoutCall Pubkey Hash}
    (kind : payout? ix = some p) : p.bridgeHandler = addressee ix := by
  cases ix with
  | bridgeAssetTargetChain | bridgeAssetTargetChainSol =>
      obtain rfl := Option.some.inj kind
      rfl
  | _ => simp [payout?] at kind

theorem managerUpdate_pause {ix : Instruction Pubkey Hash} {manager : Pubkey}
    {f : BridgeHandler Pubkey → Except ProgramError (BridgeHandler Pubkey)}
    {h h' : BridgeHandler Pubkey} (kind : managerUpdate? ix = some (manager, a, f))
    (stays : ∀ x, ix ≠ .unpauseBridge x) (updated : f h = .ok h') (paused : h.pause = true) :
    h'.pause = true := by
  cases ix with
  | unpauseBridge x => exact absurd rfl (stays x)
  | updateFeeVault x =>
      obtain ⟨-, -, rfl⟩ := by simpa [managerUpdate?] using kind
      simp only [updateFeeVault, bind_eq_ok, pure_eq_ok] at updated
      obtain ⟨-, -, rfl⟩ := updated
      exact paused
  | pauseBridge =>
      obtain ⟨-, -, rfl⟩ := by simpa [managerUpdate?] using kind
      obtain rfl := pure_eq_ok.mp updated
      rfl
  | updateFeeInfo | updateInstantBridgeCap | updateOperator | updateManager =>
      obtain ⟨-, -, rfl⟩ := by simpa [managerUpdate?] using kind
      obtain rfl := pure_eq_ok.mp updated
      exact paused
  | _ => simp [managerUpdate?] at kind

theorem unpaused_of_source {clock : Clock} {r r' : Registry Pubkey Hash}
    (step : RegistryStep rt clock r call returned r') {c : SourceCall Pubkey}
    (kind : source? call.ix = some c) :
    ∃ h, HandlerAt rt r c.bridgeHandler h ∧ h.pause = false := by
  cases step with
  | bridgeAssetSourceChain request | bridgeAssetSourceChainSol request =>
      obtain rfl := Option.some.inj kind
      exact ⟨_, request.handler, request.unpaused⟩
  | @managed call manager bridgeHandler f h h' kind' =>
      cases hix : call.ix <;> simp [hix, source?, managerUpdate?] at kind kind'
  | @tokenPause call x h t kind' =>
      cases hix : call.ix <;> simp [hix, source?, tokenPause?] at kind kind'
  | @payout call p h h' g v bump kind' =>
      rw [source?_of_payout kind'] at kind
      cases kind
  | _ => simp [source?] at kind

theorem proof_iff_of_quiet {clock : Clock} {r r' : Registry Pubkey Hash}
    (step : RegistryStep rt clock r call returned r') (noSource : source? call.ix = none)
    (noPayout : payout? call.ix = none) {d : ProgramData Pubkey Hash} (proof : IsProof d) :
    r' a = some d ↔ r a = some d := by
  rcases cell step a with hsame | hwrite
  · rw [hsame]
  · generalize r a = old at hwrite
    generalize r' a = new at hwrite
    cases hwrite with
    | sourceProofCreated kind =>
        rw [sourceHandler?_eq, noSource] at kind
        cases kind
    | proofCreated kind | approvalsClosed kind =>
        rw [noPayout] at kind
        cases kind
    | tokenRegistered _ _ unregistered =>
        rcases proof with ⟨p, rfl⟩ | ⟨p, rfl⟩ <;>
          rcases unregistered with rfl | ⟨_, rfl, -⟩ <;> simp
    | approvalsAdded _ _ _ _ found =>
        rcases proof with ⟨p, rfl⟩ | ⟨p, rfl⟩ <;> rcases found with rfl | ⟨rfl, -⟩ <;> simp
    | _ => rcases proof with ⟨p, rfl⟩ | ⟨p, rfl⟩ <;> simp

variable [DecidableEq Hash] {event : Event Pubkey Hash}

theorem quiet_of_paused (executed : execute rt s call = .ok (s', returned))
    (handler : HandlerAt rt s.programData bridgeHandler h) (paused : h.pause = true)
    (addressed : addressee call.ix = bridgeHandler) :
    source? call.ix = none ∧ payout? call.ix = none := by
  have hunpaused : ∀ x, HandlerAt rt s.programData bridgeHandler x → x.pause = true := by
    intro x hx
    obtain rfl : x = h := hx.unique handler
    exact paused
  constructor
  · cases kind : source? call.ix with
    | none => rfl
    | some c =>
        obtain ⟨x, hx, hpause⟩ := unpaused_of_source (execute_refines executed).1 kind
        rw [source_addressee kind, addressed] at hx
        rw [hunpaused x hx] at hpause
        cases hpause
  · cases kind : payout? call.ix with
    | none => rfl
    | some p =>
        obtain ⟨q, pays⟩ := PayoutSteps.paysWith_of_executed kind executed
        have hx := pays.payout.handler
        rw [payout_addressee kind, addressed] at hx
        have hpause := pays.payout.unpaused
        rw [hunpaused _ hx] at hpause
        cases hpause

/-- What holds of every state of the run, in comparison with the first one. -/
structure StillPaused (rt : Runtime Pubkey Hash) (s t : State Pubkey Hash)
    (bridgeHandler : Pubkey) (h : BridgeHandler Pubkey) : Prop where
  handler : ∃ h', HandlerAt rt t.programData bridgeHandler h' ∧ h'.pause = true ∧
    h'.nonce = h.nonce
  keeps : KeepsExactly Set.univ s t
  proofs : ∀ a d, IsProof d → (t.programData a = some d ↔ s.programData a = some d)

omit [DecidableEq Pubkey] [DecidableEq Hash] in
theorem stillPaused_of_time (data : s'.data = s.data) (lamports : s'.lamports = s.lamports)
    (handler : HandlerAt rt s.programData bridgeHandler h) (paused : h.pause = true) :
    StillPaused rt s s' bridgeHandler h := by
  have hprogram : s'.programData = s.programData := by
    funext b
    rw [State.programData, data, State.programData]
  have hkeeps : KeepsExactly Set.univ s s' :=
    { data := fun b _ _ => by rw [data]
      program := fun b hb => by rw [hprogram]; exact hb
      empty := fun b hb => by rw [amounts, data, hb]; rfl
      created := fun _ _ _ _ _ => Set.mem_univ _
      lamports := fun b _ => by rw [lamports]
      sameLamports := fun b _ => by rw [lamports] }
  exact ⟨⟨h, by rw [hprogram]; exact handler, paused, rfl⟩, hkeeps,
    fun b d _ => by rw [hprogram]⟩

theorem stillPaused_step (step : LedgerStep rt s event s')
    (stays : StaysPaused bridgeHandler ⟨s, event, s'⟩)
    (handler : HandlerAt rt s.programData bridgeHandler h) (paused : h.pause = true) :
    StillPaused rt s s' bridgeHandler h := by
  cases step with
  | other => exact stillPaused_of_time stays.1 stays.2 handler paused
  | @call _ call returned executed =>
      obtain ⟨addressed, hstays⟩ := stays
      obtain ⟨noSource, noPayout⟩ := quiet_of_paused executed handler paused addressed
      refine ⟨?_, (execute_keeps noSource noPayout executed).mono (Set.subset_univ _),
        fun a d proof => proof_iff_of_quiet (execute_refines executed).1 noSource noPayout proof⟩
      obtain ⟨h', handler', -⟩ := handlerAt_kept (.call executed) handler
      obtain ⟨h'', hstored, hchange⟩ := handler_kept (.call executed) handler.stored
      obtain rfl : h'' = h' := by simpa using hstored.symm.trans handler'.stored
      refine ⟨h'', handler', ?_⟩
      rcases hchange with rfl | ⟨_, _, hlabel, change⟩
      · exact ⟨paused, rfl⟩
      obtain ⟨rfl, rfl⟩ := Event.call.inj hlabel
      cases change with
      | managed kind signed updated =>
          exact ⟨managerUpdate_pause kind hstays updated paused,
            (managerUpdate_frame kind updated).2.1⟩
      | numbered kind =>
          rw [sourceHandler?_eq, noSource] at kind
          cases kind
      | charged kind =>
          rw [noPayout] at kind
          cases kind
      | threshold => exact ⟨paused, rfl⟩

omit [DecidableEq Pubkey] [DecidableEq Hash] in
theorem StillPaused.trans {h' : BridgeHandler Pubkey} (h₁ : StillPaused rt s t bridgeHandler h)
    (h₂ : StillPaused rt t s' bridgeHandler h') (nonce : h'.nonce = h.nonce) :
    StillPaused rt s s' bridgeHandler h where
  handler := by
    obtain ⟨x, hx, hpause, hnonce⟩ := h₂.handler
    exact ⟨x, hx, hpause, hnonce.trans nonce⟩
  keeps := h₁.keeps.trans h₂.keeps
  proofs a d proof := (h₂.proofs a d proof).trans (h₁.proofs a d proof)

theorem stillPaused_run {trace : List (LedgerTransition Pubkey Hash)}
    (run : LedgerRun rt s trace s') (stays : ∀ u ∈ trace, StaysPaused bridgeHandler u)
    (handler : HandlerAt rt s.programData bridgeHandler h) (paused : h.pause = true) :
    StillPaused rt s s' bridgeHandler h := by
  refine run.invariant (fun t => StillPaused rt s t bridgeHandler h) ?_
    (stillPaused_of_time rfl rfl handler paused)
  intro u hu step still
  obtain ⟨x, hx, hpause, hnonce⟩ := still.handler
  exact still.trans (stillPaused_step step (stays u hu) hx hpause) hnonce

omit [DecidableEq Pubkey] [DecidableEq Hash] in
theorem old_or_empty (keeps : KeepsExactly Set.univ s s') (hprogram : s'.programData a = none) :
    s.data a = s'.data a ∨ s.data a = .system ∧ amounts s' a = 0 := by
  by_cases hsystem : s.data a = .system
  · exact .inr ⟨hsystem, keeps.empty a hsystem⟩
  · refine .inl (keeps.data a hsystem ?_).symm
    by_contra hstored
    exact keeps.program a hstored hprogram

/-- As long as a paused handler is not unpaused, instructions addressed to it leave its
nonce, its lamports, its tokens and mints, and all bridge proofs as they are. -/
theorem paused_bridge_frozen {trace : List (LedgerTransition Pubkey Hash)}
    (run : LedgerRun rt s trace s') (stays : ∀ u ∈ trace, StaysPaused bridgeHandler u)
    (handler : HandlerAt rt s.programData bridgeHandler h) (paused : h.pause = true) :
    Frozen rt s s' bridgeHandler h := by
  obtain ⟨hhandler, keeps, proofs⟩ := stillPaused_run run stays handler paused
  refine
    { handler := hhandler
      lamports := keeps.sameLamports _ ?_
      vaults := fun a tokenProgram w hdata => ?_
      newVaults := fun a tokenProgram w hdata => ?_
      mints := fun a tokenProgram m hdata => ?_
      newMints := fun a tokenProgram m hdata => ?_
      sourceProofs := fun a proof => proofs a _ (.inl ⟨proof, rfl⟩)
      targetProofs := fun a proof => proofs a _ (.inr ⟨proof, rfl⟩) }
  · rw [programData_eq_some.mp handler.stored]
    simp
  · rw [keeps.data a (by rw [hdata]; simp) (programData_eq_none_of_tokenAccount hdata), hdata]
  · have hold := old_or_empty keeps (programData_eq_none_of_tokenAccount hdata)
    simpa only [amounts, hdata, amountOf] using hold
  · rw [keeps.data a (by rw [hdata]; simp) (programData_eq_none_of_mint hdata), hdata]
  · have hold := old_or_empty keeps (programData_eq_none_of_mint hdata)
    simpa only [amounts, hdata, amountOf] using hold

/-- A handler with a registered token and an approved transfer is paused. -/
def pausedSetup : List (Call Key Digest) :=
  approvedTokenTransfer (.atom 30) ++
    [callBy (.atom 5) (.pauseBridge { manager := .atom 5, bridgeHandler := handlerKey 7 })]

/-- The operator registers another token, and a second message is approved. -/
def pausedCalls : List (Call Key Digest) :=
  [ addTokenBy (.atom 6) (handlerKey 7) (.atom 31),
    verifyBy (.atom 6) (handlerKey 7) sampleTransfer.msgHash [0] [.atom 11] ]

theorem paused_bridge_frozen_sample :
    let rt := symbolicRuntime true
    let s := stateAfter rt sampleLedger pausedSetup
    ∃ h, HandlerAt rt s.programData (handlerKey 7) h ∧
      Frozen rt s (stateAfter rt s pausedCalls) (handlerKey 7) h := by
  intro rt s
  have hok : (executeAll rt s pausedCalls).isOk = true := by decide +kernel
  obtain ⟨h, handler, paused⟩ := exists_handlerAt true s (handlerKey 7) (fun h => h.pause)
    (by decide +kernel)
  refine ⟨h, handler, paused_bridge_frozen (run_callTrace hok) ?_ handler paused⟩
  intro u hu
  obtain ⟨call, hcall, returned, hlabel⟩ := exists_call_of_mem hok hu
  have hstays : ∀ call ∈ pausedCalls, addressee call.ix = handlerKey 7 ∧
      ∀ a, call.ix ≠ .unpauseBridge a := by
    simp [pausedCalls, addTokenBy, verifyBy, callBy, addressee]
  rw [StaysPaused, hlabel]
  exact hstays call hcall

end BridgeProgram.PausedBridge
