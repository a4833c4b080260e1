import BridgeProgram.SourceProofs
import BridgeProgram.UnprivilegedIsolation
import Mathlib.Data.Set.Card

namespace BridgeProgram.SourceHistory

open BridgeProgram.AccountEffects
open BridgeProgram.BridgeProgramEntry
open BridgeProgram.CallEffects
open BridgeProgram.HandlerInstructions
open BridgeProgram.LedgerInvariants
open BridgeProgram.ProgramStates
open BridgeProgram.RegistryCells
open BridgeProgram.RegistryModel
open BridgeProgram.RegistryRefinement
open BridgeProgram.SolanaRuntime
open BridgeProgram.SourceInstructions
open BridgeProgram.SourceProofs
open BridgeProgram.SourceSteps
open BridgeProgram.SymbolicRuntime
open BridgeProgram.TransitionRuns
open BridgeProgram.UnprivilegedIsolation

variable {Pubkey Hash : Type}

/-- The nonce of a handler, 0 at an address without one. -/
def nonceAt (s : State Pubkey Hash) (bridgeHandler : Pubkey) : ℕ :=
  match s.programData bridgeHandler with
  | some (.bridgeHandler h) => h.nonce.toNat
  | _ => 0

/-- The accounts of source proofs of a handler. -/
def sourceProofs (rt : Runtime Pubkey Hash) (s : State Pubkey Hash) (bridgeHandler : Pubkey) :
    Set Pubkey :=
  {a | ∃ signer nonce bump proof,
    rt.findProgramAddress (.bridgeProofSource bridgeHandler signer nonce) = (a, bump) ∧
      s.programData a = some (.bridgeProofSourceChain proof)}

variable [DecidableEq Pubkey]

/-- What a source call of the handler has returned. -/
def requestNumber? (bridgeHandler : Pubkey) (u : LedgerTransition Pubkey Hash) :
    Option (Option UInt64) :=
  match u.label with
  | .call call returned =>
      if sourceHandler? call.ix = some bridgeHandler then some returned else none
  | .other => none

variable {rt : Runtime Pubkey Hash} {s s' : State Pubkey Hash} {call : Call Pubkey Hash}
  {returned : Option UInt64} {bridgeHandler a : Pubkey} {f : SourceFields Pubkey}

omit [DecidableEq Pubkey] in
theorem sourceFields_of_handler {ix : Instruction Pubkey Hash}
    (kind : sourceHandler? ix = some bridgeHandler) :
    ∃ f, sourceFields? rt ix = some f ∧ f.bridgeHandler = bridgeHandler := by
  cases ix with
  | bridgeAssetSourceChain | bridgeAssetSourceChainSol =>
      obtain rfl := Option.some.inj kind
      exact ⟨_, rfl, rfl⟩
  | _ => simp [sourceHandler?] at kind

/-- What a source call requires, returns and writes. -/
structure RequestStep (rt : Runtime Pubkey Hash) (r r' : Registry Pubkey Hash)
    (signers : List Pubkey) (f : SourceFields Pubkey) (returned : Option UInt64) (feeVault : Pubkey)
    (h : BridgeHandler Pubkey) (bump : UInt8) : Prop where
  request : SourceRequest rt r signers f.signer f.bridgeHandler f.bridgeProof feeVault
    f.bridgeProofNonce h bump
  returned_eq : returned = some h.nonce
  handler : r' f.bridgeHandler = some (.bridgeHandler { h with nonce := h.nonce + 1 })
  proof : ∃ proof, r' f.bridgeProof = some (.bridgeProofSourceChain proof)
  others : ∀ b proof, b ≠ f.bridgeProof → r' b = some (.bridgeProofSourceChain proof) →
    r b = some (.bridgeProofSourceChain proof)

omit [DecidableEq Pubkey] in
theorem handler_ne_proof {r : Registry Pubkey Hash} {signers : List Pubkey}
    {signer bridgeProof feeVault : Pubkey} {nonce : UInt64} {h : BridgeHandler Pubkey}
    {bump : UInt8}
    (request : SourceRequest rt r signers signer bridgeHandler bridgeProof feeVault nonce h bump) :
    bridgeHandler ≠ bridgeProof :=
  ne_of_contents request.handler.stored request.proofFresh (by simp)

theorem requestStep {clock : Clock} {r r' : Registry Pubkey Hash}
    (step : RegistryStep rt clock r call returned r')
    (kind : sourceFields? rt call.ix = some f) :
    ∃ feeVault h bump, RequestStep rt r r' call.signers f returned feeVault h bump := by
  cases step with
  | @bridgeAssetSourceChain _ _ x nonce amount recipient targetMint gas h t t' bump tokenBump
      request tokenAddress distinct found =>
      obtain rfl := Option.some.inj kind
      have hproof := handler_ne_proof request
      have htoken : x.bridgeHandler ≠ x.tokenInfo := by
        intro heq
        rw [← heq, StoredOrNew, request.handler.stored] at found
        simp at found
      refine ⟨_, h, bump, request, rfl, ?_, ?_, fun b proof hb hstored => ?_⟩
      · rw [Function.update_of_ne htoken, Function.update_of_ne hproof, Function.update_self]
      · exact ⟨_, (Function.update_of_ne distinct.symm _ _).trans (Function.update_self ..)⟩
      · by_cases htoken : b = x.tokenInfo
        · rw [htoken, Function.update_self] at hstored
          cases hstored
        by_cases hhandler : b = x.bridgeHandler
        · rw [hhandler, Function.update_of_ne (hhandler ▸ htoken), Function.update_of_ne hproof,
            Function.update_self] at hstored
          cases hstored
        · rwa [Function.update_of_ne htoken, Function.update_of_ne hb,
            Function.update_of_ne hhandler] at hstored
  | @bridgeAssetSourceChainSol _ _ x nonce amount recipient h bump request =>
      obtain rfl := Option.some.inj kind
      have hproof := handler_ne_proof request
      refine ⟨_, h, bump, request, rfl, ?_, ⟨_, Function.update_self ..⟩,
        fun b proof hb hstored => ?_⟩
      · rw [Function.update_of_ne hproof, Function.update_self]
      · by_cases hhandler : b = x.bridgeHandler
        · rw [hhandler, Function.update_of_ne hproof, Function.update_self] at hstored
          cases hstored
        · rwa [Function.update_of_ne hb, Function.update_of_ne hhandler] at hstored
  | managed kind' => cases hix : call.ix <;> simp_all [managerUpdate?, sourceFields?]
  | tokenPause kind' => cases hix : call.ix <;> simp_all [tokenPause?, sourceFields?]
  | payout kind' => cases hix : call.ix <;> simp_all [payout?, sourceFields?]
  | _ => cases kind

/-- What a transition does to the requests of a handler. -/
inductive HistoryStep (rt : Runtime Pubkey Hash) (s s' : State Pubkey Hash)
    (bridgeHandler : Pubkey) : Option (Option UInt64) → Prop
  | quiet (nonce : nonceAt s' bridgeHandler = nonceAt s bridgeHandler)
      (proofs : sourceProofs rt s' bridgeHandler = sourceProofs rt s bridgeHandler) :
      HistoryStep rt s s' bridgeHandler none
  | numbered {a : Pubkey} (nonce : nonceAt s' bridgeHandler = nonceAt s bridgeHandler + 1)
      (fresh : a ∉ sourceProofs rt s bridgeHandler)
      (proofs : sourceProofs rt s' bridgeHandler =
        insert a (sourceProofs rt s bridgeHandler)) :
      HistoryStep rt s s' bridgeHandler (some (some (UInt64.ofNat (nonceAt s bridgeHandler))))

omit [DecidableEq Pubkey] in
theorem nonceAt_of_stored {h : BridgeHandler Pubkey}
    (stored : s.programData bridgeHandler = some (.bridgeHandler h)) :
    nonceAt s bridgeHandler = h.nonce.toNat := by
  rw [nonceAt, stored]

variable [DecidableEq Hash] {event : Event Pubkey Hash}

theorem sourceProofs_of_request (kind : sourceFields? rt call.ix = some f)
    (executed : execute rt s call = .ok (s', returned)) :
    f.bridgeProof ∉ sourceProofs rt s f.bridgeHandler ∧
      sourceProofs rt s' f.bridgeHandler =
        insert f.bridgeProof (sourceProofs rt s f.bridgeHandler) := by
  obtain ⟨feeVault, h, bump, hstep⟩ := requestStep (execute_refines executed).1 kind
  have request := hstep.request
  constructor
  · rintro ⟨signer, nonce, bump', proof, -, hstored⟩
    rw [request.proofFresh] at hstored
    cases hstored
  · ext b
    constructor
    · rintro ⟨signer, nonce, bump', proof, haddress, hstored⟩
      by_cases hb : b = f.bridgeProof
      · exact .inl hb
      · exact .inr ⟨signer, nonce, bump', proof, haddress, hstep.others b proof hb hstored⟩
    · rintro (rfl | ⟨signer, nonce, bump', proof, haddress, hstored⟩)
      · obtain ⟨proof, hproof⟩ := hstep.proof
        exact ⟨_, _, _, proof, request.proofAddress, hproof⟩
      · exact ⟨signer, nonce, bump', proof, haddress, sourceProof_kept (.call executed) hstored⟩

theorem historyStep_of_source (kind : sourceFields? rt call.ix = some f)
    (handler : f.bridgeHandler = bridgeHandler)
    (executed : execute rt s call = .ok (s', returned)) :
    HistoryStep rt s s' bridgeHandler (some returned) := by
  subst handler
  obtain ⟨feeVault, h, bump, hstep⟩ := requestStep (execute_refines executed).1 kind
  have hnonce := nonceAt_of_stored hstep.request.handler.stored
  have hreturned : returned = some (UInt64.ofNat (nonceAt s f.bridgeHandler)) := by
    rw [hstep.returned_eq, hnonce, UInt64.ofNat_toNat]
  rw [hreturned]
  obtain ⟨hfresh, hproofs⟩ := sourceProofs_of_request kind executed
  refine .numbered ?_ hfresh hproofs
  rw [nonceAt_of_stored hstep.handler, hnonce, UInt64.toNat_add, UInt64.toNat_one,
    Nat.mod_eq_of_lt hstep.request.room]

theorem nonceAt_of_quiet (step : LedgerStep rt s event s')
    (quiet : ∀ call returned, event = .call call returned →
      sourceHandler? call.ix ≠ some bridgeHandler) :
    nonceAt s' bridgeHandler = nonceAt s bridgeHandler := by
  rcases ledger_cell step bridgeHandler with hsame | ⟨call, returned, rfl, hwrite⟩
  · rw [nonceAt, hsame, nonceAt]
  unfold nonceAt
  generalize s.programData bridgeHandler = old at hwrite ⊢
  generalize s'.programData bridgeHandler = new at hwrite ⊢
  cases hwrite with
  | handlerChanged handler change =>
      cases change with
      | managed kind signed updated =>
          exact congrArg UInt64.toNat (managerUpdate_frame kind updated).2.1
      | numbered kind => exact absurd kind (quiet call returned rfl)
      | charged kind hhandler same =>
          obtain ⟨remained, epoch, rfl⟩ := same
          rfl
      | threshold => rfl
  | tokenRegistered _ _ unregistered => rcases unregistered with rfl | ⟨_, rfl, -⟩ <;> rfl
  | approvalsAdded _ _ _ _ found => rcases found with rfl | ⟨rfl, -⟩ <;> rfl
  | _ => rfl

theorem sourceProofs_of_quiet (collisionFree : CollisionFree rt) (step : LedgerStep rt s event s')
    (quiet : ∀ call returned, event = .call call returned →
      sourceHandler? call.ix ≠ some bridgeHandler) :
    sourceProofs rt s' bridgeHandler = sourceProofs rt s bridgeHandler := by
  ext b
  constructor
  · rintro ⟨signer, nonce, bump, proof, haddress, hstored⟩
    rcases ledger_cell step b with hsame | ⟨call, returned, rfl, hwrite⟩
    · exact ⟨signer, nonce, bump, proof, haddress, hsame ▸ hstored⟩
    rw [hstored] at hwrite
    generalize s.programData b = old at hwrite
    cases hwrite with
    | sourceProofCreated kind address =>
        obtain ⟨hseeds, -⟩ := collisionFree _ _ _ _ _ (rt.create_of_find haddress)
          (rt.create_of_find address)
        obtain ⟨rfl, -⟩ := Seeds.bridgeProofSource.inj hseeds
        exact absurd kind (quiet call returned rfl)
  · rintro ⟨signer, nonce, bump, proof, haddress, hstored⟩
    exact ⟨signer, nonce, bump, proof, haddress, sourceProof_kept step hstored⟩

theorem historyStep (collisionFree : CollisionFree rt) (step : LedgerStep rt s event s') :
    HistoryStep rt s s' bridgeHandler (requestNumber? bridgeHandler ⟨s, event, s'⟩) := by
  by_cases hquiet : ∀ call returned, event = .call call returned →
      sourceHandler? call.ix ≠ some bridgeHandler
  · have hnone : requestNumber? bridgeHandler ⟨s, event, s'⟩ = none := by
      cases event with
      | call call returned => exact if_neg (hquiet call returned rfl)
      | other => rfl
    rw [hnone]
    exact .quiet (nonceAt_of_quiet step hquiet) (sourceProofs_of_quiet collisionFree step hquiet)
  · push Not at hquiet
    obtain ⟨call, returned, rfl, kind⟩ := hquiet
    obtain ⟨f, hfields, hhandler⟩ := sourceFields_of_handler kind
    have hsome : requestNumber? bridgeHandler ⟨s, .call call returned, s'⟩ = some returned :=
      if_pos kind
    rw [hsome]
    cases step with
    | call executed => exact historyStep_of_source hfields hhandler executed

variable {s₀ : State Pubkey Hash} {trace : List (LedgerTransition Pubkey Hash)}

theorem numbers_of_run (collisionFree : CollisionFree rt) (genesis : Genesis s₀)
    (run : LedgerRun rt s₀ trace s) :
    trace.filterMap (requestNumber? bridgeHandler) =
        (List.range (nonceAt s bridgeHandler)).map (fun n => some (UInt64.ofNat n)) ∧
      (sourceProofs rt s bridgeHandler).encard = nonceAt s bridgeHandler := by
  induction run with
  | nil =>
      have hnonce : nonceAt s₀ bridgeHandler = 0 := by rw [nonceAt, genesis]
      have hproofs : sourceProofs rt s₀ bridgeHandler = ∅ := by
        refine Set.eq_empty_of_forall_notMem fun b => ?_
        rintro ⟨signer, nonce, bump, proof, -, hstored⟩
        rw [genesis] at hstored
        cases hstored
      rw [hnonce, hproofs]
      simp
  | @snoc t t' trace event run next ih =>
      obtain ⟨hnumbers, hcount⟩ := ih
      have hstep : HistoryStep rt t t' bridgeHandler _ := historyStep collisionFree next
      rw [List.filterMap_append, hnumbers, List.filterMap_cons, List.filterMap_nil]
      generalize requestNumber? bridgeHandler ⟨t, event, t'⟩ = number at hstep ⊢
      cases hstep with
      | quiet nonce proofs =>
          rw [nonce, proofs]
          exact ⟨List.append_nil _, hcount⟩
      | numbered nonce fresh proofs =>
          rw [nonce, proofs, List.range_succ, List.map_append, Set.encard_insert_of_notMem fresh,
            hcount]
          exact ⟨rfl, by push_cast; rfl⟩

omit [DecidableEq Pubkey] [DecidableEq Hash] in
/-- Two requests to a handler by one signer under one number of the caller's. -/
structure SamePair (f f' : SourceFields Pubkey) : Prop where
  bridgeHandler : f.bridgeHandler = f'.bridgeHandler
  signer : f.signer = f'.signer
  bridgeProofNonce : f.bridgeProofNonce = f'.bridgeProofNonce

/-- The ledger after a transaction. One that fails is rolled back. -/
def submit (rt : Runtime Pubkey Hash) (s : State Pubkey Hash) (call : Call Pubkey Hash) :
    State Pubkey Hash :=
  match execute rt s call with
  | .ok (s', _) => s'
  | .error _ => s

/-- After a run from `s₀` to `s` the requests to a handler have the numbers 0, 1, 2, …,
and as many accounts, one for each, which nothing changes. -/
structure GaplessHistory (rt : Runtime Pubkey Hash) (trace : List (LedgerTransition Pubkey Hash))
    (s : State Pubkey Hash) (bridgeHandler : Pubkey) : Prop where
  numbers : trace.filterMap (requestNumber? bridgeHandler) =
    (List.range (nonceAt s bridgeHandler)).map fun n => some (UInt64.ofNat n)
  counted : (sourceProofs rt s bridgeHandler).encard = nonceAt s bridgeHandler
  created : ∀ u ∈ trace, ∀ call returned f, u.label = .call call returned →
    sourceFields? rt call.ix = some f → f.bridgeHandler = bridgeHandler →
    f.bridgeProof ∉ sourceProofs rt u.pre bridgeHandler ∧
      sourceProofs rt u.post bridgeHandler =
        insert f.bridgeProof (sourceProofs rt u.pre bridgeHandler)
  kept : ∀ before u after, trace = before ++ u :: after →
    ∀ a proof, u.post.programData a = some (.bridgeProofSourceChain proof) →
      s.programData a = some (.bridgeProofSourceChain proof)
  reused : ∀ u ∈ trace, ∀ call returned f call' f', u.label = .call call returned →
    sourceFields? rt call.ix = some f → sourceFields? rt call'.ix = some f' →
    f.bridgeHandler = bridgeHandler → SamePair f f' →
    (∃ error, execute rt s call' = .error error) ∧ submit rt s call' = s

theorem sourceProof_kept_run (run : LedgerRun rt s trace s')
    {proof : BridgeProofSourceChain Pubkey Hash}
    (stored : s.programData a = some (.bridgeProofSourceChain proof)) :
    s'.programData a = some (.bridgeProofSourceChain proof) :=
  run.invariant (fun t => t.programData a = some (.bridgeProofSourceChain proof))
    (fun _ _ step => sourceProof_kept step) stored

theorem reused_fails {s₁ s₁' : State Pubkey Hash} {call' : Call Pubkey Hash}
    {f' : SourceFields Pubkey} (kind : sourceFields? rt call.ix = some f)
    (executed : execute rt s₁ call = .ok (s₁', returned)) (run : LedgerRun rt s₁' trace s)
    (kind' : sourceFields? rt call'.ix = some f') (same : SamePair f f') :
    (∃ error, execute rt s call' = .error error) ∧ submit rt s call' = s := by
  obtain ⟨feeVault, h, bump, hstep⟩ := requestStep (execute_refines executed).1 kind
  obtain ⟨proof, hproof⟩ := hstep.proof
  have hstored := sourceProof_kept_run run hproof
  cases hexecute : execute rt s call' with
  | error error => exact ⟨⟨error, rfl⟩, by rw [submit, hexecute]⟩
  | ok result =>
      obtain ⟨s', returned'⟩ := result
      obtain ⟨feeVault', h', bump', hstep'⟩ := requestStep (execute_refines hexecute).1 kind'
      have haddress := hstep'.request.proofAddress
      rw [← same.bridgeHandler, ← same.signer, ← same.bridgeProofNonce,
        hstep.request.proofAddress] at haddress
      have hfresh := hstep'.request.proofFresh
      rw [← (Prod.mk.inj haddress).1, hstored] at hfresh
      cases hfresh

/-- The requests to a handler are numbered without gaps and their proofs are only ever
added. -/
theorem source_history_append_only (collisionFree : CollisionFree rt) (genesis : Genesis s₀)
    (run : LedgerRun rt s₀ trace s) (bridgeHandler : Pubkey) :
    GaplessHistory rt trace s bridgeHandler where
  numbers := (numbers_of_run collisionFree genesis run).1
  counted := (numbers_of_run collisionFree genesis run).2
  created u hu call returned f hlabel kind hhandler := by
    have step := run.step_of_mem hu
    rw [hlabel] at step
    subst hhandler
    cases step with
    | call executed => exact sourceProofs_of_request kind executed
  kept before u after htrace a proof stored := by
    subst htrace
    exact sourceProof_kept_run run.split_at.2.2 stored
  reused u hu call returned f call' f' hlabel kind kind' _ same := by
    obtain ⟨before, after, rfl⟩ := List.append_of_mem hu
    obtain ⟨-, step, hafter⟩ := run.split_at
    rw [hlabel] at step
    cases step with
    | call executed => exact reused_fails kind executed hafter kind' same

/-- A token call of one key and a SOL call of another. -/
def twoRequests : List (Call Key Digest) :=
  paidTokens ++ [sampleSourceCall 0,
    bridgeSolBy (.atom 6) (handlerKey 7) (.atom 5) 0 10000000 (.atom 20)]

theorem source_history_append_only_sample :
    let rt := symbolicRuntime true
    let trace := callTrace rt sampleLedger twoRequests
    trace.filterMap (requestNumber? (handlerKey 7)) = [some 0, some 1] ∧
      GaplessHistory rt trace (stateAfter rt sampleLedger twoRequests) (handlerKey 7) := by
  intro rt trace
  have hok : (executeAll rt sampleLedger twoRequests).isOk = true := by decide +kernel
  exact ⟨by decide +kernel, source_history_append_only (symbolicRuntime_collisionFree true)
    (genesis_ledgerOf _) (run_callTrace hok) (handlerKey 7)⟩

end BridgeProgram.SourceHistory
