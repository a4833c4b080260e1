import BridgeProgram.ApprovalSoundness
import BridgeProgram.ReplayProtection

namespace BridgeProgram.DomainSeparation

open BridgeProgram.ApprovalSoundness
open BridgeProgram.BridgeProgramEntry
open BridgeProgram.LedgerInvariants
open BridgeProgram.ProgramStates
open BridgeProgram.RegistryCells
open BridgeProgram.RegistryModel
open BridgeProgram.RegistryRefinement
open BridgeProgram.ReplayProtection
open BridgeProgram.SolanaRuntime
open BridgeProgram.SymbolicRuntime
open BridgeProgram.TransitionRuns

variable {Pubkey Hash : Type}

/-- The event is a `verify_signature`, a payout, or no call of the program. -/
def ApprovesOrPays (event : Event Pubkey Hash) : Prop :=
  ∀ call returned, event = .call call returned →
    (∃ a msgHash signerIndexes, call.ix = .verifySignature a msgHash signerIndexes) ∨
      ∃ p, payout? call.ix = some p

/-- A handler and its guardian list. -/
structure GuardedHandler (rt : Runtime Pubkey Hash) (s : State Pubkey Hash)
    (bridgeHandler : Pubkey) (threshold : UInt8) (guardians : List Pubkey) : Prop where
  handler : ∃ h, HandlerAt rt s.programData bridgeHandler h ∧
    h.guardianThreshold = threshold
  guardians : ∃ a g, GuardiansAt rt s.programData bridgeHandler a g ∧
    g.guardians = guardians

variable [DecidableEq Pubkey] [DecidableEq Hash]

/-- The key signed the message hash, and a handler accepted the signature. -/
def SignsFor (bridgeHandler : Pubkey) (msgHash : Hash)
    (trace : List (LedgerTransition Pubkey Hash)) (k : Pubkey) : Prop :=
  ∃ t ∈ trace, k ∈ acceptedKeys bridgeHandler msgHash t

variable {rt rt₁ rt₂ : Runtime Pubkey Hash} {s s' s₁ s₁' s₂ s₂' : State Pubkey Hash}
  {event : Event Pubkey Hash} {bridgeHandler : Pubkey} {msgHash : Hash}
  {threshold threshold₁ threshold₂ : UInt8} {guardians guardians₁ guardians₂ : List Pubkey}
  {trace trace₁ trace₂ : List (LedgerTransition Pubkey Hash)}

omit [DecidableEq Hash] in
theorem sameButCap_of_approvesOrPays {call : Call Pubkey Hash} {returned : Option UInt64}
    (kind : ApprovesOrPays (.call call returned)) {r : Registry Pubkey Hash}
    {h h' : BridgeHandler Pubkey}
    (change : HandlerChange rt r call returned bridgeHandler h h') : SameButCap h h' := by
  have hupdate : managerUpdate? call.ix = none ∧ sourceHandler? call.ix = none := by
    rcases kind call returned rfl with ⟨a, hash, indexes, hix⟩ | ⟨p, hp⟩
    · rw [hix]
      exact ⟨rfl, rfl⟩
    · refine ⟨managerUpdate_ne_payout hp, ?_⟩
      cases hix : call.ix <;> simp [hix, payout?] at hp <;> rfl
  cases change with
  | managed kind' => simp [hupdate.1] at kind'
  | numbered kind' => simp [hupdate.2] at kind'
  | charged _ _ same => exact same
  | threshold ix =>
      rcases kind call returned rfl with ⟨a, hash, indexes, hix⟩ | ⟨p, hp⟩
      · cases hix.symm.trans ix
      · simp [ix, payout?] at hp

omit [DecidableEq Hash] in
theorem not_guardiansChange_of_approvesOrPays {call : Call Pubkey Hash}
    {returned : Option UInt64} (kind : ApprovesOrPays (.call call returned))
    {r : Registry Pubkey Hash} {a : Pubkey} {g g' : GuardianInfo Pubkey} :
    ¬ GuardiansChange rt r call a g g' := by
  intro change
  rcases kind call returned rfl with ⟨x, hash, indexes, hix⟩ | ⟨p, hp⟩
  · cases change with
    | added ix => cases hix.symm.trans ix
    | removed ix => cases hix.symm.trans ix
  · cases change with
    | added ix => simp [ix, payout?] at hp
    | removed ix => simp [ix, payout?] at hp

theorem guardedHandler_step (step : LedgerStep rt s event s') (kind : ApprovesOrPays event)
    (guarded : GuardedHandler rt s bridgeHandler threshold guardians) :
    GuardedHandler rt s' bridgeHandler threshold guardians := by
  obtain ⟨⟨h, handler, hthreshold⟩, a, g, hg, hguardians⟩ := guarded
  constructor
  · obtain ⟨h', hstored, hchange⟩ := handler_kept step handler.stored
    have hcap : SameButCap h h' := by
      rcases hchange with rfl | ⟨call, returned, rfl, change⟩
      · exact .refl h'
      · exact sameButCap_of_approvesOrPays kind change
    refine ⟨h', ⟨hstored, ?_⟩, hcap.guardianThreshold.trans hthreshold⟩
    obtain ⟨remained, epoch, rfl⟩ := hcap
    exact handler.address
  · obtain ⟨g', hstored, hchange⟩ := guardians_kept step hg.stored
    rcases hchange with rfl | ⟨call, returned, rfl, change⟩
    · exact ⟨a, g', ⟨hstored, hg.address⟩, hguardians⟩
    · exact (not_guardiansChange_of_approvesOrPays kind change).elim

theorem guardedHandler_run (run : LedgerRun rt s trace s')
    (kinds : ∀ t ∈ trace, ApprovesOrPays t.label)
    (guarded : GuardedHandler rt s bridgeHandler threshold guardians) :
    GuardedHandler rt s' bridgeHandler threshold guardians :=
  run.invariant (fun s => GuardedHandler rt s bridgeHandler threshold guardians)
    (fun t ht step => guardedHandler_step step (kinds t ht)) guarded

theorem mem_guardians_of_acceptedKeys (collisionFree : CollisionFree rt)
    (reachable : LedgerReachable rt s) (step : LedgerStep rt s event s')
    (guarded : GuardedHandler rt s bridgeHandler threshold guardians) {k : Pubkey}
    (accepted : k ∈ acceptedKeys bridgeHandler msgHash ⟨s, event, s'⟩) : k ∈ guardians := by
  cases step with
  | other => simp [acceptedKeys] at accepted
  | @call _ call returned executed =>
      cases hix : call.ix with
      | verifySignature x hash signerIndexes =>
          by_cases hcall : x.bridgeHandler = bridgeHandler ∧ hash = msgHash
          · obtain ⟨rfl, rfl⟩ := hcall
            obtain ⟨-, g', -, -, -, -, hg', -⟩ :=
              (execute_refines executed).1.of_verifySignature hix
            rw [acceptedKeys_verifySignature hix hg'.stored] at accepted
            obtain ⟨i, -, hi⟩ := List.mem_filterMap.mp accepted
            obtain ⟨a, g, hg, rfl⟩ := guarded.guardians
            obtain ⟨-, rfl⟩ := guardiansAt_unique collisionFree
              (canonical_of_reachable reachable) hg hg'
            exact List.mem_of_getElem? hi
          · simp [acceptedKeys, hix, hcall] at accepted
      | _ => simp [acceptedKeys, hix] at accepted

theorem mem_guardians_of_signsFor (collisionFree : CollisionFree rt)
    (reachable : LedgerReachable rt s) (run : LedgerRun rt s trace s')
    (kinds : ∀ t ∈ trace, ApprovesOrPays t.label)
    (guarded : GuardedHandler rt s bridgeHandler threshold guardians) {k : Pubkey}
    (signs : SignsFor bridgeHandler msgHash trace k) : k ∈ guardians := by
  obtain ⟨t, ht, accepted⟩ := signs
  obtain ⟨before, after, rfl⟩ := List.append_of_mem ht
  obtain ⟨hbefore, hstep, -⟩ := run.split_at
  exact mem_guardians_of_acceptedKeys collisionFree (reachable.run hbefore) hstep
    (guardedHandler_run hbefore (fun u hu => kinds u (List.mem_append_left _ hu)) guarded)
    accepted

/-- A payout has the signatures of `threshold` guardians of its handler over its
message hash, accepted by that handler in the same run. -/
theorem signers_of_payout (collisionFree : CollisionFree rt) (reachable : LedgerReachable rt s)
    (guarded : GuardedHandler rt s bridgeHandler threshold guardians)
    (fresh : ∀ b v, ¬ ApprovalsAt rt s.programData bridgeHandler msgHash b v)
    (run : LedgerRun rt s trace s') (kinds : ∀ t ∈ trace, ApprovesOrPays t.label)
    {t : LedgerTransition Pubkey Hash} (ht : t ∈ trace) {p : PayoutCall Pubkey Hash}
    (pays : Pays p t.label) (hhandler : p.bridgeHandler = bridgeHandler)
    (hmessage : p.msgHash = msgHash) :
    ∃ keys : List Pubkey, keys.Nodup ∧ threshold.toNat ≤ keys.length ∧
      ∀ k ∈ keys, k ∈ guardians ∧ SignsFor bridgeHandler msgHash trace k := by
  subst hhandler hmessage
  obtain ⟨before, after, rfl⟩ := List.append_of_mem ht
  obtain ⟨hbefore, hstep, -⟩ := run.split_at
  have hkinds : ∀ u ∈ before, ApprovesOrPays u.label :=
    fun u hu => kinds u (List.mem_append_left _ hu)
  -- no guardian is removed at all
  have hremoves : ∀ u ∈ before, RemovesBehindApprovals rt p.bridgeHandler p.msgHash u := by
    intro u hu call returned x hlabel hix
    rcases hkinds u hu call returned hlabel with ⟨a, hash, indexes, hix'⟩ | ⟨q, hq⟩
    · cases hix.symm.trans hix'
    · simp [hix, payout?] at hq
  have hreachable := reachable.run hbefore
  have henough := enoughApprovals_of_backed collisionFree hreachable hstep pays
    (approvalsBacked_run collisionFree reachable (approvalsBacked_of_none fresh) hbefore
      hremoves)
  obtain ⟨⟨h, handler, rfl⟩, a, g, hg, rfl⟩ := guardedHandler_run hbefore hkinds guarded
  obtain ⟨keys, hnodup, hlength, hkeys⟩ := henough h a g handler hg
  refine ⟨keys, hnodup, hlength, fun k hk => ?_⟩
  obtain ⟨hmem, u, hu, haccepted⟩ := hkeys k hk
  exact ⟨hmem, u, List.mem_append_left _ hu, haccepted⟩

/-- When no signatures are submitted to the second handler that the first one did
not accept, a payout of the second handler has the signatures of `threshold₂` keys
that are guardians of both, and each handler pays its source transaction once. -/
theorem second_handler_needs_its_own_threshold (collisionFree₁ : CollisionFree rt₁)
    (collisionFree₂ : CollisionFree rt₂) (reachable₁ : LedgerReachable rt₁ s₁)
    (reachable₂ : LedgerReachable rt₂ s₂) {handler₁ handler₂ : Pubkey}
    (guarded₁ : GuardedHandler rt₁ s₁ handler₁ threshold₁ guardians₁)
    (guarded₂ : GuardedHandler rt₂ s₂ handler₂ threshold₂ guardians₂)
    (fresh : ∀ b v, ¬ ApprovalsAt rt₂ s₂.programData handler₂ msgHash b v)
    (run₁ : LedgerRun rt₁ s₁ trace₁ s₁') (run₂ : LedgerRun rt₂ s₂ trace₂ s₂')
    (kinds₁ : ∀ t ∈ trace₁, ApprovesOrPays t.label)
    (kinds₂ : ∀ t ∈ trace₂, ApprovesOrPays t.label)
    (reused : ∀ k, SignsFor handler₂ msgHash trace₂ k → SignsFor handler₁ msgHash trace₁ k)
    {t : LedgerTransition Pubkey Hash} (ht : t ∈ trace₂) {p : PayoutCall Pubkey Hash}
    (pays : Pays p t.label) (handler : p.bridgeHandler = handler₂)
    (message : p.msgHash = msgHash) :
    (∃ keys : List Pubkey, keys.Nodup ∧ threshold₂.toNat ≤ keys.length ∧
      ∀ k ∈ keys, k ∈ guardians₁ ∧ k ∈ guardians₂ ∧ SignsFor handler₁ msgHash trace₁ k) ∧
    trace₁.countP (fun t => paysOut handler₁ p.sourceTxId t.label) ≤ 1 ∧
    trace₂.countP (fun t => paysOut handler₂ p.sourceTxId t.label) ≤ 1 := by
  obtain ⟨keys, hnodup, hlength, hkeys⟩ := signers_of_payout collisionFree₂ reachable₂
    guarded₂ fresh run₂ kinds₂ ht pays handler message
  refine ⟨⟨keys, hnodup, hlength, fun k hk => ?_⟩, (count_payouts run₁).1,
    (count_payouts run₂).1⟩
  obtain ⟨hguardian, hsigns⟩ := hkeys k hk
  have hsigns₁ := reused k hsigns
  exact ⟨mem_guardians_of_signsFor collisionFree₁ reachable₁ run₁ kinds₁ guarded₁ hsigns₁,
    hguardian, hsigns₁⟩

/-- Two handlers with different operators and the same guardian. -/
def twoHandlers : List (Call Key Digest) :=
  [ initializeBy (.atom 5) 7 2 (.atom 5) (.atom 6),
    addGuardianBy (.atom 5) (handlerKey 7) (.atom 11),
    updateThresholdBy (.atom 5) (handlerKey 7) 1,
    initializeBy (.atom 5) 8 2 (.atom 5) (.atom 5),
    addGuardianBy (.atom 5) (handlerKey 8) (.atom 11),
    updateThresholdBy (.atom 5) (handlerKey 8) 1 ]

def twoHandlersState : State Key Digest :=
  stateAfter (symbolicRuntime true) sampleLedger twoHandlers

/-- The guardian's signature is submitted to both handlers, and both pay. -/
def sharedSignature : List (Call Key Digest) :=
  [ verifyBy (.atom 6) (handlerKey 7) sampleTransfer.msgHash [0] [.atom 11],
    verifyBy (.atom 5) (handlerKey 8) sampleTransfer.msgHash [0] [.atom 11],
    paySolBy (.atom 6) (handlerKey 7) sampleTransfer,
    paySolBy (.atom 5) (handlerKey 8) sampleTransfer ]

theorem twoHandlers_isOk :
    (executeAll (symbolicRuntime true) sampleLedger twoHandlers).isOk = true := by
  decide +kernel

theorem sharedSignature_isOk :
    (executeAll (symbolicRuntime true) twoHandlersState sharedSignature).isOk = true := by
  decide +kernel

theorem twoHandlersState_reachable :
    LedgerReachable (symbolicRuntime true) twoHandlersState :=
  ⟨sampleLedger, _, genesis_ledgerOf _, run_callTrace twoHandlers_isOk⟩

theorem twoHandlersState_guarded {bridgeHandler : Key}
    (h : bridgeHandler ∈ [handlerKey 7, handlerKey 8]) :
    GuardedHandler (symbolicRuntime true) twoHandlersState bridgeHandler 1 [.atom 11] := by
  have hboth : ∀ a ∈ [handlerKey 7, handlerKey 8],
      checkHandler twoHandlersState a (fun x => x.guardianThreshold = 1) = true ∧
        checkGuardians twoHandlersState a (fun g => g.guardians = [.atom 11]) = true := by
    decide +kernel
  obtain ⟨hhandler, hguardians⟩ := hboth bridgeHandler h
  obtain ⟨x, handler, hx⟩ := exists_handlerAt true _ _ _ hhandler
  obtain ⟨g, guardians, hg⟩ := exists_guardiansAt true _ _ _ hguardians
  exact ⟨⟨x, handler, of_decide_eq_true hx⟩, _, g, guardians, of_decide_eq_true hg⟩

theorem twoHandlersState_fresh (bridgeHandler : Key) (msgHash : Digest) (b : Key)
    (v : VerifiedSignatures) :
    ¬ ApprovalsAt (symbolicRuntime true) twoHandlersState.programData bridgeHandler msgHash
      b v := by
  intro approvals
  have hwritten := mem_writtenAccounts_of_stored (genesis_ledgerOf _) twoHandlers_isOk
    approvals.stored
  obtain rfl := Option.some.inj approvals.address
  simp [twoHandlers, initializeBy, addGuardianBy, updateThresholdBy, callBy, writtenAccounts,
    handlerKey, guardiansKey, symbolicAddress, encodeSeeds] at hwritten

theorem sharedSignature_kinds :
    ∀ t ∈ callTrace (symbolicRuntime true) twoHandlersState sharedSignature,
      ApprovesOrPays t.label := by
  intro t ht call returned hlabel
  obtain ⟨call', hcall, returned', hlabel'⟩ := exists_call_of_mem sharedSignature_isOk ht
  obtain ⟨rfl, -⟩ := Event.call.inj (hlabel.symm.trans hlabel')
  simp only [sharedSignature, List.mem_cons, List.not_mem_nil, or_false] at hcall
  rcases hcall with rfl | rfl | rfl | rfl
  · exact .inl ⟨_, _, _, rfl⟩
  · exact .inl ⟨_, _, _, rfl⟩
  · exact .inr ⟨_, rfl⟩
  · exact .inr ⟨_, rfl⟩

theorem sharedSignature_reused (k : Key)
    (signs : SignsFor (handlerKey 8) sampleTransfer.msgHash
      (callTrace (symbolicRuntime true) twoHandlersState sharedSignature) k) :
    SignsFor (handlerKey 7) sampleTransfer.msgHash
      (callTrace (symbolicRuntime true) twoHandlersState sharedSignature) k := by
  have hreused : ∀ t ∈ callTrace (symbolicRuntime true) twoHandlersState sharedSignature,
      ∀ k ∈ acceptedKeys (handlerKey 8) sampleTransfer.msgHash t,
        ∃ u ∈ callTrace (symbolicRuntime true) twoHandlersState sharedSignature,
          k ∈ acceptedKeys (handlerKey 7) sampleTransfer.msgHash u := by
    decide +kernel
  obtain ⟨t, ht, hk⟩ := signs
  exact hreused t ht k hk

theorem sharedSignature_pays (operator bridgeHandler : Key)
    (h : paySolBy operator bridgeHandler sampleTransfer ∈ sharedSignature) :
    ∃ t ∈ callTrace (symbolicRuntime true) twoHandlersState sharedSignature,
      ∃ p, Pays p t.label ∧ p.bridgeHandler = bridgeHandler ∧
        p.msgHash = sampleTransfer.msgHash ∧ p.sourceTxId = sampleTransfer.sourceTxId := by
  obtain ⟨t, ht, returned, hlabel⟩ := exists_transition_of_mem sharedSignature_isOk h
  exact ⟨t, ht, _, ⟨_, returned, hlabel, rfl⟩, rfl, rfl, rfl⟩

theorem second_handler_needs_its_own_threshold_sample :
    (∃ keys : List Key, keys.Nodup ∧ 1 ≤ keys.length ∧
      ∀ k ∈ keys, k ∈ [Key.atom 11] ∧ k ∈ [Key.atom 11] ∧
        SignsFor (handlerKey 7) sampleTransfer.msgHash
          (callTrace (symbolicRuntime true) twoHandlersState sharedSignature) k) ∧
    (callTrace (symbolicRuntime true) twoHandlersState sharedSignature).countP
      (fun t => paysOut (handlerKey 7) sampleTransfer.sourceTxId t.label) ≤ 1 ∧
    (callTrace (symbolicRuntime true) twoHandlersState sharedSignature).countP
      (fun t => paysOut (handlerKey 8) sampleTransfer.sourceTxId t.label) ≤ 1 := by
  obtain ⟨t, ht, p, pays, hhandler, hmessage, hsource⟩ :=
    sharedSignature_pays (.atom 5) (handlerKey 8) (by simp [sharedSignature])
  rw [← hsource]
  exact second_handler_needs_its_own_threshold (symbolicRuntime_collisionFree true)
    (symbolicRuntime_collisionFree true) twoHandlersState_reachable twoHandlersState_reachable
    (twoHandlersState_guarded (List.mem_cons_self ..))
    (twoHandlersState_guarded (List.mem_cons_of_mem _ (List.mem_singleton_self _)))
    (twoHandlersState_fresh _ _) (run_callTrace sharedSignature_isOk)
    (run_callTrace sharedSignature_isOk) sharedSignature_kinds sharedSignature_kinds
    sharedSignature_reused ht pays hhandler hmessage

/-- One signature, submitted to two handlers of one ledger, is paid out twice. -/
theorem one_signature_pays_twice :
    ¬ ∀ s, LedgerReachable (symbolicRuntime true) s →
      ∀ handler₁ handler₂, handler₁ ≠ handler₂ → ∀ threshold₁ threshold₂ guardians₁ guardians₂,
      GuardedHandler (symbolicRuntime true) s handler₁ threshold₁ guardians₁ →
      GuardedHandler (symbolicRuntime true) s handler₂ threshold₂ guardians₂ →
      ∀ msgHash,
      (∀ b v, ¬ ApprovalsAt (symbolicRuntime true) s.programData handler₁ msgHash b v) →
      (∀ b v, ¬ ApprovalsAt (symbolicRuntime true) s.programData handler₂ msgHash b v) →
      ∀ trace s', LedgerRun (symbolicRuntime true) s trace s' →
        (∀ t ∈ trace, ApprovesOrPays t.label) →
        (∀ k, SignsFor handler₂ msgHash trace k → SignsFor handler₁ msgHash trace k) →
        ∀ t ∈ trace, ∀ p, Pays p t.label → p.bridgeHandler = handler₁ → p.msgHash = msgHash →
          ∀ u ∈ trace, ∀ q, Pays q u.label → q.bridgeHandler = handler₂ →
            q.msgHash ≠ msgHash := by
  intro h
  obtain ⟨t, ht, p, paysFirst, hp, hpMessage, -⟩ :=
    sharedSignature_pays (.atom 6) (handlerKey 7) (by simp [sharedSignature])
  obtain ⟨u, hu, q, paysSecond, hq, hqMessage, -⟩ :=
    sharedSignature_pays (.atom 5) (handlerKey 8) (by simp [sharedSignature])
  exact h _ twoHandlersState_reachable (handlerKey 7) (handlerKey 8) (by decide) 1 1
    [.atom 11] [.atom 11] (twoHandlersState_guarded (List.mem_cons_self ..))
    (twoHandlersState_guarded (List.mem_cons_of_mem _ (List.mem_singleton_self _)))
    sampleTransfer.msgHash (twoHandlersState_fresh _ _) (twoHandlersState_fresh _ _) _ _
    (run_callTrace sharedSignature_isOk) sharedSignature_kinds sharedSignature_reused t ht p
    paysFirst hp hpMessage u hu q paysSecond hq hqMessage

end BridgeProgram.DomainSeparation
