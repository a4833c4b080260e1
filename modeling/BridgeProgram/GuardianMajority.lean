import BridgeProgram.LedgerInvariants
import BridgeProgram.SymbolicRuntime

namespace BridgeProgram.GuardianMajority

open BridgeProgram.AccountEffects
open BridgeProgram.BridgeProgramEntry
open BridgeProgram.LedgerInvariants
open BridgeProgram.ProgramStates
open BridgeProgram.RegistryCells
open BridgeProgram.RegistryModel
open BridgeProgram.RegistryRefinement
open BridgeProgram.SolanaRuntime
open BridgeProgram.SymbolicRuntime
open BridgeProgram.TransitionRuns

variable {Pubkey Hash : Type}

/-- The threshold of a handler is a strict majority of its guardians. -/
def MajorityAt (rt : Runtime Pubkey Hash) (s : State Pubkey Hash) (bridgeHandler : Pubkey) :
    Prop :=
  ∀ h a g, HandlerAt rt s.programData bridgeHandler h →
    GuardiansAt rt s.programData bridgeHandler a g →
    g.guardians.length < 2 * h.guardianThreshold.toNat

/-- The threshold of a handler is a strict majority of one guardian more. -/
def RoomForGuardian (rt : Runtime Pubkey Hash) (s : State Pubkey Hash)
    (bridgeHandler : Pubkey) : Prop :=
  ∀ h a g, HandlerAt rt s.programData bridgeHandler h →
    GuardiansAt rt s.programData bridgeHandler a g →
    g.guardians.length + 1 < 2 * h.guardianThreshold.toNat

/-- A successful `update_guardian_threshold` of a handler. -/
def UpdatesThreshold (bridgeHandler : Pubkey) (event : Event Pubkey Hash) : Prop :=
  ∃ call returned u n, event = .call call returned ∧
    call.ix = .updateGuardianThreshold u n ∧ u.bridgeHandler = bridgeHandler

/-- A successful `add_guardian` of a handler. -/
def AddsGuardian (bridgeHandler : Pubkey) (event : Event Pubkey Hash) : Prop :=
  ∃ call returned x, event = .call call returned ∧
    call.ix = .addGuardian x ∧ x.bridgeHandler = bridgeHandler

variable [DecidableEq Pubkey] [DecidableEq Hash] {rt : Runtime Pubkey Hash}
  {s s' : State Pubkey Hash} {event : Event Pubkey Hash} {bridgeHandler : Pubkey}

omit [DecidableEq Pubkey] [DecidableEq Hash] in
theorem majority_of_checked {g : GuardianInfo Pubkey} {threshold : UInt8}
    (fits : g.guardians.length ≤ maxGuardianCount)
    (h : UInt8.ofNat g.guardians.length / 2 + 1 ≤ threshold) :
    g.guardians.length < 2 * threshold.toNat := by
  have hle := UInt8.le_iff_toNat_le.mp h
  simp only [UInt8.toNat_add, UInt8.toNat_div, UInt8.toNat_ofNat', maxGuardianCount] at hle fits
  simp at hle
  omega

/-- How a step changes the threshold of a handler together with its guardian list. -/
inductive GuardianSetStep (bridgeHandler : Pubkey) (event : Event Pubkey Hash)
    (h h' : BridgeHandler Pubkey) (g g' : GuardianInfo Pubkey) : Prop
  | same (threshold : h'.guardianThreshold = h.guardianThreshold) (list : g' = g)
  | added (adds : AddsGuardian bridgeHandler event)
      (threshold : h'.guardianThreshold = h.guardianThreshold)
      (length : g'.guardians.length = g.guardians.length + 1)
  | removed (threshold : h'.guardianThreshold = h.guardianThreshold)
      (length : g'.guardians.length ≤ g.guardians.length)
      (enough : h.guardianThreshold.toNat ≤ g'.guardians.length)
  | updated (list : g' = g) (checked : ThresholdChecked g' h'.guardianThreshold)

theorem guardianSet_step (collisionFree : CollisionFree rt) (reachable : LedgerReachable rt s)
    (step : LedgerStep rt s event s') {h h' : BridgeHandler Pubkey}
    (handler : HandlerAt rt s.programData bridgeHandler h)
    (handler' : HandlerAt rt s'.programData bridgeHandler h') {a : Pubkey}
    {g' : GuardianInfo Pubkey} (guardians' : GuardiansAt rt s'.programData bridgeHandler a g') :
    ∃ g, GuardiansAt rt s.programData bridgeHandler a g ∧
      GuardianSetStep bridgeHandler event h h' g g' := by
  obtain ⟨h'', hstored, hchange⟩ := handler_kept step handler.stored
  obtain rfl : h'' = h' := by simpa using hstored.symm.trans handler'.stored
  obtain ⟨g, guardians, hgchange⟩ := guardiansAt_before collisionFree step handler guardians'
  refine ⟨g, guardians, ?_⟩
  have hkept : h''.guardianThreshold = h.guardianThreshold →
      GuardianSetStep bridgeHandler event h h'' g g' := by
    intro hthreshold
    rcases hgchange with hlist | ⟨call, returned, rfl, change⟩
    · exact .same hthreshold hlist
    · cases change with
      | @added x _ _ ix account managed absent fits =>
          have howner := guardiansAt_owner collisionFree managed.guardians guardians
          exact .added ⟨call, returned, x, rfl, ix, howner⟩ hthreshold (by simp)
      | @removed x _ _ ix account managed present enough =>
          obtain rfl := guardiansAt_owner collisionFree managed.guardians guardians
          obtain rfl := handler.unique managed.handler
          exact .removed hthreshold (List.length_filter_le _ _) enough
  rcases hchange with rfl | ⟨call, returned, rfl, change⟩
  · exact hkept rfl
  · cases change with
    | @threshold u n _ g₂ ix account managed range checked attainable =>
        obtain ⟨rfl, rfl⟩ := guardiansAt_unique collisionFree (canonical_of_reachable reachable)
          guardians managed.guardians
        -- the call changes no guardian list
        have hlist : g' = g := by
          rcases hgchange with hlist | ⟨call', returned', heq, change⟩
          · exact hlist
          · obtain ⟨rfl, -⟩ := Event.call.inj heq
            cases change with
            | added ix' => simp [ix] at ix'
            | removed ix' => simp [ix] at ix'
        obtain rfl := hlist
        exact .updated rfl ⟨range, checked, attainable⟩
    | managed kind signed updated => exact hkept (managerUpdate_frame kind updated).2.2
    | numbered => exact hkept rfl
    | charged kind account same => exact hkept same.guardianThreshold

/-- One step keeps the majority of an existing handler, unless it adds a
guardian for which the threshold has no room. -/
theorem majorityAt_step (collisionFree : CollisionFree rt) (reachable : LedgerReachable rt s)
    (step : LedgerStep rt s event s') {h : BridgeHandler Pubkey}
    (handler : HandlerAt rt s.programData bridgeHandler h)
    (majority : MajorityAt rt s bridgeHandler)
    (room : AddsGuardian bridgeHandler event → RoomForGuardian rt s bridgeHandler) :
    MajorityAt rt s' bridgeHandler := by
  intro h' a g' handler' guardians'
  obtain ⟨g, guardians, change⟩ :=
    guardianSet_step collisionFree reachable step handler handler' guardians'
  have hmajority := majority h a g handler guardians
  cases change with
  | same threshold list =>
      rw [threshold, list]
      exact hmajority
  | added adds threshold length =>
      rw [threshold, length]
      exact room adds h a g handler guardians
  | removed threshold length enough =>
      rw [threshold]
      exact length.trans_lt hmajority
  | updated list checked =>
      subst list
      exact majority_of_checked
        (guardianListsValid_of_reachable reachable _ _ guardians.stored).2 checked.majority

theorem checked_of_update (collisionFree : CollisionFree rt)
    (reachable : LedgerReachable rt s) (step : LedgerStep rt s event s')
    (updates : UpdatesThreshold bridgeHandler event) :
    (∃ h, HandlerAt rt s'.programData bridgeHandler h) ∧
      ∀ h a g, HandlerAt rt s'.programData bridgeHandler h →
        GuardiansAt rt s'.programData bridgeHandler a g →
        GuardiansAt rt s.programData bridgeHandler a g ∧
          ThresholdChecked g h.guardianThreshold := by
  obtain ⟨call, returned, u, n, rfl, ix, rfl⟩ := updates
  have hregistry : RegistryStep rt s.clock s.programData call returned s'.programData := by
    cases step with
    | call executed => exact (execute_refines executed).1
  obtain ⟨h, g, managed, checked, hpost⟩ := hregistry.of_updateGuardianThreshold ix
  obtain ⟨h', handler', -⟩ := handlerAt_kept step managed.handler
  refine ⟨⟨h', handler'⟩, ?_⟩
  intro h'' a g' handler'' guardians'
  have hthreshold : h''.guardianThreshold = n := by
    have hstored := handler''.stored
    rw [hpost, Function.update_self] at hstored
    obtain rfl := ProgramData.bridgeHandler.inj (Option.some.inj hstored)
    rfl
  have hne : a ≠ u.bridgeHandler := by
    rintro rfl
    have := handler''.stored.symm.trans guardians'.stored
    cases this
  have guardians : GuardiansAt rt s.programData u.bridgeHandler a g' :=
    ⟨by rw [← guardians'.stored, hpost, Function.update_of_ne hne], guardians'.address⟩
  obtain ⟨rfl, rfl⟩ := guardiansAt_unique collisionFree (canonical_of_reachable reachable)
    managed.guardians guardians
  rw [hthreshold]
  exact ⟨guardians, checked⟩

theorem majorityAt_of_update (collisionFree : CollisionFree rt)
    (reachable : LedgerReachable rt s) (step : LedgerStep rt s event s')
    (updates : UpdatesThreshold bridgeHandler event) :
    (∃ h, HandlerAt rt s'.programData bridgeHandler h) ∧ MajorityAt rt s' bridgeHandler := by
  obtain ⟨hexists, hchecked⟩ := checked_of_update collisionFree reachable step updates
  refine ⟨hexists, fun h a g handler guardians' => ?_⟩
  obtain ⟨guardians, checked⟩ := hchecked h a g handler guardians'
  exact majority_of_checked
    (guardianListsValid_of_reachable reachable _ _ guardians.stored).2 checked.majority

theorem room_of_majorityAt (collisionFree : CollisionFree rt)
    (reachable : LedgerReachable rt s) (step : LedgerStep rt s event s')
    (adds : AddsGuardian bridgeHandler event) (majority : MajorityAt rt s' bridgeHandler) :
    RoomForGuardian rt s bridgeHandler := by
  obtain ⟨call, returned, x, rfl, ix, rfl⟩ := adds
  have hregistry : RegistryStep rt s.clock s.programData call returned s'.programData := by
    cases step with
    | call executed => exact (execute_refines executed).1
  obtain ⟨h, g, managed, hpost⟩ := hregistry.of_addGuardian ix
  intro h' a g' hhandler' hguardians'
  obtain rfl : h' = h := hhandler'.unique managed.handler
  obtain ⟨rfl, rfl⟩ := guardiansAt_unique collisionFree (canonical_of_reachable reachable)
    managed.guardians hguardians'
  have hne : x.bridgeHandler ≠ x.guardianInfo :=
    ne_of_contents hhandler'.stored managed.guardians.stored (by simp)
  have hhandler : HandlerAt rt s'.programData x.bridgeHandler h' :=
    ⟨by rw [hpost, Function.update_of_ne hne, hhandler'.stored], hhandler'.address⟩
  have hguardians : GuardiansAt rt s'.programData x.bridgeHandler x.guardianInfo
      { g with guardians := g.guardians ++ [x.guardian] } :=
    ⟨by rw [hpost, Function.update_self], hguardians'.address⟩
  simpa using majority h' _ _ hhandler hguardians

/-- After a successful `update_guardian_threshold` from a reachable state, the
threshold is a strict majority in every state of a run exactly when every
successful `add_guardian` of the run leaves room for the new guardian. -/
theorem majority_kept_iff_room (collisionFree : CollisionFree rt)
    (reachable : LedgerReachable rt s) (step : LedgerStep rt s event s')
    (updates : UpdatesThreshold bridgeHandler event) {s'' : State Pubkey Hash}
    {trace : List (LedgerTransition Pubkey Hash)} (run : LedgerRun rt s' trace s'') :
    (MajorityAt rt s' bridgeHandler ∧ ∀ t ∈ trace, MajorityAt rt t.post bridgeHandler) ↔
      ∀ t ∈ trace, AddsGuardian bridgeHandler t.label →
        RoomForGuardian rt t.pre bridgeHandler := by
  have hreachable : LedgerReachable rt s' := reachable.next step
  obtain ⟨hexists, hmajority⟩ := majorityAt_of_update collisionFree reachable step updates
  constructor
  · rintro ⟨-, hposts⟩ t ht adds
    have hpre := (run.invariant_of_mem (LedgerReachable rt)
      (fun _ _ next h => h.next next) hreachable ht).1
    exact room_of_majorityAt collisionFree hpre (run.step_of_mem ht) adds (hposts t ht)
  · intro hroom
    refine ⟨hmajority, fun t ht => ?_⟩
    refine (run.invariant_of_mem (fun s => LedgerReachable rt s ∧
      (∃ h, HandlerAt rt s.programData bridgeHandler h) ∧ MajorityAt rt s bridgeHandler)
      ?_ ⟨hreachable, hexists, hmajority⟩ ht).2.2.2
    rintro u hu next ⟨hpre, ⟨h, hhandler⟩, hmaj⟩
    obtain ⟨h', hhandler', -⟩ := handlerAt_kept next hhandler
    exact ⟨hpre.next next, ⟨h', hhandler'⟩,
      majorityAt_step collisionFree hpre next hhandler hmaj (hroom u hu)⟩

/-- A handler with one guardian. -/
def singleGuardian : List (Call Key Digest) :=
  [ initializeBy (.atom 5) 7 1 (.atom 5) (.atom 6),
    addGuardianBy (.atom 5) (handlerKey 7) (.atom 11) ]

theorem majority_kept_iff_room_sample :
    let rt := symbolicRuntime false
    let s := stateAfter rt sampleLedger singleGuardian
    let s' := stateAfter rt s [updateThresholdBy (.atom 5) (handlerKey 7) 1]
    let trace := callTrace rt s' [addGuardianBy (.atom 5) (handlerKey 7) (.atom 12)]
    (MajorityAt rt s' (handlerKey 7) ∧ ∀ t ∈ trace, MajorityAt rt t.post (handlerKey 7)) ↔
      ∀ t ∈ trace, AddsGuardian (handlerKey 7) t.label →
        RoomForGuardian rt t.pre (handlerKey 7) := by
  intro rt s s' trace
  have hreachable : LedgerReachable rt s :=
    ⟨sampleLedger, _, genesis_ledgerOf _, run_callTrace (by decide +kernel)⟩
  obtain ⟨returned, hstep⟩ := exists_step_of_executeAll rt s
    (updateThresholdBy (.atom 5) (handlerKey 7) 1) (by decide +kernel)
  have hrun : LedgerRun rt s' trace _ := run_callTrace (by decide +kernel)
  exact majority_kept_iff_room (symbolicRuntime_collisionFree false) hreachable hstep
    ⟨_, _, _, _, rfl, rfl, rfl⟩ hrun

/-- With one guardian and threshold 1, adding a second guardian leaves a
threshold that is no majority. -/
theorem majority_lost_by_adding_guardian :
    ¬ ∀ trace s, LedgerRun (symbolicRuntime false) sampleLedger trace s →
      (∃ t ∈ trace, UpdatesThreshold (handlerKey 7) t.label) →
      MajorityAt (symbolicRuntime false) s (handlerKey 7) := by
  intro h
  let calls := singleGuardian ++ [updateThresholdBy (.atom 5) (handlerKey 7) 1,
    addGuardianBy (.atom 5) (handlerKey 7) (.atom 12)]
  have hok : (executeAll (symbolicRuntime false) sampleLedger calls).isOk = true := by
    decide +kernel
  have hmem : updateThresholdBy (.atom 5) (handlerKey 7) 1 ∈ calls := by
    simp [calls, singleGuardian]
  obtain ⟨t, ht, returned, hlabel⟩ := exists_transition_of_mem hok hmem
  have hmajority := h _ _ (run_callTrace hok) ⟨t, ht, _, _, _, _, hlabel, rfl, rfl⟩
  let s := stateAfter (symbolicRuntime false) sampleLedger calls
  obtain ⟨x, hhandler, hx⟩ := exists_handlerAt false s (handlerKey 7)
    (fun x => x.guardianThreshold = 1) (by decide +kernel)
  obtain ⟨g, hguardians, hg⟩ := exists_guardiansAt false s (handlerKey 7)
    (fun g => g.guardians.length = 2) (by decide +kernel)
  have hlt := hmajority x _ g hhandler hguardians
  rw [of_decide_eq_true hx, of_decide_eq_true hg] at hlt
  exact absurd hlt (by decide)

end BridgeProgram.GuardianMajority
