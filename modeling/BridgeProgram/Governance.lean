import BridgeProgram.GuardianSets

/-!
The governance of a bridge as a machine of its own: who the manager and the operator are,
whether the bridge is paused, where fees go, who the guardians are and how many of them must
approve. Only the manager decides, and a decision is taken or refused by what has been
decided before. What a handler and its guardian list hold after a run is what this machine
makes of the decisions in the run, and every history of decisions that it takes can happen.
-/

namespace BridgeProgram.Governance

open BridgeProgram.AccountEffects
open BridgeProgram.AnchorAccounts
open BridgeProgram.BridgeProgramEntry
open BridgeProgram.CheckedResult
open BridgeProgram.GuardianSets
open BridgeProgram.HandlerInstructions
open BridgeProgram.LedgerInvariants
open BridgeProgram.ProgramStates
open BridgeProgram.RegistryCells
open BridgeProgram.RegistryModel
open BridgeProgram.RegistryRefinement
open BridgeProgram.SolanaRuntime
open BridgeProgram.SymbolicRuntime
open BridgeProgram.TransitionRuns

/-- What has been decided about a bridge. -/
structure Bridge (K : Type) where
  manager : K
  operator : K
  feeVault : K
  feeInfo : FixedFeeInfo
  pause : Bool
  threshold : ℕ
  guardians : List K

inductive Decision (K : Type)
  | pause (p : Bool)
  | feeVault (k : K)
  | feeInfo (info : FixedFeeInfo)
  | operator (k : K)
  | manager (k : K)
  | addGuardian (k : K)
  | removeGuardian (k : K)
  | threshold (t : ℕ)

section Machine

variable {K : Type} [DecidableEq K]

/-- The bridge after a decision, unless it is refused: the fee vault must be another one,
there are at most `maxGuardianCount` guardians, no guardian twice, never fewer than the
threshold, and the threshold is a majority. -/
def Decision.apply (b : Bridge K) : Decision K → Option (Bridge K)
  | .pause p => some { b with pause := p }
  | .feeVault k => if k ≠ b.feeVault then some { b with feeVault := k } else none
  | .feeInfo info => some { b with feeInfo := info }
  | .operator k => some { b with operator := k }
  | .manager k => some { b with manager := k }
  | .addGuardian k =>
      if k ∉ b.guardians ∧ b.guardians.length < maxGuardianCount then
        some { b with guardians := b.guardians ++ [k] }
      else none
  | .removeGuardian k =>
      if k ∈ b.guardians ∧ b.threshold ≤ (b.guardians.filter (· ≠ k)).length then
        some { b with guardians := b.guardians.filter (· ≠ k) }
      else none
  | .threshold t =>
      if b.guardians.length / 2 + 1 ≤ t ∧ t ≤ b.guardians.length then
        some { b with threshold := t }
      else none

/-- Someone decides something. -/
def Bridge.take (b : Bridge K) (x : K × Decision K) : Option (Bridge K) :=
  if x.1 = b.manager then x.2.apply b else none

/-- The bridge after a history of decisions. -/
def replay (b : Bridge K) (history : List (K × Decision K)) : Option (Bridge K) :=
  history.foldlM Bridge.take b

theorem take_eq_some {b b' : Bridge K} {x : K × Decision K} :
    b.take x = some b' ↔ x.1 = b.manager ∧ x.2.apply b = some b' := by
  simp [Bridge.take]

theorem replay_append (b : Bridge K) (first second : List (K × Decision K)) :
    replay b (first ++ second) = (replay b first).bind fun b' => replay b' second :=
  List.foldlM_append ..

end Machine

variable {Pubkey Hash : Type}

/-- What a handler and its guardian list say about the bridge. -/
def bridgeOf (h : BridgeHandler Pubkey) (g : GuardianInfo Pubkey) : Bridge Pubkey where
  manager := h.manager
  operator := h.operator
  feeVault := h.feeVault
  feeInfo := h.feeInfo
  pause := h.pause
  threshold := h.guardianThreshold.toNat
  guardians := g.guardians

/-- The handler an instruction decides about, who decides, and what. -/
def decided? : Instruction Pubkey Hash → Option (Pubkey × Pubkey × Decision Pubkey)
  | .pauseBridge a => some (a.bridgeHandler, a.manager, .pause true)
  | .unpauseBridge a => some (a.bridgeHandler, a.manager, .pause false)
  | .updateFeeVault a => some (a.bridgeHandler, a.manager, .feeVault a.newFeeVault)
  | .updateFeeInfo a feeInfo => some (a.bridgeHandler, a.manager, .feeInfo feeInfo)
  | .updateOperator a => some (a.bridgeHandler, a.manager, .operator a.newOperator)
  | .updateManager a => some (a.bridgeHandler, a.manager, .manager a.newManager)
  | .addGuardian a => some (a.bridgeHandler, a.manager, .addGuardian a.guardian)
  | .removeGuardian a => some (a.bridgeHandler, a.manager, .removeGuardian a.guardian)
  | .updateGuardianThreshold a t => some (a.bridgeHandler, a.manager, .threshold t.toNat)
  | _ => none

/-- A handler at `a` with its guardian list, and what they say. -/
def Governs (rt : Runtime Pubkey Hash) (s : State Pubkey Hash) (a : Pubkey)
    (b : Bridge Pubkey) : Prop :=
  ∃ guardianInfo h g, HandlerAt rt s.programData a h ∧
    GuardiansAt rt s.programData a guardianInfo g ∧ bridgeOf h g = b

variable [DecidableEq Pubkey]

/-- The decision about the handler at `a` that an event is. -/
def decision? (a : Pubkey) : Event Pubkey Hash → Option (Pubkey × Decision Pubkey)
  | .call call _ =>
      (decided? call.ix).bind fun y => if y.1 = a then some y.2 else none
  | .other => none

/-- The decisions about the handler at `a` in a trace. -/
def decisions (a : Pubkey) (trace : List (LedgerTransition Pubkey Hash)) :
    List (Pubkey × Decision Pubkey) :=
  trace.filterMap fun t => decision? a t.label

theorem decision_eq_some {a : Pubkey} {call : Call Pubkey Hash} {returned : Option UInt64}
    {x : Pubkey × Decision Pubkey} :
    decision? a (.call call returned) = some x ↔ decided? call.ix = some (a, x) := by
  simp only [decision?, Option.bind_eq_some_iff, Option.ite_none_right_eq_some, Option.some.injEq]
  constructor
  · rintro ⟨⟨b, y⟩, hdecided, rfl, rfl⟩
    exact hdecided
  · exact fun hdecided => ⟨_, hdecided, rfl, rfl⟩

theorem decisions_append (a : Pubkey) (first second : List (LedgerTransition Pubkey Hash)) :
    decisions a (first ++ second) = decisions a first ++ decisions a second :=
  List.filterMap_append

theorem decisions_single (a : Pubkey) (t : LedgerTransition Pubkey Hash) :
    decisions a [t] = (decision? a t.label).toList := by
  cases hlabel : decision? a t.label <;> simp [decisions, hlabel]

variable {rt : Runtime Pubkey Hash} {s s' : State Pubkey Hash} {a guardianInfo : Pubkey}
  {h : BridgeHandler Pubkey} {g : GuardianInfo Pubkey} {call : Call Pubkey Hash}
  {returned : Option UInt64}

omit [DecidableEq Pubkey] in
theorem handler_ne_guardians {r : Registry Pubkey Hash} (handler : HandlerAt rt r a h)
    (guardians : GuardiansAt rt r a guardianInfo g) : guardianInfo ≠ a := by
  rintro rfl
  have hstored := handler.stored.symm.trans guardians.stored
  simp at hstored

theorem toNat_ofNat_of_small {t : ℕ} (ht : t ≤ maxGuardianCount) : (UInt8.ofNat t).toNat = t := by
  unfold maxGuardianCount at ht
  rw [UInt8.toNat_ofNat']
  omega

theorem majority_iff {n : ℕ} {t : UInt8} (hn : n ≤ maxGuardianCount) :
    UInt8.ofNat n / 2 + 1 ≤ t ↔ n / 2 + 1 ≤ t.toNat := by
  have hvalue : (UInt8.ofNat n / 2 + 1).toNat = n / 2 + 1 := by
    unfold maxGuardianCount at hn
    rw [UInt8.toNat_add, UInt8.toNat_div, UInt8.toNat_ofNat']
    simp
    omega
  rw [UInt8.le_iff_toNat_le, hvalue]

theorem take_of_decided (collisionFree : CollisionFree rt) {clock : Clock}
    {r r' : Registry Pubkey Hash} (step : RegistryStep rt clock r call returned r')
    (canonical : Canonical rt r) (valid : GuardianListsValid r)
    (handler : HandlerAt rt r a h) (guardians : GuardiansAt rt r a guardianInfo g)
    {x : Pubkey × Decision Pubkey} (kind : decided? call.ix = some (a, x)) :
    x.1 ∈ call.signers ∧ ∃ h' g', HandlerAt rt r' a h' ∧ GuardiansAt rt r' a guardianInfo g' ∧
      (bridgeOf h g).take x = some (bridgeOf h' g') := by
  have hne := handler_ne_guardians handler guardians
  cases step with
  | @managed call manager bridgeHandler f h₀ h' kind' signed handler' manager_eq updated =>
      have hguardians : bridgeHandler = a →
          GuardiansAt rt (Function.update r bridgeHandler (some (.bridgeHandler h'))) a
            guardianInfo g := by
        rintro rfl
        exact ⟨(Function.update_of_ne hne _ _).trans guardians.stored, guardians.address⟩
      cases hix : call.ix with
      | pauseBridge y | unpauseBridge y | updateFeeInfo y info | updateOperator y
      | updateManager y =>
          rw [hix] at kind kind'
          obtain ⟨rfl, rfl⟩ := by simpa [decided?] using kind
          obtain ⟨rfl, rfl, rfl⟩ := by simpa [managerUpdate?] using kind'
          obtain rfl := handler.unique handler'
          obtain rfl := pure_eq_ok.mp updated
          refine ⟨signed, _, g, ⟨Function.update_self .., handler.address⟩, hguardians rfl, ?_⟩
          exact take_eq_some.mpr ⟨manager_eq.symm, rfl⟩
      | updateFeeVault y =>
          rw [hix] at kind kind'
          obtain ⟨rfl, rfl⟩ := by simpa [decided?] using kind
          obtain ⟨rfl, rfl, rfl⟩ := by simpa [managerUpdate?] using kind'
          obtain rfl := handler.unique handler'
          simp only [updateFeeVault, bind_eq_ok, require_eq_ok, pure_eq_ok] at updated
          obtain ⟨-, hother, rfl⟩ := updated
          refine ⟨signed, _, g, ⟨Function.update_self .., handler.address⟩, hguardians rfl, ?_⟩
          exact take_eq_some.mpr ⟨manager_eq.symm, if_pos hother⟩
      | _ => simp [hix, decided?, managerUpdate?] at kind kind'
  | @addGuardian signers ixSysvar y h₀ g₀ managed absent fits =>
      obtain ⟨rfl, rfl⟩ := by simpa [decided?] using kind
      obtain rfl := handler.unique managed.handler
      obtain ⟨rfl, rfl⟩ := guardiansAt_unique collisionFree canonical guardians managed.guardians
      refine ⟨managed.signed, h, _,
        ⟨(Function.update_of_ne hne.symm _ _).trans handler.stored, handler.address⟩,
        ⟨Function.update_self .., guardians.address⟩, ?_⟩
      exact take_eq_some.mpr ⟨managed.manager.symm, if_pos ⟨absent, fits⟩⟩
  | @removeGuardian signers ixSysvar y h₀ g₀ managed present enough =>
      obtain ⟨rfl, rfl⟩ := by simpa [decided?] using kind
      obtain rfl := handler.unique managed.handler
      obtain ⟨rfl, rfl⟩ := guardiansAt_unique collisionFree canonical guardians managed.guardians
      refine ⟨managed.signed, h, _,
        ⟨(Function.update_of_ne hne.symm _ _).trans handler.stored, handler.address⟩,
        ⟨Function.update_self .., guardians.address⟩, ?_⟩
      exact take_eq_some.mpr ⟨managed.manager.symm, if_pos ⟨present, enough⟩⟩
  | @updateGuardianThreshold signers ixSysvar u t h₀ g₀ managed range majority attainable =>
      obtain ⟨rfl, rfl⟩ := by simpa [decided?] using kind
      obtain rfl := handler.unique managed.handler
      obtain ⟨rfl, rfl⟩ := guardiansAt_unique collisionFree canonical guardians managed.guardians
      have hmajority := (majority_iff (valid _ _ guardians.stored).2).mp majority
      refine ⟨managed.signed, _, g, ⟨Function.update_self .., handler.address⟩,
        ⟨(Function.update_of_ne hne _ _).trans guardians.stored, guardians.address⟩, ?_⟩
      exact take_eq_some.mpr ⟨managed.manager.symm, if_pos ⟨hmajority, attainable⟩⟩
  | tokenPause kind' => cases hix : call.ix <;> simp [hix, decided?, tokenPause?] at kind kind'
  | payout kind' => cases hix : call.ix <;> simp [hix, decided?, payout?] at kind kind'
  | _ => cases kind

theorem bridgeOf_of_undecided {r : Registry Pubkey Hash} {h' : BridgeHandler Pubkey}
    (change : HandlerChange rt r call returned a h h')
    (undecided : ∀ x, decided? call.ix ≠ some (a, x)) : bridgeOf h' g = bridgeOf h g := by
  cases change with
  | @managed f _ _ kind signed updated =>
      cases hix : call.ix with
      | updateInstantBridgeCap y cap =>
          rw [hix] at kind
          obtain ⟨-, -, rfl⟩ := by simpa [managerUpdate?] using kind
          obtain rfl := pure_eq_ok.mp updated
          rfl
      | pauseBridge y | unpauseBridge y | updateFeeVault y | updateFeeInfo y info
      | updateOperator y | updateManager y =>
          rw [hix] at kind
          obtain ⟨-, rfl, -⟩ := by simpa [managerUpdate?] using kind
          exact absurd (by rw [hix]; rfl) (undecided _)
      | _ => simp [hix, managerUpdate?] at kind
  | numbered => rfl
  | charged kind handler same =>
      obtain ⟨remained, epoch, rfl⟩ := same
      rfl
  | @threshold u t _ g₀ ix handler managed =>
      subst handler
      exact absurd (by rw [ix]; rfl) (undecided _)

variable [DecidableEq Hash] {event : Event Pubkey Hash}

/-- A new bridge has no guardians, and a threshold that no payout can meet. -/
def newBridge (i : Initialize Pubkey) : Bridge Pubkey where
  manager := i.manager
  operator := i.operator
  feeVault := i.feeVault
  feeInfo := FixedFeeInfo.default
  pause := false
  threshold := 255
  guardians := []

theorem governs_of_opened {i : Initialize Pubkey} {initNonce : UInt64} {n : UInt8}
    (ix : call.ix = .initializeHandler i initNonce n)
    (executed : execute rt s call = .ok (s', returned)) :
    Governs rt s' i.bridgeHandler (newBridge i) := by
  have step := (execute_refines executed).1
  unfold Governs
  generalize s'.programData = r' at step
  cases step with
  | @initializeHandler _ _ i' initNonce' _ chain handlerBump guardianBump signed handlerAddress
      guardianAddress _ _ distinct =>
      obtain ⟨rfl, -, -⟩ := Instruction.initializeHandler.inj ix
      refine ⟨i'.guardianInfo, initialHandler i' handlerBump initNonce' chain s.clock,
        { bump := guardianBump, guardians := [] }, ⟨?_, rt.create_of_find handlerAddress⟩,
        ⟨Function.update_self .., rt.create_of_find guardianAddress⟩, rfl⟩
      rw [Function.update_of_ne distinct.symm, Function.update_self]
  | managed kind => simp [managerUpdate?, ix] at kind
  | tokenPause kind => simp [tokenPause?, ix] at kind
  | payout kind => simp [payout?, ix] at kind
  | _ => cases ix

theorem kept_of_undecided (collisionFree : CollisionFree rt) (step : LedgerStep rt s event s')
    (handler : HandlerAt rt s.programData a h)
    (guardians : GuardiansAt rt s.programData a guardianInfo g)
    (undecided : decision? a event = none) : Governs rt s' a (bridgeOf h g) := by
  have hnone : ∀ call returned, event = .call call returned →
      ∀ x, decided? call.ix ≠ some (a, x) := by
    rintro call returned rfl x hdecided
    rw [decision_eq_some.mpr hdecided] at undecided
    cases undecided
  have hguardians : s'.programData guardianInfo = some (.guardianInfo g) := by
    obtain ⟨g', hstored, rfl | ⟨call, returned, hevent, change⟩⟩ :=
      guardians_kept step guardians.stored
    · exact hstored
    · cases change with
      | added ix account managed =>
          obtain rfl := guardiansAt_owner collisionFree guardians managed.guardians
          exact absurd (by rw [ix]; rfl) (hnone _ _ hevent _)
      | removed ix account managed =>
          obtain rfl := guardiansAt_owner collisionFree guardians managed.guardians
          exact absurd (by rw [ix]; rfl) (hnone _ _ hevent _)
  obtain ⟨h', handler', hidentity⟩ := handlerAt_kept step handler
  obtain ⟨h'', hstored, hchange⟩ := handler_kept step handler.stored
  obtain rfl : h'' = h' := by simpa using hstored.symm.trans handler'.stored
  refine ⟨guardianInfo, h'', g, handler', ⟨hguardians, guardians.address⟩, ?_⟩
  rcases hchange with rfl | ⟨call, returned, hevent, change⟩
  · rfl
  · exact bridgeOf_of_undecided change (hnone _ _ hevent)

/-- What a handler and its guardian list say after an event. -/
theorem governs_step (collisionFree : CollisionFree rt) (reachable : LedgerReachable rt s)
    (step : LedgerStep rt s event s') {b : Bridge Pubkey} (governs : Governs rt s a b) :
    (∀ call returned x, event = .call call returned → decided? call.ix = some (a, x) →
      x.1 ∈ call.signers) ∧
      ∃ b', Governs rt s' a b' ∧ replay b (decision? a event).toList = some b' := by
  obtain ⟨guardianInfo, h, g, handler, guardians, rfl⟩ := governs
  cases hdecision : decision? a event with
  | none =>
      refine ⟨?_, _, kept_of_undecided collisionFree step handler guardians hdecision, rfl⟩
      rintro call returned x rfl hdecided
      rw [decision_eq_some.mpr hdecided] at hdecision
      cases hdecision
  | some x =>
      cases step with
      | other change => cases hdecision
      | @call _ call returned executed =>
          obtain ⟨hsigned, h', g', handler', guardians', htake⟩ := take_of_decided collisionFree
            (execute_refines executed).1 (canonical_of_reachable reachable)
            (guardianListsValid_of_reachable reachable) handler guardians
            (decision_eq_some.mp hdecision)
          refine ⟨?_, _, ⟨_, h', g', handler', guardians', rfl⟩, ?_⟩
          · rintro call' returned' x' hevent hdecided
            obtain ⟨rfl, -⟩ := Event.call.inj hevent
            rw [decision_eq_some.mpr hdecided] at hdecision
            obtain rfl := Option.some.inj hdecision
            exact hsigned
          · simp [replay, htake]

theorem governs_run (collisionFree : CollisionFree rt) (reachable : LedgerReachable rt s)
    {trace : List (LedgerTransition Pubkey Hash)} (run : LedgerRun rt s trace s')
    {b : Bridge Pubkey} (governs : Governs rt s a b) :
    ∃ b', Governs rt s' a b' ∧ replay b (decisions a trace) = some b' := by
  induction run with
  | nil => exact ⟨b, governs, rfl⟩
  | @snoc t t' trace label run next ih =>
      obtain ⟨b₁, governs₁, hreplay⟩ := ih
      obtain ⟨-, b₂, governs₂, hstep⟩ :=
        governs_step collisionFree (reachable.run run) next governs₁
      refine ⟨b₂, governs₂, ?_⟩
      rw [decisions_append, decisions_single, replay_append, hreplay]
      exact hstep

/-- The instruction of a decision. -/
def enactment (a guardianInfo manager : Pubkey) : Decision Pubkey → Instruction Pubkey Hash
  | .pause true => .pauseBridge { manager, bridgeHandler := a }
  | .pause false => .unpauseBridge { manager, bridgeHandler := a }
  | .feeVault k => .updateFeeVault { manager, bridgeHandler := a, newFeeVault := k }
  | .feeInfo info => .updateFeeInfo { manager, bridgeHandler := a } info
  | .operator k => .updateOperator { manager, bridgeHandler := a, newOperator := k }
  | .manager k => .updateManager { manager, bridgeHandler := a, newManager := k }
  | .addGuardian k => .addGuardian { manager, bridgeHandler := a, guardianInfo, guardian := k }
  | .removeGuardian k =>
      .removeGuardian { manager, bridgeHandler := a, guardianInfo, guardian := k }
  | .threshold t =>
      .updateGuardianThreshold { manager, bridgeHandler := a, guardianInfo } (UInt8.ofNat t)

/-- A call by the one who decides. -/
def enact (a guardianInfo : Pubkey) (x : Pubkey × Decision Pubkey) : Call Pubkey Hash where
  signers := [x.1]
  ixSysvar := { instructions := [], currentIndex := 0 }
  ix := enactment a guardianInfo x.1 x.2

omit [DecidableEq Hash] in
theorem updateByManager_ok {signers : List Pubkey} {h' : BridgeHandler Pubkey}
    {f : BridgeHandler Pubkey → Except ProgramError (BridgeHandler Pubkey)}
    (handler : HandlerAt rt s.programData a h) (signed : h.manager ∈ signers)
    (updated : f h = .ok h') : ∃ s', updateByManager rt signers s h.manager a f = .ok s' := by
  simp only [updateByManager, bind_eq_ok, checkSigner_eq_ok, require_eq_ok,
    loadBridgeHandler_eq_ok, exitAccount_eq_ok]
  exact ⟨_, (), signed, h, ⟨programData_eq_some.mp handler.stored, handler.address⟩, (), rfl, h',
    updated, le_refl _, rfl⟩

omit [DecidableEq Hash] in
theorem loadManagedGuardians_ok {signers : List Pubkey}
    (handler : HandlerAt rt s.programData a h)
    (guardians : GuardiansAt rt s.programData a guardianInfo g) (signed : h.manager ∈ signers) :
    loadManagedGuardians rt signers s h.manager a guardianInfo = .ok (h, g) := by
  simp only [loadManagedGuardians, bind_eq_ok, checkSigner_eq_ok, require_eq_ok,
    loadBridgeHandler_eq_ok, loadGuardianInfo_eq_ok, pure_eq_ok]
  exact ⟨(), signed, h, ⟨programData_eq_some.mp handler.stored, handler.address⟩, (), rfl, g,
    ⟨programData_eq_some.mp guardians.stored, guardians.address⟩, rfl⟩

theorem enact_ok (handler : HandlerAt rt s.programData a h)
    (guardians : GuardiansAt rt s.programData a guardianInfo g)
    (valid : g.guardians.length ≤ maxGuardianCount) {x : Pubkey × Decision Pubkey}
    {b : Bridge Pubkey} (taken : (bridgeOf h g).take x = some b) :
    ∃ s', execute rt s (enact a guardianInfo x) = .ok (s', none) := by
  obtain ⟨who, d⟩ := x
  obtain ⟨rfl, happly⟩ := take_eq_some.mp taken
  have signed : h.manager ∈ [h.manager] := List.mem_singleton_self _
  have hload := loadManagedGuardians_ok handler guardians signed
  have silent : ∀ {x : Except ProgramError (State Pubkey Hash)}, (∃ s', x = .ok s') →
      ∃ s', (do pure (← x, (none : Option UInt64))) = Except.ok (s', none) := by
    rintro _ ⟨s', rfl⟩
    exact ⟨s', rfl⟩
  cases d with
  | pause p =>
      cases p
      · exact silent (updateByManager_ok handler signed rfl)
      · exact silent (updateByManager_ok handler signed rfl)
  | feeVault k =>
      simp only [Decision.apply, Option.ite_none_right_eq_some] at happly
      have hupdate : updateFeeVault k h = .ok { h with feeVault := k } := by
        simp only [updateFeeVault, bind_eq_ok, require_eq_ok, pure_eq_ok]
        exact ⟨(), happly.1, trivial⟩
      exact silent (updateByManager_ok handler signed hupdate)
  | feeInfo info => exact silent (updateByManager_ok handler signed rfl)
  | operator k => exact silent (updateByManager_ok handler signed rfl)
  | manager k => exact silent (updateByManager_ok handler signed rfl)
  | addGuardian k =>
      simp only [Decision.apply, Option.ite_none_right_eq_some] at happly
      obtain ⟨⟨habsent, hroom⟩, -⟩ := happly
      apply silent
      simp only [addGuardian, bind_eq_ok, require_eq_ok, exitAccount_eq_ok]
      refine ⟨_, (h, g), hload, (), habsent, ?_, rfl⟩
      simp only [ProgramData.serializedLen, ProgramData.space, List.length_append,
        List.length_singleton]
      change g.guardians.length < maxGuardianCount at hroom
      omega
  | removeGuardian k =>
      simp only [Decision.apply, Option.ite_none_right_eq_some] at happly
      obtain ⟨⟨hpresent, henough⟩, -⟩ := happly
      apply silent
      simp only [removeGuardian, bind_eq_ok, require_eq_ok, exitAccount_eq_ok]
      refine ⟨_, (h, g), hload, (), hpresent, (), henough, ?_, rfl⟩
      have hfilter := List.length_filter_le (fun c => decide (c ≠ k)) g.guardians
      simp only [ProgramData.serializedLen, ProgramData.space]
      omega
  | threshold t =>
      simp only [Decision.apply, Option.ite_none_right_eq_some] at happly
      obtain ⟨⟨hmajority, hattainable⟩, -⟩ := happly
      change t ≤ g.guardians.length at hattainable
      have hvalue := toNat_ofNat_of_small (hattainable.trans valid)
      apply silent
      simp only [updateGuardianThreshold, bind_eq_ok, require_eq_ok, exitAccount_eq_ok]
      refine ⟨_, (h, g), hload, (), ⟨?_, ?_⟩, (), ?_, (), ?_, le_refl _, rfl⟩
      · rw [UInt8.lt_iff_toNat_lt, hvalue]
        exact Nat.lt_of_lt_of_le (Nat.succ_pos _) hmajority
      · rw [UInt8.le_iff_toNat_le, hvalue]
        exact hattainable.trans valid
      · rw [majority_iff valid, hvalue]
        exact hmajority
      · rw [hvalue]
        exact hattainable

omit [DecidableEq Pubkey] [DecidableEq Hash] in
theorem decided_enact (a guardianInfo : Pubkey) {x : Pubkey × Decision Pubkey}
    (small : ∀ t, x.2 = .threshold t → t ≤ maxGuardianCount) :
    decided? (enact a guardianInfo x : Call Pubkey Hash).ix = some (a, x) := by
  obtain ⟨who, d⟩ := x
  cases d with
  | pause p => cases p <;> rfl
  | threshold t =>
      simp [enact, enactment, decided?, toNat_ofNat_of_small (small t rfl)]
  | _ => rfl

theorem small_of_governs (reachable : LedgerReachable rt s) {b : Bridge Pubkey}
    (governs : Governs rt s a b) : b.guardians.length ≤ maxGuardianCount := by
  obtain ⟨guardianInfo, h, g, handler, guardians, rfl⟩ := governs
  exact (guardianListsValid_of_reachable reachable _ _ guardians.stored).2

theorem history_ok (collisionFree : CollisionFree rt) {history : List (Pubkey × Decision Pubkey)}
    (reachable : LedgerReachable rt s) {b b' : Bridge Pubkey} (governs : Governs rt s a b)
    (taken : replay b history = some b') :
    ∃ trace s', LedgerRun rt s trace s' ∧ decisions a trace = history ∧ Governs rt s' a b' := by
  induction history generalizing s b with
  | nil =>
      obtain rfl := Option.some.inj taken
      exact ⟨[], s, .nil s, rfl, governs⟩
  | cons x history ih =>
      obtain ⟨b₁, htake, hrest⟩ := Option.bind_eq_some_iff.mp taken
      obtain ⟨guardianInfo, h, g, handler, guardians, rfl⟩ := id governs
      have hsmall : g.guardians.length ≤ maxGuardianCount := small_of_governs reachable governs
      obtain ⟨s₁, executed⟩ := enact_ok handler guardians hsmall htake
      have step : LedgerStep rt s (.call (enact a guardianInfo x) none) s₁ := .call executed
      have hdecision : decision? a (.call (enact a guardianInfo x) none : Event Pubkey Hash) =
          some x := by
        refine decision_eq_some.mpr (decided_enact a guardianInfo fun t ht => ?_)
        have happly := (take_eq_some.mp htake).2
        rw [ht, Decision.apply, Option.ite_none_right_eq_some] at happly
        exact happly.1.2.trans hsmall
      obtain ⟨-, b₂, governs₁, hreplay⟩ := governs_step collisionFree reachable step governs
      rw [hdecision] at hreplay
      obtain rfl : b₁ = b₂ := by simpa [replay, htake] using hreplay
      obtain ⟨trace, s', run, hhistory, governs'⟩ := ih (reachable.next step) governs₁ hrest
      refine ⟨_, s', .cons step run, ?_, governs'⟩
      show decisions a ([⟨s, _, s₁⟩] ++ trace) = x :: history
      rw [decisions_append, decisions_single, hdecision, hhistory]
      rfl

/-- A run turns what is decided about a bridge into what the machine makes of the decisions
in the run, each of which the manager at that time has signed; and whatever history of
decisions the machine takes is the history of some run. -/
theorem governance_exact (collisionFree : CollisionFree rt) (reachable : LedgerReachable rt s)
    {b : Bridge Pubkey} (governs : Governs rt s a b) :
    (∀ trace s', LedgerRun rt s trace s' →
      (∃ b', Governs rt s' a b' ∧ replay b (decisions a trace) = some b') ∧
      ∀ t ∈ trace, ∀ call returned x, t.label = .call call returned →
        decided? call.ix = some (a, x) → x.1 ∈ call.signers) ∧
    ∀ history b', replay b history = some b' →
      ∃ trace s', LedgerRun rt s trace s' ∧ decisions a trace = history ∧
        Governs rt s' a b' := by
  refine ⟨fun trace s' run => ⟨governs_run collisionFree reachable run governs, ?_⟩,
    fun history b' taken => history_ok collisionFree reachable governs taken⟩
  intro t ht call returned x hlabel hdecided
  obtain ⟨before, after, rfl⟩ := List.append_of_mem ht
  obtain ⟨hbefore, hstep, -⟩ := run.split_at
  obtain ⟨b', governs', -⟩ := governs_run collisionFree reachable hbefore governs
  exact (governs_step collisionFree (reachable.run hbefore) hstep governs').1 call returned x
    hlabel hdecided

def sampleHistory : List (Key × Decision Key) :=
  [(.atom 1, .addGuardian (.atom 11)), (.atom 1, .threshold 1), (.atom 1, .manager (.atom 3)),
    (.atom 3, .pause true)]

theorem governance_exact_sample :
    let s := stateAfter (symbolicRuntime false) sampleLedger
      [initializeBy (.atom 5) 7 1 (.atom 1) (.atom 2)]
    ∃ trace s' b', LedgerRun (symbolicRuntime false) s trace s' ∧
      decisions (handlerKey 7) trace = sampleHistory ∧
      Governs (symbolicRuntime false) s' (handlerKey 7) b' ∧ b'.manager = .atom 3 := by
  intro s
  have hok : (executeAll (symbolicRuntime false) sampleLedger
      [initializeBy (.atom 5) 7 1 (.atom 1) (.atom 2)]).isOk = true := by decide +kernel
  obtain ⟨returned, step⟩ := exists_step_of_executeAll _ _ _ hok
  have reachable : LedgerReachable (symbolicRuntime false) s :=
    ⟨_, _, genesis_ledgerOf _, run_callTrace hok⟩
  cases step with
  | call executed =>
      obtain ⟨trace, s', run, hhistory, governs⟩ := (governance_exact
        (symbolicRuntime_collisionFree false) reachable (governs_of_opened rfl executed)).2
          sampleHistory _ rfl
      exact ⟨trace, s', _, run, hhistory, governs, rfl⟩

end BridgeProgram.Governance
