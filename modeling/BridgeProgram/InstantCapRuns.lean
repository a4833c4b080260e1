import BridgeProgram.InstantBudget
import BridgeProgram.SymbolicRuntime

/-!
The instant cap over runs: what the payouts of an epoch take from the budget, when a
payout may do without it, and when a cap that the manager sets binds.
-/

namespace BridgeProgram.InstantCapRuns

open BridgeProgram.BridgeProgramEntry
open BridgeProgram.CheckedResult
open BridgeProgram.HandlerInstructions
open BridgeProgram.InstantBudget
open BridgeProgram.LedgerInvariants
open BridgeProgram.PayoutSteps
open BridgeProgram.ProgramStates
open BridgeProgram.RegistryModel
open BridgeProgram.RegistryRefinement
open BridgeProgram.SolanaRuntime
open BridgeProgram.SymbolicRuntime
open BridgeProgram.TransitionRuns

variable {Pubkey Hash : Type}

/-- What is left of a handler's instant cap in an epoch; all of it before the
handler exists. -/
def budgetAt (epoch : UInt64) (s : State Pubkey Hash) (bridgeHandler : Pubkey) : UInt64 :=
  match s.programData bridgeHandler with
  | some (.bridgeHandler h) => budgetLeft epoch h
  | _ => solanaDollarCapPerEpoch

theorem budgetAt_of_stored {epoch : UInt64} {s : State Pubkey Hash} {bridgeHandler : Pubkey}
    {h : BridgeHandler Pubkey} (stored : s.programData bridgeHandler = some (.bridgeHandler h)) :
    budgetAt epoch s bridgeHandler = budgetLeft epoch h := by
  rw [budgetAt, stored]

theorem budgetLeft_of_ne {epoch : UInt64} {h : BridgeHandler Pubkey}
    (hne : h.instantBridgeCapEpoch ≠ epoch) : budgetLeft epoch h = solanaDollarCapPerEpoch :=
  if_neg hne

theorem budgetLeft_initialHandler (epoch : UInt64) (i : Initialize Pubkey) (bump : UInt8)
    (initNonce : UInt64) (chain : Chain) (clock : Clock) :
    budgetLeft epoch (initialHandler i bump initNonce chain clock) = solanaDollarCapPerEpoch :=
  ite_self _

/-- Neither the epoch nor the time stamp of the clock decreases. -/
def ClockMonotone (trace : List (LedgerTransition Pubkey Hash)) : Prop :=
  ∀ u ∈ trace, u.pre.clock.epoch ≤ u.post.clock.epoch ∧
    u.pre.clock.unixTimestamp ≤ u.post.clock.unixTimestamp

/-- A handler that is stored is one of chain Solana. -/
def OnSolana (bridgeHandler : Pubkey) (s : State Pubkey Hash) : Prop :=
  ∀ h, s.programData bridgeHandler = some (.bridgeHandler h) → h.chain = .solana

variable [DecidableEq Pubkey]

/-- A successful payout of the handler. -/
def paysFrom (bridgeHandler : Pubkey) : Event Pubkey Hash → Bool
  | .call call _ => (payout? call.ix).any fun p => p.bridgeHandler = bridgeHandler
  | .other => false

/-- What a transition takes from the budget of an epoch as a payout of the handler. -/
def chargedIn (epoch : UInt64) (bridgeHandler : Pubkey) (u : LedgerTransition Pubkey Hash) : ℕ :=
  if u.pre.clock.epoch = epoch ∧ paysFrom bridgeHandler u.label = true then
    (budgetAt epoch u.pre bridgeHandler).toNat - (budgetAt epoch u.post bridgeHandler).toNat
  else 0

/-- A successful `verify_signature` for this message hash of the handler. -/
def RecordsSignatures (bridgeHandler : Pubkey) (msgHash : Hash) : Event Pubkey Hash → Prop
  | .call call _ =>
      ∃ a signerIndexes, call.ix = .verifySignature a msgHash signerIndexes ∧
        a.bridgeHandler = bridgeHandler
  | .other => False

/-- The payout of a transition comes at least the awaiting time after every
`verify_signature` for its message hash among earlier transitions. -/
def WaitedSince (earlier : List (LedgerTransition Pubkey Hash)) (bridgeHandler : Pubkey)
    (msgHash : Hash) (u : LedgerTransition Pubkey Hash) : Prop :=
  ∀ w ∈ earlier, RecordsSignatures bridgeHandler msgHash w.label →
    w.pre.clock.unixTimestamp.toNat + solanaPostInstantCapAwaitingTimeSeconds.toNat ≤
      u.pre.clock.unixTimestamp.toNat

variable [DecidableEq Hash] {rt : Runtime Pubkey Hash} {s s' s₀ : State Pubkey Hash}
  {event : Event Pubkey Hash} {trace : List (LedgerTransition Pubkey Hash)}
  {bridgeHandler : Pubkey} {epoch : UInt64}

theorem onSolana_of_run {h : BridgeHandler Pubkey} (run : LedgerRun rt s trace s')
    (handler : HandlerAt rt s'.programData bridgeHandler h) (chain : h.chain = .solana) :
    OnSolana bridgeHandler s := by
  intro x stored
  rw [← (handlerAt_of_later run stored handler).2.chain, chain]

theorem onSolana_of_mem {h : BridgeHandler Pubkey} (run : LedgerRun rt s trace s')
    (handler : HandlerAt rt s'.programData bridgeHandler h) (chain : h.chain = .solana)
    {u : LedgerTransition Pubkey Hash} (hu : u ∈ trace) : OnSolana bridgeHandler u.pre := by
  obtain ⟨before, after, rfl⟩ := List.append_of_mem hu
  obtain ⟨-, hstep, hafter⟩ := run.split_at
  exact onSolana_of_run (.cons hstep hafter) handler chain

theorem budgetAt_of_created (step : LedgerStep rt s event s')
    (absent : ¬ ∃ h, s.programData bridgeHandler = some (.bridgeHandler h)) :
    budgetAt epoch s' bridgeHandler = solanaDollarCapPerEpoch := by
  rcases ledger_cell step bridgeHandler with hsame | ⟨call, returned, -, hwrite⟩
  · rw [budgetAt, hsame]
    split
    next h stored => exact absurd ⟨h, stored⟩ absent
    next => rfl
  · unfold budgetAt
    generalize s.programData bridgeHandler = old at hwrite absent
    generalize s'.programData bridgeHandler = new at hwrite
    cases hwrite with
    | handlerCreated => exact budgetLeft_initialHandler ..
    | handlerChanged => exact absurd ⟨_, rfl⟩ absent
    | _ => rfl

/-- The epoch that a handler stores has begun. -/
def EpochBegun (bridgeHandler : Pubkey) (s : State Pubkey Hash) : Prop :=
  ∀ h, s.programData bridgeHandler = some (.bridgeHandler h) →
    h.instantBridgeCapEpoch ≤ s.clock.epoch

theorem epochBegun_step (step : LedgerStep rt s event s')
    (monotone : s.clock.epoch ≤ s'.clock.epoch) (solana : OnSolana bridgeHandler s)
    (begun : EpochBegun bridgeHandler s) : EpochBegun bridgeHandler s' := by
  intro h' stored'
  refine UInt64.le_trans ?_ monotone
  by_cases hexists : ∃ h, s.programData bridgeHandler = some (.bridgeHandler h)
  · obtain ⟨h, stored⟩ := hexists
    cases budget_step step stored stored' (solana h stored) with
    | same unpaid remained hepoch => exact hepoch ▸ begun h stored
    | updated unpaid updates hepoch => exact hepoch ▸ begun h stored
    | paid paid approvals charge hepoch => exact hepoch ▸ UInt64.le_refl _
  · rcases ledger_cell step bridgeHandler with hsame | ⟨call, returned, -, hwrite⟩
    · exact absurd ⟨h', hsame.symm.trans stored'⟩ hexists
    · rw [stored'] at hwrite
      generalize s.programData bridgeHandler = old at hwrite hexists
      cases hwrite with
      | handlerCreated => exact UInt64.le_refl _
      | handlerChanged => exact absurd ⟨_, rfl⟩ hexists

theorem budgetAt_step_le (step : LedgerStep rt s event s') (solana : OnSolana bridgeHandler s)
    (begun : EpochBegun bridgeHandler s) (hepoch : s.clock.epoch ≤ epoch)
    (unset : s.clock.epoch = epoch → ¬ UpdatesCap bridgeHandler event) :
    budgetAt epoch s' bridgeHandler ≤ budgetAt epoch s bridgeHandler := by
  by_cases hexists : ∃ h, s.programData bridgeHandler = some (.bridgeHandler h)
  case neg =>
      rw [budgetAt_of_created step hexists]
      unfold budgetAt
      split
      next h stored => exact absurd ⟨h, stored⟩ hexists
      next => exact UInt64.le_refl _
  obtain ⟨h, stored⟩ := hexists
  obtain ⟨h', stored', -⟩ := identity_kept step stored
  rw [budgetAt_of_stored stored, budgetAt_of_stored stored']
  have hbegun := begun h stored
  cases budget_step step stored stored' (solana h stored) with
  | same unpaid remained hstored =>
      rw [budgetLeft, budgetLeft, remained, hstored]
      exact UInt64.le_refl _
  | updated unpaid updates hstored =>
      have hne : h.instantBridgeCapEpoch ≠ epoch := by
        rintro rfl
        exact unset (UInt64.le_antisymm hepoch hbegun) updates
      rw [budgetLeft_of_ne hne, budgetLeft_of_ne (hstored ▸ hne)]
      exact UInt64.le_refl _
  | @paid p value v paid approvals charge hstored =>
      by_cases hnow : s.clock.epoch = epoch
      · subst hnow
        cases charge with
        | charged fits left =>
            rw [left]
            exact UInt64.sub_le fits
        | waited exceeded wait left => exact left ▸ UInt64.le_refl _
      · have hne : h.instantBridgeCapEpoch ≠ epoch := by
          rintro rfl
          exact hnow (UInt64.le_antisymm hepoch hbegun)
        rw [budgetLeft_of_ne hne, budgetLeft_of_ne (hstored ▸ hnow)]
        exact UInt64.le_refl _

/-- In a run the payouts of an epoch take at most the cap from its budget, unless
the manager sets the budget in that epoch. -/
theorem sum_chargedIn_le (genesis : Genesis s₀) (run : LedgerRun rt s₀ trace s)
    (monotone : ClockMonotone trace) {h : BridgeHandler Pubkey}
    (handler : HandlerAt rt s.programData bridgeHandler h) (chain : h.chain = .solana)
    (unset : ∀ u ∈ trace, u.pre.clock.epoch = epoch → ¬ UpdatesCap bridgeHandler u.label) :
    (trace.map (chargedIn epoch bridgeHandler)).sum ≤ solanaDollarCapPerEpoch.toNat := by
  have hsolana : ∀ u ∈ trace, OnSolana bridgeHandler u.pre :=
    fun u hu => onSolana_of_mem run handler chain hu
  have hbegun : ∀ u ∈ trace, EpochBegun bridgeHandler u.pre := fun u hu =>
    (run.invariant_of_mem (EpochBegun bridgeHandler)
      (fun w hw next => epochBegun_step next (monotone w hw).1 (hsolana w hw))
      (fun h stored => by simp [genesis bridgeHandler] at stored) hu).1
  -- what is left of the epoch's budget; nothing once the epoch is over
  let left : State Pubkey Hash → ℕ := fun s =>
    if s.clock.epoch ≤ epoch then (budgetAt epoch s bridgeHandler).toNat else 0
  have hsum := run.sum_cost_le left (chargedIn epoch bridgeHandler) (by
    intro u hu next
    have hmonotone := (monotone u hu).1
    simp only [left, chargedIn]
    by_cases hpre : u.pre.clock.epoch ≤ epoch
    · have hle := budgetAt_step_le next (hsolana u hu) (hbegun u hu) hpre (unset u hu)
      rw [UInt64.le_iff_toNat_le] at hle
      split_ifs <;> omega
    · have hpost : ¬ u.post.clock.epoch ≤ epoch := fun h => hpre (UInt64.le_trans hmonotone h)
      have hne : u.pre.clock.epoch ≠ epoch := fun h => hpre (h ▸ UInt64.le_refl _)
      simp [hpre, hpost, hne])
  have hinit : left s₀ ≤ solanaDollarCapPerEpoch.toNat := by
    simp only [left, budgetAt, genesis bridgeHandler]
    split_ifs <;> omega
  omega

theorem clock_of_call {call : Call Pubkey Hash} {returned : Option UInt64}
    (step : LedgerStep rt s (.call call returned) s') : s'.clock = s.clock := by
  cases step with
  | call executed => exact (execute_refines executed).2

theorem createdAt_of_records (collisionFree : CollisionFree rt)
    (canonical : Canonical rt s'.programData) {msgHash : Hash} (step : LedgerStep rt s event s')
    (records : RecordsSignatures bridgeHandler msgHash event) {a : Pubkey}
    {v : VerifiedSignatures} (approvals : ApprovalsAt rt s'.programData bridgeHandler msgHash a v) :
    v.createdAt = s.clock.unixTimestamp := by
  cases step with
  | other => exact records.elim
  | call executed =>
      obtain ⟨x, signerIndexes, ix, rfl⟩ := records
      obtain ⟨_, _, _, bump, _, -, -, address, -, -, -, hafter⟩ :=
        (execute_refines executed).1.of_verifySignature ix
      obtain rfl : x.verifiedSignatures = a := by
        rw [← approvalsAt_address collisionFree canonical approvals, address]
      have hstored := approvals.stored
      rw [hafter, Function.update_self] at hstored
      obtain rfl := ProgramData.verifiedSignatures.inj (Option.some.inj hstored)
      rfl

theorem approvals_before (collisionFree : CollisionFree rt) {msgHash : Hash}
    (step : LedgerStep rt s event s')
    (unrecorded : ¬ RecordsSignatures bridgeHandler msgHash event) {a : Pubkey}
    {v : VerifiedSignatures} (approvals : ApprovalsAt rt s'.programData bridgeHandler msgHash a v) :
    ApprovalsAt rt s.programData bridgeHandler msgHash a v := by
  have hstored := approvals.stored
  have haddress := approvals.address
  rcases ledger_cell step a with hsame | ⟨call, returned, rfl, hwrite⟩
  · exact ⟨hsame.symm.trans hstored, haddress⟩
  · rw [hstored] at hwrite
    generalize s.programData a = old at hwrite
    cases hwrite with
    | approvalsAdded ix account guardians address found selected =>
        have hseeds := seeds_eq_of_canonical collisionFree address haddress
        obtain ⟨rfl, rfl⟩ := Seeds.verifiedSignatures.inj hseeds
        exact absurd ⟨_, _, ix, rfl⟩ unrecorded

theorem records_le_createdAt (collisionFree : CollisionFree rt) (genesis : Genesis s₀)
    (run : LedgerRun rt s₀ trace s) (monotone : ClockMonotone trace) {msgHash : Hash}
    {a : Pubkey} {v : VerifiedSignatures}
    (approvals : ApprovalsAt rt s.programData bridgeHandler msgHash a v) :
    ∀ w ∈ trace, RecordsSignatures bridgeHandler msgHash w.label →
      w.pre.clock.unixTimestamp ≤ v.createdAt := by
  have hclock : ∀ {first : List (LedgerTransition Pubkey Hash)} {x : State Pubkey Hash},
      LedgerRun rt s₀ first x → ClockMonotone first →
      ∀ w ∈ first, w.pre.clock.unixTimestamp ≤ x.clock.unixTimestamp := by
    intro first x hrun
    induction hrun with
    | nil => simp
    | @snoc y y' first event run next ih =>
        intro hmonotone w hw
        have hlast := (hmonotone _ (List.mem_append_right _ (List.mem_singleton_self _))).2
        rcases List.mem_append.mp hw with hw | hw
        · exact UInt64.le_trans
            (ih (fun w hw => hmonotone w (List.mem_append_left _ hw)) w hw) hlast
        · obtain rfl := List.mem_singleton.mp hw
          exact hlast
  induction run with
  | nil => simp
  | @snoc y y' first event run next ih =>
      intro w hw hrecords
      have hreachable : LedgerReachable rt y' := ⟨s₀, _, genesis, .snoc run next⟩
      have hfirst : ClockMonotone first := fun w hw => monotone w (List.mem_append_left _ hw)
      by_cases hnew : RecordsSignatures bridgeHandler msgHash event
      · rw [createdAt_of_records collisionFree (canonical_of_reachable hreachable) next hnew
          approvals]
        rcases List.mem_append.mp hw with hw | hw
        · exact hclock run hfirst w hw
        · obtain rfl := List.mem_singleton.mp hw
          exact UInt64.le_refl _
      · rcases List.mem_append.mp hw with hw | hw
        · exact ih hfirst (approvals_before collisionFree next hnew approvals) w hw hrecords
        · obtain rfl := List.mem_singleton.mp hw
          exact absurd hrecords hnew

omit [DecidableEq Hash] in
theorem paysFrom_of_valued {u : LedgerTransition Pubkey Hash} {p : PayoutCall Pubkey Hash}
    {value : UInt64} (paid : valuedPayout? rt bridgeHandler u = some (p, value)) :
    paysFrom bridgeHandler u.label = true := by
  obtain ⟨pre, label, post⟩ := u
  cases label with
  | other => cases paid
  | call call returned =>
      simp only [valuedPayout?] at paid
      simp only [paysFrom]
      cases hkind : payout? call.ix with
      | none => simp [hkind] at paid
      | some x =>
          simp only [hkind, Option.bind_some] at paid
          split at paid
          next heq => simp [heq]
          next => cases paid

theorem budgetStep_of_valued {u : LedgerTransition Pubkey Hash}
    (step : LedgerStep rt u.pre u.label u.post) (solana : OnSolana bridgeHandler u.pre)
    {p : PayoutCall Pubkey Hash} {value : UInt64}
    (paid : valuedPayout? rt bridgeHandler u = some (p, value)) :
    ∃ h h' v, u.pre.programData bridgeHandler = some (.bridgeHandler h) ∧
      u.post.programData bridgeHandler = some (.bridgeHandler h') ∧
      ApprovalsAt rt u.pre.programData bridgeHandler p.msgHash p.verifiedSignatures v ∧
      ChargedOrWaited u.pre.clock v.createdAt value h h' := by
  have hpays := paysFrom_of_valued paid
  obtain ⟨pre, label, post⟩ := u
  unfold paysFrom at hpays
  cases label with
  | other => cases hpays
  | call call returned =>
      simp only [Option.any_eq_true, decide_eq_true_eq] at hpays
      obtain ⟨x, kind, rfl⟩ := hpays
      obtain ⟨_, _, h, _, _, _, _, heq, payout, -⟩ :=
        payout_of_pays step (p := x) ⟨call, returned, rfl, kind⟩
      have stored := payout.handler.stored
      obtain ⟨h', stored', -⟩ := identity_kept step stored
      cases budget_step step stored stored' (solana h stored) with
      | same unpaid => simp [unpaid] at paid
      | updated unpaid => simp [unpaid] at paid
      | paid paid' approvals charge =>
          obtain ⟨rfl, rfl⟩ := Prod.mk.inj (Option.some.inj (paid.symm.trans paid'))
          exact ⟨h, h', _, stored, stored', approvals, charge⟩

omit [DecidableEq Hash] in
theorem chargedIn_of_charged {u : LedgerTransition Pubkey Hash} {h h' : BridgeHandler Pubkey}
    {value : UInt64} (stored : u.pre.programData bridgeHandler = some (.bridgeHandler h))
    (stored' : u.post.programData bridgeHandler = some (.bridgeHandler h'))
    (pays : paysFrom bridgeHandler u.label = true)
    (fits : value ≤ budgetLeft u.pre.clock.epoch h)
    (left : budgetLeft u.pre.clock.epoch h' = budgetLeft u.pre.clock.epoch h - value) :
    chargedIn u.pre.clock.epoch bridgeHandler u = value.toNat := by
  rw [chargedIn, if_pos ⟨rfl, pays⟩, budgetAt_of_stored stored, budgetAt_of_stored stored', left,
    UInt64.toNat_sub_of_le _ _ fits]
  rw [UInt64.le_iff_toNat_le] at fits
  omega

/-- What the accounting of the instant cap of a handler comes to in an epoch. -/
structure CapAccounting (rt : Runtime Pubkey Hash) (bridgeHandler : Pubkey) (epoch : UInt64)
    (trace : List (LedgerTransition Pubkey Hash)) : Prop where
  /-- Every payout of SOL or of a listed mint is charged all of its dollar value, or
  has waited. -/
  charged_or_waited : ∀ before u after call returned p, trace = before ++ u :: after →
    u.pre.clock.epoch = epoch → u.label = .call call returned → payout? call.ix = some p →
    p.bridgeHandler = bridgeHandler → IsCapped rt call.ix →
    ∃ value, dollarValue? rt u.pre call.ix = some value ∧
      (chargedIn epoch bridgeHandler u = value.toNat ∨
        WaitedSince before bridgeHandler p.msgHash u)
  /-- All charges together stay within the cap. -/
  within_cap : (trace.map (chargedIn epoch bridgeHandler)).sum ≤ solanaDollarCapPerEpoch.toNat

/-- The instant cap of a Solana handler in an epoch in which the manager does not
set it. -/
theorem instant_cap_accounting (collisionFree : CollisionFree rt) (genesis : Genesis s₀)
    (run : LedgerRun rt s₀ trace s) (monotone : ClockMonotone trace) {h : BridgeHandler Pubkey}
    (handler : HandlerAt rt s.programData bridgeHandler h) (chain : h.chain = .solana)
    (unset : ∀ u ∈ trace, u.pre.clock.epoch = epoch → ¬ UpdatesCap bridgeHandler u.label) :
    CapAccounting rt bridgeHandler epoch trace where
  charged_or_waited := by
    rintro before ⟨pre, _, post⟩ after call returned p rfl rfl rfl kind rfl capped
    obtain ⟨hbefore, hstep, hafter⟩ := run.split_at
    obtain ⟨value, hvalue⟩ : ∃ value, dollarValue? rt pre call.ix = some value := by
      cases hstep with
      | call executed =>
          obtain ⟨q, pays⟩ := paysWith_of_executed kind executed
          exact exists_dollarValue pays capped
    refine ⟨value, hvalue, ?_⟩
    have paid : valuedPayout? rt p.bridgeHandler ⟨pre, .call call returned, post⟩ =
        some (p, value) := by
      rw [valuedPayout_eq kind rfl, hvalue, Option.map_some]
    have hsolana := onSolana_of_run (.cons hstep hafter) handler chain
    obtain ⟨x, x', v, stored, stored', approvals, charge⟩ :=
      budgetStep_of_valued hstep hsolana paid
    cases charge with
    | charged fits left =>
        exact .inl (chargedIn_of_charged stored stored' (paysFrom_of_valued paid) fits left)
    | waited exceeded wait left =>
        refine .inr fun w hw records => ?_
        have hcreated := records_le_createdAt collisionFree genesis hbefore
          (fun w hw => monotone w (List.mem_append_left _ hw)) approvals w hw records
        rw [UInt64.le_iff_toNat_le] at hcreated
        omega
  within_cap := sum_chargedIn_le genesis run monotone handler chain unset

theorem clock_callTrace {calls : List (Call Pubkey Hash)}
    (succeed : (executeAll rt s calls).isOk = true) {u : LedgerTransition Pubkey Hash}
    (hu : u ∈ callTrace rt s calls) : u.pre.clock = s.clock ∧ u.post.clock = s.clock := by
  refine (run_callTrace succeed).invariant_of_mem (fun x => x.clock = s.clock) ?_ rfl hu
  intro w hw next hpre
  obtain ⟨call, -, returned, hlabel⟩ := exists_call_of_mem succeed hw
  rw [hlabel] at next
  rw [clock_of_call next, hpre]

theorem clockMonotone_callTrace {calls : List (Call Pubkey Hash)}
    (succeed : (executeAll rt s calls).isOk = true) : ClockMonotone (callTrace rt s calls) := by
  intro u hu
  obtain ⟨hpre, hpost⟩ := clock_callTrace succeed hu
  rw [hpre, hpost]
  exact ⟨UInt64.le_refl _, UInt64.le_refl _⟩

theorem unset_callTrace {calls : List (Call Pubkey Hash)}
    (succeed : (executeAll rt s calls).isOk = true)
    (others : ∀ call ∈ calls, ∀ a cap, call.ix ≠ .updateInstantBridgeCap a cap)
    {u : LedgerTransition Pubkey Hash} (hu : u ∈ callTrace rt s calls) :
    ¬ UpdatesCap bridgeHandler u.label := by
  intro updates
  obtain ⟨call, hcall, returned, hlabel⟩ := exists_call_of_mem succeed hu
  rw [hlabel] at updates
  obtain ⟨a, cap, ix, -⟩ := updates
  exact others call hcall a cap ix

theorem instant_cap_accounting_sample :
    ∃ trace, trace ≠ [] ∧ CapAccounting (symbolicRuntime false) (handlerKey 7) 0 trace := by
  let rt := symbolicRuntime false
  let calls := fundedApproval ++ [samplePayment]
  have hok : (executeAll rt sampleLedger calls).isOk = true := by decide +kernel
  obtain ⟨h, handler, hchain⟩ := exists_handlerAt false (stateAfter rt sampleLedger calls)
    (handlerKey 7) (fun h => h.chain = .solana) (by decide +kernel)
  refine ⟨callTrace rt sampleLedger calls, ?_,
    instant_cap_accounting (symbolicRuntime_collisionFree false) (genesis_ledgerOf _)
      (run_callTrace hok) (clockMonotone_callTrace hok) handler (of_decide_eq_true hchain)
      fun u hu _ => unset_callTrace hok ?_ hu⟩
  · obtain ⟨u, hu, -⟩ := exists_transition_of_mem hok
      (List.mem_append_right _ (List.mem_singleton_self samplePayment))
    exact List.ne_nil_of_mem hu
  · simp [calls, fundedApproval, samplePayment, initializeBy, addGuardianBy, updateThresholdBy,
      verifyBy, bridgeSolBy, paySolBy, callBy]

omit [DecidableEq Pubkey] [DecidableEq Hash] in
/-- A payout comes before the awaiting time after its approvals is over. -/
def beforeWait (u : LedgerTransition Pubkey Hash) (p : PayoutCall Pubkey Hash) : Bool :=
  match u.pre.programData p.verifiedSignatures with
  | some (.verifiedSignatures v) =>
      u.pre.clock.unixTimestamp.toNat <
        v.createdAt.toNat + solanaPostInstantCapAwaitingTimeSeconds.toNat
  | _ => false

omit [DecidableEq Hash] in
/-- The dollar value of a payout of the handler that has not waited. -/
def instantValue (rt : Runtime Pubkey Hash) (bridgeHandler : Pubkey)
    (u : LedgerTransition Pubkey Hash) : ℕ :=
  match valuedPayout? rt bridgeHandler u with
  | some (p, value) => if beforeWait u p then value.toNat else 0
  | none => 0

theorem instantValue_add_le {u : LedgerTransition Pubkey Hash}
    (step : LedgerStep rt u.pre u.label u.post) {h : BridgeHandler Pubkey}
    (stored : u.pre.programData bridgeHandler = some (.bridgeHandler h))
    (chain : h.chain = .solana) (hepoch : u.pre.clock.epoch = epoch)
    (unset : ¬ UpdatesCap bridgeHandler u.label) :
    instantValue rt bridgeHandler u + (budgetAt epoch u.post bridgeHandler).toNat ≤
      (budgetAt epoch u.pre bridgeHandler).toNat := by
  subst hepoch
  obtain ⟨h', stored', -⟩ := identity_kept step stored
  rw [budgetAt_of_stored stored, budgetAt_of_stored stored', instantValue]
  cases budget_step step stored stored' chain with
  | same unpaid remained hstored =>
      rw [unpaid, budgetLeft, budgetLeft, remained, hstored]
      simp
  | updated unpaid updates => exact absurd updates unset
  | @paid p value v paid approvals charge hstored =>
      rw [paid]
      cases charge with
      | charged fits left =>
          have hleft := UInt64.toNat_sub_of_le _ _ fits
          rw [UInt64.le_iff_toNat_le] at fits
          rw [left]
          dsimp only at fits hleft ⊢
          split_ifs <;> omega
      | waited exceeded wait left =>
          have hwaited : beforeWait u p = false := by
            simp only [beforeWait, approvals.stored, decide_eq_false_iff_not]
            exact Nat.not_lt.mpr wait
          simp [hwaited, left]

/-- A cap that the manager sets binds the instant payouts of the rest of the epoch,
if the handler had begun the epoch before or the cap is not below the full one. -/
theorem manager_cap_binds {call : Call Pubkey Hash} {returned : Option UInt64}
    {s'' : State Pubkey Hash} {a : UpdateInstantBridgeCap Pubkey} {cap : UInt64}
    {h : BridgeHandler Pubkey} (ix : call.ix = .updateInstantBridgeCap a cap)
    (executed : execute rt s call = .ok (s', returned))
    (handler : HandlerAt rt s.programData a.bridgeHandler h) (chain : h.chain = .solana)
    (current : h.instantBridgeCapEpoch = s.clock.epoch ∨ solanaDollarCapPerEpoch ≤ cap)
    (run : LedgerRun rt s' trace s'') (stays : ∀ u ∈ trace, u.pre.clock.epoch = s.clock.epoch)
    (unset : ∀ u ∈ trace, ¬ UpdatesCap a.bridgeHandler u.label) :
    (trace.map (instantValue rt a.bridgeHandler)).sum ≤ cap.toNat := by
  have hupdated : s'.programData a.bridgeHandler =
      some (.bridgeHandler { h with instantBridgeCapRemainedDollar := cap }) := by
    have step := (execute_refines executed).1
    generalize s'.programData = r' at step
    cases step with
    | @managed _ manager bridgeHandler f x x' kind signed handler' manager_eq updated =>
        rw [ix] at kind
        obtain ⟨rfl, rfl, rfl⟩ := by simpa [managerUpdate?] using kind
        obtain rfl := pure_eq_ok.mp updated
        obtain rfl : x = h := handler'.unique handler
        exact Function.update_self ..
    | tokenPause kind => simp [tokenPause?, ix] at kind
    | payout kind => simp [payout?, ix] at kind
    | _ => cases ix
  have hstored : ∀ u ∈ trace, ∃ x, u.pre.programData a.bridgeHandler = some (.bridgeHandler x) ∧
      x.chain = .solana := by
    intro u hu
    obtain ⟨before, after, rfl⟩ := List.append_of_mem hu
    obtain ⟨x, hx, hidentity⟩ := identity_kept_run run.split_at.1 hupdated
    exact ⟨x, hx, hidentity.chain.trans chain⟩
  have hsum := run.sum_cost_le
    (fun x => (budgetAt s.clock.epoch x a.bridgeHandler).toNat)
    (instantValue rt a.bridgeHandler) (by
      intro u hu next
      obtain ⟨x, stored, hx⟩ := hstored u hu
      exact instantValue_add_le next stored hx (stays u hu) (unset u hu))
  have hinit : (budgetAt s.clock.epoch s' a.bridgeHandler).toNat ≤ cap.toNat := by
    rw [budgetAt_of_stored hupdated, budgetLeft]
    rw [UInt64.le_iff_toNat_le] at current
    split_ifs with hepoch
    · exact Nat.le_refl _
    · exact current.resolve_left hepoch
  omega

theorem manager_cap_binds_sample :
    let s := stateAfter (symbolicRuntime false) sampleLedger fundedApproval
    ∃ s' returned, execute (symbolicRuntime false) s (updateCapBy (.atom 5) (handlerKey 7) 3) =
        .ok (s', returned) ∧
      ((callTrace (symbolicRuntime false) s' [samplePayment]).map
        (instantValue (symbolicRuntime false) (handlerKey 7))).sum ≤ (3 : UInt64).toNat := by
  intro s
  let rt := symbolicRuntime false
  let update := updateCapBy (.atom 5) (handlerKey 7) 3
  obtain ⟨returned, hstep⟩ := exists_step_of_executeAll rt s update (by decide +kernel)
  have hpaid : (executeAll rt (stateAfter rt s [update]) [samplePayment]).isOk = true := by
    decide +kernel
  obtain ⟨h, handler, hh⟩ := exists_handlerAt false s (handlerKey 7)
    (fun h => h.chain = .solana ∧ h.instantBridgeCapEpoch = s.clock.epoch) (by decide +kernel)
  obtain ⟨hchain, hepoch⟩ := of_decide_eq_true hh
  generalize stateAfter rt s [update] = s' at hstep hpaid
  have hclock := clock_of_call hstep
  clear_value s
  cases hstep with
  | call executed =>
      refine ⟨s', returned, executed, manager_cap_binds rfl executed handler hchain (.inl hepoch)
        (run_callTrace hpaid) ?_ ?_⟩
      · intro u hu
        rw [(clock_callTrace hpaid hu).1, hclock]
      · intro u hu
        exact unset_callTrace hpaid (by simp [samplePayment, paySolBy, callBy]) hu

/-- A new epoch begins on the ledger. -/
def nextEpoch (s : State Key Digest) : State Key Digest :=
  { s with clock := { s.clock with epoch := s.clock.epoch + 1 } }

theorem otherChange_nextEpoch (s : State Key Digest) : OtherChange s (nextEpoch s) :=
  ⟨rfl, fun _ _ => Nat.le_refl _⟩

/-- In a new epoch the manager sets the cap to 0, and then a payout worth a dollar
is made at once. -/
theorem stale_epoch_overrides_cap :
    ¬ ∀ s, LedgerReachable (symbolicRuntime false) s →
      ∀ call a cap s' returned h, call.ix = .updateInstantBridgeCap a cap →
        execute (symbolicRuntime false) s call = .ok (s', returned) →
        HandlerAt (symbolicRuntime false) s.programData a.bridgeHandler h → h.chain = .solana →
        ∀ trace s'', LedgerRun (symbolicRuntime false) s' trace s'' →
          (∀ u ∈ trace, u.pre.clock.epoch = s.clock.epoch) →
          (∀ u ∈ trace, ¬ UpdatesCap a.bridgeHandler u.label) →
          (trace.map (instantValue (symbolicRuntime false) a.bridgeHandler)).sum ≤
            cap.toNat := by
  intro binds
  let rt := symbolicRuntime false
  let s := nextEpoch (stateAfter rt sampleLedger fundedApproval)
  let update := updateCapBy (.atom 5) (handlerKey 7) 0
  have hreachable : LedgerReachable rt s :=
    Reachable.next ⟨sampleLedger, _, genesis_ledgerOf _, run_callTrace fundedApproval_isOk⟩
      (.other (otherChange_nextEpoch _))
  obtain ⟨returned, hstep⟩ := exists_step_of_executeAll rt s update (by decide +kernel)
  obtain ⟨h, handler, hchain⟩ := exists_handlerAt false s (handlerKey 7)
    (fun h => h.chain = .solana) (by decide +kernel)
  have hpaid : (executeAll rt (stateAfter rt s [update]) [samplePayment]).isOk = true := by
    decide +kernel
  have hsum : ((callTrace rt (stateAfter rt s [update]) [samplePayment]).map
      (instantValue rt (handlerKey 7))).sum = 1 := by
    decide +kernel
  generalize stateAfter rt s [update] = s' at hstep hpaid hsum
  have hclock := clock_of_call hstep
  clear_value s
  cases hstep with
  | call executed =>
      have hbound := binds s hreachable update _ 0 s' returned h rfl executed handler
        (of_decide_eq_true hchain) _ _ (run_callTrace hpaid)
        (fun u hu => by rw [(clock_callTrace hpaid hu).1, hclock])
        (fun u hu => unset_callTrace hpaid (by simp [samplePayment, paySolBy, callBy]) hu)
      rw [hsum] at hbound
      exact absurd hbound (by decide)

end BridgeProgram.InstantCapRuns
