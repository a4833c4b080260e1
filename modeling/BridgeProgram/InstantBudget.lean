import BridgeProgram.InstantCapCharges
import BridgeProgram.LedgerInvariants

namespace BridgeProgram.InstantBudget

open BridgeProgram.BridgeProgramEntry
open BridgeProgram.CheckedResult
open BridgeProgram.HandlerInstructions
open BridgeProgram.InstantCapCharges
open BridgeProgram.LedgerInvariants
open BridgeProgram.PayoutSteps
open BridgeProgram.ProgramStates
open BridgeProgram.RegistryCells
open BridgeProgram.RegistryModel
open BridgeProgram.RegistryRefinement
open BridgeProgram.SolanaRuntime
open BridgeProgram.TargetInstructions
open BridgeProgram.TransitionRuns

variable {Pubkey Hash : Type}

/-- What is left of the instant cap in an epoch. A rest that is stored for another
epoch counts as the full cap, to which the next charge resets it. -/
def budgetLeft (epoch : UInt64) (h : BridgeHandler Pubkey) : UInt64 :=
  if h.instantBridgeCapEpoch = epoch then h.instantBridgeCapRemainedDollar
  else solanaDollarCapPerEpoch

variable {clock : Clock} {createdAt value : UInt64} {h h' : BridgeHandler Pubkey}

theorem resetInstantCap_left :
    (resetInstantCap clock h).instantBridgeCapRemainedDollar = budgetLeft clock.epoch h := by
  unfold resetInstantCap budgetLeft
  by_cases hepoch : h.instantBridgeCapEpoch = clock.epoch
  · rw [if_neg (not_not.mpr hepoch), if_pos hepoch]
  · rw [if_pos hepoch, if_neg hepoch]

/-- A charge takes the value from the budget, or the payout has waited. -/
inductive ChargedOrWaited (clock : Clock) (createdAt value : UInt64)
    (h h' : BridgeHandler Pubkey) : Prop
  | charged (fits : value ≤ budgetLeft clock.epoch h)
      (left : budgetLeft clock.epoch h' = budgetLeft clock.epoch h - value)
  | waited (exceeded : budgetLeft clock.epoch h < value)
      (wait : createdAt.toNat + solanaPostInstantCapAwaitingTimeSeconds.toNat ≤
        clock.unixTimestamp.toNat)
      (left : budgetLeft clock.epoch h' = budgetLeft clock.epoch h)

theorem chargedOrWaited_of_charge
    (charged : chargeInstantCap clock createdAt value h = .ok h') :
    ChargedOrWaited clock createdAt value h h' ∧ h'.instantBridgeCapEpoch = clock.epoch := by
  have hepoch := resetInstantCap_epoch clock h
  simp only [chargeInstantCap] at charged
  split at charged
  next hless =>
      simp only [bind_eq_ok, require_eq_ok, pure_eq_ok, checkedSub_eq_ok] at charged
      obtain ⟨_, ⟨hle, rfl⟩, -, hwait, rfl⟩ := charged
      rw [resetInstantCap_left] at hless
      refine ⟨.waited hless (by omega) ?_, hepoch⟩
      rw [budgetLeft, if_pos hepoch, resetInstantCap_left]
  next hless =>
      obtain rfl := pure_eq_ok.mp charged
      rw [resetInstantCap_left] at hless
      refine ⟨.charged (UInt64.not_lt.mp hless) ?_, hepoch⟩
      rw [budgetLeft, if_pos hepoch, resetInstantCap_left]

/-- The dollar value of a payout, cast to `u64`; a token payout has one when its
mint is listed. -/
def dollarValue? (rt : Runtime Pubkey Hash) (s : State Pubkey Hash) :
    Instruction Pubkey Hash → Option UInt64
  | .bridgeAssetTargetChain a _ _ _ _ receiveAmount _ _ =>
      match s.data a.mint with
      | .mint _ m => getWhitelistedTokenPrice rt a.mint receiveAmount m.decimals
      | _ => none
  | .bridgeAssetTargetChainSol _ _ _ _ receiveAmount _ => some (rt.solDollarValue receiveAmount)
  | _ => none

variable [DecidableEq Pubkey]

/-- The payout of a handler that a transition makes, with its dollar value. -/
def valuedPayout? (rt : Runtime Pubkey Hash) (bridgeHandler : Pubkey)
    (u : LedgerTransition Pubkey Hash) : Option (PayoutCall Pubkey Hash × UInt64) :=
  match u.label with
  | .call call _ =>
      (payout? call.ix).bind fun p =>
        if p.bridgeHandler = bridgeHandler then
          (dollarValue? rt u.pre call.ix).map fun value => (p, value)
        else none
  | .other => none

variable {rt : Runtime Pubkey Hash} {s s' : State Pubkey Hash}
  {call : Call Pubkey Hash} {p : PayoutCall Pubkey Hash} {q : PayoutQuote Pubkey}

theorem capValue_of_pays (pays : PaysWith rt s call p q s')
    (chain : q.handler.chain = .solana) :
    capValue rt q.handler.chain q.decimals call.ix = dollarValue? rt s call.ix := by
  cases hix : call.ix with
  | bridgeAssetTargetChain a msgHash sourceTxId sender sourceMint amount nonce gas =>
      obtain ⟨m, hmint, hdecimals⟩ := (pays.terms (a := a) (by rw [hix]; rfl)).mint
      simp only [capValue, dollarValue?, hmint, hdecimals, if_pos chain]
  | bridgeAssetTargetChainSol => simp only [capValue, dollarValue?, if_pos chain]
  | _ =>
      have kind := pays.1
      simp [hix, payout?] at kind

/-- The payouts that the instant cap of a Solana handler is about: SOL and listed
mints. -/
def IsCapped (rt : Runtime Pubkey Hash) : Instruction Pubkey Hash → Prop
  | .bridgeAssetTargetChain a .. => isTokenWhitelisted (rt.pubkeyBytes a.mint) = true
  | .bridgeAssetTargetChainSol .. => True
  | _ => False

theorem exists_dollarValue (pays : PaysWith rt s call p q s')
    (capped : IsCapped rt call.ix) : ∃ value, dollarValue? rt s call.ix = some value := by
  cases hix : call.ix with
  | bridgeAssetTargetChain a msgHash sourceTxId sender sourceMint amount nonce gas =>
      obtain ⟨m, hmint, -⟩ := (pays.terms (a := a) (by rw [hix]; rfl)).mint
      rw [hix, IsCapped, ← isSome_tokenPrice rt a.mint amount m.decimals] at capped
      simp only [dollarValue?, hmint]
      exact Option.isSome_iff_exists.mp capped
  | bridgeAssetTargetChainSol => exact ⟨_, rfl⟩
  | _ =>
      have kind := pays.1
      simp [hix, payout?] at kind

/-- A successful `update_instant_bridge_cap` of the handler. -/
def UpdatesCap (bridgeHandler : Pubkey) : Event Pubkey Hash → Prop
  | .call call _ =>
      ∃ a cap, call.ix = .updateInstantBridgeCap a cap ∧ a.bridgeHandler = bridgeHandler
  | .other => False

/-- What a transition does to the budget of a handler. -/
inductive BudgetStep (rt : Runtime Pubkey Hash) (bridgeHandler : Pubkey)
    (u : LedgerTransition Pubkey Hash) (h h' : BridgeHandler Pubkey) : Prop
  | same (unpaid : valuedPayout? rt bridgeHandler u = none)
      (remained : h'.instantBridgeCapRemainedDollar = h.instantBridgeCapRemainedDollar)
      (epoch : h'.instantBridgeCapEpoch = h.instantBridgeCapEpoch)
  | updated (unpaid : valuedPayout? rt bridgeHandler u = none)
      (updates : UpdatesCap bridgeHandler u.label)
      (epoch : h'.instantBridgeCapEpoch = h.instantBridgeCapEpoch)
  | paid {p : PayoutCall Pubkey Hash} {value : UInt64} {v : VerifiedSignatures}
      (paid : valuedPayout? rt bridgeHandler u = some (p, value))
      (approvals : ApprovalsAt rt u.pre.programData bridgeHandler p.msgHash
        p.verifiedSignatures v)
      (charge : ChargedOrWaited u.pre.clock v.createdAt value h h')
      (epoch : h'.instantBridgeCapEpoch = u.pre.clock.epoch)

variable {bridgeHandler : Pubkey}

theorem valuedPayout_eq_none {returned : Option UInt64}
    (other : ¬ ∃ p, payout? call.ix = some p ∧ p.bridgeHandler = bridgeHandler) :
    valuedPayout? rt bridgeHandler ⟨s, .call call returned, s'⟩ = none := by
  simp only [valuedPayout?]
  cases hkind : payout? call.ix with
  | none => rfl
  | some p =>
      rw [Option.bind_some, if_neg fun hp => other ⟨p, hkind, hp⟩]

theorem valuedPayout_eq {returned : Option UInt64} (kind : payout? call.ix = some p)
    (handler : p.bridgeHandler = bridgeHandler) :
    valuedPayout? rt bridgeHandler ⟨s, .call call returned, s'⟩ =
      (dollarValue? rt s call.ix).map fun value => (p, value) := by
  simp only [valuedPayout?]
  rw [kind, Option.bind_some, if_pos handler]

theorem budgetStep_of_pays (pays : PaysWith rt s call p q s')
    (handler : p.bridgeHandler = bridgeHandler) (chain : q.handler.chain = .solana)
    (returned : Option UInt64) :
    BudgetStep rt bridgeHandler ⟨s, .call call returned, s'⟩ q.handler q.charged := by
  have hcharge := chargeStep_eq_ok.mp pays.charged
  rw [capValue_of_pays pays chain] at hcharge
  have hvalued : valuedPayout? rt bridgeHandler ⟨s, .call call returned, s'⟩ = _ :=
    valuedPayout_eq pays.1 handler
  cases hvalue : dollarValue? rt s call.ix with
  | none =>
      rw [hvalue] at hcharge hvalued
      rw [show q.charged = q.handler from hcharge]
      exact .same hvalued rfl rfl
  | some value =>
      rw [hvalue] at hcharge hvalued
      obtain ⟨charge, hepoch⟩ := chargedOrWaited_of_charge hcharge
      exact .paid hvalued (handler ▸ pays.payout.approvals) charge hepoch

variable [DecidableEq Hash] {event : Event Pubkey Hash}

theorem budget_step (step : LedgerStep rt s event s')
    (stored : s.programData bridgeHandler = some (.bridgeHandler h))
    (stored' : s'.programData bridgeHandler = some (.bridgeHandler h'))
    (chain : h.chain = .solana) : BudgetStep rt bridgeHandler ⟨s, event, s'⟩ h h' := by
  obtain ⟨x, hstored, hchange⟩ := handler_kept step stored
  obtain rfl : x = h' := by simpa using hstored.symm.trans stored'
  cases step with
  | other =>
      obtain rfl := hchange.resolve_right (by rintro ⟨_, _, heq, -⟩; cases heq)
      exact .same rfl rfl rfl
  | @call _ call returned executed =>
      by_cases hpayout : ∃ p, payout? call.ix = some p ∧ p.bridgeHandler = bridgeHandler
      · obtain ⟨p, kind, rfl⟩ := hpayout
        obtain ⟨q, pays⟩ := paysWith_of_executed kind executed
        obtain rfl : q.handler = h := by
          simpa using pays.payout.handler.stored.symm.trans stored
        obtain rfl : q.charged = x := by
          simpa using (programData_eq_some.mpr pays.handler_after).symm.trans stored'
        exact budgetStep_of_pays pays rfl chain returned
      have hunpaid : valuedPayout? rt bridgeHandler ⟨s, .call call returned, s'⟩ = none :=
        valuedPayout_eq_none hpayout
      rcases hchange with rfl | ⟨_, _, heq, change⟩
      · exact .same hunpaid rfl rfl
      obtain ⟨rfl, rfl⟩ := Event.call.inj heq
      cases change with
      | managed kind signed updated =>
          cases hix : call.ix with
          | updateFeeVault a =>
              rw [hix] at kind
              obtain ⟨-, -, rfl⟩ := by simpa [managerUpdate?] using kind
              simp only [updateFeeVault, bind_eq_ok, pure_eq_ok] at updated
              obtain ⟨-, -, rfl⟩ := updated
              exact .same hunpaid rfl rfl
          | updateInstantBridgeCap a cap =>
              rw [hix] at kind
              obtain ⟨-, hhandler, rfl⟩ := by simpa [managerUpdate?] using kind
              obtain rfl := pure_eq_ok.mp updated
              exact .updated hunpaid ⟨a, cap, hix, hhandler⟩ rfl
          | pauseBridge | unpauseBridge | updateFeeInfo | updateOperator | updateManager =>
              rw [hix] at kind
              obtain ⟨-, -, rfl⟩ := by simpa [managerUpdate?] using kind
              obtain rfl := pure_eq_ok.mp updated
              exact .same hunpaid rfl rfl
          | _ =>
              rw [hix] at kind
              simp [managerUpdate?] at kind
      | charged kind handler same => exact absurd ⟨_, kind, handler⟩ hpayout
      | numbered => exact .same hunpaid rfl rfl
      | threshold => exact .same hunpaid rfl rfl

end BridgeProgram.InstantBudget
