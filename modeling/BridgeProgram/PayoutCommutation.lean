import BridgeProgram.PayoutFrames
import BridgeProgram.SymbolicRuntime

/-!
Two approved payouts in either order. Both orders succeed with the same balances
exactly when the payouts stem from different source transactions and neither of
them pays lamports to an account that the other one funds or closes: the proof
account of a payout is chosen by its source transaction alone.
-/

namespace BridgeProgram.PayoutCommutation

open BridgeProgram.AccountEffects
open BridgeProgram.BalanceEffects
open BridgeProgram.BalanceShifts
open BridgeProgram.BridgeProgramEntry
open BridgeProgram.InstantCapCharges
open BridgeProgram.PayoutFrames
open BridgeProgram.PayoutSteps
open BridgeProgram.PayoutTransport
open BridgeProgram.ProgramStates
open BridgeProgram.RegistryModel
open BridgeProgram.SolanaRuntime
open BridgeProgram.SymbolicRuntime
open BridgeProgram.TargetInstructions
open BridgeProgram.TokenInstructions

variable {Pubkey Hash : Type}

/-- The first payout pays no lamports to an account that the second one closes or
has to fund. -/
def LeavesCosts (rt : Runtime Pubkey Hash) (s : State Pubkey Hash)
    (p₁ : PayoutCall Pubkey Hash) (ix₁ : Instruction Pubkey Hash)
    (p₂ : PayoutCall Pubkey Hash) (ix₂ : Instruction Pubkey Hash) : Prop :=
  solAmount ix₁ = 0 ∨
    p₁.recipient ≠ p₂.verifiedSignatures ∧
    (p₁.recipient = p₂.bridgeProof → proofCost rt s p₂ = 0) ∧
    (p₁.recipient = vaultOf p₂ ix₂ → openCost rt s ix₂ = 0)

/-- Both payouts have to fund the same token account. -/
def FundSameVault (rt : Runtime Pubkey Hash) (s : State Pubkey Hash)
    (p₁ : PayoutCall Pubkey Hash) (ix₁ : Instruction Pubkey Hash)
    (p₂ : PayoutCall Pubkey Hash) (ix₂ : Instruction Pubkey Hash) : Prop :=
  vaultOf p₁ ix₁ = vaultOf p₂ ix₂ ∧ openCost rt s ix₁ ≠ 0 ∧ openCost rt s ix₂ ≠ 0

structure Independent (rt : Runtime Pubkey Hash) (s : State Pubkey Hash)
    (p₁ : PayoutCall Pubkey Hash) (ix₁ : Instruction Pubkey Hash)
    (p₂ : PayoutCall Pubkey Hash) (ix₂ : Instruction Pubkey Hash) : Prop where
  transactions : p₁.bridgeHandler = p₂.bridgeHandler → p₁.sourceTxId ≠ p₂.sourceTxId
  first : LeavesCosts rt s p₁ ix₁ p₂ ix₂
  second : LeavesCosts rt s p₂ ix₂ p₁ ix₁
  /-- Whoever comes first funds a common token account; that may be a recipient. -/
  operators : FundSameVault rt s p₁ ix₁ p₂ ix₂ → p₁.operator = p₂.operator ∨
    p₁.recipient ≠ p₁.operator ∧ p₁.recipient ≠ p₂.operator

/-- The balances of the recipients, of the handlers and of all token accounts. -/
structure SameBalances (p₁ p₂ : PayoutCall Pubkey Hash) (s s' : State Pubkey Hash) :
    Prop where
  amounts : amounts s = amounts s'
  lamports : ∀ a ∈ [p₁.recipient, p₂.recipient, p₁.bridgeHandler, p₂.bridgeHandler],
    s.lamports a = s'.lamports a

variable [DecidableEq Pubkey] {rt : Runtime Pubkey Hash} {s s₁ s₂ z z' : State Pubkey Hash}
  {c₁ c₂ : Call Pubkey Hash} {p₁ p₂ : PayoutCall Pubkey Hash}
  {q₁ q₂ q₁' q₂' : PayoutQuote Pubkey}

theorem apart_of_requests (collisionFree : CollisionFree rt)
    (injective : Function.Injective rt.hash) (pays₁ : PaysWith rt s c₁ p₁ q₁ s₁)
    (pays₂ : PaysWith rt s c₂ p₂ q₂ s₂) (differ : p₁.msgHash ≠ p₂.msgHash)
    (transactions : p₁.bridgeHandler = p₂.bridgeHandler → p₁.sourceTxId ≠ p₂.sourceTxId) :
    Apart p₁ p₂ := by
  constructor
  · intro heq
    have hproof := pays₁.proof_address
    rw [heq] at hproof
    obtain ⟨hseeds, -⟩ := collisionFree _ _ _ _ _ hproof pays₂.proof_address
    obtain ⟨hhandler, hhash⟩ := Seeds.bridgeProofTarget.inj hseeds
    exact transactions hhandler (Vector.toList_inj.mp (injective hhash))
  · intro heq
    have happrovals := pays₁.payout.approvals.address
    rw [heq] at happrovals
    obtain ⟨hseeds, -⟩ := collisionFree _ _ _ _ _ happrovals pays₂.payout.approvals.address
    exact differ (Seeds.verifiedSignatures.inj hseeds).2

theorem second_pays (assoc : AssociatedAddresses rt) (apart : Apart p₁ p₂)
    (key₁ : HasKey rt p₁.operator) (key₂ : HasKey rt p₂.operator)
    (pays₁ : PaysWith rt s c₁ p₁ q₁ s₁) (pays₂ : PaysWith rt s c₂ p₂ q₂ s₂)
    (suffices' : SufficesAfter rt s p₁ c₁.ix (PayoutQuote.sources q₁) p₂ c₂.ix
      (PayoutQuote.sources q₂)) :
    ∃ q z, PaysWith rt s₁ c₂ p₂ q z ∧ q.handler.chain = q₂.handler.chain ∧
      q.token = q₂.token := by
  obtain ⟨h, h', hstored, hsame, hcharge⟩ := handler_after pays₁ pays₂ suffices'
  have ready := ready_after assoc apart key₁ key₂ pays₁ pays₂ suffices' hstored hsame hcharge
  obtain ⟨kind, u₁, u₂, u₃, u₄, run⟩ := pays₂
  obtain ⟨z₁, z₂, z₃, z₄, z, run'⟩ := ready.payoutRun kind run
  exact ⟨_, z, ⟨kind, z₁, z₂, z₃, z₄, run'⟩, hsame.chain, rfl⟩

theorem proofCost_after (assoc : AssociatedAddresses rt) (apart : Apart p₁ p₂)
    (key₁ : HasKey rt p₁.operator) (pays₁ : PaysWith rt s c₁ p₁ q₁ s₁)
    (pays₂ : PaysWith rt s c₂ p₂ q₂ s₂) (leaves : LeavesCosts rt s p₁ c₁.ix p₂ c₂.ix) :
    proofCost rt s₁ p₂ = proofCost rt s p₂ := by
  have hlamports := (proof_bystander assoc apart key₁ pays₁ pays₂).lamports pays₁
  rcases leaves with hzero | ⟨-, hproof, -⟩
  · rw [hzero, ite_self, Nat.add_zero] at hlamports
    rw [proofCost, proofCost, topUp, topUp, hlamports]
  · by_cases heq : p₁.recipient = p₂.bridgeProof
    · have hcost := hproof heq
      unfold proofCost topUp at hcost ⊢
      omega
    · rw [if_neg (Ne.symm heq), Nat.add_zero] at hlamports
      rw [proofCost, proofCost, topUp, topUp, hlamports]

theorem refund_after (assoc : AssociatedAddresses rt) (apart : Apart p₁ p₂)
    (pays₁ : PaysWith rt s c₁ p₁ q₁ s₁)
    (pays₂ : PaysWith rt s c₂ p₂ q₂ s₂) (leaves : LeavesCosts rt s p₁ c₁.ix p₂ c₂.ix) :
    refund s₁ p₂ c₂.ix = refund s p₂ c₂.ix := by
  have hlamports := (approvals_bystander assoc apart pays₁ pays₂).lamports pays₁
  have hsame : s₁.lamports p₂.verifiedSignatures = s.lamports p₂.verifiedSignatures := by
    rcases leaves with hzero | ⟨hne, -⟩
    · rw [hlamports, hzero, ite_self, Nat.add_zero]
    · rw [hlamports, if_neg (Ne.symm hne), Nat.add_zero]
  rw [refund, refund, hsame]

theorem vault_after (assoc : AssociatedAddresses rt) (key₁ : HasKey rt p₁.operator)
    (pays₁ : PaysWith rt s c₁ p₁ q₁ s₁) (pays₂ : PaysWith rt s c₂ p₂ q₂ s₂)
    {x : BridgeAssetTargetChain Pubkey} {amount : UInt64}
    (token : tokenPayment? c₂.ix = some (x, amount))
    (hsystem : s.data x.recipientVault = .system)
    (hne : ∀ y amount', tokenPayment? c₁.ix = some (y, amount') →
      x.recipientVault ≠ y.recipientVault) :
    s₁.data x.recipientVault = .system ∧
      s₁.lamports x.recipientVault = s.lamports x.recipientVault +
        if x.recipientVault = p₁.recipient then solAmount c₁.ix else 0 := by
  refine ⟨?_, (vault_bystander assoc key₁ pays₁ pays₂ token hsystem hne).lamports pays₁⟩
  rw [← data_eq_system, pays₁.shape_of_system hsystem (vault_ne_proof assoc pays₁ pays₂ token),
    openShape_of_ne hne, data_eq_system]
  exact hsystem

theorem openCost_after_shared (assoc : AssociatedAddresses rt)
    (pays₁ : PaysWith rt s c₁ p₁ q₁ s₁) (pays₂ : PaysWith rt s c₂ p₂ q₂ s₂)
    {x y : BridgeAssetTargetChain Pubkey} {amount amount' : UInt64}
    (token₁ : tokenPayment? c₁.ix = some (x, amount))
    (token₂ : tokenPayment? c₂.ix = some (y, amount'))
    (hsystem : s.data y.recipientVault = .system) (heq : x.recipientVault = y.recipientVault) :
    openCost rt s₁ c₂.ix = 0 ∧ openCost rt s c₁.ix = openCost rt s c₂.ix := by
  obtain ⟨-, hmint, -⟩ := same_vault assoc pays₁ pays₂ token₁ token₂ heq
  have hsystem' : s.data x.recipientVault = .system := heq ▸ hsystem
  constructor
  · have hshape := pays₁.shape_of_system hsystem (vault_ne_proof assoc pays₁ pays₂ token₂)
    rw [← heq, openShape_vault token₁ (data_eq_system.mpr hsystem')] at hshape
    by_contra hcost
    obtain ⟨y', amount'', htoken, hfree⟩ := openCost_ne_zero hcost
    obtain ⟨rfl, -⟩ := Prod.mk.inj (Option.some.inj (htoken.symm.trans token₂))
    rw [heq, data_eq_system.mpr hfree] at hshape
    cases hshape
  · rw [openCost_of_system token₁ hsystem', openCost_of_system token₂ hsystem, heq, hmint]

theorem openCost_after (assoc : AssociatedAddresses rt) (key₁ : HasKey rt p₁.operator)
    (pays₁ : PaysWith rt s c₁ p₁ q₁ s₁) (pays₂ : PaysWith rt s c₂ p₂ q₂ s₂)
    (leaves : LeavesCosts rt s p₁ c₁.ix p₂ c₂.ix)
    (notShared : ¬ FundSameVault rt s p₁ c₁.ix p₂ c₂.ix) :
    openCost rt s₁ c₂.ix = openCost rt s c₂.ix := by
  by_cases hcost : openCost rt s c₂.ix = 0
  · have hle := openCost_le key₁ pays₁ pays₂
    omega
  · obtain ⟨x, amount, htoken, hsystem⟩ := openCost_ne_zero hcost
    have hne : ∀ y amount', tokenPayment? c₁.ix = some (y, amount') →
        x.recipientVault ≠ y.recipientVault := by
      intro y amount' htoken' heq
      obtain ⟨-, hsame⟩ := openCost_after_shared assoc pays₁ pays₂ htoken' htoken hsystem heq.symm
      refine notShared ⟨?_, by rw [hsame]; exact hcost, hcost⟩
      rw [vaultOf_eq htoken', vaultOf_eq htoken, heq]
    obtain ⟨hfree, hlamports⟩ := vault_after assoc key₁ pays₁ pays₂ htoken hsystem hne
    rw [openCost_of_system htoken hfree, openCost_of_system htoken hsystem, topUp, topUp,
      hlamports]
    rcases leaves with hzero | ⟨-, -, hvault⟩
    · rw [hzero, ite_self, Nat.add_zero]
    · rw [if_neg, Nat.add_zero]
      intro heq
      exact hcost (hvault (by rw [vaultOf_eq htoken, heq]))

/-- Both orders of two payouts, from `s` to `z` and to `z'`. -/
structure Square (rt : Runtime Pubkey Hash) (s : State Pubkey Hash) (c₁ c₂ : Call Pubkey Hash)
    (p₁ p₂ : PayoutCall Pubkey Hash) (q₁ q₂ q₁' q₂' : PayoutQuote Pubkey)
    (s₁ s₂ z z' : State Pubkey Hash) : Prop where
  apart : Apart p₁ p₂
  key₁ : HasKey rt p₁.operator
  key₂ : HasKey rt p₂.operator
  pays₁ : PaysWith rt s c₁ p₁ q₁ s₁
  pays₂ : PaysWith rt s c₂ p₂ q₂ s₂
  second₂ : PaysWith rt s₁ c₂ p₂ q₂' z
  second₁ : PaysWith rt s₂ c₁ p₁ q₁' z'
  chain₁ : q₁'.handler.chain = q₁.handler.chain
  chain₂ : q₂'.handler.chain = q₂.handler.chain

theorem Square.symm (sq : Square rt s c₁ c₂ p₁ p₂ q₁ q₂ q₁' q₂' s₁ s₂ z z') :
    Square rt s c₂ c₁ p₂ p₁ q₂ q₁ q₂' q₁' s₂ s₁ z' z :=
  ⟨sq.apart.symm, sq.key₂, sq.key₁, sq.pays₂, sq.pays₁, sq.second₁, sq.second₂, sq.chain₂,
    sq.chain₁⟩

theorem Square.lamports (assoc : AssociatedAddresses rt)
    (sq : Square rt s c₁ c₂ p₁ p₂ q₁ q₂ q₁' q₂' s₁ s₂ z z')
    (leaves : LeavesCosts rt s p₁ c₁.ix p₂ c₂.ix) :
    Shifted s.lamports z.lamports (payoutShift rt s q₁.handler.chain p₁ c₁.ix +
      (payoutShift rt s q₂.handler.chain p₂ c₂.ix +
        (moved p₂.operator (vaultOf p₂ c₂.ix) (openCost rt s₁ c₂.ix) -
          moved p₂.operator (vaultOf p₂ c₂.ix) (openCost rt s c₂.ix)))) := by
  have hshift := sq.pays₁.moves.1.lamports.trans sq.second₂.moves.1.lamports
  have hsame : payoutShift rt s₁ q₂'.handler.chain p₂ c₂.ix =
      payoutShift rt s q₂.handler.chain p₂ c₂.ix +
        (moved p₂.operator (vaultOf p₂ c₂.ix) (openCost rt s₁ c₂.ix) -
          moved p₂.operator (vaultOf p₂ c₂.ix) (openCost rt s c₂.ix)) := by
    unfold payoutShift
    rw [proofCost_after assoc sq.apart sq.key₁ sq.pays₁ sq.pays₂ leaves,
      refund_after assoc sq.apart sq.pays₁ sq.pays₂ leaves, sq.chain₂]
    abel
  rwa [hsame] at hshift

theorem Square.lamports_eq (assoc : AssociatedAddresses rt)
    (sq : Square rt s c₁ c₂ p₁ p₂ q₁ q₂ q₁' q₂' s₁ s₂ z z')
    (leaves₁ : LeavesCosts rt s p₁ c₁.ix p₂ c₂.ix)
    (leaves₂ : LeavesCosts rt s p₂ c₂.ix p₁ c₁.ix)
    (notShared : ¬ FundSameVault rt s p₁ c₁.ix p₂ c₂.ix) : z.lamports = z'.lamports := by
  have hfirst := sq.lamports assoc leaves₁
  have hsecond := sq.symm.lamports assoc leaves₂
  rw [openCost_after assoc sq.key₁ sq.pays₁ sq.pays₂ leaves₁ notShared, sub_self,
    add_zero] at hfirst
  rw [openCost_after assoc sq.key₂ sq.pays₂ sq.pays₁ leaves₂
    fun shared => notShared ⟨shared.1.symm, shared.2.2, shared.2.1⟩, sub_self, add_zero,
    add_comm] at hsecond
  exact hfirst.unique hsecond

/-- The operator who comes first pays for a common token account. -/
theorem Square.lamports_shared (assoc : AssociatedAddresses rt)
    (sq : Square rt s c₁ c₂ p₁ p₂ q₁ q₂ q₁' q₂' s₁ s₂ z z')
    (leaves₁ : LeavesCosts rt s p₁ c₁.ix p₂ c₂.ix)
    (leaves₂ : LeavesCosts rt s p₂ c₂.ix p₁ c₁.ix)
    (shared : FundSameVault rt s p₁ c₁.ix p₂ c₂.ix) (a : Pubkey) :
    (z.lamports a : ℤ) + (if a = p₁.operator then (openCost rt s c₁.ix : ℤ) else 0) =
      z'.lamports a + (if a = p₂.operator then (openCost rt s c₁.ix : ℤ) else 0) := by
  obtain ⟨hvaults, hcost₁, hcost₂⟩ := shared
  obtain ⟨x, amount, htoken₁, hsystem₁⟩ := openCost_ne_zero hcost₁
  obtain ⟨y, amount', htoken₂, hsystem₂⟩ := openCost_ne_zero hcost₂
  have heq : x.recipientVault = y.recipientVault := by
    rw [← vaultOf_eq htoken₁, hvaults, vaultOf_eq htoken₂]
  obtain ⟨hzero₂, hsame⟩ :=
    openCost_after_shared assoc sq.pays₁ sq.pays₂ htoken₁ htoken₂ hsystem₂ heq
  obtain ⟨hzero₁, -⟩ :=
    openCost_after_shared assoc sq.pays₂ sq.pays₁ htoken₂ htoken₁ hsystem₁ heq.symm
  have hfirst := sq.lamports assoc leaves₁ a
  have hsecond := sq.symm.lamports assoc leaves₂ a
  rw [hzero₂] at hfirst
  rw [hzero₁] at hsecond
  simp only [Pi.add_apply, Pi.sub_apply, moved_zero, Pi.zero_apply, moved_apply] at hfirst hsecond
  rw [← hsame, ← hvaults] at hfirst
  omega

theorem recipients_of_shared (assoc : AssociatedAddresses rt)
    (pays₁ : PaysWith rt s c₁ p₁ q₁ s₁) (pays₂ : PaysWith rt s c₂ p₂ q₂ s₂)
    (shared : FundSameVault rt s p₁ c₁.ix p₂ c₂.ix) : p₁.recipient = p₂.recipient := by
  obtain ⟨hvaults, hcost₁, hcost₂⟩ := shared
  obtain ⟨x, amount, htoken₁, -⟩ := openCost_ne_zero hcost₁
  obtain ⟨y, amount', htoken₂, -⟩ := openCost_ne_zero hcost₂
  refine (same_vault assoc pays₁ pays₂ htoken₁ htoken₂ ?_).1
  rw [← vaultOf_eq htoken₁, hvaults, vaultOf_eq htoken₂]

theorem Square.sameBalances (assoc : AssociatedAddresses rt)
    (sq : Square rt s c₁ c₂ p₁ p₂ q₁ q₂ q₁' q₂' s₁ s₂ z z')
    (token₁ : q₁'.token = q₁.token) (token₂ : q₂'.token = q₂.token)
    (independent : Independent rt s p₁ c₁.ix p₂ c₂.ix) : SameBalances p₁ p₂ z z' := by
  constructor
  · have hfirst := sq.second₂.moves.1.amounts
    have hsecond := sq.second₁.moves.1.amounts
    rw [sq.chain₂, token₂] at hfirst
    rw [sq.chain₁, token₁] at hsecond
    exact sq.pays₁.moves.1.amounts.comm hfirst sq.pays₂.moves.1.amounts hsecond
  · intro a ha
    by_cases shared : FundSameVault rt s p₁ c₁.ix p₂ c₂.ix
    · have hsum := sq.lamports_shared assoc independent.first independent.second shared a
      rcases independent.operators shared with hsame | ⟨hne₁, hne₂⟩
      · rw [hsame] at hsum
        exact_mod_cast add_right_cancel hsum
      · have hrecipient := recipients_of_shared assoc sq.pays₁ sq.pays₂ shared
        have hne : a ≠ p₁.operator ∧ a ≠ p₂.operator := by
          simp only [List.mem_cons, List.not_mem_nil, or_false] at ha
          rcases ha with rfl | rfl | rfl | rfl
          · exact ⟨hne₁, hne₂⟩
          · exact hrecipient ▸ ⟨hne₁, hne₂⟩
          · exact ⟨(ne_of_data sq.pays₁.accounts.operator sq.pays₁.accounts.handler).symm,
              (ne_of_data sq.pays₂.accounts.operator sq.pays₁.accounts.handler).symm⟩
          · exact ⟨(ne_of_data sq.pays₁.accounts.operator sq.pays₂.accounts.handler).symm,
              (ne_of_data sq.pays₂.accounts.operator sq.pays₂.accounts.handler).symm⟩
        rw [if_neg hne.1, if_neg hne.2, add_zero, add_zero] at hsum
        exact_mod_cast hsum
    · exact congrFun (sq.lamports_eq assoc independent.first independent.second shared) a

variable {s' : State Pubkey Hash} {call : Call Pubkey Hash} {p : PayoutCall Pubkey Hash}
  {q : PayoutQuote Pubkey}

theorem closed_lamports (pays : PaysWith rt s call p q s') :
    s'.lamports p.verifiedSignatures = 0 := by
  have accounts := pays.accounts
  have hshift := pays.moves.1.lamports p.verifiedSignatures
  have hvault : p.verifiedSignatures = vaultOf p call.ix → openCost rt s call.ix = 0 :=
    openCost_eq_zero_of_ne fun x amount _ hsystem =>
      (ne_of_data hsystem accounts.approvals).symm
  simp only [payoutShift_apply, pays.apart, accounts.approvals_ne_proof,
    accounts.approvals_ne_handler, and_false, if_false, if_true, refund] at hshift
  by_cases heq : p.verifiedSignatures = vaultOf p call.ix
  · rw [hvault heq] at hshift
    split_ifs at hshift <;> omega
  · rw [if_neg heq] at hshift
    split_ifs at hshift <;> omega

theorem created_lamports (assoc : AssociatedAddresses rt) (pays : PaysWith rt s call p q s') :
    s'.lamports p.bridgeProof = s.lamports p.bridgeProof + proofCost rt s p +
      if p.bridgeProof = p.recipient then solAmount call.ix else 0 := by
  have accounts := pays.accounts
  have hshift := pays.moves.1.lamports p.bridgeProof
  have hvault : p.bridgeProof = vaultOf p call.ix → openCost rt s call.ix = 0 :=
    openCost_eq_zero_of_ne fun x amount htoken _ => (vault_ne_proof assoc pays pays htoken).symm
  simp only [payoutShift_apply, accounts.operator_ne_proof.symm,
    accounts.approvals_ne_proof.symm, accounts.proof_ne_handler, and_false, if_false,
    if_true] at hshift
  by_cases heq : p.bridgeProof = vaultOf p call.ix
  · rw [hvault heq] at hshift
    split_ifs at hshift ⊢ <;> omega
  · rw [if_neg heq] at hshift
    split_ifs at hshift ⊢ <;> omega

theorem opened_lamports (assoc : AssociatedAddresses rt) (key : HasKey rt p.operator)
    (pays : PaysWith rt s call p q s') {x : BridgeAssetTargetChain Pubkey} {amount : UInt64}
    (token : tokenPayment? call.ix = some (x, amount))
    (hsystem : s.data x.recipientVault = .system) :
    s'.lamports x.recipientVault = s.lamports x.recipientVault + openCost rt s call.ix := by
  have accounts := pays.accounts
  have hshift := pays.moves.1.lamports x.recipientVault
  have hrecipient : x.recipientVault ≠ p.recipient := by
    rw [← pays.vault_address token]
    exact assoc.ne_owner _ _ _
  simp only [payoutShift_apply, vaultOf_eq token, vault_ne_operator key pays token, hrecipient,
    vault_ne_proof assoc pays pays token, ne_of_data hsystem accounts.handler,
    ne_of_data hsystem accounts.approvals, and_false, if_false, if_true] at hshift
  omega

theorem Square.leavesCosts (assoc : AssociatedAddresses rt)
    (sq : Square rt s c₁ c₂ p₁ p₂ q₁ q₂ q₁' q₂' s₁ s₂ z z')
    (same : z.lamports p₁.recipient = z'.lamports p₁.recipient) :
    LeavesCosts rt s p₁ c₁.ix p₂ c₂.ix := by
  by_cases hpaid : solAmount c₁.ix = 0
  · exact .inl hpaid
  refine .inr ⟨?_, ?_, ?_⟩
  · -- the approvals are closed after or before they are paid
    intro heq
    have hclosed := closed_lamports sq.second₂
    have hpaid' := (approvals_bystander assoc sq.apart sq.pays₁ sq.pays₂).lamports sq.second₁
    rw [if_pos heq.symm] at hpaid'
    rw [heq] at same
    omega
  · -- the proof account is funded after or before it is paid
    intro heq
    have bystander := proof_bystander assoc sq.apart sq.key₁ sq.pays₁ sq.pays₂
    have hpaid₁ := bystander.lamports sq.pays₁
    have hpaid₂ := bystander.lamports sq.second₁
    have hcreated₁ := created_lamports assoc sq.second₂
    have hcreated₂ := created_lamports assoc sq.pays₂
    rw [if_pos heq.symm] at hpaid₁ hpaid₂
    rw [heq] at same
    unfold proofCost topUp at hcreated₁ hcreated₂ ⊢
    omega
  · intro heq
    by_contra hcost
    obtain ⟨x, amount, htoken, hsystem⟩ := openCost_ne_zero hcost
    have hvault : p₁.recipient = x.recipientVault := heq.trans (vaultOf_eq htoken)
    have hne : ∀ y amount', tokenPayment? c₁.ix = some (y, amount') →
        x.recipientVault ≠ y.recipientVault := by
      intro y amount' htoken' hsame
      refine assoc.ne_owner p₁.recipient y.mint y.tokenProgram ?_
      rw [sq.pays₁.vault_address htoken', hvault, hsame]
    obtain ⟨hfree, hpaid₁⟩ :=
      vault_after assoc sq.key₁ sq.pays₁ sq.pays₂ htoken hsystem hne
    have hpaid₂ := (vault_bystander assoc sq.key₁ sq.pays₁ sq.pays₂ htoken hsystem
      hne).lamports sq.second₁
    have hopened₁ := opened_lamports assoc sq.key₂ sq.second₂ htoken hfree
    have hopened₂ := opened_lamports assoc sq.key₂ sq.pays₂ htoken hsystem
    rw [if_pos hvault.symm] at hpaid₁ hpaid₂
    rw [hvault] at same
    rw [openCost_of_system htoken hfree] at hopened₁
    rw [openCost_of_system htoken hsystem] at hopened₂ hcost
    unfold topUp at hopened₁ hopened₂ hcost
    omega

theorem chain_after (pays₁ : PaysWith rt s c₁ p₁ q₁ s₁) (pays₂ : PaysWith rt s c₂ p₂ q₂ s₂)
    (second : PaysWith rt s₁ c₂ p₂ q z) : q.handler.chain = q₂.handler.chain := by
  have hstored := second.accounts.handler
  have hhandler := pays₂.accounts.handler
  by_cases hsame : p₂.bridgeHandler = p₁.bridgeHandler
  · rw [hsame, pays₁.handler_after] at hstored
    rw [hsame, pays₁.accounts.handler] at hhandler
    simp only [AccountData.program.injEq, ProgramData.bridgeHandler.injEq] at hstored hhandler
    rw [← hstored, ← hhandler, (chargeStep_sameButCap pays₁.charged).chain]
  · have happrovals : p₂.bridgeHandler ≠ p₁.verifiedSignatures :=
      ne_of_contents hhandler pays₁.accounts.approvals (by simp)
    have hshape := pays₁.shape_of_ne_system (by rw [hhandler]; simp) hsame happrovals
    rw [data_eq_program.mpr hstored, data_eq_program.mpr hhandler] at hshape
    simp only [AccountData.program.injEq, ProgramData.bridgeHandler.injEq] at hshape
    rw [hshape]

theorem proof_taken (pays : PaysWith rt s call p q s') : s'.data p.bridgeProof ≠ .system := by
  have accounts := pays.accounts
  rw [Ne, ← data_eq_system, pays.moves.2, payoutShape,
    Function.update_of_ne accounts.approvals_ne_proof.symm, Function.update_self]
  simp

theorem transactions_differ (pays₁ : PaysWith rt s c₁ p₁ q₁ s₁)
    (second : PaysWith rt s₁ c₂ p₂ q z) (hhandler : p₁.bridgeHandler = p₂.bridgeHandler) :
    p₁.sourceTxId ≠ p₂.sourceTxId := by
  intro heq
  have haddress := pays₁.payout.proofAddress
  rw [hhandler, heq, second.payout.proofAddress] at haddress
  refine proof_taken pays₁ ?_
  rw [← (Prod.mk.inj haddress).1]
  exact second.accounts.proof

theorem Square.independent (assoc : AssociatedAddresses rt)
    (sq : Square rt s c₁ c₂ p₁ p₂ q₁ q₂ q₁' q₂' s₁ s₂ z z')
    (same : SameBalances p₁ p₂ z z') : Independent rt s p₁ c₁.ix p₂ c₂.ix := by
  have hfirst := sq.leavesCosts assoc (same.lamports _ (by simp))
  have hsecond := sq.symm.leavesCosts assoc (same.lamports _ (by simp)).symm
  refine ⟨transactions_differ sq.pays₁ sq.second₂, hfirst, hsecond, fun shared => ?_⟩
  by_contra hoperators
  obtain ⟨hne, hpaid⟩ := not_or.mp hoperators
  have hsum := sq.lamports_shared assoc hfirst hsecond shared p₁.recipient
  have hlamports := same.lamports p₁.recipient (by simp)
  have hcost := shared.2.1
  rw [hlamports] at hsum
  by_cases heq : p₁.recipient = p₁.operator
  · rw [if_pos heq, if_neg (fun h => hne (heq.symm.trans h))] at hsum
    omega
  · by_cases heq' : p₁.recipient = p₂.operator
    · rw [if_neg heq, if_pos heq'] at hsum
      omega
    · exact hpaid ⟨heq, heq'⟩

def SufficesForBoth (rt : Runtime Pubkey Hash) (s : State Pubkey Hash)
    (p₁ : PayoutCall Pubkey Hash) (ix₁ : Instruction Pubkey Hash)
    (p₂ : PayoutCall Pubkey Hash) (ix₂ : Instruction Pubkey Hash) : Prop :=
  ∀ r₁ r₂, ReadsFrom s p₁ ix₁ r₁ → ReadsFrom s p₂ ix₂ r₂ →
    SufficesAfter rt s p₁ ix₁ r₁ p₂ ix₂ r₂ ∧ SufficesAfter rt s p₂ ix₂ r₂ p₁ ix₁ r₁

variable [DecidableEq Hash]

/-- Both calls succeed after each other, with the same balances in either order. -/
def BothOrders (rt : Runtime Pubkey Hash) (c₁ c₂ : Call Pubkey Hash)
    (p₁ p₂ : PayoutCall Pubkey Hash) (s₁ s₂ : State Pubkey Hash) : Prop :=
  ∃ z z', execute rt s₁ c₂ = .ok (z, none) ∧ execute rt s₂ c₁ = .ok (z', none) ∧
    SameBalances p₁ p₂ z z'

/-- A request besides the sample request. -/
def otherTransfer (sourceTxId : Vector UInt8 64) : SolTransfer :=
  { sampleTransfer with recipient := .atom 22, nonce := 1, sourceTxId }

/-- Both requests are approved. -/
def bothApproved (sourceTxId : Vector UInt8 64) : List (Call Key Digest) :=
  let bridgeHandler := handlerKey 7
  [ initializeBy (.atom 5) 7 2 (.atom 5) (.atom 6),
    addGuardianBy (.atom 5) bridgeHandler (.atom 11),
    updateThresholdBy (.atom 5) bridgeHandler 1,
    verifyBy (.atom 6) bridgeHandler sampleTransfer.msgHash [0] [.atom 11],
    verifyBy (.atom 6) bridgeHandler (otherTransfer sourceTxId).msgHash [0] [.atom 11] ]

def payoutOf (x : SolTransfer) : PayoutCall Key Digest where
  operator := .atom 6
  recipient := x.recipient
  bridgeHandler := handlerKey 7
  bridgeProof := proofKey (handlerKey 7) x.sourceTxId
  guardianInfo := guardiansKey (handlerKey 7)
  verifiedSignatures := approvalsKey (handlerKey 7) x.msgHash
  msgHash := x.msgHash
  sourceTxId := x.sourceTxId

theorem exists_silent_of_isOk (kind : payout? call.ix = some p)
    (h : (execute rt s call).isOk = true) : ∃ s', execute rt s call = .ok (s', none) := by
  obtain ⟨signers, ixSysvar, ix⟩ := call
  cases ix with
  | bridgeAssetTargetChain a msgHash sourceTxId sender sourceMint amount nonce gas =>
      simp only [execute] at h ⊢
      cases hpaid : bridgeAssetTargetChain rt signers s a msgHash sourceTxId sender sourceMint
        amount nonce gas with
      | error e => simp [hpaid, bind, Except.bind, Except.isOk, Except.toBool] at h
      | ok s' => exact ⟨s', rfl⟩
  | bridgeAssetTargetChainSol a msgHash sourceTxId sender amount nonce =>
      simp only [execute] at h ⊢
      cases hpaid : bridgeAssetTargetChainSol rt signers s a msgHash sourceTxId sender
        amount nonce with
      | error e => simp [hpaid, bind, Except.bind, Except.isOk, Except.toBool] at h
      | ok s' => exact ⟨s', rfl⟩
  | _ => simp [payout?] at kind

def sampleIx (x : SolTransfer) : Instruction Key Digest :=
  (paySolBy (.atom 6) (handlerKey 7) x).ix

theorem suffices_solayer {s : State Key Digest} {x y : SolTransfer}
    {r₁ r₂ : PayoutSources Key} (chain : r₂.handler.chain = .solayer)
    (rent : rentCost (symbolicRuntime true) s (payoutOf y) (sampleIx y) +
      rentCost (symbolicRuntime true) s (payoutOf x) (sampleIx x) ≤ s.lamports (.atom 6))
    (room : ∀ a ∈ [.atom 6, (payoutOf y).bridgeProof, y.recipient, y.recipient],
      s.lamports a + movedLamports (symbolicRuntime true) s (payoutOf x) (sampleIx x) +
        movedLamports (symbolicRuntime true) s (payoutOf y) (sampleIx y) < 2 ^ 64) :
    SufficesAfter (symbolicRuntime true) s (payoutOf x) (sampleIx x) r₁ (payoutOf y)
      (sampleIx y) r₂ where
  rent := by
    rw [if_pos (show (payoutOf y).operator = (payoutOf x).operator from rfl)]
    exact rent
  handlerFunds h := by
    rw [chain] at h
    cases h
  instantCap _ v₁ v₂ h := by
    rw [chain] at h
    cases h
  vault a amount h := by cases h
  amountRoom a amount h := by cases h
  lamportRoom := room

theorem bothApproved_alone {sourceTxId : Vector UInt8 64}
    (h : sourceTxId = Vector.replicate 64 9 ∨ sourceTxId = Vector.replicate 64 10) :
    let s := stateAfter (symbolicRuntime true) sampleLedger (bothApproved sourceTxId)
    LedgerReachable (symbolicRuntime true) s ∧
      (∃ s₁, execute (symbolicRuntime true) s (paySolBy (.atom 6) (handlerKey 7)
        sampleTransfer) = .ok (s₁, none)) ∧
      (∃ s₂, execute (symbolicRuntime true) s (paySolBy (.atom 6) (handlerKey 7)
        (otherTransfer sourceTxId)) = .ok (s₂, none)) ∧
      SufficesForBoth (symbolicRuntime true) s (payoutOf sampleTransfer)
        (sampleIx sampleTransfer) (payoutOf (otherTransfer sourceTxId))
        (sampleIx (otherTransfer sourceTxId)) := by
  intro s
  have hok : (executeAll (symbolicRuntime true) sampleLedger (bothApproved sourceTxId)).isOk =
      true := by
    rcases h with rfl | rfl <;> decide +kernel
  have hpaid₁ : (execute (symbolicRuntime true) s (paySolBy (.atom 6) (handlerKey 7)
      sampleTransfer)).isOk = true := by
    rcases h with rfl | rfl <;> decide +kernel
  have hpaid₂ : (execute (symbolicRuntime true) s (paySolBy (.atom 6) (handlerKey 7)
      (otherTransfer sourceTxId))).isOk = true := by
    rcases h with rfl | rfl <;> decide +kernel
  have hchain : checkHandler s (handlerKey 7) (fun h => h.chain = .solayer) = true := by
    rcases h with rfl | rfl <;> decide +kernel
  have hrent : rentCost (symbolicRuntime true) s (payoutOf (otherTransfer sourceTxId))
        (sampleIx (otherTransfer sourceTxId)) +
      rentCost (symbolicRuntime true) s (payoutOf sampleTransfer) (sampleIx sampleTransfer) ≤
      s.lamports (.atom 6) := by
    rcases h with rfl | rfl <;> decide +kernel
  have hroom : ∀ a ∈ [.atom 6, proofKey (handlerKey 7) sourceTxId,
        (otherTransfer sourceTxId).recipient, (otherTransfer sourceTxId).recipient] ++
        [.atom 6, proofKey (handlerKey 7) sampleTransfer.sourceTxId, sampleTransfer.recipient,
          sampleTransfer.recipient],
      s.lamports a + movedLamports (symbolicRuntime true) s (payoutOf sampleTransfer)
        (sampleIx sampleTransfer) + movedLamports (symbolicRuntime true) s
        (payoutOf (otherTransfer sourceTxId)) (sampleIx (otherTransfer sourceTxId)) <
      2 ^ 64 := by
    rcases h with rfl | rfl <;> decide +kernel
  obtain ⟨h, handler, htest⟩ := exists_handlerAt true s _ _ hchain
  have hreachable : LedgerReachable (symbolicRuntime true) s :=
    ⟨sampleLedger, _, genesis_ledgerOf _, run_callTrace hok⟩
  clear_value s
  have hreads : ∀ {x : SolTransfer} {r : PayoutSources Key},
      ReadsFrom s (payoutOf x) (sampleIx x) r → r.handler.chain = .solayer := by
    intro x r reads
    have hstored := reads.handler
    rw [show (payoutOf x).bridgeHandler = handlerKey 7 from rfl,
      programData_eq_some.mp handler.stored] at hstored
    simp only [AccountData.program.injEq, ProgramData.bridgeHandler.injEq] at hstored
    rw [← hstored]
    exact of_decide_eq_true htest
  refine ⟨hreachable, exists_silent_of_isOk rfl hpaid₁, exists_silent_of_isOk rfl hpaid₂,
    fun r₁ r₂ reads₁ reads₂ => ⟨suffices_solayer (hreads reads₂) hrent fun a ha =>
      hroom a (List.mem_append_left _ ha), suffices_solayer (hreads reads₁) ?_ fun a ha => ?_⟩⟩
  · rw [Nat.add_comm]
    exact hrent
  · rw [Nat.add_right_comm]
    exact hroom a (List.mem_append_right _ ha)

/-- Two payouts that succeed alone do so in either order, with the same balances,
exactly when they are independent. -/
theorem both_orders_iff_independent (collisionFree : CollisionFree rt)
    (injective : Function.Injective rt.hash) (assoc : AssociatedAddresses rt)
    (kind₁ : payout? c₁.ix = some p₁) (kind₂ : payout? c₂.ix = some p₂)
    (differ : p₁.msgHash ≠ p₂.msgHash)
    (key₁ : HasKey rt p₁.operator) (key₂ : HasKey rt p₂.operator)
    (alone₁ : execute rt s c₁ = .ok (s₁, none)) (alone₂ : execute rt s c₂ = .ok (s₂, none))
    (suffices' : SufficesForBoth rt s p₁ c₁.ix p₂ c₂.ix) :
    BothOrders rt c₁ c₂ p₁ p₂ s₁ s₂ ↔ Independent rt s p₁ c₁.ix p₂ c₂.ix := by
  obtain ⟨q₁, pays₁⟩ := (exists_paysWith kind₁).mp alone₁
  obtain ⟨q₂, pays₂⟩ := (exists_paysWith kind₂).mp alone₂
  constructor
  · rintro ⟨z, z', hsecond₂, hsecond₁, same⟩
    obtain ⟨q₂', second₂⟩ := (exists_paysWith kind₂).mp hsecond₂
    obtain ⟨q₁', second₁⟩ := (exists_paysWith kind₁).mp hsecond₁
    have apart := apart_of_requests collisionFree injective pays₁ pays₂ differ
      (transactions_differ pays₁ second₂)
    exact Square.independent assoc ⟨apart, key₁, key₂, pays₁, pays₂, second₂, second₁,
      chain_after pays₂ pays₁ second₁, chain_after pays₁ pays₂ second₂⟩ same
  · intro independent
    have apart := apart_of_requests collisionFree injective pays₁ pays₂ differ
      independent.transactions
    obtain ⟨hafter₂, hafter₁⟩ := suffices' _ _ (readsFrom_quote pays₁) (readsFrom_quote pays₂)
    obtain ⟨q₂', z, second₂, hchain₂, htoken₂⟩ :=
      second_pays assoc apart key₁ key₂ pays₁ pays₂ hafter₂
    obtain ⟨q₁', z', second₁, hchain₁, htoken₁⟩ :=
      second_pays assoc apart.symm key₂ key₁ pays₂ pays₁ hafter₁
    exact ⟨z, z', (exists_paysWith kind₂).mpr ⟨_, second₂⟩,
      (exists_paysWith kind₁).mpr ⟨_, second₁⟩,
      Square.sameBalances assoc ⟨apart, key₁, key₂, pays₁, pays₂, second₂, second₁, hchain₁,
        hchain₂⟩ htoken₁ htoken₂ independent⟩

theorem both_orders_iff_independent_sample :
    let s := stateAfter (symbolicRuntime true) sampleLedger
      (bothApproved (Vector.replicate 64 10))
    let x := sampleTransfer
    let y := otherTransfer (Vector.replicate 64 10)
    ∃ s₁ s₂, execute (symbolicRuntime true) s (paySolBy (.atom 6) (handlerKey 7) x) =
        .ok (s₁, none) ∧
      execute (symbolicRuntime true) s (paySolBy (.atom 6) (handlerKey 7) y) =
        .ok (s₂, none) ∧
      (BothOrders (symbolicRuntime true) (paySolBy (.atom 6) (handlerKey 7) x)
          (paySolBy (.atom 6) (handlerKey 7) y) (payoutOf x) (payoutOf y) s₁ s₂ ↔
        Independent (symbolicRuntime true) s (payoutOf x) (sampleIx x) (payoutOf y)
          (sampleIx y)) := by
  intro s x y
  obtain ⟨-, ⟨s₁, alone₁⟩, ⟨s₂, alone₂⟩, suffices'⟩ :=
    @bothApproved_alone (Vector.replicate 64 10) (.inr rfl)
  exact ⟨s₁, s₂, alone₁, alone₂,
    both_orders_iff_independent (symbolicRuntime_collisionFree true) (fun _ _ h => h)
      (symbolicRuntime_associated true) rfl rfl (by decide +kernel) (hasKey_atom true 6)
      (hasKey_atom true 6) alone₁ alone₂ suffices'⟩

/-- Two requests of one source transaction: after one of them the other fails. -/
theorem second_request_of_transaction_fails :
    ¬ ∀ s, LedgerReachable (symbolicRuntime true) s → ∀ c₁ c₂ p₁ p₂,
      payout? c₁.ix = some p₁ → payout? c₂.ix = some p₂ → p₁.msgHash ≠ p₂.msgHash →
      ∀ s₁ s₂, execute (symbolicRuntime true) s c₁ = .ok (s₁, none) →
        execute (symbolicRuntime true) s c₂ = .ok (s₂, none) →
        SufficesForBoth (symbolicRuntime true) s p₁ c₁.ix p₂ c₂.ix →
        BothOrders (symbolicRuntime true) c₁ c₂ p₁ p₂ s₁ s₂ := by
  intro h
  obtain ⟨hreachable, ⟨s₁, alone₁⟩, ⟨s₂, alone₂⟩, suffices'⟩ :=
    @bothApproved_alone (Vector.replicate 64 9) (.inl rfl)
  obtain ⟨z, z', second, -⟩ := h _ hreachable _ _ (payoutOf sampleTransfer)
    (payoutOf (otherTransfer (Vector.replicate 64 9))) rfl rfl (by decide +kernel) s₁ s₂
    alone₁ alone₂ suffices'
  obtain ⟨q, pays⟩ := (exists_paysWith rfl).mp alone₁
  obtain ⟨q', pays'⟩ := (exists_paysWith rfl).mp second
  exact transactions_differ pays pays' rfl rfl

end BridgeProgram.PayoutCommutation
