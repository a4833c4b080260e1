import BridgeProgram.PayoutSteps

namespace BridgeProgram.PayoutTransport

open BridgeProgram.AccountEffects
open BridgeProgram.AnchorAccounts
open BridgeProgram.BalanceEffects
open BridgeProgram.BalanceShifts
open BridgeProgram.BridgeProgramEntry
open BridgeProgram.CheckedResult
open BridgeProgram.PayoutSteps
open BridgeProgram.ProgramStates
open BridgeProgram.RegistryModel
open BridgeProgram.SolanaRuntime
open BridgeProgram.TargetInstructions
open BridgeProgram.TokenInstructions

variable {Pubkey Hash : Type} [DecidableEq Pubkey] {rt : Runtime Pubkey Hash}
  {s s' s₁ s₂ s₃ s₄ x z : State Pubkey Hash} {call : Call Pubkey Hash}
  {p : PayoutCall Pubkey Hash} {q : PayoutQuote Pubkey} {h h' : BridgeHandler Pubkey}

/-- What a state `x` must offer to a payout that succeeds in a state `s`. -/
structure Ready (rt : Runtime Pubkey Hash) (s x : State Pubkey Hash) (call : Call Pubkey Hash)
    (p : PayoutCall Pubkey Hash) (q : PayoutQuote Pubkey)
    (h h' : BridgeHandler Pubkey) : Prop where
  payout : Payout rt x.programData call.signers p h q.guardians q.approvals q.bump
  chain : h.chain = q.handler.chain
  charged : chargeStep rt x.clock q.decimals q.approvals.createdAt h call.ix = .ok h'
  operator : x.data p.operator = .system
  proof : x.data p.bridgeProof = .system
  token : ∀ a amount, tokenPayment? call.ix = some (a, amount) →
    TokenInfoAt rt x.programData a.bridgeHandler a.mint a.tokenInfo q.token ∧
    shape x a.mint = shape s a.mint ∧
    shape x a.bridgeHandlerVault = shape s a.bridgeHandlerVault ∧
    (x.data a.recipientVault = .system ∧ s.data a.recipientVault = .system ∨
      shape x a.recipientVault = openShape (shape s) call.ix a.recipientVault) ∧
    (isNativeOn h.chain q.token = true → amount.toNat ≤ amounts x a.bridgeHandlerVault)
  amountRoom : ∀ a amount, tokenPayment? call.ix = some (a, amount) →
    ∀ b, b = a.mint ∨ b = a.recipientVault →
      (amounts x b : ℤ) + amountShift rt h.chain q.token call.ix b < 2 ^ 64
  rent : rentCost rt x p call.ix ≤ x.lamports p.operator
  handlerFunds : h.chain = .solana →
    rt.minimumBalance handlerLen + solAmount call.ix ≤ x.lamports p.bridgeHandler
  lamportRoom : ∀ a, a = vaultOf p call.ix ∨ a = p.bridgeProof ∨ a = p.recipient →
    x.lamports a + rentCost rt x p call.ix + solAmount call.ix < 2 ^ 64
  refundRoom : x.lamports p.operator + x.lamports p.verifiedSignatures + solAmount call.ix <
    2 ^ 64

theorem Ready.openStep_ok (kind : payout? call.ix = some p)
    (opened : openStep rt s call.ix = .ok s₁)
    (terms : ∀ a amount, tokenPayment? call.ix = some (a, amount) →
      TokenTerms rt s a q.token q.decimals q.vaultAmount)
    (ready : Ready rt s x call p q h h') : ∃ z₁, openStep rt x call.ix = .ok z₁ := by
  have hrent := ready.rent
  have hroom := ready.lamportRoom
  have hoperator := ready.operator
  have htoken := ready.token
  unfold rentCost at hrent hroom
  cases hix : call.ix with
  | bridgeAssetTargetChain a msgHash sourceTxId sender sourceMint amount nonce gas =>
      rw [hix] at kind opened terms hrent hroom htoken
      obtain rfl := Option.some.inj kind
      obtain ⟨-, hmint, -, hvault, -⟩ := htoken a amount rfl
      obtain ⟨-, ⟨m, hm, -⟩, -⟩ := terms a amount rfl
      obtain ⟨-, hshape, -, hne, -, -, t, ht, -⟩ := initRecipientVaultIfNeeded_moves opened
      have hm' := data_eq_mint (hmint.trans (by rw [shape, hm]))
      have hcost : openCost rt x (.bridgeAssetTargetChain a msgHash sourceTxId sender
        sourceMint amount nonce gas) = vaultRent rt x a := rfl
      have hvault' : x.data a.recipientVault = .system ∨
          shape x a.recipientVault = shape s₁ a.recipientVault :=
        hvault.imp And.left fun hsame => hsame.trans (congrFun hshape.symm _)
      refine initRecipientVaultIfNeeded_ok opened hm' hvault' ?_ hoperator
        (by rw [← hcost]; exact (Nat.le_add_right _ _).trans hrent) ?_
      · intro hsystem
        rcases hvault with ⟨-, hs⟩ | hsame
        · exact hne hs
        · rw [data_eq_system.mpr hsystem, openShape, ← hshape, shape, ht] at hsame
          cases hsame
      · have := hroom a.recipientVault (.inl rfl)
        rw [← hcost]
        omega
  | bridgeAssetTargetChainSol => exact ⟨x, rfl⟩
  | _ => simp [hix, payout?] at kind

theorem Ready.openShape_eq (opened : openStep rt s call.ix = .ok s₁)
    (ready : Ready rt s x call p q h h') {a : BridgeAssetTargetChain Pubkey} {amount : UInt64}
    (token : tokenPayment? call.ix = some (a, amount)) :
    openShape (shape x) call.ix a.recipientVault = shape s₁ a.recipientVault := by
  obtain ⟨-, -, -, hvault, -⟩ := ready.token a amount token
  cases hix : call.ix with
  | bridgeAssetTargetChain b =>
      rw [hix] at token opened
      obtain ⟨rfl, -⟩ := Prod.mk.inj (Option.some.inj token)
      obtain ⟨-, hshape, -, -, -, -, t, ht, -⟩ := initRecipientVaultIfNeeded_moves opened
      rcases hvault with ⟨hx, hs⟩ | hsame
      · rw [hshape]
        simp [openShape, openVault, data_eq_system.mpr hx, data_eq_system.mpr hs,
          AccountData.isSystem]
      · have hsame' : shape x b.recipientVault = shape s₁ b.recipientVault :=
          hsame.trans (by rw [hix]; exact congrFun hshape.symm _)
        rw [openShape_of_ne_system _, hsame']
        rw [hsame', shape, ht]
        simp [shapeOf]
  | _ => simp [hix, tokenPayment?] at token

theorem solStep_ok {u u' : State Pubkey Hash} {chain : Chain} (kind : payout? call.ix = some p)
    (paid : solStep rt u chain call.ix = .ok u')
    (hfloor : chain = .solana →
      rt.minimumBalance handlerLen + solAmount call.ix ≤ z.lamports p.bridgeHandler)
    (hroom : z.lamports p.recipient + solAmount call.ix < 2 ^ 64) :
    ∃ z', solStep rt z chain call.ix = .ok z' := by
  cases hix : call.ix with
  | bridgeAssetTargetChain =>
      rw [hix] at kind paid hfloor hroom
      obtain rfl := Option.some.inj kind
      simp only [solStep] at paid ⊢
      split at paid
      next hgas =>
          rw [if_pos hgas]
          exact paySol_ok paid hfloor hroom
      next hgas =>
          rw [if_neg hgas]
          exact ⟨z, rfl⟩
  | bridgeAssetTargetChainSol =>
      rw [hix] at kind paid hfloor hroom
      obtain rfl := Option.some.inj kind
      exact paySol_ok paid hfloor hroom
  | _ => simp [hix, payout?] at kind

theorem finishStep_ok {proof : BridgeProof Pubkey Hash}
    (hroom : z.lamports p.operator + z.lamports p.verifiedSignatures < 2 ^ 64) :
    ∃ z', finishStep z p h proof = .ok z' := by
  simp only [finishStep, bind_eq_ok, exitAccount_eq_ok, closeAccount_eq_ok]
  exact ⟨_, _, ⟨Nat.le_refl _, rfl⟩, _, ⟨Nat.le_refl _, rfl⟩, hroom, rfl⟩

/-- The amount in the vault that a payout reads. -/
def readVault (x : State Pubkey Hash) : Instruction Pubkey Hash → ℕ
  | .bridgeAssetTargetChain a .. => amounts x a.bridgeHandlerVault
  | _ => 0

theorem openShape_of_closed {f : Pubkey → AccountData Pubkey Hash} {ix : Instruction Pubkey Hash}
    (opened : openStep rt s ix = .ok s₁) {a : Pubkey} (closed : s₁.data a = .system) :
    openShape f ix a = f a := by
  cases ix with
  | bridgeAssetTargetChain b =>
      obtain ⟨-, -, -, -, -, -, t, ht, -⟩ := initRecipientVaultIfNeeded_moves opened
      have hne : a ≠ b.recipientVault := by
        rintro rfl
        rw [ht] at closed
        cases closed
      unfold openShape openVault
      dsimp only
      split
      · exact Function.update_of_ne hne _ _
      · rfl
  | _ => rfl

theorem Ready.initAccount_ok (kind : payout? call.ix = some p)
    (run : PayoutRun rt s call p q s₁ s₂ s₃ s₄ s') (ready : Ready rt s x call p q h h')
    (opened : openStep rt x call.ix = .ok z) :
    ∃ z₂, initAccount rt z p.operator
      (.bridgeProofTarget p.bridgeHandler (rt.hash p.sourceTxId.toList)) p.bridgeProof
      (.bridgeProof (zeroBridgeProof rt)) = .ok (z₂, q.bump) := by
  have accounts := run.accounts kind
  obtain ⟨hmoves, hshape⟩ := openStep_moves kind opened
  obtain ⟨hproof, hne, hoperator, -⟩ := initAccount_moves run.created
  have hproof' : z.data p.bridgeProof = .system := by
    rw [← data_eq_system, hshape, openShape_of_closed run.opened hproof, data_eq_system]
    exact ready.proof
  have hoperator' : z.data p.operator = .system := by
    rw [← data_eq_system, hshape, openShape_of_closed run.opened hoperator, data_eq_system]
    exact ready.operator
  have hcost : topUp rt z p.bridgeProof
      (ProgramData.bridgeProof (zeroBridgeProof rt)).space = proofCost rt x p :=
    topUp_proof kind opened hproof' hne
  have hrent := ready.rent
  have hroom := ready.lamportRoom p.bridgeProof (.inr (.inl rfl))
  have hpays := hmoves.lamports p.operator
  have hgets := hmoves.lamports p.bridgeProof
  rw [moved_apply] at hpays hgets
  unfold rentCost at hrent hroom
  refine BalanceEffects.initAccount_ok _ run.payout.proofAddress hproof' hne hoperator' ?_ ?_
  · rw [hcost]
    rw [if_pos rfl] at hpays
    split_ifs at hpays <;> omega
  · rw [hcost]
    rw [if_neg hne.symm] at hgets
    split_ifs at hgets <;> omega

theorem Ready.tokenStep_ok (kind : payout? call.ix = some p)
    (run : PayoutRun rt s call p q s₁ s₂ s₃ s₄ s') (ready : Ready rt s x call p q h h')
    (hshape : shape z = Function.update (openShape (shape x) call.ix) p.bridgeProof
      (.program (.bridgeProof (zeroBridgeProof rt))))
    (hamounts : amounts z = amounts x) :
    ∃ z', tokenStep rt z h.chain q.token (readVault x call.ix) q.decimals call.ix = .ok z' := by
  have accounts := run.accounts kind
  obtain ⟨-, hshape₁⟩ := openStep_moves kind run.opened
  obtain ⟨hproof, -, -, -, -, hshape₂⟩ := initAccount_moves run.created
  have hpaid := run.tokens
  have hopenShape := fun a amount (htoken : tokenPayment? call.ix = some (a, amount)) =>
    ready.openShape_eq run.opened htoken
  have hroom := ready.amountRoom
  have hterms := run.terms
  have htoken := ready.token
  have hopened := run.opened
  cases hix : call.ix with
  | bridgeAssetTargetChain a msgHash sourceTxId sender sourceMint amount nonce gas =>
      rw [hix] at hshape hshape₁ hpaid hopenShape hroom hterms htoken hopened
      obtain ⟨-, hmint, hvault, -, hfunds⟩ := htoken a amount rfl
      obtain ⟨-, ⟨m, hm, -⟩, ⟨w, hw, -⟩, -⟩ := hterms a amount rfl
      obtain ⟨-, -, -, -, -, -, t, ht, -⟩ := initRecipientVaultIfNeeded_moves hopened
      -- accounts other than the proof, with data before the payout
      have hkept : ∀ {b}, s.data b ≠ .system → shape x b = shape s b →
          shape z b = shape s₂ b := by
        intro b hdata hsame
        have hne : b ≠ p.bridgeProof := by
          rintro rfl
          exact hdata accounts.proof
        have hshapes : shape s b ≠ .system := mt data_eq_system.mp hdata
        rw [hshape, hshape₂, hshape₁, Function.update_of_ne hne, Function.update_of_ne hne,
          openShape_of_ne_system (hsame ▸ hshapes), openShape_of_ne_system hshapes, hsame]
      have hrecipient : shape z a.recipientVault = shape s₂ a.recipientVault := by
        have hne : a.recipientVault ≠ p.bridgeProof := ne_of_contents ht hproof (by simp)
        rw [hshape, hshape₂, Function.update_of_ne hne, Function.update_of_ne hne,
          hopenShape a amount rfl]
      simp only [tokenStep] at hpaid ⊢
      rw [ready.chain]
      rw [ready.chain] at hfunds hroom
      refine payTokens_ok hpaid (hkept (by simp [hw]) hvault) hrecipient
        (hkept (by simp [hm]) hmint) (fun hnative => ⟨hfunds hnative, ?_⟩) ?_
      · rw [hamounts]
        exact hfunds hnative
      · rw [hamounts]
        exact hroom a amount rfl
  | _ => exact ⟨z, rfl⟩

/-- In `z` the operator has paid the rent of the new accounts. -/
def RentPaid (rt : Runtime Pubkey Hash) (x z : State Pubkey Hash) (p : PayoutCall Pubkey Hash)
    (ix : Instruction Pubkey Hash) : Prop :=
  ∀ a, (z.lamports a : ℤ) = x.lamports a +
    (moved p.operator (vaultOf p ix) (openCost rt x ix) a +
      moved p.operator p.bridgeProof (proofCost rt x p) a)

theorem Ready.solStep_ok (kind : payout? call.ix = some p)
    (run : PayoutRun rt s call p q s₁ s₂ s₃ s₄ s') (ready : Ready rt s x call p q h h')
    (paid : RentPaid rt x z p call.ix) : ∃ z', solStep rt z h.chain call.ix = .ok z' := by
  have hhandler := (run.accounts kind).handler_ne_operator
  have hpaid := run.sol
  rw [← ready.chain] at hpaid
  refine PayoutTransport.solStep_ok kind hpaid (fun hchain => ?_) ?_
  · have hfunds := ready.handlerFunds hchain
    have hgets := paid p.bridgeHandler
    simp only [moved_apply, hhandler, if_false] at hgets
    split_ifs at hgets <;> omega
  · have hroom := ready.lamportRoom p.recipient (.inr (.inr rfl))
    have hgets := paid p.recipient
    unfold rentCost at hroom
    simp only [moved_apply] at hgets
    split_ifs at hgets <;> omega

theorem Ready.finishStep_ok (kind : payout? call.ix = some p)
    (run : PayoutRun rt s call p q s₁ s₂ s₃ s₄ s') (ready : Ready rt s x call p q h h')
    {z₁ z₄ : State Pubkey Hash} (opened : openStep rt x call.ix = .ok z₁)
    (paid : RentPaid rt x z p call.ix) (sol : solStep rt z h.chain call.ix = .ok z₄)
    (proof : BridgeProof Pubkey Hash) : ∃ z', finishStep z₄ p h' proof = .ok z' := by
  have accounts := run.accounts kind
  have hhandler := accounts.handler_ne_operator
  obtain ⟨hmoves, -⟩ := solStep_moves kind sol
  refine PayoutTransport.finishStep_ok ?_
  have hroom := ready.refundRoom
  have hoperator := hmoves.lamports p.operator
  have happrovals := hmoves.lamports p.verifiedSignatures
  have hoperator₃ := paid p.operator
  have happrovals₃ := paid p.verifiedSignatures
  have hdata : x.data p.verifiedSignatures ≠ .system := by
    rw [programData_eq_some.mp ready.payout.approvals.stored]
    rintro ⟨⟩
  have hopenCost := openCost_moved opened (.inl hdata) run.apart
  rw [hopenCost, moved_apply_of_ne _ accounts.approvals_ne_proof run.apart] at happrovals₃
  simp only [solShift_apply, accounts.approvals_ne_handler, hhandler.symm, and_false,
    if_false] at hoperator happrovals
  simp only [moved_apply, if_true] at hoperator₃
  by_cases hrecipient : p.verifiedSignatures = p.recipient
  · have hne : p.operator ≠ p.recipient := fun heq => run.apart (hrecipient.trans heq.symm)
    rw [if_pos hrecipient] at happrovals
    rw [if_neg hne] at hoperator
    split_ifs at hoperator₃ <;> omega
  · rw [if_neg hrecipient] at happrovals
    split_ifs at hoperator hoperator₃ <;> omega

theorem Ready.terms (run : PayoutRun rt s call p q s₁ s₂ s₃ s₄ s')
    (ready : Ready rt s x call p q h h') {a : BridgeAssetTargetChain Pubkey} {amount : UInt64}
    (token : tokenPayment? call.ix = some (a, amount)) :
    TokenTerms rt x a q.token q.decimals (readVault x call.ix) := by
  obtain ⟨hprogram, ⟨m, hm, hdecimals⟩, ⟨w, hw, howner, -⟩, haddress, -⟩ :=
    run.terms a amount token
  obtain ⟨hinfo, hmint, hvault, -⟩ := ready.token a amount token
  have hread : readVault x call.ix = amounts x a.bridgeHandlerVault := by
    cases hix : call.ix with
    | bridgeAssetTargetChain =>
        rw [hix] at token
        obtain ⟨rfl, -⟩ := Prod.mk.inj (Option.some.inj token)
        rfl
    | _ => simp [hix, tokenPayment?] at token
  exact ⟨hprogram, ⟨_, data_eq_mint (hmint.trans (by rw [shape, hm])), hdecimals⟩,
    ⟨_, data_eq_tokenAccount (hvault.trans (by rw [shape, hw])), howner, hread.symm⟩,
    haddress, hinfo⟩

/-- A payout that succeeds in `s` succeeds in every state that is ready for it. -/
theorem Ready.payoutRun (kind : payout? call.ix = some p)
    (run : PayoutRun rt s call p q s₁ s₂ s₃ s₄ s') (ready : Ready rt s x call p q h h') :
    ∃ z₁ z₂ z₃ z₄ z, PayoutRun rt x call p
      { q with handler := h, charged := h', vaultAmount := readVault x call.ix }
      z₁ z₂ z₃ z₄ z := by
  obtain ⟨z₁, hopen⟩ := ready.openStep_ok kind run.opened run.terms
  obtain ⟨z₂, hinit⟩ := ready.initAccount_ok kind run hopen
  obtain ⟨hmoves₁, hshape₁⟩ := openStep_moves kind hopen
  obtain ⟨hproof, hne, -, -, hmoves₂, hshape₂⟩ := initAccount_moves hinit
  have hcost : topUp rt z₁ p.bridgeProof
      (ProgramData.bridgeProof (zeroBridgeProof rt)).space = proofCost rt x p :=
    topUp_proof kind hopen hproof hne
  rw [hcost] at hmoves₂
  have hmoves := hmoves₁.trans hmoves₂
  have hamounts : amounts z₂ = amounts x :=
    (hmoves.amounts.unique (by rw [add_zero]; exact .refl _))
  obtain ⟨z₃, htokens⟩ := ready.tokenStep_ok kind run (by rw [hshape₂, hshape₁]) hamounts
  obtain ⟨hmoves₃, -⟩ := tokenStep_moves htokens
  have hpaid : RentPaid rt x z₃ p call.ix := by
    intro a
    have hshift := (hmoves.trans hmoves₃).lamports a
    rwa [add_zero] at hshift
  obtain ⟨z₄, hsol⟩ := ready.solStep_ok kind run hpaid
  obtain ⟨z, hfinish⟩ := ready.finishStep_ok kind run hopen hpaid hsol
    (payoutProof x.clock q.bump p.msgHash p.sourceTxId p.recipient)
  exact ⟨z₁, z₂, z₃, z₄, z,
    { payout := ready.payout
      message := run.message
      apart := run.apart
      terms := fun a amount => ready.terms run
      charged := ready.charged
      opened := hopen
      created := hinit
      tokens := htokens
      sol := hsol
      finished := hfinish }⟩

end BridgeProgram.PayoutTransport
