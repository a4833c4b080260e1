import BridgeProgram.InstantCapCharges
import BridgeProgram.PayoutTransport

namespace BridgeProgram.PayoutFrames

open BridgeProgram.AccountEffects
open BridgeProgram.AnchorAccounts
open BridgeProgram.BalanceEffects
open BridgeProgram.BalanceShifts
open BridgeProgram.BridgeProgramEntry
open BridgeProgram.InstantCapCharges
open BridgeProgram.PayoutSteps
open BridgeProgram.PayoutTransport
open BridgeProgram.ProgramStates
open BridgeProgram.RegistryModel
open BridgeProgram.SolanaRuntime
open BridgeProgram.TargetInstructions
open BridgeProgram.TokenInstructions

variable {Pubkey Hash : Type}

variable [DecidableEq Pubkey] {rt : Runtime Pubkey Hash} {s s' : State Pubkey Hash}
  {call : Call Pubkey Hash} {p : PayoutCall Pubkey Hash} {q : PayoutQuote Pubkey} {a : Pubkey}

theorem shape_kept (pays : PaysWith rt s call p q s') {d : AccountData Pubkey Hash}
    (hdata : s.data a = d) (hsystem : d ≠ .system) (hhandler : ∀ h, d ≠ .program (.bridgeHandler h))
    (happrovals : ∀ v, d ≠ .program (.verifiedSignatures v)) : shape s' a = shape s a := by
  have accounts := pays.accounts
  refine pays.shape_of_ne_system (hdata ▸ hsystem) ?_ ?_
  · rintro rfl
    exact hhandler _ (hdata.symm.trans accounts.handler)
  · rintro rfl
    exact happrovals _ (hdata.symm.trans accounts.approvals)

theorem programData_kept (pays : PaysWith rt s call p q s') {d : ProgramData Pubkey Hash}
    (hdata : s.data a = .program d) (hhandler : ∀ h, d ≠ .bridgeHandler h)
    (happrovals : ∀ v, d ≠ .verifiedSignatures v) : s'.programData a = some d := by
  rw [programData_eq_some, ← data_eq_program, ← data_eq_program.mpr hdata]
  refine shape_kept pays hdata (by simp) ?_ ?_
  · rintro h ⟨⟩
    exact hhandler h rfl
  · rintro v ⟨⟩
    exact happrovals v rfl

theorem openShape_of_ne {f : Pubkey → AccountData Pubkey Hash}
    {ix : Instruction Pubkey Hash}
    (hvault : ∀ x amount, tokenPayment? ix = some (x, amount) → a ≠ x.recipientVault) :
    openShape f ix a = f a := by
  cases ix with
  | bridgeAssetTargetChain x =>
      unfold openShape openVault
      dsimp only
      split
      · exact Function.update_of_ne (hvault x _ rfl) _ _
      · rfl
  | _ => rfl

theorem system_kept (pays : PaysWith rt s call p q s') (hdata : s.data a = .system)
    (hproof : a ≠ p.bridgeProof)
    (hassociated : ∀ owner mint tokenProgram,
      rt.associatedTokenAddress owner mint tokenProgram ≠ a) : s'.data a = .system := by
  rw [← data_eq_system, pays.shape_of_system hdata hproof, openShape_of_ne, data_eq_system]
  · exact hdata
  · rintro x amount htoken rfl
    exact hassociated _ _ _ (pays.vault_address htoken)

theorem lamports_le (pays : PaysWith rt s call p q s') (a : Pubkey) :
    s'.lamports a ≤ s.lamports a + movedLamports rt s p call.ix := by
  have hshift := pays.moves.1.lamports a
  simp only [payoutShift_apply] at hshift
  unfold movedLamports rentCost
  split_ifs at hshift <;> omega

theorem lamports_le_of_ne (pays : PaysWith rt s call p q s') (hrecipient : a ≠ p.recipient) :
    s'.lamports a ≤ s.lamports a + rentCost rt s p call.ix + refund s p call.ix := by
  have hshift := pays.moves.1.lamports a
  simp only [payoutShift_apply, if_neg hrecipient] at hshift
  unfold rentCost
  split_ifs at hshift <;> omega

/-- What decides how much a payout moves, besides its arguments. -/
structure PayoutSources (Pubkey : Type) where
  handler : BridgeHandler Pubkey
  token : TokenInfo Pubkey
  decimals : UInt8

omit [DecidableEq Pubkey] in
/-- The sources as the ledger stores them. -/
structure ReadsFrom (s : State Pubkey Hash) (p : PayoutCall Pubkey Hash)
    (ix : Instruction Pubkey Hash) (r : PayoutSources Pubkey) : Prop where
  handler : s.data p.bridgeHandler = .program (.bridgeHandler r.handler)
  token : ∀ a amount, tokenPayment? ix = some (a, amount) →
    s.data a.tokenInfo = .program (.tokenInfo r.token) ∧
    ∃ m, s.data a.mint = .mint a.tokenProgram m ∧ m.decimals = r.decimals

/-- The balances of `s` suffice for the second payout after the first one. All
balances fit into 64 bits. -/
structure SufficesAfter (rt : Runtime Pubkey Hash) (s : State Pubkey Hash)
    (p₁ : PayoutCall Pubkey Hash) (ix₁ : Instruction Pubkey Hash) (r₁ : PayoutSources Pubkey)
    (p₂ : PayoutCall Pubkey Hash) (ix₂ : Instruction Pubkey Hash) (r₂ : PayoutSources Pubkey) :
    Prop where
  rent : rentCost rt s p₂ ix₂ +
    (if p₂.operator = p₁.operator then rentCost rt s p₁ ix₁ else 0) ≤ s.lamports p₂.operator
  handlerFunds : r₂.handler.chain = .solana →
    rt.minimumBalance handlerLen + solAmount ix₂ +
      (if p₂.bridgeHandler = p₁.bridgeHandler then solAmount ix₁ else 0) ≤
    s.lamports p₂.bridgeHandler
  instantCap : p₂.bridgeHandler = p₁.bridgeHandler → ∀ v₁ v₂,
    capValue rt r₂.handler.chain r₁.decimals ix₁ = some v₁ →
    capValue rt r₂.handler.chain r₂.decimals ix₂ = some v₂ →
    v₁.toNat + v₂.toNat ≤
      (resetInstantCap s.clock r₂.handler).instantBridgeCapRemainedDollar.toNat
  vault : ∀ a amount, tokenPayment? ix₂ = some (a, amount) →
    isNativeOn r₂.handler.chain r₂.token = true →
    (amount.toNat : ℤ) ≤ amounts s a.bridgeHandlerVault +
      amountShift rt r₁.handler.chain r₁.token ix₁ a.bridgeHandlerVault
  amountRoom : ∀ a amount, tokenPayment? ix₂ = some (a, amount) →
    ∀ b, b = a.mint ∨ b = a.recipientVault →
      (amounts s b : ℤ) + amountShift rt r₁.handler.chain r₁.token ix₁ b +
        amountShift rt r₂.handler.chain r₂.token ix₂ b < 2 ^ 64
  lamportRoom : ∀ a ∈ [p₂.operator, p₂.bridgeProof, vaultOf p₂ ix₂, p₂.recipient],
    s.lamports a + movedLamports rt s p₁ ix₁ + movedLamports rt s p₂ ix₂ < 2 ^ 64

def PayoutQuote.sources (q : PayoutQuote Pubkey) : PayoutSources Pubkey where
  handler := q.handler
  token := q.token
  decimals := q.decimals

theorem readsFrom_quote (pays : PaysWith rt s call p q s') :
    ReadsFrom s p call.ix (PayoutQuote.sources q) := by
  refine ⟨pays.accounts.handler, fun a amount htoken => ?_⟩
  obtain ⟨-, hmint, -, -, token⟩ := pays.terms htoken
  exact ⟨programData_eq_some.mp token.stored, hmint⟩

variable {s₁ s₂ : State Pubkey Hash} {c₁ c₂ : Call Pubkey Hash}
  {p₁ p₂ : PayoutCall Pubkey Hash} {q₁ q₂ : PayoutQuote Pubkey}

/-- Two payouts do not share a proof account or approvals. -/
structure Apart (p₁ p₂ : PayoutCall Pubkey Hash) : Prop where
  proofs : p₁.bridgeProof ≠ p₂.bridgeProof
  approvals : p₁.verifiedSignatures ≠ p₂.verifiedSignatures

omit [DecidableEq Pubkey] in
theorem Apart.symm (apart : Apart p₁ p₂) : Apart p₂ p₁ :=
  ⟨apart.proofs.symm, apart.approvals.symm⟩

theorem vault_not_program (assoc : AssociatedAddresses rt) (pays : PaysWith rt s call p q s')
    {x : BridgeAssetTargetChain Pubkey} {amount : UInt64}
    (token : tokenPayment? call.ix = some (x, amount)) {seeds : Seeds Pubkey Hash}
    {bump : UInt8} : rt.createProgramAddress seeds bump ≠ some x.recipientVault := by
  rw [← pays.vault_address token]
  exact assoc.not_program _ _ _ _ _

theorem vault_ne_proof (assoc : AssociatedAddresses rt) (pays₁ : PaysWith rt s c₁ p₁ q₁ s₁)
    (pays₂ : PaysWith rt s c₂ p₂ q₂ s₂) {x : BridgeAssetTargetChain Pubkey} {amount : UInt64}
    (token : tokenPayment? c₂.ix = some (x, amount)) : x.recipientVault ≠ p₁.bridgeProof :=
  fun heq => vault_not_program assoc pays₂ token (heq ▸ pays₁.proof_address)

theorem handler_after (pays₁ : PaysWith rt s c₁ p₁ q₁ s₁) (pays₂ : PaysWith rt s c₂ p₂ q₂ s₂)
    (suffices' : SufficesAfter rt s p₁ c₁.ix (PayoutQuote.sources q₁) p₂ c₂.ix
      (PayoutQuote.sources q₂)) :
    ∃ h h', s₁.data p₂.bridgeHandler = .program (.bridgeHandler h) ∧ SameButCap q₂.handler h ∧
      chargeStep rt s.clock q₂.decimals q₂.approvals.createdAt h c₂.ix = .ok h' := by
  by_cases hsame : p₂.bridgeHandler = p₁.bridgeHandler
  · have hhandler : q₂.handler = q₁.handler := by
      have h₂ := pays₂.accounts.handler
      rw [hsame, pays₁.accounts.handler] at h₂
      simpa using h₂.symm
    have hcharged₂ := pays₂.charged
    rw [hhandler] at hcharged₂
    obtain ⟨h', hcharge, -⟩ := chargeStep_both pays₁.charged hcharged₂ (by
      rw [← hhandler]
      exact suffices'.instantCap hsame)
    exact ⟨q₁.charged, h', by rw [hsame]; exact pays₁.handler_after,
      hhandler ▸ chargeStep_sameButCap pays₁.charged, hcharge⟩
  · refine ⟨q₂.handler, q₂.charged, ?_, .refl _, pays₂.charged⟩
    rw [← data_eq_program, pays₁.shape_of_ne_system (by rw [pays₂.accounts.handler]; simp) hsame,
      data_eq_program, pays₂.accounts.handler]
    exact ne_of_contents pays₂.accounts.handler pays₁.accounts.approvals (by simp)

theorem proof_stays_free (assoc : AssociatedAddresses rt) (apart : Apart p₁ p₂)
    (pays₁ : PaysWith rt s c₁ p₁ q₁ s₁) (pays₂ : PaysWith rt s c₂ p₂ q₂ s₂) :
    s₁.data p₂.bridgeProof = .system := by
  refine system_kept pays₁ pays₂.accounts.proof apart.proofs.symm ?_
  rintro owner mint tokenProgram heq
  exact assoc.not_program _ _ _ _ _ (pays₂.proof_address.trans (congrArg some heq.symm))

theorem payout_after (assoc : AssociatedAddresses rt) (apart : Apart p₁ p₂)
    (pays₁ : PaysWith rt s c₁ p₁ q₁ s₁) (pays₂ : PaysWith rt s c₂ p₂ q₂ s₂)
    {h : BridgeHandler Pubkey} (stored : s₁.data p₂.bridgeHandler = .program (.bridgeHandler h))
    (same : SameButCap q₂.handler h) :
    Payout rt s₁.programData c₂.signers p₂ h q₂.guardians q₂.approvals q₂.bump := by
  obtain ⟨remained, epoch, rfl⟩ := same
  have payout := pays₂.payout
  have happrovals :
      s₁.data p₂.verifiedSignatures = .program (.verifiedSignatures q₂.approvals) := by
    rw [← data_eq_program, pays₁.shape_of_ne_system _ _ apart.approvals.symm, data_eq_program,
      pays₂.accounts.approvals]
    · rw [pays₂.accounts.approvals]
      simp
    · exact ne_of_contents pays₂.accounts.approvals pays₁.accounts.handler (by simp)
  exact
    { signed := payout.signed
      handler := ⟨programData_eq_some.mpr stored, payout.handler.address⟩
      operator := payout.operator
      guardians := ⟨programData_kept pays₁ (programData_eq_some.mp payout.guardians.stored)
        (by simp) (by simp), payout.guardians.address⟩
      approvals := ⟨programData_eq_some.mpr happrovals, payout.approvals.address⟩
      proofAddress := payout.proofAddress
      proofFresh := by
        rw [State.programData, proof_stays_free assoc apart pays₁ pays₂]
        rfl
      unpaused := payout.unpaused
      counted := payout.counted
      approved := payout.approved }

omit [DecidableEq Pubkey] in
theorem recipient_eq (kind : payout? call.ix = some p) {x : BridgeAssetTargetChain Pubkey}
    {amount : UInt64} (token : tokenPayment? call.ix = some (x, amount)) :
    x.recipient = p.recipient := by
  cases hix : call.ix with
  | bridgeAssetTargetChain =>
      rw [hix] at kind token
      obtain rfl := Option.some.inj kind
      obtain ⟨rfl, -⟩ := Prod.mk.inj (Option.some.inj token)
      rfl
  | _ => simp [hix, tokenPayment?] at token

theorem openShape_vault {f : Pubkey → AccountData Pubkey Hash} {ix : Instruction Pubkey Hash}
    {x : BridgeAssetTargetChain Pubkey} {amount : UInt64}
    (token : tokenPayment? ix = some (x, amount)) (fresh : f x.recipientVault = .system) :
    openShape f ix x.recipientVault =
      .tokenAccount x.tokenProgram { mint := x.mint, owner := x.recipient, amount := 0 } := by
  cases ix with
  | bridgeAssetTargetChain =>
      obtain ⟨rfl, -⟩ := Prod.mk.inj (Option.some.inj token)
      simp [openShape, openVault, fresh]
  | _ => simp [tokenPayment?] at token

theorem same_vault (assoc : AssociatedAddresses rt) (pays₁ : PaysWith rt s c₁ p₁ q₁ s₁)
    (pays₂ : PaysWith rt s c₂ p₂ q₂ s₂) {x y : BridgeAssetTargetChain Pubkey}
    {amount amount' : UInt64} (token₁ : tokenPayment? c₁.ix = some (x, amount))
    (token₂ : tokenPayment? c₂.ix = some (y, amount'))
    (heq : x.recipientVault = y.recipientVault) :
    p₁.recipient = p₂.recipient ∧ x.mint = y.mint ∧ x.tokenProgram = y.tokenProgram := by
  refine assoc.injective ?_
  rw [pays₁.vault_address token₁, pays₂.vault_address token₂, heq]

theorem recipientVault_data (pays : PaysWith rt s call p q s')
    {x : BridgeAssetTargetChain Pubkey} {amount : UInt64}
    (token : tokenPayment? call.ix = some (x, amount)) :
    s.data x.recipientVault = .system ∨
      ∃ t, s.data x.recipientVault = .tokenAccount x.tokenProgram t := by
  by_cases hsystem : s.data x.recipientVault = .system
  · exact .inl hsystem
  · obtain ⟨-, s₁, s₂, s₃, s₄, run⟩ := pays
    have hopened := run.opened
    cases hix : call.ix with
    | bridgeAssetTargetChain b =>
        rw [hix] at token hopened
        obtain ⟨rfl, -⟩ := Prod.mk.inj (Option.some.inj token)
        obtain ⟨-, hshape, -, -, -, -, t, ht, -⟩ := initRecipientVaultIfNeeded_moves hopened
        have hkept : shape s b.recipientVault = shape s₁ b.recipientVault := by
          rw [hshape, openVault, if_neg]
          rwa [AccountData.isSystem_iff, data_eq_system]
        exact .inr ⟨_, data_eq_tokenAccount (hkept.trans (by rw [shape, ht]))⟩
    | _ => simp [hix, tokenPayment?] at token

theorem recipientVault_after (assoc : AssociatedAddresses rt)
    (pays₁ : PaysWith rt s c₁ p₁ q₁ s₁) (pays₂ : PaysWith rt s c₂ p₂ q₂ s₂)
    {x : BridgeAssetTargetChain Pubkey} {amount : UInt64}
    (token : tokenPayment? c₂.ix = some (x, amount)) :
    s₁.data x.recipientVault = .system ∧ s.data x.recipientVault = .system ∨
      shape s₁ x.recipientVault = openShape (shape s) c₂.ix x.recipientVault := by
  rcases recipientVault_data pays₂ token with hsystem | ⟨t, ht⟩
  · have hshape := pays₁.shape_of_system hsystem (vault_ne_proof assoc pays₁ pays₂ token)
    have hfresh : shape s x.recipientVault = .system := data_eq_system.mpr hsystem
    by_cases hshared : ∃ y amount', tokenPayment? c₁.ix = some (y, amount') ∧
        y.recipientVault = x.recipientVault
    · obtain ⟨y, amount', htoken, heq⟩ := hshared
      obtain ⟨hrecipient, hmint, hprogram⟩ := same_vault assoc pays₁ pays₂ htoken token heq
      have hopen := openShape_vault htoken (heq ▸ hfresh)
      rw [heq] at hopen
      right
      rw [hshape, hopen, openShape_vault token hfresh, recipient_eq pays₁.1 htoken,
        recipient_eq pays₂.1 token, hrecipient, hmint, hprogram]
    · left
      refine ⟨?_, hsystem⟩
      rw [openShape_of_ne, hfresh, data_eq_system] at hshape
      · exact hshape
      · intro y amount' htoken heq
        exact hshared ⟨y, amount', htoken, heq.symm⟩
  · right
    rw [openShape_of_ne_system (by rw [shape, ht]; simp [shapeOf])]
    exact shape_kept pays₁ ht (by simp) (by simp) (by simp)

omit [DecidableEq Pubkey] in
theorem topUp_le {len : ℕ} (h : s.lamports a ≤ s'.lamports a) :
    topUp rt s' a len ≤ topUp rt s a len :=
  Nat.sub_le_sub_left h _

omit [DecidableEq Pubkey] in
theorem ne_of_data {b : Pubkey} (ha : s.data a = .system) {d : ProgramData Pubkey Hash}
    (hb : s.data b = .program d) : a ≠ b :=
  ne_of_contents ha hb (by simp)

theorem unused_gains (pays : PaysWith rt s call p q s') (hdata : s.data a = .system)
    (hoperator : a ≠ p.operator) : s.lamports a ≤ s'.lamports a :=
  pays.lamports_ge hoperator (ne_of_data hdata pays.accounts.handler)
    (ne_of_data hdata pays.accounts.approvals)

theorem proof_ne_operator (key₁ : HasKey rt p₁.operator)
    (pays₂ : PaysWith rt s c₂ p₂ q₂ s₂) : p₂.bridgeProof ≠ p₁.operator := by
  intro heq
  exact key₁.not_program _ _ (pays₂.proof_address.trans (congrArg some heq))

theorem vault_ne_operator (key₁ : HasKey rt p₁.operator) (pays₂ : PaysWith rt s c₂ p₂ q₂ s₂)
    {x : BridgeAssetTargetChain Pubkey} {amount : UInt64}
    (token : tokenPayment? c₂.ix = some (x, amount)) : x.recipientVault ≠ p₁.operator := by
  intro heq
  exact key₁.not_associated _ _ _ ((pays₂.vault_address token).trans heq)

omit [DecidableEq Pubkey] in
theorem vaultOf_eq {ix : Instruction Pubkey Hash} {x : BridgeAssetTargetChain Pubkey}
    {amount : UInt64} (token : tokenPayment? ix = some (x, amount)) :
    vaultOf p ix = x.recipientVault := by
  cases ix with
  | bridgeAssetTargetChain =>
      obtain ⟨rfl, -⟩ := Prod.mk.inj (Option.some.inj token)
      rfl
  | _ => simp [tokenPayment?] at token

omit [DecidableEq Pubkey] in
theorem openCost_ne_zero {ix : Instruction Pubkey Hash} (h : openCost rt s ix ≠ 0) :
    ∃ x amount, tokenPayment? ix = some (x, amount) ∧ s.data x.recipientVault = .system := by
  cases ix with
  | bridgeAssetTargetChain x =>
      exact ⟨x, _, rfl, by_contra fun hs => h (if_neg (mt AccountData.isSystem_iff.mp hs))⟩
  | _ => exact absurd rfl h

omit [DecidableEq Pubkey] in
theorem openCost_of_system {ix : Instruction Pubkey Hash} {x : BridgeAssetTargetChain Pubkey}
    {amount : UInt64} (token : tokenPayment? ix = some (x, amount))
    (hsystem : s.data x.recipientVault = .system) :
    openCost rt s ix = topUp rt s x.recipientVault (rt.tokenAccountLen x.mint) := by
  cases ix with
  | bridgeAssetTargetChain =>
      obtain ⟨rfl, -⟩ := Prod.mk.inj (Option.some.inj token)
      exact if_pos (AccountData.isSystem_iff.mpr hsystem)
  | _ => simp [tokenPayment?] at token

theorem openCost_le (key₁ : HasKey rt p₁.operator)
    (pays₁ : PaysWith rt s c₁ p₁ q₁ s₁) (pays₂ : PaysWith rt s c₂ p₂ q₂ s₂) :
    openCost rt s₁ c₂.ix ≤ openCost rt s c₂.ix := by
  by_cases hzero : openCost rt s₁ c₂.ix = 0
  · rw [hzero]
    exact Nat.zero_le _
  · obtain ⟨x, amount, htoken, hsystem⟩ := openCost_ne_zero hzero
    have hsystem' : s.data x.recipientVault = .system := by
      rcases recipientVault_data pays₂ htoken with hs | ⟨t, ht⟩
      · exact hs
      · have hkept := shape_kept pays₁ ht (by simp) (by simp) (by simp)
        rw [data_eq_system.mpr hsystem] at hkept
        exact data_eq_system.mp hkept.symm
    rw [openCost_of_system htoken hsystem, openCost_of_system htoken hsystem']
    exact topUp_le (unused_gains pays₁ hsystem' (vault_ne_operator key₁ pays₂ htoken))

theorem rentCost_le (key₁ : HasKey rt p₁.operator)
    (pays₁ : PaysWith rt s c₁ p₁ q₁ s₁) (pays₂ : PaysWith rt s c₂ p₂ q₂ s₂) :
    rentCost rt s₁ p₂ c₂.ix ≤ rentCost rt s p₂ c₂.ix :=
  Nat.add_le_add (openCost_le key₁ pays₁ pays₂)
    (topUp_le (unused_gains pays₁ pays₂.accounts.proof (proof_ne_operator key₁ pays₂)))

omit [DecidableEq Pubkey] in
theorem openCost_eq_zero_of_ne {ix : Instruction Pubkey Hash} {a : Pubkey}
    (hne : ∀ x amount, tokenPayment? ix = some (x, amount) →
      s.data x.recipientVault = .system → a ≠ x.recipientVault)
    (heq : a = vaultOf p ix) : openCost rt s ix = 0 := by
  by_contra hcost
  obtain ⟨x, amount, htoken, hsystem⟩ := openCost_ne_zero hcost
  exact hne x amount htoken hsystem (heq.trans (vaultOf_eq htoken))

omit [DecidableEq Pubkey] in
/-- An account that a payout uses as recipient at most. -/
structure Bystander (p : PayoutCall Pubkey Hash) (ix : Instruction Pubkey Hash) (a : Pubkey) :
    Prop where
  operator : a ≠ p.operator
  proof : a ≠ p.bridgeProof
  handler : a ≠ p.bridgeHandler
  approvals : a ≠ p.verifiedSignatures
  vault : ∀ x amount, tokenPayment? ix = some (x, amount) → a ≠ x.recipientVault

theorem Bystander.lamports (bystander : Bystander p call.ix a)
    (pays : PaysWith rt s call p q s') :
    s'.lamports a = s.lamports a + if a = p.recipient then solAmount call.ix else 0 := by
  have hshift := pays.moves.1.lamports a
  have hvault : a = vaultOf p call.ix → openCost rt s call.ix = 0 :=
    openCost_eq_zero_of_ne fun x amount htoken _ => bystander.vault x amount htoken
  simp only [payoutShift_apply, bystander.operator, bystander.proof, bystander.handler,
    bystander.approvals, and_false, if_false] at hshift
  by_cases heq : a = vaultOf p call.ix
  · rw [hvault heq] at hshift
    split_ifs at hshift ⊢ <;> omega
  · rw [if_neg heq] at hshift
    split_ifs at hshift ⊢ <;> omega

theorem approvals_bystander (assoc : AssociatedAddresses rt) (apart : Apart p₁ p₂)
    (pays₁ : PaysWith rt s c₁ p₁ q₁ s₁) (pays₂ : PaysWith rt s c₂ p₂ q₂ s₂) :
    Bystander p₁ c₁.ix p₂.verifiedSignatures := by
  have hdata := pays₂.accounts.approvals
  exact
    { operator := (ne_of_data pays₁.accounts.operator hdata).symm
      proof := (ne_of_data pays₁.accounts.proof hdata).symm
      handler := ne_of_contents hdata pays₁.accounts.handler (by simp)
      approvals := apart.approvals.symm
      vault := fun x amount htoken heq =>
        vault_not_program assoc pays₁ htoken (heq ▸ pays₂.payout.approvals.address) }

theorem proof_bystander (assoc : AssociatedAddresses rt) (apart : Apart p₁ p₂)
    (key₁ : HasKey rt p₁.operator) (pays₁ : PaysWith rt s c₁ p₁ q₁ s₁)
    (pays₂ : PaysWith rt s c₂ p₂ q₂ s₂) : Bystander p₁ c₁.ix p₂.bridgeProof where
  operator := proof_ne_operator key₁ pays₂
  proof := apart.proofs.symm
  handler := ne_of_data pays₂.accounts.proof pays₁.accounts.handler
  approvals := ne_of_data pays₂.accounts.proof pays₁.accounts.approvals
  vault _ _ htoken heq := vault_not_program assoc pays₁ htoken (heq ▸ pays₂.proof_address)

theorem vault_bystander (assoc : AssociatedAddresses rt) (key₁ : HasKey rt p₁.operator)
    (pays₁ : PaysWith rt s c₁ p₁ q₁ s₁) (pays₂ : PaysWith rt s c₂ p₂ q₂ s₂)
    {x : BridgeAssetTargetChain Pubkey} {amount : UInt64}
    (token : tokenPayment? c₂.ix = some (x, amount))
    (hsystem : s.data x.recipientVault = .system)
    (hne : ∀ y amount', tokenPayment? c₁.ix = some (y, amount') →
      x.recipientVault ≠ y.recipientVault) :
    Bystander p₁ c₁.ix x.recipientVault where
  operator := vault_ne_operator key₁ pays₂ token
  proof heq := vault_not_program assoc pays₂ token (heq ▸ pays₁.proof_address)
  handler := ne_of_data hsystem pays₁.accounts.handler
  approvals := ne_of_data hsystem pays₁.accounts.approvals
  vault := hne

theorem rent_after (key₁ : HasKey rt p₁.operator)
    (pays₁ : PaysWith rt s c₁ p₁ q₁ s₁) (pays₂ : PaysWith rt s c₂ p₂ q₂ s₂)
    (suffices' : SufficesAfter rt s p₁ c₁.ix (PayoutQuote.sources q₁) p₂ c₂.ix
      (PayoutQuote.sources q₂)) : rentCost rt s₁ p₂ c₂.ix ≤ s₁.lamports p₂.operator := by
  have hrent := rentCost_le key₁ pays₁ pays₂
  have hsuffices := suffices'.rent
  by_cases hsame : p₂.operator = p₁.operator
  · have hpaid := pays₁.operator_ge
    rw [if_pos hsame, hsame] at hsuffices
    rw [hsame]
    omega
  · have hgains := unused_gains pays₁ pays₂.accounts.operator hsame
    omega

theorem handlerFunds_after (pays₁ : PaysWith rt s c₁ p₁ q₁ s₁)
    (pays₂ : PaysWith rt s c₂ p₂ q₂ s₂)
    (suffices' : SufficesAfter rt s p₁ c₁.ix (PayoutQuote.sources q₁) p₂ c₂.ix
      (PayoutQuote.sources q₂)) (solana : q₂.handler.chain = .solana) :
    rt.minimumBalance handlerLen + solAmount c₂.ix ≤ s₁.lamports p₂.bridgeHandler := by
  have hsuffices := suffices'.handlerFunds solana
  by_cases hsame : p₂.bridgeHandler = p₁.bridgeHandler
  · have hpaid := pays₁.handler_ge
    rw [if_pos hsame, hsame] at hsuffices
    rw [hsame]
    omega
  · have happrovals : p₂.bridgeHandler ≠ p₁.verifiedSignatures :=
      ne_of_contents pays₂.accounts.handler pays₁.accounts.approvals (by simp)
    have hgains := pays₁.lamports_ge
      (ne_of_data pays₁.accounts.operator pays₂.accounts.handler).symm hsame happrovals
    omega

theorem refundRoom_after (assoc : AssociatedAddresses rt) (apart : Apart p₁ p₂)
    (pays₁ : PaysWith rt s c₁ p₁ q₁ s₁) (pays₂ : PaysWith rt s c₂ p₂ q₂ s₂)
    (suffices' : SufficesAfter rt s p₁ c₁.ix (PayoutQuote.sources q₁) p₂ c₂.ix
      (PayoutQuote.sources q₂)) :
    s₁.lamports p₂.operator + s₁.lamports p₂.verifiedSignatures + solAmount c₂.ix <
      2 ^ 64 := by
  have hroom := suffices'.lamportRoom p₂.operator (by simp)
  have happrovals := (approvals_bystander assoc apart pays₁ pays₂).lamports pays₁
  have hrefund : s.lamports p₂.verifiedSignatures ≤ refund s p₂ c₂.ix := Nat.le_add_right _ _
  unfold movedLamports at hroom
  by_cases hrecipient : p₂.verifiedSignatures = p₁.recipient
  · have hle := lamports_le_of_ne pays₁ (a := p₂.operator) fun heq =>
      pays₂.apart (hrecipient.trans heq.symm)
    rw [if_pos hrecipient] at happrovals
    omega
  · have hle := lamports_le pays₁ p₂.operator
    unfold movedLamports at hle
    rw [if_neg hrecipient] at happrovals
    omega

/-- After a payout, another one that uses accounts of its own is possible. -/
theorem ready_after (assoc : AssociatedAddresses rt) (apart : Apart p₁ p₂)
    (key₁ : HasKey rt p₁.operator) (key₂ : HasKey rt p₂.operator)
    (pays₁ : PaysWith rt s c₁ p₁ q₁ s₁) (pays₂ : PaysWith rt s c₂ p₂ q₂ s₂)
    (suffices' : SufficesAfter rt s p₁ c₁.ix (PayoutQuote.sources q₁) p₂ c₂.ix
      (PayoutQuote.sources q₂))
    {h h' : BridgeHandler Pubkey} (stored : s₁.data p₂.bridgeHandler = .program (.bridgeHandler h))
    (same : SameButCap q₂.handler h)
    (charged : chargeStep rt s.clock q₂.decimals q₂.approvals.createdAt h c₂.ix = .ok h') :
    Ready rt s s₁ c₂ p₂ q₂ h h' := by
  have hmoves := pays₁.moves.1
  exact
    { payout := payout_after assoc apart pays₁ pays₂ stored same
      chain := same.chain
      charged := by rw [hmoves.clock]; exact charged
      operator := system_kept pays₁ pays₂.accounts.operator
        (fun heq => key₂.not_program _ _ (pays₁.proof_address.trans (congrArg some heq.symm)))
        key₂.not_associated
      proof := proof_stays_free assoc apart pays₁ pays₂
      token := by
        intro a amount htoken
        obtain ⟨-, ⟨m, hm, -⟩, ⟨w, hw, -⟩, -, info⟩ := pays₂.terms htoken
        refine ⟨⟨programData_kept pays₁ (programData_eq_some.mp info.stored) (by simp) (by simp),
          info.address⟩, shape_kept pays₁ hm (by simp) (by simp) (by simp),
          shape_kept pays₁ hw (by simp) (by simp) (by simp),
          recipientVault_after assoc pays₁ pays₂ htoken, fun hnative => ?_⟩
        rw [same.chain] at hnative
        have hvault := suffices'.vault a amount htoken hnative
        have hshift := hmoves.amounts a.bridgeHandlerVault
        simp only [PayoutQuote.sources] at hvault
        omega
      amountRoom := by
        intro a amount htoken b hb
        have hroom := suffices'.amountRoom a amount htoken b hb
        have hshift := hmoves.amounts b
        simp only [PayoutQuote.sources] at hroom
        rw [same.chain]
        omega
      rent := rent_after key₁ pays₁ pays₂ suffices'
      handlerFunds := by
        rw [same.chain]
        exact handlerFunds_after pays₁ pays₂ suffices'
      lamportRoom := by
        intro a ha
        have hroom := suffices'.lamportRoom a (by rcases ha with rfl | rfl | rfl <;> simp)
        have hle := lamports_le pays₁ a
        have hrent := rentCost_le key₁ pays₁ pays₂
        unfold movedLamports at hroom hle
        omega
      refundRoom := refundRoom_after assoc apart pays₁ pays₂ suffices' }

end BridgeProgram.PayoutFrames
