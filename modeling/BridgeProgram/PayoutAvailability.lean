import BridgeProgram.PayoutTransport

namespace BridgeProgram.PayoutAvailability

open BridgeProgram.AccountEffects
open BridgeProgram.AnchorAccounts
open BridgeProgram.BalanceEffects
open BridgeProgram.BalanceShifts
open BridgeProgram.BridgeProgramEntry
open BridgeProgram.CheckedResult
open BridgeProgram.PayoutSteps
open BridgeProgram.PayoutTransport
open BridgeProgram.ProgramStates
open BridgeProgram.RegistryModel
open BridgeProgram.SolanaRuntime
open BridgeProgram.TargetInstructions
open BridgeProgram.TokenInstructions
open BridgeProgram.TokenPrograms

variable {Pubkey Hash : Type} [DecidableEq Pubkey]

omit [DecidableEq Pubkey] in
/-- The address of the recipient's token account is free, or it is there. -/
def RecipientVault (x : State Pubkey Hash) (a : BridgeAssetTargetChain Pubkey) : Prop :=
  x.data a.recipientVault = .system ∧ a.operator ≠ a.recipientVault ∧
      a.bridgeProof ≠ a.recipientVault ∨
    ∃ r, x.data a.recipientVault = .tokenAccount a.tokenProgram r ∧ r.mint = a.mint ∧
      r.owner = a.recipient

omit [DecidableEq Pubkey] in
/-- The handler has the tokens, or the right to mint them. -/
def TokensFunded (x : State Pubkey Hash) (a : BridgeAssetTargetChain Pubkey) (chain : Chain)
    (t : TokenInfo Pubkey) (amount : ℕ) : Prop :=
  isNativeOn chain t = true ∧ amount ≤ amounts x a.bridgeHandlerVault ∧
      (∀ w, x.data a.bridgeHandlerVault = .tokenAccount a.tokenProgram w → w.mint = a.mint) ∨
    isNativeOn chain t = false ∧ isWrappedOn chain t = true ∧
      ∀ m, x.data a.mint = .mint a.tokenProgram m → m.mintAuthority = some a.bridgeHandler

omit [DecidableEq Pubkey] in
/-- What a token payout needs of its token accounts. -/
structure TokensReady (rt : Runtime Pubkey Hash) (x : State Pubkey Hash)
    (a : BridgeAssetTargetChain Pubkey) (amount : UInt64) (chain : Chain) (t : TokenInfo Pubkey)
    (decimals : UInt8) (vaultAmount : ℕ) : Prop where
  terms : TokenTerms rt x a t decimals vaultAmount
  recipientAddress : rt.associatedTokenAddress a.recipient a.mint a.tokenProgram =
    a.recipientVault
  recipientVault : RecipientVault x a
  funded : TokensFunded x a chain t amount.toNat
  room : ∀ b, b = a.mint ∨ b = a.recipientVault → amounts x b + amount.toNat < 2 ^ 64

/-- What a payout needs of the balances, after `cost` lamports of the operator have gone to
the approvals. -/
structure PayoutFunds (rt : Runtime Pubkey Hash) (x : State Pubkey Hash)
    (p : PayoutCall Pubkey Hash) (ix : Instruction Pubkey Hash) (chain : Chain) (cost : ℕ) :
    Prop where
  native : chain = .solayer → rt.solayer = true ∧ ∀ lamports i, rt.solMintNativeSol lamports i = 0
  rent : cost + rentCost rt x p ix ≤ x.lamports p.operator
  handlerFunds : chain = .solana →
    rt.minimumBalance handlerLen + solAmount ix < 2 ^ 64 ∧
      rt.minimumBalance handlerLen + solAmount ix ≤ x.lamports p.bridgeHandler
  lamportRoom : ∀ a, a = vaultOf p ix ∨ a = p.bridgeProof ∨ a = p.recipient →
    x.lamports a + (cost + rentCost rt x p ix) + solAmount ix < 2 ^ 64
  refundRoom : x.lamports p.operator + x.lamports p.verifiedSignatures + solAmount ix < 2 ^ 64

/-- What a payout needs of a state. -/
structure CanPay (rt : Runtime Pubkey Hash) (x : State Pubkey Hash) (call : Call Pubkey Hash)
    (p : PayoutCall Pubkey Hash) (q : PayoutQuote Pubkey) : Prop where
  payout : Payout rt x.programData call.signers p q.handler q.guardians q.approvals q.bump
  message : MessageMatches rt call.ix
  charged : chargeStep rt x.clock q.decimals q.approvals.createdAt q.handler call.ix =
    .ok q.charged
  operator : x.data p.operator = .system
  proof : x.data p.bridgeProof = .system
  operator_ne_proof : p.operator ≠ p.bridgeProof
  tokens : ∀ a amount, tokenPayment? call.ix = some (a, amount) →
    TokensReady rt x a amount q.handler.chain q.token q.decimals q.vaultAmount
  funds : PayoutFunds rt x p call.ix q.handler.chain 0

variable {rt : Runtime Pubkey Hash} {x z z₁ : State Pubkey Hash} {call : Call Pubkey Hash}
  {p : PayoutCall Pubkey Hash} {q : PayoutQuote Pubkey} {a : BridgeAssetTargetChain Pubkey}
  {amount : UInt64} {chain : Chain} {t : TokenInfo Pubkey} {decimals : UInt8} {vaultAmount : ℕ}

omit [DecidableEq Pubkey] in
theorem eq_of_shapeOf {d e : AccountData Pubkey Hash} (hshape : shapeOf d = shapeOf e)
    (hamount : amountOf d = amountOf e) : d = e := by
  cases d with
  | mint tokenProgram m =>
      cases e with
      | mint tokenProgram' m' =>
          cases m
          cases m'
          simp_all [shapeOf, amountOf]
      | _ => simp [shapeOf] at hshape
  | tokenAccount tokenProgram t =>
      cases e with
      | tokenAccount tokenProgram' t' =>
          cases t
          cases t'
          simp_all [shapeOf, amountOf]
      | _ => simp [shapeOf] at hshape
  | _ => cases e <;> simp_all [shapeOf]

theorem TokensReady.open_ok (ready : TokensReady rt x a amount chain t decimals vaultAmount)
    (payer : x.data a.operator = .system) (rent : vaultRent rt x a ≤ x.lamports a.operator)
    (room : x.lamports a.recipientVault + vaultRent rt x a < 2 ^ 64) :
    ∃ z, initRecipientVaultIfNeeded rt x a = .ok z := by
  obtain ⟨m, hm, -⟩ := ready.terms.mint
  have hassoc := ready.recipientAddress
  have hprogram := ready.terms.program
  unfold vaultRent at rent room
  simp only [initRecipientVaultIfNeeded, bind_eq_ok, require_eq_ok, pure_eq_ok, Prod.exists,
    readTokenAccount_eq_ok]
  rcases ready.recipientVault with ⟨hsystem, hne, -⟩ | ⟨r, hr, hmint, howner⟩
  · have hsystem' := AccountData.isSystem_iff.mpr hsystem
    rw [if_pos hsystem'] at rent room
    obtain ⟨v, hcreate⟩ := createAccount_ok _ _ (.tokenAccount a.tokenProgram
      { mint := a.mint, owner := a.recipient, amount := 0 }) hsystem hne payer rent room
    have hnew := (createAccount_data hcreate).2.1
    refine ⟨v, v, ?_, a.tokenProgram, _, by rw [hnew, Function.update_self], (), hprogram, (),
      rfl, (), rfl, (), rfl, (), hassoc, rfl⟩
    rw [if_pos hsystem']
    simp only [createAssociatedToken, bind_eq_ok, require_eq_ok, mintOf_eq_ok]
    exact ⟨(), hassoc, m, hm, hcreate⟩
  · refine ⟨x, x, ?_, a.tokenProgram, r, hr, (), hprogram, (), hmint, (), howner, (), rfl, (),
      hassoc, rfl⟩
    rw [if_neg (by rw [hr]; simp [AccountData.isSystem])]
    rfl

theorem TokensReady.pay_ok (ready : TokensReady rt x a amount chain t decimals vaultAmount)
    (hvault : z.data a.bridgeHandlerVault = x.data a.bridgeHandlerVault)
    (hmint : z.data a.mint = x.data a.mint) {r : TokenAccount Pubkey}
    (hrecipient : z.data a.recipientVault = .tokenAccount a.tokenProgram r)
    (recipientMint : r.mint = a.mint) (same : r.amount = amounts x a.recipientVault) :
    ∃ z', payTokens rt z a chain t vaultAmount decimals amount = .ok z' := by
  obtain ⟨m, hm, hdecimals⟩ := ready.terms.mint
  obtain ⟨w, hw, howner, hamount⟩ := ready.terms.vault
  have hroom := ready.room a.recipientVault (.inr rfl)
  rw [← same] at hroom
  unfold payTokens
  rcases ready.funded with ⟨hnative, hfunds, hwmint⟩ | ⟨hnative, hwrapped, hauthority⟩
  · have hread : amounts x a.bridgeHandlerVault = w.amount := by
      rw [amounts, hw]
      rfl
    rw [hread] at hfunds
    simp only [if_pos hnative, bind_eq_ok, require_eq_ok, transferChecked,
      tokenAccountOf_eq_ok, mintOf_eq_ok, checkedSub_eq_ok]
    by_cases hsame : a.bridgeHandlerVault = a.recipientVault
    · exact ⟨z, (), hamount ▸ hfunds, w, hvault.trans hw, r, hrecipient, m, hmint.trans hm, (),
        ⟨hwmint w hw, recipientMint⟩, (), hdecimals, (), howner, _, ⟨hfunds, rfl⟩, by
          rw [if_pos hsame]
          rfl⟩
    · have htotal : r.amount + (amount.toNat - rt.transferFee a.mint amount.toNat) < 2 ^ 64 := by
        omega
      simp only [if_neg hsame, bind_eq_ok, checkedAdd_eq_ok, pure_eq_ok]
      exact ⟨_, (), hamount ▸ hfunds, w, hvault.trans hw, r, hrecipient, m, hmint.trans hm, (),
        ⟨hwmint w hw, recipientMint⟩, (), hdecimals, (), howner, _, ⟨hfunds, rfl⟩, _,
        ⟨htotal, rfl⟩, rfl⟩
  · have hsupply := ready.room a.mint (.inl rfl)
    rw [amounts, hm] at hsupply
    rw [if_neg (by rw [hnative]; exact Bool.false_ne_true), if_pos hwrapped]
    simp only [mintTo, bind_eq_ok, require_eq_ok, tokenAccountOf_eq_ok, mintOf_eq_ok,
      checkedAdd_eq_ok, pure_eq_ok]
    exact ⟨_, m, hmint.trans hm, r, hrecipient, (), recipientMint, (), hauthority m hm, _,
      ⟨hsupply, rfl⟩, _, ⟨hroom, rfl⟩, rfl⟩

omit [DecidableEq Pubkey] in
theorem TokensReady.of_data {y : State Pubkey Hash}
    (ready : TokensReady rt y a amount chain t decimals vaultAmount)
    (same : ∀ b, b = a.mint ∨ b = a.bridgeHandlerVault ∨ b = a.recipientVault ∨
      b = a.tokenInfo → x.data b = y.data b) :
    TokensReady rt x a amount chain t decimals vaultAmount := by
  have hmint := same a.mint (.inl rfl)
  have hvault := same a.bridgeHandlerVault (.inr (.inl rfl))
  have hrecipient := same a.recipientVault (.inr (.inr (.inl rfl)))
  have hinfo := same a.tokenInfo (.inr (.inr (.inr rfl)))
  have hamounts : ∀ b, x.data b = y.data b → amounts x b = amounts y b := by
    intro b hb
    rw [amounts, amounts, hb]
  constructor
  · refine ⟨ready.terms.program, hmint ▸ ready.terms.mint, hvault ▸ ready.terms.vault,
      ready.terms.vaultAddress, ⟨?_, ready.terms.token.address⟩⟩
    rw [programData_eq_some, hinfo, ← programData_eq_some]
    exact ready.terms.token.stored
  · exact ready.recipientAddress
  · unfold RecipientVault
    rw [hrecipient]
    exact ready.recipientVault
  · unfold TokensFunded
    rw [hamounts _ hvault, hvault, hmint]
    exact ready.funded
  · rintro b (rfl | rfl)
    · rw [hamounts _ hmint]
      exact ready.room _ (.inl rfl)
    · rw [hamounts _ hrecipient]
      exact ready.room _ (.inr rfl)

theorem CanPay.openStep_ok (kind : payout? call.ix = some p) (can : CanPay rt x call p q) :
    ∃ z, openStep rt x call.ix = .ok z := by
  have hrent := can.funds.rent
  have hroom := can.funds.lamportRoom
  have hoperator := can.operator
  have htokens := can.tokens
  unfold rentCost at hrent hroom
  cases hix : call.ix with
  | bridgeAssetTargetChain a msgHash sourceTxId sender sourceMint amount nonce gas =>
      rw [hix] at kind hrent hroom htokens
      obtain rfl := Option.some.inj kind
      have hcost : openCost rt x (.bridgeAssetTargetChain a msgHash sourceTxId sender
        sourceMint amount nonce gas) = vaultRent rt x a := rfl
      refine (htokens a amount rfl).open_ok hoperator ?_ ?_
      · rw [← hcost]
        exact (Nat.le_add_right _ _).trans ((Nat.le_add_left _ _).trans hrent)
      · have hvault := hroom a.recipientVault (.inl rfl)
        rw [← hcost]
        omega
  | bridgeAssetTargetChainSol => exact ⟨x, rfl⟩
  | _ => simp [hix, payout?] at kind

theorem openStep_closed (kind : payout? call.ix = some p)
    (opened : openStep rt x call.ix = .ok z) {b : Pubkey} (closed : x.data b = .system)
    (hb : ∀ a amount, tokenPayment? call.ix = some (a, amount) →
      x.data a.recipientVault = .system → b ≠ a.recipientVault) :
    z.data b = .system := by
  obtain ⟨-, hshape⟩ := openStep_moves kind opened
  have hclosed := data_eq_system.mpr closed
  rw [← data_eq_system, hshape]
  cases hix : call.ix with
  | bridgeAssetTargetChain a msgHash sourceTxId sender sourceMint amount =>
      rw [hix] at hb
      unfold openShape openVault
      dsimp only
      split
      next hsystem =>
          rw [isSystem_shape, AccountData.isSystem_iff] at hsystem
          rw [Function.update_of_ne (hb a amount rfl hsystem)]
          exact hclosed
      next => exact hclosed
  | _ => exact hclosed

omit [DecidableEq Pubkey] in
theorem CanPay.free_ne_vault (kind : payout? call.ix = some p) (can : CanPay rt x call p q)
    {a : BridgeAssetTargetChain Pubkey} {amount : UInt64}
    (token : tokenPayment? call.ix = some (a, amount))
    (system : x.data a.recipientVault = .system) :
    p.operator ≠ a.recipientVault ∧ p.bridgeProof ≠ a.recipientVault := by
  have hvault := (can.tokens a amount token).recipientVault
  cases hix : call.ix with
  | bridgeAssetTargetChain =>
      rw [hix] at kind token
      obtain rfl := Option.some.inj kind
      obtain ⟨rfl, -⟩ := Prod.mk.inj (Option.some.inj token)
      rcases hvault with ⟨-, hne⟩ | ⟨r, hr, -⟩
      · exact hne
      · rw [hr] at system
        cases system
  | _ => simp [hix, tokenPayment?] at token

theorem CanPay.initAccount_ok (kind : payout? call.ix = some p) (can : CanPay rt x call p q)
    (opened : openStep rt x call.ix = .ok z) :
    ∃ z₂, initAccount rt z p.operator
      (.bridgeProofTarget p.bridgeHandler (rt.hash p.sourceTxId.toList)) p.bridgeProof
      (.bridgeProof (zeroBridgeProof rt)) = .ok (z₂, q.bump) := by
  obtain ⟨hmoves, -⟩ := openStep_moves kind opened
  have hproof : z.data p.bridgeProof = .system := openStep_closed kind opened can.proof
    fun a amount token system => (can.free_ne_vault kind token system).2
  have hoperator : z.data p.operator = .system := openStep_closed kind opened can.operator
    fun a amount token system => (can.free_ne_vault kind token system).1
  have hne := can.operator_ne_proof
  have hcost : topUp rt z p.bridgeProof
      (ProgramData.bridgeProof (zeroBridgeProof rt)).space = proofCost rt x p :=
    topUp_proof kind opened hproof hne
  have hrent := can.funds.rent
  have hroom := can.funds.lamportRoom p.bridgeProof (.inr (.inl rfl))
  have hpays := hmoves.lamports p.operator
  have hgets := hmoves.lamports p.bridgeProof
  rw [moved_apply] at hpays hgets
  unfold rentCost at hrent hroom
  refine BalanceEffects.initAccount_ok _ can.payout.proofAddress hproof hne hoperator ?_ ?_
  · rw [hcost]
    rw [if_pos rfl] at hpays
    split_ifs at hpays <;> omega
  · rw [hcost]
    rw [if_neg hne.symm] at hgets
    split_ifs at hgets <;> omega

theorem CanPay.tokenStep_ok (kind : payout? call.ix = some p) (can : CanPay rt x call p q)
    (hshape : shape z = Function.update (openShape (shape x) call.ix) p.bridgeProof
      (.program (.bridgeProof (zeroBridgeProof rt))))
    (hamounts : amounts z = amounts x) :
    ∃ z', tokenStep rt z q.handler.chain q.token q.vaultAmount q.decimals call.ix = .ok z' := by
  -- accounts with data are as they were
  have hkept : ∀ b, x.data b ≠ .system → z.data b = x.data b := by
    intro b hdata
    have hne : b ≠ p.bridgeProof := by
      rintro rfl
      exact hdata can.proof
    refine eq_of_shapeOf ?_ (congrFun hamounts b)
    have hb := congrFun hshape b
    rwa [Function.update_of_ne hne, openShape_of_ne_system (mt data_eq_system.mp hdata)] at hb
  have hfree : ∀ a amount, tokenPayment? call.ix = some (a, amount) →
      x.data a.recipientVault = .system →
        p.operator ≠ a.recipientVault ∧ p.bridgeProof ≠ a.recipientVault :=
    fun _ _ => can.free_ne_vault kind
  have htokens := can.tokens
  cases hix : call.ix with
  | bridgeAssetTargetChain a msgHash sourceTxId sender sourceMint amount =>
      rw [hix] at hshape htokens hfree
      have ready := htokens a amount rfl
      obtain ⟨m, hm, -⟩ := ready.terms.mint
      obtain ⟨w, hw, -⟩ := ready.terms.vault
      obtain ⟨r, hr, hrmint⟩ : ∃ r, z.data a.recipientVault = .tokenAccount a.tokenProgram r ∧
          r.mint = a.mint := by
        rcases ready.recipientVault with ⟨hsystem, -⟩ | ⟨r, hr, hrmint, -⟩
        · have hne := (hfree a amount rfl hsystem).2
          have hopened := congrFun hshape a.recipientVault
          rw [Function.update_of_ne hne.symm, openShape, openVault,
            if_pos (by rw [isSystem_shape, hsystem]; rfl), Function.update_self] at hopened
          exact ⟨_, data_eq_tokenAccount
            (t := { mint := a.mint, owner := a.recipient, amount := 0 }) hopened, rfl⟩
        · exact ⟨r, (hkept _ (by simp [hr])).trans hr, hrmint⟩
      have hamount : r.amount = amounts x a.recipientVault := by
        rw [← hamounts, amounts, hr]
        rfl
      exact ready.pay_ok (hkept _ (by simp [hw])) (hkept _ (by simp [hm])) hr hrmint hamount
  | _ => exact ⟨z, rfl⟩

omit [DecidableEq Pubkey] in
theorem CanPay.apart (can : CanPay rt x call p q) : p.verifiedSignatures ≠ p.operator :=
  ne_of_contents (programData_eq_some.mp can.payout.approvals.stored) can.operator (by simp)

omit [DecidableEq Pubkey] in
theorem CanPay.accounts (can : CanPay rt x call p q) :
    PayoutAccounts x p q.handler q.approvals where
  operator := can.operator
  proof := can.proof
  handler := programData_eq_some.mp can.payout.handler.stored
  approvals := programData_eq_some.mp can.payout.approvals.stored
  operator_ne_proof := can.operator_ne_proof

theorem paySol_succeeds {chain : Chain} {bridgeHandler recipient : Pubkey} {dataLen : ℕ}
    {lamports accountIdx : UInt64}
    (native : chain = .solayer → rt.solayer = true ∧ rt.solMintNativeSol lamports accountIdx = 0)
    (funds : chain = .solana → rt.minimumBalance dataLen + lamports.toNat < 2 ^ 64 ∧
      rt.minimumBalance dataLen + lamports.toNat ≤ z.lamports bridgeHandler)
    (room : z.lamports recipient + lamports.toNat < 2 ^ 64) :
    ∃ z', paySol rt z chain bridgeHandler recipient dataLen lamports accountIdx = .ok z' := by
  cases chain with
  | solayer =>
      obtain ⟨hsolayer, hsyscall⟩ := native rfl
      simp only [paySol, mintSolToRecipient, bind_eq_ok, require_eq_ok, checkedAdd_eq_ok,
        pure_eq_ok]
      exact ⟨_, (), hsolayer, (), hsyscall, _, ⟨room, rfl⟩, rfl⟩
  | solana =>
      obtain ⟨hsum, hfloor⟩ := funds rfl
      have hle : lamports.toNat ≤ z.lamports bridgeHandler := (Nat.le_add_left _ _).trans hfloor
      have hroom : (z.setLamports bridgeHandler (z.lamports bridgeHandler -
          lamports.toNat)).lamports recipient + lamports.toNat < 2 ^ 64 := by
        rw [setLamports_lamports]
        by_cases hr : recipient = bridgeHandler
        · subst hr
          rw [Function.update_self]
          omega
        · rw [Function.update_of_ne hr]
          exact room
      simp only [paySol, transferSolToRecipient, bind_eq_ok, require_eq_ok, checkedAdd_eq_ok,
        checkedSub_eq_ok, pure_eq_ok]
      exact ⟨_, _, ⟨hsum, rfl⟩, (), hfloor, _, ⟨hle, rfl⟩, _, ⟨hroom, rfl⟩, rfl⟩

theorem CanPay.solStep_ok (kind : payout? call.ix = some p) (can : CanPay rt x call p q)
    (paid : RentPaid rt x z p call.ix) : ∃ z', solStep rt z q.handler.chain call.ix = .ok z' := by
  have hhandler := can.accounts.handler_ne_operator
  have hnative := can.funds.native
  have hfunds : q.handler.chain = .solana →
      rt.minimumBalance handlerLen + solAmount call.ix < 2 ^ 64 ∧
        rt.minimumBalance handlerLen + solAmount call.ix ≤ z.lamports p.bridgeHandler := by
    intro hchain
    obtain ⟨hsum, hfloor⟩ := can.funds.handlerFunds hchain
    have hgets := paid p.bridgeHandler
    simp only [moved_apply, hhandler, if_false] at hgets
    refine ⟨hsum, ?_⟩
    split_ifs at hgets <;> omega
  have hroom : z.lamports p.recipient + solAmount call.ix < 2 ^ 64 := by
    have hroom := can.funds.lamportRoom p.recipient (.inr (.inr rfl))
    have hgets := paid p.recipient
    unfold rentCost at hroom
    simp only [moved_apply] at hgets
    split_ifs at hgets <;> omega
  cases hix : call.ix with
  | bridgeAssetTargetChain =>
      rw [hix] at kind hfunds hroom
      obtain rfl := Option.some.inj kind
      simp only [solStep]
      split
      · exact paySol_succeeds (fun h => ⟨(hnative h).1, (hnative h).2 _ _⟩) hfunds hroom
      · exact ⟨z, rfl⟩
  | bridgeAssetTargetChainSol =>
      rw [hix] at kind hfunds hroom
      obtain rfl := Option.some.inj kind
      exact paySol_succeeds (fun h => ⟨(hnative h).1, (hnative h).2 _ _⟩) hfunds hroom
  | _ => simp [hix, payout?] at kind

theorem CanPay.finishStep_ok (kind : payout? call.ix = some p) (can : CanPay rt x call p q)
    {z₁ z₄ : State Pubkey Hash} (opened : openStep rt x call.ix = .ok z₁)
    (paid : RentPaid rt x z p call.ix) (sol : solStep rt z q.handler.chain call.ix = .ok z₄)
    (proof : BridgeProof Pubkey Hash) : ∃ z', finishStep z₄ p q.charged proof = .ok z' := by
  have accounts := can.accounts
  have hhandler := accounts.handler_ne_operator
  obtain ⟨hmoves, -⟩ := solStep_moves kind sol
  refine PayoutTransport.finishStep_ok ?_
  have hroom := can.funds.refundRoom
  have hoperator := hmoves.lamports p.operator
  have happrovals := hmoves.lamports p.verifiedSignatures
  have hoperator₃ := paid p.operator
  have happrovals₃ := paid p.verifiedSignatures
  have hdata : x.data p.verifiedSignatures ≠ .system := by
    rw [accounts.approvals]
    rintro ⟨⟩
  have hopenCost := openCost_moved opened (.inl hdata) can.apart
  rw [hopenCost, moved_apply_of_ne _ accounts.approvals_ne_proof can.apart] at happrovals₃
  simp only [solShift_apply, accounts.approvals_ne_handler, hhandler.symm, and_false,
    if_false] at hoperator happrovals
  simp only [moved_apply, if_true] at hoperator₃
  by_cases hrecipient : p.verifiedSignatures = p.recipient
  · have hne : p.operator ≠ p.recipient := fun heq => can.apart (hrecipient.trans heq.symm)
    rw [if_pos hrecipient] at happrovals
    rw [if_neg hne] at hoperator
    split_ifs at hoperator₃ <;> omega
  · rw [if_neg hrecipient] at happrovals
    split_ifs at hoperator hoperator₃ <;> omega

/-- A payout goes through in every state that has what it needs. -/
theorem CanPay.pays (kind : payout? call.ix = some p) (can : CanPay rt x call p q) :
    ∃ z, PaysWith rt x call p q z := by
  obtain ⟨z₁, hopen⟩ := can.openStep_ok kind
  obtain ⟨z₂, hinit⟩ := can.initAccount_ok kind hopen
  obtain ⟨hmoves₁, hshape₁⟩ := openStep_moves kind hopen
  obtain ⟨hproof, hne, -, -, hmoves₂, hshape₂⟩ := initAccount_moves hinit
  have hcost : topUp rt z₁ p.bridgeProof
      (ProgramData.bridgeProof (zeroBridgeProof rt)).space = proofCost rt x p :=
    topUp_proof kind hopen hproof hne
  rw [hcost] at hmoves₂
  have hmoves := hmoves₁.trans hmoves₂
  have hamounts : amounts z₂ = amounts x :=
    hmoves.amounts.unique (by rw [add_zero]; exact .refl _)
  obtain ⟨z₃, htokens⟩ := can.tokenStep_ok kind (by rw [hshape₂, hshape₁]) hamounts
  obtain ⟨hmoves₃, -⟩ := tokenStep_moves htokens
  have hpaid : RentPaid rt x z₃ p call.ix := by
    intro b
    have hshift := (hmoves.trans hmoves₃).lamports b
    rwa [add_zero] at hshift
  obtain ⟨z₄, hsol⟩ := can.solStep_ok kind hpaid
  obtain ⟨z, hfinish⟩ := can.finishStep_ok kind hopen hpaid hsol
    (payoutProof x.clock q.bump p.msgHash p.sourceTxId p.recipient)
  exact ⟨z, kind, z₁, z₂, z₃, z₄,
    { payout := can.payout
      message := can.message
      apart := can.apart
      terms := fun a amount token => (can.tokens a amount token).terms
      charged := can.charged
      opened := hopen
      created := hinit
      tokens := htokens
      sol := hsol
      finished := hfinish }⟩

end BridgeProgram.PayoutAvailability
