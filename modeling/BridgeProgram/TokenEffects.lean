import BridgeProgram.CallEffects
import BridgeProgram.PayoutFrames

namespace BridgeProgram.TokenEffects

open BridgeProgram.AccountEffects
open BridgeProgram.BalanceEffects
open BridgeProgram.BridgeProgramEntry
open BridgeProgram.CallEffects
open BridgeProgram.CheckedResult
open BridgeProgram.PayoutFrames
open BridgeProgram.PayoutSteps
open BridgeProgram.ProgramStates
open BridgeProgram.RegistryModel
open BridgeProgram.SolanaRuntime
open BridgeProgram.SourceInstructions
open BridgeProgram.SourceSteps
open BridgeProgram.TargetInstructions
open BridgeProgram.TokenInstructions
open BridgeProgram.TokenPrograms

variable {Pubkey Hash : Type}

theorem tokenPayment_handler {ix : Instruction Pubkey Hash} {p : PayoutCall Pubkey Hash}
    {x : BridgeAssetTargetChain Pubkey} {amount : UInt64} (kind : payout? ix = some p)
    (token : tokenPayment? ix = some (x, amount)) : x.bridgeHandler = p.bridgeHandler := by
  cases ix with
  | bridgeAssetTargetChain =>
      obtain rfl := Option.some.inj kind
      obtain ⟨rfl, -⟩ := Prod.mk.inj (Option.some.inj token)
      rfl
  | _ => simp [tokenPayment?] at token

theorem tokenRequest_accounts {ix : Instruction Pubkey Hash} {c : SourceCall Pubkey}
    {x : BridgeAssetSourceChain Pubkey} {amount : UInt64} (kind : source? ix = some c)
    (token : tokenRequest? ix = some (x, amount)) :
    x.signer = c.signer ∧ x.bridgeHandler = c.bridgeHandler := by
  cases ix with
  | bridgeAssetSourceChain =>
      obtain rfl := Option.some.inj kind
      obtain ⟨rfl, -⟩ := Prod.mk.inj (Option.some.inj token)
      exact ⟨rfl, rfl⟩
  | _ => simp [tokenRequest?] at token

variable [DecidableEq Pubkey] {rt : Runtime Pubkey Hash} {s s' s₁ s₂ s₃ s₄ : State Pubkey Hash}
  {call : Call Pubkey Hash} {a : Pubkey} {p : PayoutCall Pubkey Hash} {q : PayoutQuote Pubkey}

theorem amountShift_of_token {chain : Chain} {t : TokenInfo Pubkey} {ix : Instruction Pubkey Hash}
    {x : BridgeAssetTargetChain Pubkey} {amount : UInt64}
    (token : tokenPayment? ix = some (x, amount)) :
    amountShift rt chain t ix = tokenShift rt x chain t amount.toNat := by
  cases ix with
  | bridgeAssetTargetChain =>
      obtain ⟨rfl, rfl⟩ := Prod.mk.inj (Option.some.inj token)
      rfl
  | _ => simp [tokenPayment?] at token

theorem amountShift_of_none {chain : Chain} {t : TokenInfo Pubkey} {ix : Instruction Pubkey Hash}
    (noToken : tokenPayment? ix = none) : amountShift rt chain t ix = 0 := by
  cases ix with
  | bridgeAssetTargetChain => simp [tokenPayment?] at noToken
  | _ => rfl

theorem takenShift_of_token {chain : Chain} {t : TokenInfo Pubkey} {ix : Instruction Pubkey Hash}
    {x : BridgeAssetSourceChain Pubkey} {amount : UInt64}
    (token : tokenRequest? ix = some (x, amount)) :
    takenShift rt chain t ix = tokensTaken rt chain t x amount.toNat := by
  cases ix with
  | bridgeAssetSourceChain =>
      obtain ⟨rfl, rfl⟩ := Prod.mk.inj (Option.some.inj token)
      rfl
  | _ => simp [tokenRequest?] at token

theorem takenShift_of_none {chain : Chain} {t : TokenInfo Pubkey} {ix : Instruction Pubkey Hash}
    (noToken : tokenRequest? ix = none) : takenShift rt chain t ix = 0 := by
  cases ix with
  | bridgeAssetSourceChain => simp [tokenRequest?] at noToken
  | _ => rfl

theorem shape_before_tokens (kind : payout? call.ix = some p)
    (run : PayoutRun rt s call p q s₁ s₂ s₃ s₄ s') (hdata : s.data a ≠ .system) :
    shape s₂ a = shape s a := by
  obtain ⟨-, hshape₁⟩ := openStep_moves kind run.opened
  obtain ⟨-, -, -, -, -, hshape₂⟩ := initAccount_moves run.created
  have hproof : a ≠ p.bridgeProof := by
    rintro rfl
    exact hdata (run.accounts kind).proof
  rw [hshape₂, Function.update_of_ne hproof, hshape₁,
    openShape_of_ne_system (mt data_eq_system.mp hdata)]

theorem payTokens_requires {x : BridgeAssetTargetChain Pubkey} {chain : Chain}
    {t : TokenInfo Pubkey} {vaultAmount : ℕ} {decimals : UInt8} {amount : UInt64}
    (h : payTokens rt s x chain t vaultAmount decimals amount = .ok s') :
    (isNativeOn chain t = true →
      ∃ w, s.data x.bridgeHandlerVault = .tokenAccount x.tokenProgram w ∧ w.mint = x.mint) ∧
    (isNativeOn chain t = false →
      ∃ m, s.data x.mint = .mint x.tokenProgram m ∧ m.mintAuthority = some x.bridgeHandler) := by
  unfold payTokens at h
  cases hnative : isNativeOn chain t with
  | true =>
      simp only [hnative, if_true, transferChecked, bind_eq_ok, require_eq_ok,
        tokenAccountOf_eq_ok] at h
      obtain ⟨-, -, w, hw, -, -, -, -, -, ⟨hmint, -⟩, -⟩ := h
      exact ⟨fun _ => ⟨w, hw, hmint⟩, by simp⟩
  | false =>
      simp only [hnative, isWrappedOn_eq, Bool.not_false, Bool.false_eq_true, if_false, if_true,
        mintTo, bind_eq_ok, require_eq_ok, mintOf_eq_ok] at h
      obtain ⟨m, hm, -, -, -, -, -, hauthority, -⟩ := h
      exact ⟨by simp, fun _ => ⟨m, hm, hauthority⟩⟩

theorem tokens_of_pays (pays : PaysWith rt s call p q s') {x : BridgeAssetTargetChain Pubkey}
    {amount : UInt64} (token : tokenPayment? call.ix = some (x, amount)) :
    (∃ w, s.data x.bridgeHandlerVault = .tokenAccount x.tokenProgram w ∧
      w.owner = x.bridgeHandler ∧ (isNativeOn q.handler.chain q.token = true → w.mint = x.mint)) ∧
    ∃ m, s.data x.mint = .mint x.tokenProgram m ∧
      (isNativeOn q.handler.chain q.token = false → m.mintAuthority = some x.bridgeHandler) := by
  have terms := pays.terms token
  obtain ⟨w, hw, howner, -⟩ := terms.vault
  obtain ⟨m, hm, -⟩ := terms.mint
  obtain ⟨kind, s₁, s₂, s₃, s₄, run⟩ := pays
  have hw₂ : s₂.data x.bridgeHandlerVault = _ := data_eq_tokenAccount
    ((shape_before_tokens kind run (by rw [hw]; simp)).trans (by rw [shape, hw]))
  have hm₂ : s₂.data x.mint = _ := data_eq_mint
    ((shape_before_tokens kind run (by rw [hm]; simp)).trans (by rw [shape, hm]))
  have htokens := run.tokens
  cases hix : call.ix with
  | bridgeAssetTargetChain =>
      rw [hix] at token htokens
      obtain ⟨rfl, rfl⟩ := Prod.mk.inj (Option.some.inj token)
      obtain ⟨hvault, hmint⟩ := payTokens_requires htokens
      refine ⟨⟨w, hw, howner, fun hnative => ?_⟩, m, hm, fun hwrapped => ?_⟩
      · obtain ⟨w', hw', hsame⟩ := hvault hnative
        rw [hw₂] at hw'
        rw [← hsame, ← (AccountData.tokenAccount.inj hw').2]
      · obtain ⟨m', hm', hauthority⟩ := hmint hwrapped
        rw [hm₂] at hm'
        rw [← hauthority, ← (AccountData.mint.inj hm').2]
  | _ => simp [hix, tokenPayment?] at token

theorem tokens_ge_of_pays (pays : PaysWith rt s call p q s')
    (hvault : ∀ x amount, tokenPayment? call.ix = some (x, amount) →
      isNativeOn q.handler.chain q.token = true → a ≠ x.bridgeHandlerVault) :
    amounts s a ≤ amounts s' a := by
  have hshift := pays.moves.1.amounts a
  cases htoken : tokenPayment? call.ix with
  | none =>
      rw [amountShift_of_none htoken, Pi.zero_apply] at hshift
      omega
  | some token =>
      obtain ⟨x, amount⟩ := token
      have hne := hvault x amount htoken
      rw [amountShift_of_token htoken, tokenShift] at hshift
      split_ifs at hshift with hnative hsame
      · rw [Pi.zero_apply] at hshift
        omega
      · simp only [Pi.add_apply, Pi.single_apply, if_neg (hne hnative)] at hshift
        split_ifs at hshift <;> omega
      · simp only [Pi.add_apply, Pi.single_apply] at hshift
        split_ifs at hshift <;> omega

theorem vault_ge_of_pays (pays : PaysWith rt s call p q s') {x : BridgeAssetTargetChain Pubkey}
    {amount : UInt64} (token : tokenPayment? call.ix = some (x, amount)) :
    amounts s a ≤ amounts s' a + amount.toNat := by
  have hshift := pays.moves.1.amounts a
  rw [amountShift_of_token token, tokenShift] at hshift
  split_ifs at hshift
  · rw [Pi.zero_apply] at hshift
    omega
  · simp only [Pi.add_apply, Pi.single_apply] at hshift
    split_ifs at hshift <;> omega
  · simp only [Pi.add_apply, Pi.single_apply] at hshift
    split_ifs at hshift <;> omega

theorem supply_of_pays (pays : PaysWith rt s call p q s') {tokenProgram : Pubkey}
    {m : Mint Pubkey} (hdata : s.data a = .mint tokenProgram m) :
    amounts s' a = amounts s a ∨ ∃ x amount, tokenPayment? call.ix = some (x, amount) ∧
      a = x.mint ∧ m.mintAuthority = some p.bridgeHandler ∧
      isNativeOn q.handler.chain q.token = false ∧
      amounts s' a = amounts s a + amount.toNat := by
  have hshift := pays.moves.1.amounts a
  cases htoken : tokenPayment? call.ix with
  | none =>
      rw [amountShift_of_none htoken, Pi.zero_apply] at hshift
      exact .inl (by omega)
  | some token =>
      obtain ⟨x, amount⟩ := token
      obtain ⟨⟨w, hw, -, -⟩, m', hm', hauthority⟩ := tokens_of_pays pays htoken
      have hvault : a ≠ x.bridgeHandlerVault := by
        rintro rfl
        cases hdata.symm.trans hw
      have hrecipient : a ≠ x.recipientVault := by
        rintro rfl
        rcases recipientVault_data pays htoken with hsystem | ⟨t, ht⟩
        · cases hdata.symm.trans hsystem
        · cases hdata.symm.trans ht
      rw [amountShift_of_token htoken, tokenShift] at hshift
      split_ifs at hshift with hnative hsame
      · rw [Pi.zero_apply] at hshift
        exact .inl (by omega)
      · simp only [Pi.add_apply, Pi.single_apply, if_neg hvault, if_neg hrecipient] at hshift
        exact .inl (by omega)
      · simp only [Pi.add_apply, Pi.single_apply, if_neg hrecipient] at hshift
        split_ifs at hshift with hmint
        · have hwrapped : isNativeOn q.handler.chain q.token = false := by simpa using hnative
          have hm := hauthority hwrapped
          rw [← hmint, hdata] at hm'
          obtain ⟨-, rfl⟩ := AccountData.mint.inj hm'
          rw [tokenPayment_handler pays.1 htoken] at hm
          exact .inr ⟨x, amount, rfl, hmint, hm, hwrapped, by omega⟩
        · exact .inl (by omega)

section Source

variable {c : SourceCall Pubkey} {h : BridgeHandler Pubkey} {t : TokenInfo Pubkey}

theorem tokens_ge_of_source (effect : SourceEffect rt s s' call c h t)
    (hne : ∀ x amount, tokenRequest? call.ix = some (x, amount) →
      a ≠ x.signerVault ∧ a ≠ x.mint) : amounts s a ≤ amounts s' a := by
  have hshift := effect.amounts a
  cases htoken : tokenRequest? call.ix with
  | none =>
      rw [takenShift_of_none htoken, Pi.zero_apply] at hshift
      omega
  | some token =>
      obtain ⟨x, amount⟩ := token
      obtain ⟨hsigner, hmint⟩ := hne x amount htoken
      rw [takenShift_of_token htoken, tokensTaken,
        if_neg (effect.tokens x amount htoken).apart] at hshift
      split_ifs at hshift
      · simp only [Pi.add_apply, Pi.single_apply, if_neg hsigner] at hshift
        split_ifs at hshift <;> omega
      · simp only [Pi.add_apply, Pi.single_apply, if_neg hsigner, if_neg hmint] at hshift
        omega

theorem vault_of_source (effect : SourceEffect rt s s' call c h t)
    {x : BridgeAssetSourceChain Pubkey} {amount : UInt64}
    (token : tokenRequest? call.ix = some (x, amount))
    (locks : isUnregistered t = true ∨ isNativeOn h.chain t = true) :
    amounts s' x.bridgeHandlerVault = amounts s x.bridgeHandlerVault +
      (amount.toNat - rt.transferFee x.mint amount.toNat) := by
  have hapart := (effect.tokens x amount token).apart
  have hshift := effect.amounts x.bridgeHandlerVault
  rw [takenShift_of_token token, tokensTaken, if_pos (Bool.or_eq_true_iff.mpr locks),
    if_neg hapart] at hshift
  simp only [Pi.add_apply, Pi.single_apply, if_neg hapart.symm, if_true] at hshift
  omega

theorem burned_of_source (effect : SourceEffect rt s s' call c h t)
    {x : BridgeAssetSourceChain Pubkey} {amount : UInt64}
    (token : tokenRequest? call.ix = some (x, amount)) (registered : isUnregistered t = false)
    (wrapped : isNativeOn h.chain t = false) :
    amounts s' x.mint + amount.toNat = amounts s x.mint := by
  have taken := effect.tokens x amount token
  obtain ⟨m, hm⟩ := taken.mint
  obtain ⟨w, hw, -⟩ := taken.signerVault
  have hsigner : x.mint ≠ x.signerVault := ne_of_contents hm hw (by simp)
  have hshift := effect.amounts x.mint
  rw [takenShift_of_token token, tokensTaken, registered, wrapped, Bool.or_self,
    if_neg Bool.false_ne_true] at hshift
  simp only [Pi.add_apply, Pi.single_apply, if_neg hsigner, if_true] at hshift
  omega

theorem supply_of_source (effect : SourceEffect rt s s' call c h t) {tokenProgram : Pubkey}
    {m : Mint Pubkey} (hdata : s.data a = .mint tokenProgram m) :
    amounts s' a = amounts s a ∨ ∃ x amount, tokenRequest? call.ix = some (x, amount) ∧
      a = x.mint ∧ isUnregistered t = false ∧ isNativeOn h.chain t = false ∧
      amounts s' a + amount.toNat = amounts s a := by
  have hshift := effect.amounts a
  cases htoken : tokenRequest? call.ix with
  | none =>
      rw [takenShift_of_none htoken, Pi.zero_apply] at hshift
      exact .inl (by omega)
  | some token =>
      obtain ⟨x, amount⟩ := token
      have taken := effect.tokens x amount htoken
      obtain ⟨w, hw, -⟩ := taken.signerVault
      obtain ⟨v, hv, -⟩ := taken.vault
      have hsigner : a ≠ x.signerVault := by
        rintro rfl
        cases hdata.symm.trans hw
      have hvault : a ≠ x.bridgeHandlerVault := by
        rintro rfl
        have hkept := effect.kept _ (by rw [hdata]; simp) (programData_eq_none_of_mint hdata)
        rw [shape, shape, hdata, hv] at hkept
        cases hkept
      rw [takenShift_of_token htoken, tokensTaken, if_neg taken.apart] at hshift
      split_ifs at hshift with hlocks
      · simp only [Pi.add_apply, Pi.single_apply, if_neg hvault, if_neg hsigner] at hshift
        exact .inl (by omega)
      · simp only [Pi.add_apply, Pi.single_apply, if_neg hsigner] at hshift
        split_ifs at hshift with hmint
        · obtain ⟨hregistered, hwrapped⟩ := Bool.or_eq_false_iff.mp (by simpa using hlocks)
          exact .inr ⟨x, amount, rfl, hmint, hregistered, hwrapped, by omega⟩
        · exact .inl (by omega)

end Source

theorem tokenAccount_kept (effect : CallEffect rt s s' call) {tokenProgram : Pubkey}
    {w : TokenAccount Pubkey} (hdata : s.data a = .tokenAccount tokenProgram w) :
    s'.data a = .tokenAccount tokenProgram { w with amount := amounts s' a } := by
  refine data_eq_tokenAccount ((effect.shape_kept (by rw [hdata]; simp) ?_).trans
    (by rw [shape, hdata]))
  rw [State.programData, hdata]
  rfl

theorem mint_kept (effect : CallEffect rt s s' call) {tokenProgram : Pubkey}
    {m : Mint Pubkey} (hdata : s.data a = .mint tokenProgram m) :
    s'.data a = .mint tokenProgram { m with supply := amounts s' a } :=
  data_eq_mint ((effect.shape_kept (by rw [hdata]; simp)
    (programData_eq_none_of_mint hdata)).trans (by rw [shape, hdata]))

theorem vault_kept (effect : CallEffect rt s s' call) {tokenProgram : Pubkey}
    {w : TokenAccount Pubkey} (hdata : s.data a = .tokenAccount tokenProgram w)
    (howner : s.data w.owner ≠ .system)
    (hpayout : ∀ p, payout? call.ix = some p → w.owner ≠ p.bridgeHandler) :
    amounts s a ≤ amounts s' a := by
  cases effect with
  | quiet noSource noPayout keeps =>
      rw [amounts, amounts,
        keeps.data a (by rw [hdata]; simp) (by rw [State.programData, hdata]; rfl)]
  | requested kind effect stored =>
      refine tokens_ge_of_source effect fun x amount htoken => ?_
      have taken := effect.tokens x amount htoken
      obtain ⟨v, hv, -, hvowner⟩ := taken.signerVault
      obtain ⟨m, hm⟩ := taken.mint
      constructor
      · rintro rfl
        obtain ⟨-, rfl⟩ := AccountData.tokenAccount.inj (hdata.symm.trans hv)
        rw [hvowner, (tokenRequest_accounts kind htoken).1] at howner
        exact howner effect.signer
      · rintro rfl
        cases hdata.symm.trans hm
  | paid pays =>
      refine tokens_ge_of_pays pays fun x amount htoken _ => ?_
      obtain ⟨⟨v, hv, hvowner, -⟩, -⟩ := tokens_of_pays pays htoken
      rintro rfl
      obtain ⟨-, rfl⟩ := AccountData.tokenAccount.inj (hdata.symm.trans hv)
      exact hpayout _ pays.1 (hvowner.trans (tokenPayment_handler pays.1 htoken))

/-- Only a payout that releases tokens of the mint takes them from such an account. -/
theorem payout_of_debited (effect : CallEffect rt s s' call) {tokenProgram : Pubkey}
    {w : TokenAccount Pubkey} (hdata : s.data a = .tokenAccount tokenProgram w)
    (howner : s.data w.owner ≠ .system) (debited : amounts s' a < amounts s a) :
    ∃ p q x amount, PaysWith rt s call p q s' ∧ tokenPayment? call.ix = some (x, amount) ∧
      x.bridgeHandler = w.owner ∧ x.mint = w.mint ∧ x.tokenProgram = tokenProgram ∧
      isNativeOn q.handler.chain q.token = true := by
  cases hpayout : payout? call.ix with
  | none =>
      have hkept := vault_kept effect hdata howner (by simp [hpayout])
      omega
  | some p =>
      cases effect with
      | quiet noSource noPayout keeps => simp [noPayout] at hpayout
      | requested kind effect stored => simp [payout?_of_source kind] at hpayout
      | @paid p q pays =>
          by_contra hnone
          have hge : amounts s a ≤ amounts s' a := by
            refine tokens_ge_of_pays pays fun x amount token native => ?_
            rintro rfl
            obtain ⟨⟨v, hv, hvowner, hvmint⟩, -⟩ := tokens_of_pays pays token
            obtain ⟨hprogram, rfl⟩ := AccountData.tokenAccount.inj (hdata.symm.trans hv)
            exact hnone ⟨p, q, x, amount, pays, token, hvowner.symm, (hvmint native).symm,
              hprogram.symm, native⟩
          omega

theorem supply_kept (effect : CallEffect rt s s' call) {tokenProgram : Pubkey}
    {m : Mint Pubkey} (hdata : s.data a = .mint tokenProgram m)
    (hpayout : ∀ p, payout? call.ix = some p → m.mintAuthority ≠ some p.bridgeHandler) :
    amounts s' a ≤ amounts s a := by
  cases effect with
  | quiet noSource noPayout keeps =>
      rw [amounts, amounts,
        keeps.data a (by rw [hdata]; simp) (programData_eq_none_of_mint hdata)]
  | requested kind effect stored =>
      rcases supply_of_source effect hdata with hsame | ⟨x, amount, -, -, -, -, hburned⟩ <;> omega
  | paid pays =>
      rcases supply_of_pays pays hdata with hsame | ⟨x, amount, -, -, hauthority, -⟩
      · omega
      · exact absurd hauthority (hpayout _ pays.1)

end BridgeProgram.TokenEffects
