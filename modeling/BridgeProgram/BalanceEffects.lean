import BridgeProgram.AccountEffects
import BridgeProgram.BalanceShifts
import BridgeProgram.TargetInstructions

namespace BridgeProgram.BalanceEffects

open BridgeProgram.AccountEffects
open BridgeProgram.AnchorAccounts
open BridgeProgram.BalanceShifts
open BridgeProgram.CheckedResult
open BridgeProgram.ProgramStates
open BridgeProgram.SolanaRuntime
open BridgeProgram.TargetInstructions
open BridgeProgram.TokenInstructions
open BridgeProgram.TokenPrograms

variable {Pubkey Hash : Type}

/-- The amount of a token account, or the supply of a mint. -/
def amountOf : AccountData Pubkey Hash → ℕ
  | .mint _ m => m.supply
  | .tokenAccount _ t => t.amount
  | _ => 0

/-- The data of an account but for amounts and supplies. -/
def shapeOf : AccountData Pubkey Hash → AccountData Pubkey Hash
  | .mint tokenProgram m => .mint tokenProgram { m with supply := 0 }
  | .tokenAccount tokenProgram t => .tokenAccount tokenProgram { t with amount := 0 }
  | d => d

def amounts (s : State Pubkey Hash) (a : Pubkey) : ℕ :=
  amountOf (s.data a)

def shape (s : State Pubkey Hash) (a : Pubkey) : AccountData Pubkey Hash :=
  shapeOf (s.data a)

theorem data_eq_system {s : State Pubkey Hash} {a : Pubkey} :
    shape s a = .system ↔ s.data a = .system := by
  unfold shape
  cases s.data a <;> simp [shapeOf]

theorem data_eq_program {s : State Pubkey Hash} {a : Pubkey}
    {d : ProgramData Pubkey Hash} : shape s a = .program d ↔ s.data a = .program d := by
  unfold shape
  cases s.data a <;> simp [shapeOf]

theorem data_eq_mint {s : State Pubkey Hash} {a tokenProgram : Pubkey} {m : Mint Pubkey}
    (h : shape s a = shapeOf (.mint tokenProgram m)) :
    s.data a = .mint tokenProgram { m with supply := amounts s a } := by
  unfold shape at h
  unfold amounts
  cases hd : s.data a with
  | mint tokenProgram' m' =>
      cases m
      cases m'
      simp_all [shapeOf, amountOf]
  | _ => simp [hd, shapeOf] at h

theorem data_eq_tokenAccount {s : State Pubkey Hash} {a tokenProgram : Pubkey}
    {t : TokenAccount Pubkey} (h : shape s a = shapeOf (.tokenAccount tokenProgram t)) :
    s.data a = .tokenAccount tokenProgram { t with amount := amounts s a } := by
  unfold shape at h
  unfold amounts
  cases hd : s.data a with
  | tokenAccount tokenProgram' t' =>
      cases t
      cases t'
      simp_all [shapeOf, amountOf]
  | _ => simp [hd, shapeOf] at h

/-- From `s` to `s'` the lamports change by `δ` and the token amounts by `ε`. -/
structure Moves (s s' : State Pubkey Hash) (δ ε : Pubkey → ℤ) : Prop where
  lamports : Shifted s.lamports s'.lamports δ
  amounts : Shifted (amounts s) (amounts s') ε
  clock : s'.clock = s.clock

theorem Moves.refl (s : State Pubkey Hash) : Moves s s 0 0 :=
  ⟨.refl _, .refl _, rfl⟩

theorem Moves.trans {s t u : State Pubkey Hash} {δ δ' ε ε' : Pubkey → ℤ}
    (h₁ : Moves s t δ ε) (h₂ : Moves t u δ' ε') : Moves s u (δ + δ') (ε + ε') :=
  ⟨h₁.lamports.trans h₂.lamports, h₁.amounts.trans h₂.amounts, h₂.clock.trans h₁.clock⟩

theorem moves_of_data {s s' : State Pubkey Hash} {δ : Pubkey → ℤ}
    (hlamports : Shifted s.lamports s'.lamports δ) (hdata : s'.data = s.data)
    (hclock : s'.clock = s.clock) : Moves s s' δ 0 ∧ shape s' = shape s := by
  have hamounts : amounts s' = amounts s := by
    funext a
    rw [amounts, amounts, hdata]
  refine ⟨⟨hlamports, hamounts ▸ .refl _, hclock⟩, ?_⟩
  funext a
  rw [shape, shape, hdata]

variable [DecidableEq Pubkey] {rt : Runtime Pubkey Hash} {s s' : State Pubkey Hash}
  {a b payer : Pubkey}

theorem amounts_setData (s : State Pubkey Hash) (a : Pubkey) (d : AccountData Pubkey Hash) :
    amounts (s.setData a d) = Function.update (amounts s) a (amountOf d) := by
  funext b
  by_cases hb : b = a
  · subst hb
    simp [amounts]
  · simp [amounts, hb]

theorem shape_setData (s : State Pubkey Hash) (a : Pubkey) (d : AccountData Pubkey Hash) :
    shape (s.setData a d) = Function.update (shape s) a (shapeOf d) := by
  funext b
  by_cases hb : b = a
  · subst hb
    simp [shape]
  · simp [shape, hb]

theorem moves_setData {d : AccountData Pubkey Hash} (hold : amounts s a = 0)
    (hnew : amountOf d = 0) : Moves s (s.setData a d) 0 0 := by
  refine ⟨.refl _, ?_, rfl⟩
  rw [amounts_setData, hnew, ← hold, Function.update_eq_self]
  exact .refl _

theorem systemTransfer_moves {n : ℕ} (h : systemTransfer s a b n = .ok s') :
    s.data a = .system ∧ n ≤ s.lamports a ∧ s'.data = s.data ∧
      Moves s s' (moved a b n) 0 ∧ shape s' = shape s := by
  simp only [systemTransfer, bind_eq_ok, require_eq_ok, checkedSub_eq_ok, checkedAdd_eq_ok,
    pure_eq_ok, AccountData.isSystem_iff] at h
  obtain ⟨-, hsystem, left, ⟨hle, rfl⟩, total, ⟨-, rfl⟩, rfl⟩ := h
  exact ⟨hsystem, hle, rfl, moves_of_data (shifted_move _ _ _ hle) rfl rfl⟩

theorem systemTransfer_ok {n : ℕ} (hsystem : s.data a = .system) (hle : n ≤ s.lamports a)
    (hroom : s.lamports b + n < 2 ^ 64) : ∃ s', systemTransfer s a b n = .ok s' := by
  have hroom' : Function.update s.lamports a (s.lamports a - n) b + n < 2 ^ 64 := by
    by_cases hb : b = a
    · subst hb
      rw [Function.update_self]
      omega
    · rw [Function.update_of_ne hb]
      exact hroom
  simp only [systemTransfer, bind_eq_ok, require_eq_ok, checkedSub_eq_ok, checkedAdd_eq_ok,
    pure_eq_ok, AccountData.isSystem_iff, setLamports_lamports]
  exact ⟨_, (), hsystem, _, ⟨hle, rfl⟩, _, ⟨hroom', rfl⟩, rfl⟩

/-- The lamports that an account of `len` bytes lacks for its rent. -/
def topUp (rt : Runtime Pubkey Hash) (s : State Pubkey Hash) (a : Pubkey) (len : ℕ) : ℕ :=
  max (rt.minimumBalance len) 1 - s.lamports a

theorem createAccount_moves {len : ℕ} {d : AccountData Pubkey Hash} (hd : amountOf d = 0)
    (h : createAccount rt s payer a len d = .ok s') :
    s.data a = .system ∧ payer ≠ a ∧ s.data payer = .system ∧
      topUp rt s a len ≤ s.lamports payer ∧ Moves s s' (moved payer a (topUp rt s a len)) 0 ∧
      shape s' = Function.update (shape s) a (shapeOf d) := by
  simp only [createAccount, bind_eq_ok, require_eq_ok, pure_eq_ok,
    AccountData.isSystem_iff] at h
  obtain ⟨-, hsystem, -, hne, t, htransfer, rfl⟩ := h
  obtain ⟨hpayer, hle, hdata, hmoves, hshape⟩ := systemTransfer_moves htransfer
  have hzero : amounts t a = 0 := by
    rw [amounts, hdata, hsystem]
    rfl
  refine ⟨hsystem, hne, hpayer, hle, ?_, ?_⟩
  · have hall := hmoves.trans (moves_setData hzero hd)
    rwa [add_zero, add_zero] at hall
  · rw [shape_setData, hshape]

theorem createAccount_ok (rt : Runtime Pubkey Hash) (len : ℕ) (d : AccountData Pubkey Hash)
    (hsystem : s.data a = .system)
    (hne : payer ≠ a) (hpayer : s.data payer = .system)
    (hle : topUp rt s a len ≤ s.lamports payer)
    (hroom : s.lamports a + topUp rt s a len < 2 ^ 64) :
    ∃ s', createAccount rt s payer a len d = .ok s' := by
  obtain ⟨t, htransfer⟩ := systemTransfer_ok hpayer hle hroom
  simp only [createAccount, bind_eq_ok, require_eq_ok, pure_eq_ok, AccountData.isSystem_iff]
  exact ⟨_, (), hsystem, (), hne, t, htransfer, rfl⟩

theorem initAccount_moves {seeds : Seeds Pubkey Hash} {fresh : ProgramData Pubkey Hash}
    {bump : UInt8} (h : initAccount rt s payer seeds a fresh = .ok (s', bump)) :
    s.data a = .system ∧ payer ≠ a ∧ s.data payer = .system ∧
      topUp rt s a fresh.space ≤ s.lamports payer ∧
      Moves s s' (moved payer a (topUp rt s a fresh.space)) 0 ∧
      shape s' = Function.update (shape s) a (.program fresh) := by
  simp only [initAccount, bind_eq_ok, require_eq_ok, pure_eq_ok, Prod.mk.injEq] at h
  obtain ⟨-, -, t, hcreate, rfl, -⟩ := h
  exact createAccount_moves rfl hcreate

theorem initAccount_ok {seeds : Seeds Pubkey Hash} (fresh : ProgramData Pubkey Hash)
    {bump : UInt8} (haddress : rt.findProgramAddress seeds = (a, bump))
    (hsystem : s.data a = .system) (hne : payer ≠ a) (hpayer : s.data payer = .system)
    (hle : topUp rt s a fresh.space ≤ s.lamports payer)
    (hroom : s.lamports a + topUp rt s a fresh.space < 2 ^ 64) :
    ∃ s', initAccount rt s payer seeds a fresh = .ok (s', bump) := by
  obtain ⟨t, hcreate⟩ := createAccount_ok _ _ (.program fresh) hsystem hne hpayer hle hroom
  refine ⟨t, ?_⟩
  simp only [initAccount, bind_eq_ok, require_eq_ok, pure_eq_ok, Prod.mk.injEq]
  exact ⟨(), by rw [haddress], t, hcreate, rfl, by rw [haddress]⟩

theorem exitAccount_moves {d d₀ : ProgramData Pubkey Hash} (hold : s.data a = .program d₀)
    (h : exitAccount .mutable s a d = .ok s') :
    Moves s s' 0 0 ∧ shape s' = Function.update (shape s) a (.program d) := by
  obtain ⟨-, rfl⟩ := exitAccount_eq_ok.mp h
  have hzero : amounts s a = 0 := by
    rw [amounts, hold]
    rfl
  exact ⟨moves_setData hzero rfl, shape_setData _ _ _⟩

theorem closeAccount_moves {d : ProgramData Pubkey Hash} (hold : s.data a = .program d)
    (hne : a ≠ b) (h : closeAccount s a b = .ok s') :
    Moves s s' (moved a b (s.lamports a)) 0 ∧
      shape s' = Function.update (shape s) a .system := by
  obtain ⟨-, hs'⟩ := closeAccount_eq_ok.mp h
  have hlamports : Shifted s.lamports s'.lamports (moved a b (s.lamports a)) := by
    rw [hs']
    exact shifted_empty _ hne
  have hdata : s'.data = (s.setData a .system).data := by rw [hs']; rfl
  have hzero : amounts s a = 0 := by
    rw [amounts, hold]
    rfl
  have hamounts : amounts s' = amounts s := by
    have hset : amounts s' = amounts (s.setData a .system) := by
      funext c
      rw [amounts, amounts, hdata]
    rw [hset, amounts_setData]
    change Function.update (amounts s) a 0 = amounts s
    rw [← hzero, Function.update_eq_self]
  refine ⟨⟨hlamports, hamounts ▸ .refl _, by rw [hs']; rfl⟩, ?_⟩
  have hset : shape s' = shape (s.setData a .system) := by
    funext c
    rw [shape, shape, hdata]
  rw [hset, shape_setData]
  rfl

/-- How lamports paid to a recipient change balances. -/
def solShift (chain : Chain) (bridgeHandler recipient : Pubkey) (lamports : ℕ) :
    Pubkey → ℤ :=
  match chain with
  | .solayer => Pi.single recipient (lamports : ℤ)
  | .solana => moved bridgeHandler recipient lamports

theorem paySol_moves {chain : Chain} {bridgeHandler recipient : Pubkey} {dataLen : ℕ}
    {lamports accountIdx : UInt64}
    (h : paySol rt s chain bridgeHandler recipient dataLen lamports accountIdx = .ok s') :
    Moves s s' (solShift chain bridgeHandler recipient lamports.toNat) 0 ∧
      shape s' = shape s := by
  cases chain with
  | solayer =>
      simp only [paySol, mintSolToRecipient, bind_eq_ok, require_eq_ok, checkedAdd_eq_ok,
        pure_eq_ok] at h
      obtain ⟨-, -, -, -, total, ⟨-, rfl⟩, rfl⟩ := h
      exact moves_of_data (shifted_credit _ _ _) rfl rfl
  | solana =>
      simp only [paySol, transferSolToRecipient, bind_eq_ok, require_eq_ok, checkedAdd_eq_ok,
        checkedSub_eq_ok, pure_eq_ok] at h
      obtain ⟨floor, ⟨-, rfl⟩, -, -, left, ⟨hle, rfl⟩, total, ⟨-, rfl⟩, rfl⟩ := h
      exact moves_of_data (shifted_move _ _ _ hle) rfl rfl

/-- A payment that goes through in one state goes through in every state whose
balances allow it. -/
theorem paySol_ok {u u' : State Pubkey Hash} {chain : Chain}
    {bridgeHandler recipient : Pubkey} {dataLen : ℕ} {lamports accountIdx : UInt64}
    (h : paySol rt u chain bridgeHandler recipient dataLen lamports accountIdx = .ok u')
    (hfloor : chain = .solana →
      rt.minimumBalance dataLen + lamports.toNat ≤ s.lamports bridgeHandler)
    (hroom : s.lamports recipient + lamports.toNat < 2 ^ 64) :
    ∃ s', paySol rt s chain bridgeHandler recipient dataLen lamports accountIdx = .ok s' := by
  cases chain with
  | solayer =>
      simp only [paySol, mintSolToRecipient, bind_eq_ok, require_eq_ok, checkedAdd_eq_ok,
        pure_eq_ok] at h ⊢
      obtain ⟨-, hsolayer, -, hsyscall, -⟩ := h
      exact ⟨_, (), hsolayer, (), hsyscall, _, ⟨hroom, rfl⟩, rfl⟩
  | solana =>
      simp only [paySol, transferSolToRecipient, bind_eq_ok, require_eq_ok, checkedAdd_eq_ok,
        checkedSub_eq_ok, pure_eq_ok] at h ⊢
      obtain ⟨floor, ⟨hsum, rfl⟩, -⟩ := h
      have hle : lamports.toNat ≤ s.lamports bridgeHandler :=
        (Nat.le_add_left _ _).trans (hfloor rfl)
      have hroom' : (s.setLamports bridgeHandler (s.lamports bridgeHandler -
          lamports.toNat)).lamports recipient + lamports.toNat < 2 ^ 64 := by
        rw [setLamports_lamports]
        by_cases hr : recipient = bridgeHandler
        · subst hr
          rw [Function.update_self]
          omega
        · rw [Function.update_of_ne hr]
          exact hroom
      exact ⟨_, _, ⟨hsum, rfl⟩, (), hfloor rfl, _, ⟨hle, rfl⟩, _, ⟨hroom', rfl⟩, rfl⟩

/-- How a token payment changes token amounts. -/
def tokenShift (rt : Runtime Pubkey Hash) (a : BridgeAssetTargetChain Pubkey) (chain : Chain)
    (t : TokenInfo Pubkey) (amount : ℕ) : Pubkey → ℤ :=
  if isNativeOn chain t then
    if a.bridgeHandlerVault = a.recipientVault then 0
    else Pi.single a.bridgeHandlerVault (-(amount : ℤ)) +
      Pi.single a.recipientVault ((amount - rt.transferFee a.mint amount : ℕ) : ℤ)
  else Pi.single a.mint (amount : ℤ) + Pi.single a.recipientVault (amount : ℤ)

theorem moves_setData₂ {d e : AccountData Pubkey Hash} {m n : ℤ} (hne : a ≠ b)
    (ha : shapeOf d = shape s a) (hb : shapeOf e = shape s b)
    (hm : (amountOf d : ℤ) = amounts s a + m) (hn : (amountOf e : ℤ) = amounts s b + n) :
    Moves s ((s.setData a d).setData b e) 0 (Pi.single a m + Pi.single b n) ∧
      shape ((s.setData a d).setData b e) = shape s := by
  refine ⟨⟨.refl _, ?_, rfl⟩, ?_⟩
  · rw [amounts_setData, amounts_setData]
    exact shifted_update₂ _ hne hm hn
  · rw [shape_setData, shape_setData, ha, Function.update_eq_self, hb, Function.update_eq_self]

theorem transferChecked_moves {tokenProgram source target mint authority : Pubkey}
    {amount : ℕ} {decimals : UInt8}
    (h : transferChecked rt s tokenProgram source target mint authority amount decimals =
      .ok s') :
    Moves s s' 0 (if source = target then 0
      else Pi.single source (-(amount : ℤ)) +
        Pi.single target ((amount - rt.transferFee mint amount : ℕ) : ℤ)) ∧
      shape s' = shape s := by
  simp only [transferChecked, bind_eq_ok, tokenAccountOf_eq_ok, mintOf_eq_ok, require_eq_ok,
    checkedSub_eq_ok] at h
  obtain ⟨src, hsrc, dst, hdst, m, -, -, -, -, -, -, -, left, ⟨hle, rfl⟩, h⟩ := h
  by_cases hsame : source = target
  · rw [if_pos hsame] at h ⊢
    obtain rfl := pure_eq_ok.mp h
    exact ⟨.refl s, rfl⟩
  · rw [if_neg hsame] at h ⊢
    simp only [bind_eq_ok, checkedAdd_eq_ok, pure_eq_ok] at h
    obtain ⟨total, ⟨-, rfl⟩, rfl⟩ := h
    have hs : amounts s source = src.amount := by rw [amounts, hsrc]; rfl
    have hd : amounts s target = dst.amount := by rw [amounts, hdst]; rfl
    refine moves_setData₂ hsame (by rw [shape, hsrc]; rfl) (by rw [shape, hdst]; rfl) ?_ ?_
    · simp only [amountOf, hs]
      omega
    · simp only [amountOf, hd]
      omega

theorem mintTo_moves {tokenProgram mint target authority : Pubkey} {amount : ℕ}
    (h : mintTo s tokenProgram mint target authority amount = .ok s') :
    Moves s s' 0 (Pi.single mint (amount : ℤ) + Pi.single target (amount : ℤ)) ∧
      shape s' = shape s := by
  simp only [mintTo, bind_eq_ok, tokenAccountOf_eq_ok, mintOf_eq_ok, require_eq_ok,
    checkedAdd_eq_ok, pure_eq_ok] at h
  obtain ⟨m, hm, dst, hdst, -, -, -, -, supply, ⟨-, rfl⟩, total, ⟨-, rfl⟩, rfl⟩ := h
  have hne : mint ≠ target := ne_of_contents hm hdst (by simp)
  have hs : amounts s mint = m.supply := by rw [amounts, hm]; rfl
  have hd : amounts s target = dst.amount := by rw [amounts, hdst]; rfl
  refine moves_setData₂ hne (by rw [shape, hm]; rfl) (by rw [shape, hdst]; rfl) ?_ ?_
  · simp only [amountOf, hs]
    omega
  · simp only [amountOf, hd]
    omega

theorem payTokens_moves {x : BridgeAssetTargetChain Pubkey} {chain : Chain}
    {t : TokenInfo Pubkey} {vaultAmount : ℕ} {decimals : UInt8} {amount : UInt64}
    (h : payTokens rt s x chain t vaultAmount decimals amount = .ok s') :
    Moves s s' 0 (tokenShift rt x chain t amount.toNat) ∧ shape s' = shape s := by
  unfold payTokens at h
  unfold tokenShift
  split at h
  next hnative =>
      simp only [bind_eq_ok, require_eq_ok] at h
      obtain ⟨-, -, h⟩ := h
      rw [if_pos hnative]
      exact transferChecked_moves h
  next hnative =>
      rw [if_neg hnative]
      split at h
      · exact mintTo_moves h
      · cases h

theorem payTokens_ok {u u' : State Pubkey Hash} {x : BridgeAssetTargetChain Pubkey}
    {chain : Chain} {t : TokenInfo Pubkey} {vaultAmount vaultAmount' : ℕ} {decimals : UInt8}
    {amount : UInt64} (h : payTokens rt u x chain t vaultAmount decimals amount = .ok u')
    (hvault : shape s x.bridgeHandlerVault = shape u x.bridgeHandlerVault)
    (hrecipient : shape s x.recipientVault = shape u x.recipientVault)
    (hmint : shape s x.mint = shape u x.mint)
    (hfunds : isNativeOn chain t = true →
      amount.toNat ≤ vaultAmount' ∧ amount.toNat ≤ amounts s x.bridgeHandlerVault)
    (hroom : ∀ a, a = x.mint ∨ a = x.recipientVault →
      (amounts s a : ℤ) + tokenShift rt x chain t amount.toNat a < 2 ^ 64) :
    ∃ s', payTokens rt s x chain t vaultAmount' decimals amount = .ok s' := by
  unfold payTokens at h ⊢
  unfold tokenShift at hroom
  by_cases hnative : isNativeOn chain t = true
  · obtain ⟨hvaultAmount, henough⟩ := hfunds hnative
    simp only [if_pos hnative, bind_eq_ok, require_eq_ok, transferChecked,
      tokenAccountOf_eq_ok, mintOf_eq_ok, checkedSub_eq_ok] at h hroom ⊢
    obtain ⟨-, -, src, hsrc, dst, hdst, m, hm, -, hmints, -, hdecimals, -, howner, -⟩ := h
    have hsrc' : s.data x.bridgeHandlerVault = _ :=
      data_eq_tokenAccount (hvault.trans (by rw [shape, hsrc]))
    have hdst' : s.data x.recipientVault = _ :=
      data_eq_tokenAccount (hrecipient.trans (by rw [shape, hdst]))
    have hm' : s.data x.mint = _ := data_eq_mint (hmint.trans (by rw [shape, hm]))
    by_cases hsame : x.bridgeHandlerVault = x.recipientVault
    · exact ⟨s, (), hvaultAmount, _, hsrc', _, hdst', _, hm', (), hmints, (), hdecimals, (),
        howner, _, ⟨henough, rfl⟩, by rw [if_pos hsame]; rfl⟩
    · have hfits := hroom x.recipientVault (.inr rfl)
      rw [if_neg hsame, Pi.add_apply, Pi.single_eq_same,
        Pi.single_eq_of_ne (Ne.symm hsame)] at hfits
      have htotal : amounts s x.recipientVault +
          (amount.toNat - rt.transferFee x.mint amount.toNat) < 2 ^ 64 := by omega
      simp only [if_neg hsame, bind_eq_ok, checkedAdd_eq_ok, pure_eq_ok]
      exact ⟨_, (), hvaultAmount, _, hsrc', _, hdst', _, hm', (), hmints, (), hdecimals, (),
        howner, _, ⟨henough, rfl⟩, _, ⟨htotal, rfl⟩, rfl⟩
  · rw [if_neg hnative] at h ⊢
    rw [if_neg hnative] at hroom
    split at h
    next hwrapped =>
        simp only [if_pos hwrapped, mintTo, bind_eq_ok, require_eq_ok, tokenAccountOf_eq_ok,
          mintOf_eq_ok, checkedAdd_eq_ok, pure_eq_ok] at h ⊢
        obtain ⟨m, hm, dst, hdst, -, hmints, -, hauthority, -⟩ := h
        have hne : x.mint ≠ x.recipientVault := by
          intro hsame
          rw [hsame, hdst] at hm
          cases hm
        have hdst' : s.data x.recipientVault = _ :=
          data_eq_tokenAccount (hrecipient.trans (by rw [shape, hdst]))
        have hm' : s.data x.mint = _ := data_eq_mint (hmint.trans (by rw [shape, hm]))
        have hsupply := hroom x.mint (.inl rfl)
        have htotal := hroom x.recipientVault (.inr rfl)
        rw [Pi.add_apply, Pi.single_eq_same, Pi.single_eq_of_ne hne] at hsupply
        rw [Pi.add_apply, Pi.single_eq_same, Pi.single_eq_of_ne (Ne.symm hne)] at htotal
        have hsupply' : amounts s x.mint + amount.toNat < 2 ^ 64 := by omega
        have htotal' : amounts s x.recipientVault + amount.toNat < 2 ^ 64 := by omega
        exact ⟨_, _, hm', _, hdst', (), hmints, (), hauthority, _, ⟨hsupply', rfl⟩, _,
          ⟨htotal', rfl⟩, rfl⟩
    · cases h

/-- What the operator pays for the recipient's token account. -/
def vaultRent (rt : Runtime Pubkey Hash) (s : State Pubkey Hash)
    (x : BridgeAssetTargetChain Pubkey) : ℕ :=
  if (s.data x.recipientVault).isSystem then
    topUp rt s x.recipientVault (rt.tokenAccountLen x.mint)
  else 0

/-- The shapes after the recipient's token account is opened. -/
def openVault (x : BridgeAssetTargetChain Pubkey) (f : Pubkey → AccountData Pubkey Hash) :
    Pubkey → AccountData Pubkey Hash :=
  if (f x.recipientVault).isSystem then
    Function.update f x.recipientVault
      (.tokenAccount x.tokenProgram { mint := x.mint, owner := x.recipient, amount := 0 })
  else f

omit [DecidableEq Pubkey] in
theorem isSystem_shape (s : State Pubkey Hash) (a : Pubkey) :
    (shape s a).isSystem = (s.data a).isSystem := by
  unfold shape
  cases s.data a <;> rfl

theorem initRecipientVaultIfNeeded_moves {x : BridgeAssetTargetChain Pubkey}
    (h : initRecipientVaultIfNeeded rt s x = .ok s') :
    Moves s s' (moved x.operator x.recipientVault (vaultRent rt s x)) 0 ∧
      shape s' = openVault x (shape s) ∧ vaultRent rt s x ≤ s.lamports x.operator ∧
      (s.data x.recipientVault = .system → x.operator ≠ x.recipientVault) ∧
      rt.associatedTokenAddress x.recipient x.mint x.tokenProgram = x.recipientVault ∧
      x.tokenProgram ∈ rt.tokenPrograms ∧
      ∃ t, s'.data x.recipientVault = .tokenAccount x.tokenProgram t ∧ t.mint = x.mint ∧
        t.owner = x.recipient := by
  simp only [initRecipientVaultIfNeeded, bind_eq_ok, require_eq_ok, pure_eq_ok, Prod.exists,
    readTokenAccount_eq_ok] at h
  obtain ⟨u, hcreate, owner, t, hdata, -, hprogram, -, hmint, -, howner, -, rfl, -, hassoc,
    rfl⟩ := h
  unfold vaultRent openVault
  rw [isSystem_shape]
  by_cases hsystem : (s.data x.recipientVault).isSystem = true
  · rw [if_pos hsystem] at hcreate
    simp only [createAssociatedToken, bind_eq_ok, require_eq_ok] at hcreate
    obtain ⟨-, -, -, -, hcreate⟩ := hcreate
    obtain ⟨-, hne, -, hle, hmoves, hshape⟩ := createAccount_moves rfl hcreate
    rw [if_pos hsystem, if_pos hsystem]
    exact ⟨hmoves, hshape, hle, fun _ => hne, hassoc, hprogram, t, hdata, hmint, howner⟩
  · rw [if_neg hsystem] at hcreate
    obtain rfl := pure_eq_ok.mp hcreate
    rw [if_neg hsystem, if_neg hsystem, moved_zero]
    exact ⟨.refl s, rfl, Nat.zero_le _,
      fun hs => absurd (AccountData.isSystem_iff.mpr hs) hsystem, hassoc, hprogram, t, hdata,
      hmint, howner⟩

theorem initRecipientVaultIfNeeded_ok {u u' : State Pubkey Hash}
    {x : BridgeAssetTargetChain Pubkey} {m : Mint Pubkey}
    (h : initRecipientVaultIfNeeded rt u x = .ok u')
    (hmint : s.data x.mint = .mint x.tokenProgram m)
    (hvault : s.data x.recipientVault = .system ∨
      shape s x.recipientVault = shape u' x.recipientVault)
    (hne : s.data x.recipientVault = .system → x.operator ≠ x.recipientVault)
    (hpayer : s.data x.operator = .system)
    (hle : vaultRent rt s x ≤ s.lamports x.operator)
    (hroom : s.lamports x.recipientVault + vaultRent rt s x < 2 ^ 64) :
    ∃ s', initRecipientVaultIfNeeded rt s x = .ok s' := by
  obtain ⟨-, -, -, -, hassoc, hprogram, t, hdata, htmint, htowner⟩ :=
    initRecipientVaultIfNeeded_moves h
  unfold vaultRent at hle hroom
  simp only [initRecipientVaultIfNeeded, bind_eq_ok, require_eq_ok, pure_eq_ok, Prod.exists,
    readTokenAccount_eq_ok]
  by_cases hsystem : s.data x.recipientVault = .system
  · have hsystem' := AccountData.isSystem_iff.mpr hsystem
    rw [if_pos hsystem'] at hle hroom
    obtain ⟨v, hcreate⟩ := createAccount_ok _ _ (.tokenAccount x.tokenProgram
      { mint := x.mint, owner := x.recipient, amount := 0 }) hsystem (hne hsystem) hpayer hle
      hroom
    have hnew := (createAccount_data hcreate).2.1
    refine ⟨v, v, ?_, x.tokenProgram, _, by rw [hnew, Function.update_self], (), hprogram, (),
      rfl, (), rfl, (), rfl, (), hassoc, rfl⟩
    rw [if_pos hsystem']
    simp only [createAssociatedToken, bind_eq_ok, require_eq_ok, mintOf_eq_ok]
    exact ⟨(), hassoc, m, hmint, hcreate⟩
  · have hshape := hvault.resolve_left hsystem
    have hdata' : s.data x.recipientVault = _ :=
      data_eq_tokenAccount (hshape.trans (by rw [shape, hdata]))
    refine ⟨s, s, ?_, x.tokenProgram, _, hdata', (), hprogram, (), htmint, (), htowner, (),
      rfl, (), hassoc, rfl⟩
    rw [if_neg (fun hs => hsystem (AccountData.isSystem_iff.mp hs))]
    rfl

end BridgeProgram.BalanceEffects
