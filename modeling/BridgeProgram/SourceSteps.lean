import BridgeProgram.BalanceEffects
import BridgeProgram.RegistryCells
import BridgeProgram.RegistryRefinement

namespace BridgeProgram.SourceSteps

open BridgeProgram.AccountEffects
open BridgeProgram.AnchorAccounts
open BridgeProgram.BalanceEffects
open BridgeProgram.BalanceShifts
open BridgeProgram.BridgeProgramEntry
open BridgeProgram.CheckedResult
open BridgeProgram.ProgramStates
open BridgeProgram.RegistryCells
open BridgeProgram.RegistryModel
open BridgeProgram.RegistryRefinement
open BridgeProgram.SolanaRuntime
open BridgeProgram.SourceInstructions
open BridgeProgram.TokenInstructions
open BridgeProgram.TokenPrograms

variable {Pubkey Hash : Type}

/-- The accounts that both source calls have. -/
structure SourceCall (Pubkey : Type) where
  signer : Pubkey
  bridgeHandler : Pubkey
  bridgeProof : Pubkey
  feeVault : Pubkey

/-- The source call that an instruction is. -/
def source? : Instruction Pubkey Hash → Option (SourceCall Pubkey)
  | .bridgeAssetSourceChain a .. =>
      some ⟨a.signer, a.bridgeHandler, a.bridgeProof, a.feeVault⟩
  | .bridgeAssetSourceChainSol a .. =>
      some ⟨a.signer, a.bridgeHandler, a.bridgeProof, a.feeVault⟩
  | _ => none

/-- The accounts and the amount of a source call for tokens. -/
def tokenRequest? :
    Instruction Pubkey Hash → Option (BridgeAssetSourceChain Pubkey × UInt64)
  | .bridgeAssetSourceChain a _ amount _ _ _ => some (a, amount)
  | _ => none

/-- Lamports that a source call bridges. -/
def solRequest : Instruction Pubkey Hash → ℕ
  | .bridgeAssetSourceChain _ _ _ _ _ additionalSolGas => additionalSolGas.toNat
  | .bridgeAssetSourceChainSol _ _ amount _ => amount.toNat
  | _ => 0

/-- Neither flag of a token info is set. -/
def isUnregistered (t : TokenInfo Pubkey) : Bool :=
  !t.isSolanaNativeToken && !t.isSolayerNativeToken

/-- The metadata fee of a source call that finds the token info `t`. -/
def registrationFee (chain : Chain) (t : TokenInfo Pubkey) : ℕ :=
  if chain = .solayer ∧ isUnregistered t = true then metadataCreationFee.toNat else 0

def metadataFee (chain : Chain) (t : TokenInfo Pubkey) : Instruction Pubkey Hash → ℕ
  | .bridgeAssetSourceChain .. => registrationFee chain t
  | _ => 0

variable [DecidableEq Pubkey]

/-- The rent that an account lacks, if it has to be opened. -/
def openRent (rt : Runtime Pubkey Hash) (s : State Pubkey Hash) (a : Pubkey) (len : ℕ) : ℕ :=
  if (s.data a).isSystem then topUp rt s a len else 0

/-- Contents `d` for an address without an account. -/
def openAt (f : Pubkey → AccountData Pubkey Hash) (a : Pubkey) (d : AccountData Pubkey Hash) :
    Pubkey → AccountData Pubkey Hash :=
  if (f a).isSystem then Function.update f a d else f

/-- The signer pays the rent of the proof, the token info and the handler's vault. -/
def openingShift (rt : Runtime Pubkey Hash) (s : State Pubkey Hash)
    (a : BridgeAssetSourceChain Pubkey) : Pubkey → ℤ :=
  moved a.signer a.bridgeProof (topUp rt s a.bridgeProof (8 + 73)) +
    moved a.signer a.tokenInfo (openRent rt s a.tokenInfo (8 + 68)) +
    moved a.signer a.bridgeHandlerVault
      (openRent rt s a.bridgeHandlerVault (rt.tokenAccountLen a.mint))

/-- Lamports that the signer pays for the rent of accounts. -/
def rentShift (rt : Runtime Pubkey Hash) (s : State Pubkey Hash) :
    Instruction Pubkey Hash → Pubkey → ℤ
  | .bridgeAssetSourceChain a .. => openingShift rt s a
  | .bridgeAssetSourceChainSol a .. =>
      moved a.signer a.bridgeProof (topUp rt s a.bridgeProof (8 + 73))
  | _ => 0

/-- Bridged lamports are locked in the handler on Solana and burned on Solayer. -/
def solTaken (chain : Chain) (signer bridgeHandler : Pubkey) (lamports : ℕ) : Pubkey → ℤ :=
  match chain with
  | .solana => moved signer bridgeHandler lamports
  | .solayer => Pi.single signer (-(lamports : ℤ))

/-- How a source call changes lamports. -/
def sourceShift (rt : Runtime Pubkey Hash) (s : State Pubkey Hash) (h : BridgeHandler Pubkey)
    (t : TokenInfo Pubkey) (c : SourceCall Pubkey) (ix : Instruction Pubkey Hash) :
    Pubkey → ℤ :=
  rentShift rt s ix + moved c.signer c.feeVault h.feeInfo.bridgeAssetFee.toNat +
    solTaken h.chain c.signer c.bridgeHandler (solRequest ix) +
    moved c.signer c.feeVault (metadataFee h.chain t ix)

/-- Tokens are locked in the handler's vault or burned. -/
def tokensTaken (rt : Runtime Pubkey Hash) (chain : Chain) (t : TokenInfo Pubkey)
    (a : BridgeAssetSourceChain Pubkey) (amount : ℕ) : Pubkey → ℤ :=
  if isUnregistered t || isNativeOn chain t then
    if a.signerVault = a.bridgeHandlerVault then 0
    else Pi.single a.signerVault (-(amount : ℤ)) +
      Pi.single a.bridgeHandlerVault ((amount - rt.transferFee a.mint amount : ℕ) : ℤ)
  else Pi.single a.mint (-(amount : ℤ)) + Pi.single a.signerVault (-(amount : ℤ))

/-- How a source call changes token amounts. -/
def takenShift (rt : Runtime Pubkey Hash) (chain : Chain) (t : TokenInfo Pubkey) :
    Instruction Pubkey Hash → Pubkey → ℤ
  | .bridgeAssetSourceChain a _ amount _ _ _ => tokensTaken rt chain t a amount.toNat
  | _ => 0

/-- A new vault of the handler. -/
def emptyVault (a : BridgeAssetSourceChain Pubkey) : AccountData Pubkey Hash :=
  .tokenAccount a.tokenProgram { mint := a.mint, owner := a.bridgeHandler, amount := 0 }

/-- The shapes after a source call has opened the handler's vault. -/
def vaultShape (f : Pubkey → AccountData Pubkey Hash) :
    Instruction Pubkey Hash → Pubkey → AccountData Pubkey Hash
  | .bridgeAssetSourceChain a .. => openAt f a.bridgeHandlerVault (emptyVault a)
  | _ => f

variable {rt : Runtime Pubkey Hash} {s s' t : State Pubkey Hash} {a b payer : Pubkey}

theorem openAt_of_ne {f : Pubkey → AccountData Pubkey Hash} {d : AccountData Pubkey Hash}
    (h : b ≠ a) : openAt f a d b = f b := by
  unfold openAt
  split
  · exact Function.update_of_ne h _ _
  · rfl

theorem openAt_of_ne_system {f : Pubkey → AccountData Pubkey Hash}
    {d : AccountData Pubkey Hash} (h : f b ≠ .system) : openAt f a d b = f b := by
  by_cases hb : b = a
  · subst hb
    unfold openAt
    rw [if_neg (mt AccountData.isSystem_iff.mp h)]
  · exact openAt_of_ne hb

theorem initIfNeeded_moves {α : Type} {seeds : Seeds Pubkey Hash}
    {read : ProgramData Pubkey Hash → Option α} {fresh : ProgramData Pubkey Hash} {x : α}
    {bump : UInt8} (h : initIfNeeded rt s payer seeds a read fresh = .ok (s', x, bump)) :
    Moves s s' (moved payer a (openRent rt s a fresh.space)) 0 ∧
      shape s' = openAt (shape s) a (.program fresh) ∧
      (s.data a = .system → payer ≠ a) ∧ ∃ d, s'.data a = .program d ∧ read d = some x := by
  simp only [initIfNeeded, bind_eq_ok, require_eq_ok, pure_eq_ok, Prod.mk.injEq,
    loadAccount_eq_ok] at h
  obtain ⟨-, -, t, hcreate, x', hload, -, -, rfl, rfl, -⟩ := h
  unfold openRent openAt
  rw [isSystem_shape]
  by_cases hsystem : (s.data a).isSystem = true
  · rw [if_pos hsystem] at hcreate
    obtain ⟨-, hne, -, -, hmoves, hshape⟩ := createAccount_moves rfl hcreate
    rw [if_pos hsystem, if_pos hsystem]
    exact ⟨hmoves, hshape, fun _ => hne, hload⟩
  · rw [if_neg hsystem] at hcreate
    obtain rfl := pure_eq_ok.mp hcreate
    rw [if_neg hsystem, if_neg hsystem, moved_zero]
    exact ⟨.refl s, rfl, fun hs => absurd (AccountData.isSystem_iff.mpr hs) hsystem, hload⟩

theorem initIfNeededAndCheckBridgeHandlerVault_moves
    {vault bridgeHandler mint tokenProgram : Pubkey}
    (h : initIfNeededAndCheckBridgeHandlerVault rt s payer vault bridgeHandler mint
      tokenProgram = .ok s') :
    Moves s s' (moved payer vault (openRent rt s vault (rt.tokenAccountLen mint))) 0 ∧
      shape s' = openAt (shape s) vault
        (.tokenAccount tokenProgram { mint, owner := bridgeHandler, amount := 0 }) ∧
      (s.data vault = .system → payer ≠ vault) ∧
      vault = rt.associatedTokenAddress bridgeHandler mint tokenProgram ∧
      ∃ w, s'.data vault = .tokenAccount tokenProgram w ∧ w.mint = mint ∧
        w.owner = bridgeHandler := by
  simp only [initIfNeededAndCheckBridgeHandlerVault, bind_eq_ok, require_eq_ok, pure_eq_ok,
    Prod.exists, readTokenAccount_eq_ok] at h
  obtain ⟨u, hcreate, owner, w, hdata, -, hmint, -, howner, -, rfl, -, haddress, -, -, rfl⟩ := h
  have hload : ∃ w, u.data vault = .tokenAccount owner w ∧ w.mint = mint ∧
      w.owner = bridgeHandler := ⟨w, hdata, hmint, howner⟩
  unfold openRent openAt
  rw [isSystem_shape]
  split at hcreate
  · simp only [createAssociatedToken, bind_eq_ok, require_eq_ok] at hcreate
    obtain ⟨-, -, -, -, hcreate⟩ := hcreate
    obtain ⟨hsystem, hne, -, -, hmoves, hshape⟩ := createAccount_moves rfl hcreate
    rw [if_pos (AccountData.isSystem_iff.mpr hsystem),
      if_pos (AccountData.isSystem_iff.mpr hsystem)]
    exact ⟨hmoves, hshape, fun _ => hne, haddress, hload⟩
  next howner =>
      obtain rfl := pure_eq_ok.mp hcreate
      have hopen : ¬ (s.data vault).isSystem = true := by
        rw [hdata]
        simp [AccountData.isSystem]
      rw [if_neg hopen, if_neg hopen, moved_zero]
      exact ⟨.refl s, rfl, fun hs => absurd (AccountData.isSystem_iff.mpr hs) hopen, haddress,
        hload⟩

theorem openRent_moved {n len : ℕ} (hlamports : Shifted s.lamports t.lamports (moved payer b n))
    (hsame : (t.data a).isSystem = (s.data a).isSystem) (hne : a ≠ b)
    (hpayer : s.data a = .system → payer ≠ a) : openRent rt t a len = openRent rt s a len := by
  unfold openRent
  rw [hsame]
  split
  next hsystem =>
      have hshift := hlamports a
      rw [moved_apply_of_ne n hne (hpayer (AccountData.isSystem_iff.mp hsystem)).symm] at hshift
      have heq : t.lamports a = s.lamports a := by omega
      rw [topUp, topUp, heq]
  next => rfl

@[simp] theorem solTaken_zero (chain : Chain) (signer bridgeHandler : Pubkey) :
    solTaken chain signer bridgeHandler 0 = 0 := by
  cases chain <;> simp [solTaken]

theorem shifted_debit (L : Pubkey → ℕ) (a : Pubkey) {n : ℕ} (h : n ≤ L a) :
    Shifted L (Function.update L a (L a - n)) (Pi.single a (-(n : ℤ))) := by
  intro b
  by_cases hb : b = a
  · subst hb
    rw [Function.update_self, Pi.single_eq_same]
    omega
  · simp [hb]

theorem burnSol_moves {signer : Pubkey} {lamports : UInt64}
    (h : burnSol rt s signer lamports = .ok s') :
    Moves s s' (Pi.single signer (-(lamports.toNat : ℤ))) 0 ∧ shape s' = shape s := by
  simp only [burnSol, bind_eq_ok, require_eq_ok, checkedSub_eq_ok, pure_eq_ok] at h
  obtain ⟨-, -, -, -, left, ⟨hle, rfl⟩, rfl⟩ := h
  exact moves_of_data (shifted_debit _ _ hle) rfl rfl

theorem takeAdditionalSolGas_moves {chain : Chain} {signer bridgeHandler : Pubkey}
    {gas : UInt64} (h : takeAdditionalSolGas rt s chain signer bridgeHandler gas = .ok s') :
    Moves s s' (solTaken chain signer bridgeHandler gas.toNat) 0 ∧ shape s' = shape s := by
  simp only [takeAdditionalSolGas, bind_eq_ok, require_eq_ok] at h
  obtain ⟨-, -, h⟩ := h
  split at h
  · simp only [bind_eq_ok, require_eq_ok] at h
    obtain ⟨-, -, h⟩ := h
    cases chain with
    | solana =>
        obtain ⟨-, -, -, hmoves, hshape⟩ := systemTransfer_moves h
        exact ⟨hmoves, hshape⟩
    | solayer => exact burnSol_moves h
  next hgas =>
      obtain rfl := pure_eq_ok.mp h
      have hzero : gas.toNat = 0 := by
        have := UInt64.lt_iff_toNat_lt.not.mp hgas
        simpa using this
      rw [hzero, solTaken_zero]
      exact ⟨.refl s, rfl⟩

theorem burn_moves {tokenProgram mint source authority : Pubkey} {amount : ℕ}
    (h : burn s tokenProgram mint source authority amount = .ok s') :
    Moves s s' 0 (Pi.single mint (-(amount : ℤ)) + Pi.single source (-(amount : ℤ))) ∧
      shape s' = shape s := by
  simp only [burn, bind_eq_ok, tokenAccountOf_eq_ok, mintOf_eq_ok, require_eq_ok,
    checkedSub_eq_ok, pure_eq_ok] at h
  obtain ⟨m, hm, src, hsrc, -, -, -, -, left, ⟨hle, rfl⟩, supply, ⟨hle', rfl⟩, rfl⟩ := h
  have hne : mint ≠ source := ne_of_contents hm hsrc (by simp)
  have hs : amounts s mint = m.supply := by rw [amounts, hm]; rfl
  have hd : amounts s source = src.amount := by rw [amounts, hsrc]; rfl
  refine moves_setData₂ hne (by rw [shape, hm]; rfl) (by rw [shape, hsrc]; rfl) ?_ ?_
  · simp only [amountOf, hs]
    omega
  · simp only [amountOf, hd]
    omega

omit [DecidableEq Pubkey] in
theorem isWrappedOn_eq (chain : Chain) (t : TokenInfo Pubkey) :
    isWrappedOn chain t = !isNativeOn chain t := by
  cases chain <;> cases hs : t.isSolanaNativeToken <;> cases hl : t.isSolayerNativeToken <;>
    simp [isWrappedOn, isNativeOn, hs, hl]

theorem takeTokens_moves {x : BridgeAssetSourceChain Pubkey} {chain : Chain} {decimals : UInt8}
    {info info' : TokenInfo Pubkey} {bump : UInt8} {amount : UInt64} {targetMint : Pubkey}
    (h : takeTokens rt s x chain decimals info bump amount targetMint = .ok (s', info')) :
    Moves s s' (moved x.signer x.feeVault (registrationFee chain info))
        (tokensTaken rt chain info x amount.toNat) ∧
      shape s' = shape s := by
  unfold takeTokens at h
  unfold registrationFee tokensTaken
  have hflags : (!info.isSolanaNativeToken && !info.isSolayerNativeToken) =
      isUnregistered info := rfl
  rw [hflags] at h
  by_cases hunregistered : isUnregistered info = true
  · rw [if_pos hunregistered] at h
    simp only [bind_eq_ok, pure_eq_ok, Prod.mk.injEq] at h
    obtain ⟨s₁, htransfer, s₂, hfee, rfl, -⟩ := h
    obtain ⟨hmoves, hshape⟩ := transferChecked_moves htransfer
    rw [hunregistered, Bool.true_or, if_pos rfl]
    cases chain with
    | solana =>
        obtain rfl := pure_eq_ok.mp hfee
        rw [if_neg (by simp), moved_zero]
        exact ⟨hmoves, hshape⟩
    | solayer =>
        obtain ⟨-, -, -, hmoves', hshape'⟩ := systemTransfer_moves hfee
        have hall := hmoves.trans hmoves'
        rw [zero_add, add_zero] at hall
        rw [if_pos ⟨rfl, rfl⟩]
        exact ⟨hall, hshape'.trans hshape⟩
  · rw [if_neg hunregistered] at h
    simp only [bind_eq_ok, require_eq_ok] at h
    obtain ⟨-, -, h⟩ := h
    rw [Bool.not_eq_true] at hunregistered
    rw [hunregistered, Bool.false_or, if_neg (by simp), moved_zero]
    split at h
    next hnative =>
        simp only [bind_eq_ok, pure_eq_ok, Prod.mk.injEq] at h
        obtain ⟨s₁, htransfer, rfl, -⟩ := h
        rw [if_pos hnative]
        exact transferChecked_moves htransfer
    next hnative =>
        rw [if_pos (by rw [isWrappedOn_eq, Bool.not_eq_true' , Bool.eq_false_iff]; exact hnative)]
          at h
        simp only [bind_eq_ok, pure_eq_ok, Prod.mk.injEq] at h
        obtain ⟨s₁, hburn, rfl, -⟩ := h
        rw [if_neg hnative]
        exact burn_moves hburn

omit [DecidableEq Pubkey] in
theorem isSystem_of_shape (h : shape t a = shape s a) :
    (t.data a).isSystem = (s.data a).isSystem := by
  rw [← isSystem_shape, h, isSystem_shape]

theorem openAt_congr {f g : Pubkey → AccountData Pubkey Hash} {d : AccountData Pubkey Hash}
    (ha : f a = g a) (hb : f b = g b) : openAt f a d b = openAt g a d b := by
  unfold openAt
  rw [ha]
  split
  · by_cases hab : b = a
    · rw [hab, Function.update_self, Function.update_self]
    · rw [Function.update_of_ne hab, Function.update_of_ne hab, hb]
  · exact hb

theorem openAt_program {f : Pubkey → AccountData Pubkey Hash} {d : AccountData Pubkey Hash}
    {e : ProgramData Pubkey Hash} (h : f b = .program e) : openAt f a d b = .program e := by
  rw [openAt_of_ne_system (by rw [h]; simp), h]

/-- A source call for tokens has opened its accounts. -/
structure AccountsOpened (rt : Runtime Pubkey Hash) (s s' : State Pubkey Hash)
    (x : BridgeAssetSourceChain Pubkey) (t : TokenInfo Pubkey) : Prop where
  found : StoredOrNew s.programData x.tokenInfo (.tokenInfo t) (.tokenInfo (zeroTokenInfo rt))
  signer : s.data x.signer = .system
  fresh : s.data x.bridgeProof = .system
  moves : Moves s s' (openingShift rt s x) 0
  kept : ∀ b, s.data b ≠ .system → shape s' b = shape s b
  shape : ∀ b, b ≠ x.bridgeProof → b ≠ x.tokenInfo →
    shape s' b = openAt (shape s) x.bridgeHandlerVault (emptyVault x) b
  proof : ∃ d, s'.data x.bridgeProof = .program d
  token : s'.data x.tokenInfo = .program (.tokenInfo t)
  vault : ∃ w, s'.data x.bridgeHandlerVault = .tokenAccount x.tokenProgram w ∧
    w.mint = x.mint ∧ w.owner = x.bridgeHandler
  vaultAddress : x.bridgeHandlerVault =
    rt.associatedTokenAddress x.bridgeHandler x.mint x.tokenProgram

theorem accountsOpened {x : BridgeAssetSourceChain Pubkey} {n : UInt64}
    {s₁ s₂ s₃ : State Pubkey Hash} {proofBump tokenBump : UInt8} {info : TokenInfo Pubkey}
    (hproof : initAccount rt s x.signer (.bridgeProofSource x.bridgeHandler x.signer n)
      x.bridgeProof (.bridgeProofSourceChain (zeroBridgeProofSourceChain rt)) =
      .ok (s₁, proofBump))
    (htoken : initIfNeeded rt s₁ x.signer (.tokenInfo x.bridgeHandler x.mint) x.tokenInfo
      ProgramData.tokenInfo? (.tokenInfo (zeroTokenInfo rt)) = .ok (s₂, info, tokenBump))
    (hvault : initIfNeededAndCheckBridgeHandlerVault rt s₂ x.signer x.bridgeHandlerVault
      x.bridgeHandler x.mint x.tokenProgram = .ok s₃) : AccountsOpened rt s s₃ x info := by
  obtain ⟨hfresh, -, hsigner, -, hmoves₁, hshape₁⟩ := initAccount_moves hproof
  obtain ⟨hmoves₂, hshape₂, hne₂, d, hd, hread⟩ := initIfNeeded_moves htoken
  obtain ⟨hmoves₃, hshape₃, hne₃, haddress, w, hw, hwmint, hwowner⟩ :=
    initIfNeededAndCheckBridgeHandlerVault_moves hvault
  obtain rfl := ProgramData.tokenInfo?_eq_some.mp hread
  have hproof₂ : shape s₂ x.bridgeProof =
      .program (.bridgeProofSourceChain (zeroBridgeProofSourceChain rt)) := by
    rw [hshape₂, openAt_program (by rw [hshape₁, Function.update_self])]
  have htoken_ne : x.tokenInfo ≠ x.bridgeProof :=
    ne_of_contents (data_eq_program.mpr hd) hproof₂ (by simp)
  have hstored : ∀ b d, shape s₂ b = .program d → s₃.data b = .program d := by
    intro b d hb
    rw [← data_eq_program, hshape₃, openAt_program hb]
  have hvault_ne : ∀ b d, shape s₂ b = .program d → x.bridgeHandlerVault ≠ b := by
    intro b d hb heq
    rw [heq, hstored b d hb] at hw
    cases hw
  have hvault_proof := hvault_ne _ _ hproof₂
  have hvault_token := hvault_ne _ _ (data_eq_program.mpr hd)
  have hkept₁ : ∀ b, b ≠ x.bridgeProof → shape s₁ b = shape s b := fun b hb => by
    rw [hshape₁, Function.update_of_ne hb]
  have hkept₂ : ∀ b, b ≠ x.tokenInfo → shape s₂ b = shape s₁ b := fun b hb => by
    rw [hshape₂, openAt_of_ne hb]
  -- what the accounts lack when they are opened, they lack in `s`
  have hrent₂ : ∀ len, openRent rt s₁ x.tokenInfo len = openRent rt s x.tokenInfo len := by
    intro len
    refine openRent_moved hmoves₁.lamports (isSystem_of_shape (hkept₁ _ htoken_ne)) htoken_ne ?_
    intro hs
    exact hne₂ (data_eq_system.mp ((hkept₁ _ htoken_ne).trans (data_eq_system.mpr hs)))
  have hpayer₁ : s₁.data x.bridgeHandlerVault = .system → x.signer ≠ x.bridgeHandlerVault :=
    fun hs => hne₃ (data_eq_system.mp ((hkept₂ _ hvault_token).trans (data_eq_system.mpr hs)))
  have hrent₃ : ∀ len, openRent rt s₂ x.bridgeHandlerVault len =
      openRent rt s x.bridgeHandlerVault len := by
    intro len
    rw [openRent_moved hmoves₂.lamports (isSystem_of_shape (hkept₂ _ hvault_token)) hvault_token
        hpayer₁,
      openRent_moved hmoves₁.lamports (isSystem_of_shape (hkept₁ _ hvault_proof)) hvault_proof]
    intro hs
    exact hpayer₁ (data_eq_system.mp ((hkept₁ _ hvault_proof).trans (data_eq_system.mpr hs)))
  rw [hrent₂] at hmoves₂
  rw [hrent₃] at hmoves₃
  have hmoves := (hmoves₁.trans hmoves₂).trans hmoves₃
  rw [add_zero, add_zero] at hmoves
  obtain ⟨-, -, hdata₁, -⟩ := initAccount_effect hproof
  obtain ⟨-, hfound, -⟩ := storedOrNew_of_initIfNeeded
    (fun _ => ProgramData.tokenInfo?_eq_some.mp) htoken
  rw [StoredOrNew, hdata₁, Function.update_of_ne htoken_ne] at hfound
  exact
    { found := hfound
      signer := hsigner
      fresh := hfresh
      moves := hmoves
      kept := fun b hb => by
        have hb' := mt data_eq_system.mp hb
        have hne : b ≠ x.bridgeProof := fun heq => hb (heq ▸ hfresh)
        have hb₂ : shape s₂ b = shape s b := by
          rw [hshape₂, openAt_of_ne_system (by rw [hkept₁ b hne]; exact hb'), hkept₁ b hne]
        rw [hshape₃, openAt_of_ne_system (by rw [hb₂]; exact hb'), hb₂]
      shape := fun b hp ht => by
        rw [hshape₃]
        exact openAt_congr ((hkept₂ _ hvault_token).trans (hkept₁ _ hvault_proof))
          ((hkept₂ b ht).trans (hkept₁ b hp))
      proof := ⟨_, hstored _ _ hproof₂⟩
      token := hstored _ _ (data_eq_program.mpr hd)
      vault := ⟨w, hw, hwmint, hwowner⟩
      vaultAddress := haddress }

/-- New contents have been stored in accounts of the program, and nothing else. -/
structure Stores (accounts : List Pubkey) (s s' : State Pubkey Hash) : Prop where
  moves : Moves s s' 0 0
  kept : ∀ b ∉ accounts, shape s' b = shape s b
  program : ∀ b, (∃ d, s.data b = .program d) → ∃ d, s'.data b = .program d

theorem exitAccount_stores {d : ProgramData Pubkey Hash} (hold : ∃ d₀, s.data a = .program d₀)
    (h : exitAccount .mutable s a d = .ok s') : Stores [a] s s' := by
  obtain ⟨d₀, hold⟩ := hold
  obtain ⟨hmoves, hshape⟩ := exitAccount_moves hold h
  refine ⟨hmoves, fun b hb => ?_, fun b hdata => ?_⟩
  · rw [hshape, Function.update_of_ne (List.ne_of_not_mem_cons hb)]
  obtain ⟨d', hd'⟩ := hdata
  by_cases hb : b = a
  · exact ⟨d, by rw [← data_eq_program, hshape, hb, Function.update_self]⟩
  · exact ⟨d', by rw [← data_eq_program, hshape, Function.update_of_ne hb, data_eq_program, hd']⟩

omit [DecidableEq Pubkey] in
theorem Stores.trans {accounts accounts' : List Pubkey} {t : State Pubkey Hash}
    (h : Stores accounts s t) (h' : Stores accounts' t s') :
    Stores (accounts ++ accounts') s s' where
  moves := by simpa only [add_zero] using h.moves.trans h'.moves
  kept b hb := by
    rw [List.mem_append, not_or] at hb
    exact (h'.kept b hb.2).trans (h.kept b hb.1)
  program b hdata := h'.program b (h.program b hdata)

omit [DecidableEq Pubkey] in
/-- The token accounts of a source call, and the token info `t` that it finds. -/
structure TokensTaken (rt : Runtime Pubkey Hash) (s s' : State Pubkey Hash)
    (x : BridgeAssetSourceChain Pubkey) (t : TokenInfo Pubkey) : Prop where
  found : StoredOrNew s.programData x.tokenInfo (.tokenInfo t) (.tokenInfo (zeroTokenInfo rt))
  program : x.tokenProgram ∈ rt.tokenPrograms
  mint : ∃ m, s.data x.mint = .mint x.tokenProgram m
  signerVault : ∃ w, s.data x.signerVault = .tokenAccount x.tokenProgram w ∧
    w.mint = x.mint ∧ w.owner = x.signer
  vault : ∃ w, s'.data x.bridgeHandlerVault = .tokenAccount x.tokenProgram w ∧
    w.mint = x.mint ∧ w.owner = x.bridgeHandler
  vaultAddress : x.bridgeHandlerVault =
    rt.associatedTokenAddress x.bridgeHandler x.mint x.tokenProgram
  apart : x.signerVault ≠ x.bridgeHandlerVault

/-- What a source call requires of the accounts, and how it changes balances. -/
structure SourceEffect (rt : Runtime Pubkey Hash) (s s' : State Pubkey Hash)
    (call : Call Pubkey Hash) (c : SourceCall Pubkey) (h : BridgeHandler Pubkey)
    (t : TokenInfo Pubkey) : Prop where
  signed : c.signer ∈ call.signers
  signer : s.data c.signer = .system
  handler : HandlerAt rt s.programData c.bridgeHandler h
  feeVault : h.feeVault = c.feeVault
  lamports : Shifted s.lamports s'.lamports (sourceShift rt s h t c call.ix)
  amounts : Shifted (amounts s) (amounts s') (takenShift rt h.chain t call.ix)
  kept : ∀ a, s.data a ≠ .system → s.programData a = none → shape s' a = shape s a
  shape : ∀ a, a ∉ writtenAccounts call.ix → shape s' a = vaultShape (shape s) call.ix a
  tokens : ∀ x amount, tokenRequest? call.ix = some (x, amount) → TokensTaken rt s s' x t

theorem loadSignerVault_eq_ok {x : BridgeAssetSourceChain Pubkey} {w : TokenAccount Pubkey}
    (h : loadSignerVault rt s x = .ok w) :
    s.data x.signerVault = .tokenAccount x.tokenProgram w ∧ w.mint = x.mint ∧
      w.owner = x.signer := by
  simp only [loadSignerVault, bind_eq_ok, require_eq_ok, pure_eq_ok, Prod.exists,
    readTokenAccount_eq_ok] at h
  obtain ⟨owner, t, hdata, -, -, -, howner, -, hmint, -, rfl, rfl⟩ := h
  exact ⟨hdata, hmint, howner⟩

theorem signerVault_ne_vault {x : BridgeAssetSourceChain Pubkey} {info : TokenInfo Pubkey}
    {w : TokenAccount Pubkey} {h : BridgeHandler Pubkey}
    (opened : AccountsOpened rt s s' x info)
    (hhandler : s.data x.bridgeHandler = .program (.bridgeHandler h))
    (hw : s.data x.signerVault = .tokenAccount x.tokenProgram w) (owner : w.owner = x.signer) :
    x.signerVault ≠ x.bridgeHandlerVault := by
  intro heq
  obtain ⟨v, hv, -, hvowner⟩ := opened.vault
  have hkept := opened.kept x.signerVault (by rw [hw]; simp)
  rw [shape, shape, hw, heq, hv] at hkept
  have howner : v.owner = w.owner := by
    have := (AccountData.tokenAccount.inj hkept).2
    injection this
  have hsigner := opened.signer
  rw [← owner, ← howner, hvowner, hhandler] at hsigner
  cases hsigner

theorem bridgeAssetSourceChain_effect {signers : List Pubkey}
    {ixSysvar : InstructionsSysvar Pubkey} {x : BridgeAssetSourceChain Pubkey}
    {n amount : UInt64} {recipient targetMint : Pubkey} {gas returned : UInt64}
    (executed : bridgeAssetSourceChain rt signers s x n amount recipient targetMint gas =
      .ok (s', returned)) :
    ∃ h info, SourceEffect rt s s'
      ⟨signers, ixSysvar, .bridgeAssetSourceChain x n amount recipient targetMint gas⟩
      ⟨x.signer, x.bridgeHandler, x.bridgeProof, x.feeVault⟩ h info := by
  simp only [bridgeAssetSourceChain, checkTokenProgram, bind_eq_ok, checkSigner_eq_ok,
    require_eq_ok, Prod.exists, pure_eq_ok, Prod.mk.injEq, loadMint_eq_ok] at executed
  obtain ⟨-, signed, -, hprogram, m, ⟨hmint, -⟩, w, hload_w, h, hload, -, hfeeVault, s₁,
    proofBump, hproof, s₂, info, tokenBump, htoken, s₃, hvault, -, -, -, -, s₄, hfee, s₅, hgas,
    s₆, info', htokens, nonce, h', hnonce, s₇, hexit₁, s₈, hexit₂, s₉, hexit₃, rfl, -⟩ :=
    executed
  have handler := handlerAt_of_load hload
  have hhandler := programData_eq_some.mp handler.stored
  obtain ⟨hw, hwmint, hwowner⟩ := loadSignerVault_eq_ok hload_w
  have opened := accountsOpened hproof htoken hvault
  obtain ⟨-, -, -, hmoves₄, hshape₄⟩ := systemTransfer_moves hfee
  obtain ⟨hmoves₅, hshape₅⟩ := takeAdditionalSolGas_moves hgas
  obtain ⟨hmoves₆, hshape₆⟩ := takeTokens_moves htokens
  have hshape : shape s₆ = shape s₃ := (hshape₆.trans hshape₅).trans hshape₄
  have hstored : ∀ b, (∃ d, s₃.data b = .program d) → ∃ d, s₆.data b = .program d := by
    rintro b ⟨d, hd⟩
    exact ⟨d, by rw [← data_eq_program, hshape, data_eq_program, hd]⟩
  have hhandler₃ : s₃.data x.bridgeHandler = .program (.bridgeHandler h) := by
    rw [← data_eq_program, opened.kept _ (by rw [hhandler]; simp), data_eq_program, hhandler]
  have stores₁ := exitAccount_stores (hstored _ ⟨_, hhandler₃⟩) hexit₁
  have stores₂ := stores₁.trans
    (exitAccount_stores (stores₁.program _ (hstored _ opened.proof)) hexit₂)
  have stores := stores₂.trans
    (exitAccount_stores (stores₂.program _ (hstored _ ⟨_, opened.token⟩)) hexit₃)
  have hmoves := (((opened.moves.trans hmoves₄).trans hmoves₅).trans hmoves₆).trans stores.moves
  simp only [add_zero, zero_add] at hmoves
  have hkept : ∀ b ∉ [x.bridgeHandler, x.bridgeProof, x.tokenInfo], shape s₉ b = shape s₃ b :=
    fun b hb => by rw [stores.kept b hb, hshape]
  refine ⟨h, info,
    { signed
      signer := opened.signer
      handler
      feeVault := hfeeVault
      lamports := hmoves.lamports
      amounts := hmoves.amounts
      kept := fun b hb hnone => ?_
      shape := fun b hb => ?_
      tokens := fun y amount' hy => ?_ }⟩
  · have hshape₃ := opened.kept b hb
    have hh : b ≠ x.bridgeHandler := ne_of_contents hnone handler.stored (by simp)
    have hp : b ≠ x.bridgeProof := fun heq => hb (heq ▸ opened.fresh)
    have ht : b ≠ x.tokenInfo := by
      rintro rfl
      rw [data_eq_program.mpr opened.token, eq_comm, data_eq_program] at hshape₃
      rw [programData_eq_some.mpr hshape₃] at hnone
      cases hnone
    rw [hkept b (by simp [hh, hp, ht]), hshape₃]
  · rw [hkept b hb]
    simp only [writtenAccounts, List.mem_cons, List.not_mem_nil, or_false, not_or] at hb
    exact opened.shape b hb.2.1 hb.2.2
  · obtain ⟨rfl, -⟩ := Prod.mk.inj (Option.some.inj hy)
    obtain ⟨v, hv, hvmint, hvowner⟩ := opened.vault
    have hne : ∀ b, (∃ d, s₃.data b = .program d) → x.bridgeHandlerVault ≠ b := by
      rintro b ⟨d, hb⟩ rfl
      rw [hv] at hb
      cases hb
    have hvault : x.bridgeHandlerVault ∉ [x.bridgeHandler, x.bridgeProof, x.tokenInfo] := by
      simp [hne _ ⟨_, hhandler₃⟩, hne _ opened.proof, hne _ ⟨_, opened.token⟩]
    have hv' : s₉.data x.bridgeHandlerVault = _ :=
      data_eq_tokenAccount ((hkept _ hvault).trans (by rw [shape, hv]))
    exact
      { found := opened.found
        program := hprogram
        mint := ⟨m, hmint⟩
        signerVault := ⟨w, hw, hwmint, hwowner⟩
        vault := ⟨_, hv', hvmint, hvowner⟩
        vaultAddress := opened.vaultAddress
        apart := signerVault_ne_vault opened hhandler hw hwowner }

theorem bridgeAssetSourceChainSol_effect {signers : List Pubkey}
    {ixSysvar : InstructionsSysvar Pubkey} {x : BridgeAssetSourceChainSol Pubkey}
    {n amount : UInt64} {recipient : Pubkey} {returned : UInt64} (info : TokenInfo Pubkey)
    (executed : bridgeAssetSourceChainSol rt signers s x n amount recipient =
      .ok (s', returned)) :
    ∃ h, SourceEffect rt s s'
      ⟨signers, ixSysvar, .bridgeAssetSourceChainSol x n amount recipient⟩
      ⟨x.signer, x.bridgeHandler, x.bridgeProof, x.feeVault⟩ h info := by
  simp only [bridgeAssetSourceChainSol, bind_eq_ok, checkSigner_eq_ok, require_eq_ok,
    Prod.exists, pure_eq_ok, Prod.mk.injEq] at executed
  obtain ⟨-, signed, h, hload, -, hfeeVault, s₁, proofBump, hproof, -, -, -, -, s₂, hfee, -, -,
    s₃, hsol, nonce, h', hnonce, s₄, hexit₁, s₅, hexit₂, rfl, -⟩ := executed
  have handler := handlerAt_of_load hload
  have hhandler := programData_eq_some.mp handler.stored
  obtain ⟨hfresh, -, hsigner, -, hmoves₁, hshape₁⟩ := initAccount_moves hproof
  obtain ⟨-, -, -, hmoves₂, hshape₂⟩ := systemTransfer_moves hfee
  have hmoves₃ : Moves s₂ s₃ (solTaken h.chain x.signer x.bridgeHandler amount.toNat) 0 ∧
      shape s₃ = shape s₂ := by
    split at hsol
    next hchain =>
        obtain ⟨-, -, -, hmoves, hshape⟩ := systemTransfer_moves hsol
        rw [hchain]
        exact ⟨hmoves, hshape⟩
    next hchain =>
        rw [hchain]
        exact burnSol_moves hsol
  obtain ⟨hmoves₃, hshape₃⟩ := hmoves₃
  have hne : x.bridgeHandler ≠ x.bridgeProof := ne_of_contents hhandler hfresh (by simp)
  have hshape : shape s₃ = Function.update (shape s) x.bridgeProof
      (.program (.bridgeProofSourceChain (zeroBridgeProofSourceChain rt))) :=
    (hshape₃.trans hshape₂).trans hshape₁
  have hhandler₃ : s₃.data x.bridgeHandler = .program (.bridgeHandler h) := by
    rw [← data_eq_program, hshape, Function.update_of_ne hne, data_eq_program, hhandler]
  have hproof₃ : s₃.data x.bridgeProof =
      .program (.bridgeProofSourceChain (zeroBridgeProofSourceChain rt)) := by
    rw [← data_eq_program, hshape, Function.update_self]
  have stores₁ := exitAccount_stores ⟨_, hhandler₃⟩ hexit₁
  have stores := stores₁.trans (exitAccount_stores (stores₁.program _ ⟨_, hproof₃⟩) hexit₂)
  have hmoves := ((hmoves₁.trans hmoves₂).trans hmoves₃).trans stores.moves
  simp only [add_zero] at hmoves
  have hkept : ∀ b ∉ [x.bridgeHandler, x.bridgeProof], shape s₅ b = shape s b := fun b hb => by
    have hp : b ≠ x.bridgeProof := fun heq => hb (by simp [heq])
    rw [stores.kept b hb, hshape, Function.update_of_ne hp]
  refine ⟨h,
    { signed
      signer := hsigner
      handler
      feeVault := hfeeVault
      lamports := ?_
      amounts := hmoves.amounts
      kept := fun b hb hnone => ?_
      shape := hkept
      tokens := by simp [tokenRequest?] }⟩
  · have hfee : metadataFee h.chain info (.bridgeAssetSourceChainSol x n amount recipient :
        Instruction Pubkey Hash) = 0 := rfl
    rw [sourceShift, hfee, moved_zero, add_zero]
    exact hmoves.lamports
  · have hh : b ≠ x.bridgeHandler := ne_of_contents hnone handler.stored (by simp)
    have hp : b ≠ x.bridgeProof := fun heq => hb (heq ▸ hfresh)
    exact hkept b (by simp [hh, hp])

theorem source_effect [DecidableEq Hash] {call : Call Pubkey Hash} {c : SourceCall Pubkey}
    {returned : Option UInt64} (kind : source? call.ix = some c)
    (executed : execute rt s call = .ok (s', returned)) :
    ∃ h t, SourceEffect rt s s' call c h t := by
  obtain ⟨signers, ixSysvar, ix⟩ := call
  cases ix with
  | bridgeAssetSourceChain x n amount recipient targetMint gas =>
      obtain rfl := Option.some.inj kind
      simp only [execute, bind_eq_ok, Prod.exists, pure_eq_ok, Prod.mk.injEq] at executed
      obtain ⟨u, nonce, hcall, rfl, -⟩ := executed
      exact bridgeAssetSourceChain_effect hcall
  | bridgeAssetSourceChainSol x n amount recipient =>
      obtain rfl := Option.some.inj kind
      simp only [execute, bind_eq_ok, Prod.exists, pure_eq_ok, Prod.mk.injEq] at executed
      obtain ⟨u, nonce, hcall, rfl, -⟩ := executed
      obtain ⟨h, heffect⟩ := bridgeAssetSourceChainSol_effect (zeroTokenInfo rt) hcall
      exact ⟨h, _, heffect⟩
  | _ => simp [source?] at kind

theorem request_effect [DecidableEq Hash] {call : Call Pubkey Hash}
    {x : BridgeAssetSourceChain Pubkey} {amount : UInt64} {returned : Option UInt64}
    (token : tokenRequest? call.ix = some (x, amount))
    (executed : execute rt s call = .ok (s', returned)) :
    ∃ c h t, source? call.ix = some c ∧ SourceEffect rt s s' call c h t ∧
      TokensTaken rt s s' x t := by
  cases hsource : source? call.ix with
  | some c =>
      obtain ⟨h, t, effect⟩ := source_effect hsource executed
      exact ⟨c, h, t, rfl, effect, effect.tokens x amount token⟩
  | none => cases hix : call.ix <;> simp [hix, source?, tokenRequest?] at hsource token

end BridgeProgram.SourceSteps
