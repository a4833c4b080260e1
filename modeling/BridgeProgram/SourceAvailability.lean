import BridgeProgram.BalanceEffects
import BridgeProgram.TokenRegistry

namespace BridgeProgram.SourceAvailability

open BridgeProgram.AccountEffects
open BridgeProgram.AnchorAccounts
open BridgeProgram.BalanceEffects
open BridgeProgram.BalanceShifts
open BridgeProgram.BridgeProgramEntry
open BridgeProgram.CheckedResult
open BridgeProgram.HandlerInstructions
open BridgeProgram.LedgerInvariants
open BridgeProgram.MessageFormats
open BridgeProgram.ProgramStates
open BridgeProgram.RegistryModel
open BridgeProgram.SolanaRuntime
open BridgeProgram.SourceInstructions
open BridgeProgram.TokenInstructions
open BridgeProgram.TokenPrograms
open BridgeProgram.TokenRegistry
open BridgeProgram.TransitionRuns

variable {Pubkey Hash : Type} [DecidableEq Pubkey] {rt : Runtime Pubkey Hash}
  {s s' x : State Pubkey Hash} {a : BridgeAssetSourceChain Pubkey} {n : UInt64}
  {h : BridgeHandler Pubkey} {t : TokenInfo Pubkey}

/-- Lamports for a new account. -/
def accountRent (rt : Runtime Pubkey Hash) (len : ℕ) : ℕ :=
  max (rt.minimumBalance len) 1

/-- Sizes of a source proof and of a token info. -/
def sourceProofLen : ℕ := 8 + 73

def tokenInfoLen : ℕ := 8 + 68

/-- The rent of the accounts that a source call creates fits into 64 bits. -/
structure RentFits (rt : Runtime Pubkey Hash) : Prop where
  sourceProof : accountRent rt sourceProofLen < 2 ^ 64
  tokenAccount : ∀ mint, accountRent rt (rt.tokenAccountLen mint) < 2 ^ 64

/-- The signer can call `bridge_asset_source_chain` for no tokens. -/
structure CanCall (rt : Runtime Pubkey Hash) (x : State Pubkey Hash)
    (a : BridgeAssetSourceChain Pubkey) (n : UInt64) (h : BridgeHandler Pubkey)
    (t : TokenInfo Pubkey) : Prop where
  program : a.tokenProgram ∈ rt.tokenPrograms
  mint : ∃ m, x.data a.mint = .mint a.tokenProgram m
  handler : HandlerAt rt x.programData a.bridgeHandler h
  feeVault : h.feeVault = a.signer ∧ a.feeVault = a.signer
  fee : h.feeInfo.bridgeAssetFee = 0
  unpaused : h.pause = false
  room : h.nonce.toNat + 1 < 2 ^ 64
  signerVault : x.data a.signerVault =
    .tokenAccount a.tokenProgram { mint := a.mint, owner := a.signer, amount := 0 }
  token : x.data a.tokenInfo = .program (.tokenInfo t)
  tokenAddress : (rt.findProgramAddress (.tokenInfo a.bridgeHandler a.mint)).1 = a.tokenInfo
  tokenRent : rt.minimumBalance tokenInfoLen ≤ x.lamports a.tokenInfo
  registered : t.isSolanaNativeToken = true ∨ t.isSolayerNativeToken = true
  tokenUnpaused : t.pause = false
  signer : x.data a.signer = .system
  proof : x.data a.bridgeProof = .system
  proofAddress : (rt.findProgramAddress
    (.bridgeProofSource a.bridgeHandler a.signer n)).1 = a.bridgeProof
  vault : x.data a.bridgeHandlerVault = .system
  vaultAddress : a.bridgeHandlerVault =
    rt.associatedTokenAddress a.bridgeHandler a.mint a.tokenProgram
  signer_ne_proof : a.signer ≠ a.bridgeProof
  signer_ne_vault : a.signer ≠ a.bridgeHandlerVault
  proof_ne_vault : a.bridgeProof ≠ a.bridgeHandlerVault
  signerLamports : x.lamports a.signer = accountRent rt sourceProofLen +
    accountRent rt (rt.tokenAccountLen a.mint)
  proofLamports : x.lamports a.bridgeProof = 0
  vaultLamports : x.lamports a.bridgeHandlerVault = 0

theorem createAccount_new {payer b : Pubkey} (len : ℕ) (d : AccountData Pubkey Hash)
    (hsystem : s.data b = .system) (hne : payer ≠ b) (hpayer : s.data payer = .system)
    (hempty : s.lamports b = 0) (hle : accountRent rt len ≤ s.lamports payer)
    (hfits : accountRent rt len < 2 ^ 64) :
    ∃ s', createAccount rt s payer b len d = .ok s' ∧
      s'.data = Function.update s.data b d ∧
      s'.lamports = Function.update (Function.update s.lamports payer
        (s.lamports payer - accountRent rt len)) b (accountRent rt len) := by
  have hcost : max (rt.minimumBalance len) 1 - s.lamports b = accountRent rt len := by
    rw [hempty]
    rfl
  have hzero : (s.setLamports payer (s.lamports payer - accountRent rt len)).lamports b = 0 := by
    rw [setLamports_lamports, Function.update_of_ne (Ne.symm hne), hempty]
  simp only [createAccount, systemTransfer, bind_eq_ok, require_eq_ok, checkedSub_eq_ok,
    checkedAdd_eq_ok, pure_eq_ok, hcost]
  refine ⟨_, ⟨(), AccountData.isSystem_iff.mpr hsystem, (), hne, _,
    ⟨(), AccountData.isSystem_iff.mpr hpayer, _, ⟨hle, rfl⟩, _, ⟨?_, rfl⟩, rfl⟩, rfl⟩, rfl, ?_⟩
  · rw [hzero, Nat.zero_add]
    exact hfits
  · rw [setData_lamports, setLamports_lamports, hzero, Nat.zero_add]
    rfl

theorem CanCall.accounts_ok (can : CanCall rt x a n h t)
    (rentFits : RentFits rt) :
    ∃ x₁ x₂ bump tokenBump,
      initAccount rt x a.signer (.bridgeProofSource a.bridgeHandler a.signer n) a.bridgeProof
        (.bridgeProofSourceChain (zeroBridgeProofSourceChain rt)) = .ok (x₁, bump) ∧
      initIfNeeded rt x₁ a.signer (.tokenInfo a.bridgeHandler a.mint) a.tokenInfo
        ProgramData.tokenInfo? (.tokenInfo (zeroTokenInfo rt)) = .ok (x₁, t, tokenBump) ∧
      initIfNeededAndCheckBridgeHandlerVault rt x₁ a.signer a.bridgeHandlerVault
        a.bridgeHandler a.mint a.tokenProgram = .ok x₂ ∧
      x₂.data = Function.update (Function.update x.data a.bridgeProof
        (.program (.bridgeProofSourceChain (zeroBridgeProofSourceChain rt))))
        a.bridgeHandlerVault
        (.tokenAccount a.tokenProgram { mint := a.mint, owner := a.bridgeHandler, amount := 0 }) ∧
      x₂.lamports a.signer = 0 := by
  obtain ⟨m, hmint⟩ := can.mint
  have hsigner := can.signerLamports
  have htoken_ne : a.tokenInfo ≠ a.bridgeProof := ne_of_contents can.token can.proof (by simp)
  have htoken_ne' : a.tokenInfo ≠ a.signer := ne_of_contents can.token can.signer (by simp)
  have hmint_ne : a.mint ≠ a.bridgeProof := ne_of_contents hmint can.proof (by simp)
  obtain ⟨x₁, hcreate₁, hdata₁, hlamports₁⟩ := createAccount_new sourceProofLen
    (.program (.bridgeProofSourceChain (zeroBridgeProofSourceChain rt))) can.proof
    can.signer_ne_proof can.signer can.proofLamports (by omega) rentFits.sourceProof
  have hsigner₁ : x₁.lamports a.signer = accountRent rt (rt.tokenAccountLen a.mint) := by
    rw [hlamports₁, Function.update_of_ne can.signer_ne_proof, Function.update_self]
    omega
  have hvault₁ : x₁.lamports a.bridgeHandlerVault = 0 := by
    rw [hlamports₁, Function.update_of_ne can.proof_ne_vault.symm,
      Function.update_of_ne can.signer_ne_vault.symm, can.vaultLamports]
  obtain ⟨x₂, hcreate₂, hdata₂, hlamports₂⟩ := createAccount_new (s := x₁)
    (rt.tokenAccountLen a.mint)
    (.tokenAccount a.tokenProgram { mint := a.mint, owner := a.bridgeHandler, amount := 0 })
    (by rw [hdata₁, Function.update_of_ne can.proof_ne_vault.symm, can.vault])
    can.signer_ne_vault
    (by rw [hdata₁, Function.update_of_ne can.signer_ne_proof, can.signer]) hvault₁
    (by rw [hsigner₁]) (rentFits.tokenAccount _)
  refine ⟨x₁, x₂, (rt.findProgramAddress (.bridgeProofSource a.bridgeHandler a.signer n)).2,
    (rt.findProgramAddress (.tokenInfo a.bridgeHandler a.mint)).2, ?_, ?_, ?_,
    by rw [hdata₂, hdata₁], ?_⟩
  · simp only [initAccount, bind_eq_ok, require_eq_ok, pure_eq_ok]
    exact ⟨(), can.proofAddress, x₁, hcreate₁, rfl⟩
  · have hstored : x₁.data a.tokenInfo = .program (.tokenInfo t) := by
      rw [hdata₁, Function.update_of_ne htoken_ne, can.token]
    have hopen : ¬ (x₁.data a.tokenInfo).isSystem = true := by
      rw [hstored]
      simp [AccountData.isSystem]
    simp only [initIfNeeded, bind_eq_ok, require_eq_ok, pure_eq_ok, loadAccount_eq_ok,
      if_neg hopen]
    refine ⟨(), can.tokenAddress, x₁, rfl, t, ⟨_, hstored, rfl⟩, (), ?_, rfl⟩
    rw [hlamports₁, Function.update_of_ne htoken_ne, Function.update_of_ne htoken_ne']
    exact can.tokenRent
  · have howner : (x₁.data a.bridgeHandlerVault).owner rt = rt.systemProgram := by
      rw [hdata₁, Function.update_of_ne can.proof_ne_vault.symm, can.vault]
      rfl
    simp only [initIfNeededAndCheckBridgeHandlerVault, if_pos howner, createAssociatedToken,
      bind_eq_ok, require_eq_ok, pure_eq_ok, Prod.exists, readTokenAccount_eq_ok, mintOf_eq_ok]
    refine ⟨x₂, ⟨(), can.vaultAddress.symm, m, ?_, hcreate₂⟩, a.tokenProgram, _,
      by rw [hdata₂, Function.update_self], (), rfl, (), rfl, (), rfl, (), can.vaultAddress,
      (), ?_, rfl⟩
    · rw [hdata₁, Function.update_of_ne hmint_ne, hmint]
    · rw [hlamports₂, Function.update_self]
      exact Nat.le_max_left _ _
  · rw [hlamports₂, Function.update_of_ne can.signer_ne_vault, Function.update_self, hsigner₁,
      Nat.sub_self]

theorem takeTokens_zero {chain : Chain} {m : Mint Pubkey} {w v : TokenAccount Pubkey}
    {tokenBump : UInt8} {targetMint : Pubkey}
    (hmint : s.data a.mint = .mint a.tokenProgram m)
    (hsource : s.data a.signerVault = .tokenAccount a.tokenProgram w)
    (hvault : s.data a.bridgeHandlerVault = .tokenAccount a.tokenProgram v)
    (hw : w.mint = a.mint ∧ w.owner = a.signer) (hv : v.mint = a.mint ∧ v.amount = 0)
    (registered : t.isSolanaNativeToken = true ∨ t.isSolayerNativeToken = true)
    (unpaused : t.pause = false) :
    ∃ s', takeTokens rt s a chain m.decimals t tokenBump 0 targetMint = .ok (s', t) := by
  have hflags : ¬ ((!t.isSolanaNativeToken && !t.isSolayerNativeToken) = true) := by
    rcases registered with hsolana | hsolayer
    · simp [hsolana]
    · simp [hsolayer]
  simp only [takeTokens, if_neg hflags, bind_eq_ok, require_eq_ok]
  by_cases hnative : isNativeOn chain t = true
  · simp only [if_pos hnative, transferChecked, bind_eq_ok, tokenAccountOf_eq_ok, mintOf_eq_ok,
      require_eq_ok, checkedSub_eq_ok, pure_eq_ok, Prod.mk.injEq]
    by_cases hsame : a.signerVault = a.bridgeHandlerVault
    · exact ⟨s, (), unpaused, s, ⟨w, hsource, v, hvault, m, hmint, (), ⟨hw.1, hv.1⟩, (), rfl, (),
        hw.2, _, ⟨Nat.zero_le _, rfl⟩, by rw [if_pos hsame]; rfl⟩, rfl, trivial⟩
    · simp only [if_neg hsame, bind_eq_ok, checkedAdd_eq_ok, pure_eq_ok]
      refine ⟨_, (), unpaused, _, ⟨w, hsource, v, hvault, m, hmint, (), ⟨hw.1, hv.1⟩, (), rfl, (),
        hw.2, _, ⟨Nat.zero_le _, rfl⟩, _, ⟨?_, rfl⟩, rfl⟩, rfl, trivial⟩
      rw [hv.2]
      simp
  · rw [if_neg hnative]
    by_cases hwrapped : isWrappedOn chain t = true
    · simp only [if_pos hwrapped, burn, bind_eq_ok, mintOf_eq_ok, tokenAccountOf_eq_ok,
        require_eq_ok, checkedSub_eq_ok, pure_eq_ok, Prod.mk.injEq]
      exact ⟨_, (), unpaused, _, ⟨m, hmint, w, hsource, (), hw.1, (), hw.2, _,
        ⟨Nat.zero_le _, rfl⟩, _, ⟨Nat.zero_le _, rfl⟩, rfl⟩, rfl, trivial⟩
    · rw [if_neg hwrapped]
      exact ⟨s, (), unpaused, rfl⟩

theorem CanCall.source_ok (can : CanCall rt x a n h t)
    (rentFits : RentFits rt) {signers : List Pubkey}
    (signed : a.signer ∈ signers) (recipient targetMint : Pubkey) :
    ∃ x' returned, bridgeAssetSourceChain rt signers x a n 0 recipient targetMint 0 =
      .ok (x', returned) := by
  obtain ⟨m, hmint⟩ := can.mint
  obtain ⟨x₁, x₂, bump, tokenBump, hproof, htoken, hvault, hdata, hlamports⟩ :=
    can.accounts_ok rentFits
  have hkept : ∀ b, x.data b ≠ .system → x₂.data b = x.data b := by
    intro b hb
    rw [hdata, Function.update_of_ne, Function.update_of_ne]
    · rintro rfl
      exact hb can.proof
    · rintro rfl
      exact hb can.vault
  have hsigner : x₂.data a.signer = .system := by
    rw [hdata, Function.update_of_ne can.signer_ne_vault,
      Function.update_of_ne can.signer_ne_proof, can.signer]
  obtain ⟨x₃, hfee⟩ : ∃ x₃, systemTransfer x₂ a.signer a.feeVault
      h.feeInfo.bridgeAssetFee.toNat = .ok x₃ := by
    rw [can.fee, can.feeVault.2]
    exact systemTransfer_ok hsigner (Nat.zero_le _) (by rw [hlamports]; decide)
  obtain ⟨hdata₃, -⟩ := systemTransfer_data hfee
  obtain ⟨x₄, htokens⟩ : ∃ x₄, takeTokens rt x₃ a h.chain m.decimals t tokenBump 0
      targetMint = .ok (x₄, t) := takeTokens_zero
    (by rw [hdata₃, hkept _ (by rw [hmint]; simp), hmint])
    (by rw [hdata₃, hkept _ (by rw [can.signerVault]; simp), can.signerVault])
    (by rw [hdata₃, hdata, Function.update_self]) ⟨rfl, rfl⟩ ⟨rfl, rfl⟩ can.registered
    can.tokenUnpaused
  have hloadVault : loadSignerVault rt x a =
      .ok { mint := a.mint, owner := a.signer, amount := 0 } := by
    simp only [loadSignerVault, bind_eq_ok, require_eq_ok, pure_eq_ok, Prod.exists,
      readTokenAccount_eq_ok]
    exact ⟨_, _, can.signerVault, (), can.program, (), rfl, (), rfl, (), rfl, rfl⟩
  have hgas : takeAdditionalSolGas rt x₃ h.chain a.signer a.bridgeHandler 0 = .ok x₃ := by
    simp [takeAdditionalSolGas]
  simp only [bridgeAssetSourceChain, checkTokenProgram, takeNonce, bind_eq_ok,
    checkSigner_eq_ok, require_eq_ok, loadMint_eq_ok, Prod.exists, checkedAdd_eq_ok,
    exitAccount_eq_ok, pure_eq_ok, Prod.mk.injEq]
  exact ⟨_, _, (), signed, (), can.program, m, ⟨hmint, can.program⟩, _, hloadVault, h,
    loadBridgeHandler_eq_ok.mpr ⟨programData_eq_some.mp can.handler.stored, can.handler.address⟩,
    (), can.feeVault.1.trans can.feeVault.2.symm, x₁, bump, hproof, x₁, t, tokenBump, htoken,
    x₂, hvault, (), can.unpaused, (), Nat.zero_le _, x₃, hfee, x₃, hgas, x₄, t, htokens, _, _,
    ⟨_, ⟨can.room, rfl⟩, rfl, rfl⟩, _, ⟨Nat.le_refl _, rfl⟩, _, ⟨Nat.le_refl _, rfl⟩, _,
    ⟨Nat.le_refl _, rfl⟩, rfl, rfl⟩

/-- The ledger after a wallet received the rent of the new accounts and opened a
token account. -/
def withWallet (rt : Runtime Pubkey Hash) (s : State Pubkey Hash)
    (a : BridgeAssetSourceChain Pubkey) : State Pubkey Hash where
  lamports b :=
    if b = a.signer then
      accountRent rt sourceProofLen + accountRent rt (rt.tokenAccountLen a.mint)
    else if b = a.bridgeProof ∨ b = a.bridgeHandlerVault then 0
    else max (s.lamports b) (rt.minimumBalance tokenInfoLen)
  data := Function.update (Function.update (Function.update (Function.update s.data
    a.signer .system) a.bridgeProof .system) a.bridgeHandlerVault .system)
    a.signerVault
    (.tokenAccount a.tokenProgram { mint := a.mint, owner := a.signer, amount := 0 })
  clock := s.clock

/-- The addresses of a source call that hold nothing of the program are different
ones. -/
structure Unused (s : State Pubkey Hash) (a : BridgeAssetSourceChain Pubkey) : Prop where
  signer : s.programData a.signer = none
  proof : s.programData a.bridgeProof = none
  vault : s.programData a.bridgeHandlerVault = none
  signerVault : s.programData a.signerVault = none
  signer_ne_proof : a.signer ≠ a.bridgeProof
  signer_ne_vault : a.signer ≠ a.bridgeHandlerVault
  proof_ne_vault : a.bridgeProof ≠ a.bridgeHandlerVault
  signerVault_ne : a.signerVault ≠ a.signer ∧ a.signerVault ≠ a.bridgeProof ∧
    a.signerVault ≠ a.bridgeHandlerVault
  mint_ne : a.mint ≠ a.signer ∧ a.mint ≠ a.bridgeProof ∧ a.mint ≠ a.bridgeHandlerVault ∧
    a.mint ≠ a.signerVault

theorem otherChange_withWallet (rt : Runtime Pubkey Hash) (unused : Unused s a) :
    OtherChange s (withWallet rt s a) := by
  constructor
  · have h₁ : SameProgram s (s.setData a.signer .system) :=
      sameProgram_setData unused.signer rfl
    have h₂ := h₁.trans (sameProgram_setData (a := a.bridgeProof) (d := .system)
      (by rw [h₁.1]; exact unused.proof) rfl)
    have h₃ := h₂.trans (sameProgram_setData (a := a.bridgeHandlerVault) (d := .system)
      (by rw [h₂.1]; exact unused.vault) rfl)
    have h₄ := h₃.trans (sameProgram_setData (a := a.signerVault)
      (d := .tokenAccount a.tokenProgram { mint := a.mint, owner := a.signer, amount := 0 })
      (by rw [h₃.1]; exact unused.signerVault) rfl)
    exact h₄.1
  · intro b hb
    simp only [withWallet]
    rw [if_neg, if_neg]
    · exact Nat.le_max_left _ _
    · rintro (rfl | rfl)
      · exact hb unused.proof
      · exact hb unused.vault
    · rintro rfl
      exact hb unused.signer

theorem withWallet_data (rt : Runtime Pubkey Hash) (unused : Unused s a) :
    (withWallet rt s a).data a.signer = .system ∧
      (withWallet rt s a).data a.bridgeProof = .system ∧
      (withWallet rt s a).data a.bridgeHandlerVault = .system ∧
      (withWallet rt s a).data a.signerVault =
        .tokenAccount a.tokenProgram { mint := a.mint, owner := a.signer, amount := 0 } := by
  obtain ⟨hw₁, hw₂, hw₃⟩ := unused.signerVault_ne
  simp [withWallet, Function.update_apply, hw₁.symm, hw₂.symm, hw₃.symm]

theorem withWallet_data_of_ne {b : Pubkey} (hsigner : b ≠ a.signer) (hproof : b ≠ a.bridgeProof)
    (hvault : b ≠ a.bridgeHandlerVault) (hsignerVault : b ≠ a.signerVault) :
    (withWallet rt s a).data b = s.data b := by
  simp [withWallet, hsigner, hproof, hvault, hsignerVault]

omit [DecidableEq Pubkey] in
theorem Unused.ne_of_stored (unused : Unused s a) {b : Pubkey} (hb : s.programData b ≠ none) :
    b ≠ a.signer ∧ b ≠ a.bridgeProof ∧ b ≠ a.bridgeHandlerVault ∧ b ≠ a.signerVault := by
  refine ⟨?_, ?_, ?_, ?_⟩ <;> rintro rfl
  · exact hb unused.signer
  · exact hb unused.proof
  · exact hb unused.vault
  · exact hb unused.signerVault

/-- The address of a source proof. -/
def sourceProofAddress (rt : Runtime Pubkey Hash) (bridgeHandler signer : Pubkey)
    (n : UInt64) : Pubkey :=
  (rt.findProgramAddress (.bridgeProofSource bridgeHandler signer n)).1

omit [DecidableEq Pubkey] in
theorem sourceProofAddress_inj (collisionFree : CollisionFree rt)
    {bridgeHandler signer signer' : Pubkey} {n n' : UInt64}
    (heq : sourceProofAddress rt bridgeHandler signer n =
      sourceProofAddress rt bridgeHandler signer' n') : signer = signer' ∧ n = n' := by
  have hcreate := rt.create_find (.bridgeProofSource bridgeHandler signer n)
  have hcreate' := rt.create_find (.bridgeProofSource bridgeHandler signer' n')
  rw [show (rt.findProgramAddress (.bridgeProofSource bridgeHandler signer n)).1 = _ from heq]
    at hcreate
  obtain ⟨hseeds, -⟩ := collisionFree _ _ _ _ _ hcreate hcreate'
  obtain ⟨-, hsigner, hn⟩ := Seeds.bridgeProofSource.inj hseeds
  exact ⟨hsigner, hn⟩

omit [DecidableEq Pubkey] in
theorem infinite_pubkey (collisionFree : CollisionFree rt) (bridgeHandler : Pubkey) :
    Infinite Pubkey := by
  by_contra hfinite
  rw [not_infinite_iff_finite] at hfinite
  have hinjective : Function.Injective fun signer =>
      sourceProofAddress rt bridgeHandler signer 0 :=
    fun _ _ heq => (sourceProofAddress_inj collisionFree heq).1
  -- the addresses for number 0 would be all keys, those for number 1 too
  obtain ⟨signer, heq⟩ := Finite.surjective_of_injective hinjective
    (sourceProofAddress rt bridgeHandler bridgeHandler 1)
  have := (sourceProofAddress_inj collisionFree heq).2
  cases this

omit [DecidableEq Pubkey] in
theorem exists_wallet (collisionFree : CollisionFree rt) (bridgeHandler : Pubkey)
    {avoid : Set Pubkey} (finite : avoid.Finite) :
    ∃ signer n, signer ∉ avoid ∧ sourceProofAddress rt bridgeHandler signer n ∉ avoid ∧
      signer ≠ sourceProofAddress rt bridgeHandler signer n := by
  have := infinite_pubkey collisionFree bridgeHandler
  have hinjective : ∀ n, Function.Injective fun signer =>
      sourceProofAddress rt bridgeHandler signer n :=
    fun n _ _ heq => (sourceProofAddress_inj collisionFree heq).1
  have hpreimage := fun n => finite.preimage (hinjective n).injOn
  obtain ⟨signer, hsigner⟩ :=
    ((finite.union (hpreimage 0)).union (hpreimage 1)).exists_notMem
  simp only [Set.mem_union, Set.mem_preimage, not_or] at hsigner
  obtain ⟨⟨hsigner, hzero⟩, hone⟩ := hsigner
  by_cases heq : signer = sourceProofAddress rt bridgeHandler signer 0
  · refine ⟨signer, 1, hsigner, hone, fun heq' => ?_⟩
    have := (sourceProofAddress_inj collisionFree (heq.symm.trans heq')).2
    cases this
  · exact ⟨signer, 0, hsigner, hzero, heq⟩

variable [DecidableEq Hash]

theorem managed_ok {call : Call Pubkey Hash} {bridgeHandler : Pubkey}
    {f : BridgeHandler Pubkey → Except ProgramError (BridgeHandler Pubkey)}
    {h' : BridgeHandler Pubkey} (handler : HandlerAt rt s.programData bridgeHandler h)
    (kind : managerUpdate? call.ix = some (h.manager, bridgeHandler, f))
    (signed : h.manager ∈ call.signers) (updated : f h = .ok h') :
    execute rt s call = .ok (s.setData bridgeHandler (.program (.bridgeHandler h')), none) := by
  have hupdate : updateByManager rt call.signers s h.manager bridgeHandler f =
      .ok (s.setData bridgeHandler (.program (.bridgeHandler h'))) := by
    simp only [updateByManager, bind_eq_ok, checkSigner_eq_ok, require_eq_ok,
      exitAccount_eq_ok]
    exact ⟨(), signed, h, loadBridgeHandler_eq_ok.mpr
      ⟨programData_eq_some.mp handler.stored, handler.address⟩, (), rfl, h', updated,
      Nat.le_refl _, rfl⟩
  obtain ⟨signers, ixSysvar, ix⟩ := call
  cases ix with
  | pauseBridge | unpauseBridge | updateFeeVault | updateFeeInfo | updateInstantBridgeCap
  | updateOperator | updateManager =>
      simp only [managerUpdate?, Option.some.injEq, Prod.mk.injEq] at kind
      obtain ⟨hmanager, rfl, rfl⟩ := kind
      simp only [execute, hmanager]
      rw [hupdate]
      rfl
  | _ => simp [managerUpdate?] at kind

/-- An update of a handler by its manager, or an event outside the program. -/
def ManagedOrOther : Event Pubkey Hash → Prop
  | .call call _ => managerUpdate? call.ix ≠ none
  | .other => True

/-- The manager can turn a handler into another one. -/
structure CanBecome (rt : Runtime Pubkey Hash) (s : State Pubkey Hash) (bridgeHandler : Pubkey)
    (h : BridgeHandler Pubkey) : Prop where
  handler : HandlerAt rt (s.setData bridgeHandler (.program (.bridgeHandler h))).programData
    bridgeHandler h
  run : ∃ trace, LedgerRun rt s trace (s.setData bridgeHandler (.program (.bridgeHandler h))) ∧
    ∀ u ∈ trace, ManagedOrOther u.label

omit [DecidableEq Hash] in
theorem setData_setData (s : State Pubkey Hash) (b : Pubkey) (d e : AccountData Pubkey Hash) :
    (s.setData b d).setData b e = s.setData b e := by
  simp [State.setData]

theorem CanBecome.refl {bridgeHandler : Pubkey}
    (handler : HandlerAt rt s.programData bridgeHandler h) : CanBecome rt s bridgeHandler h := by
  have hsame : s.setData bridgeHandler (.program (.bridgeHandler h)) = s := by
    rw [State.setData, ← programData_eq_some.mp handler.stored, Function.update_eq_self]
  refine ⟨by rw [hsame]; exact handler, [], ?_, by simp⟩
  rw [hsame]
  exact .nil s

theorem CanBecome.update {bridgeHandler : Pubkey} (can : CanBecome rt s bridgeHandler h)
    (ix : Instruction Pubkey Hash)
    {f : BridgeHandler Pubkey → Except ProgramError (BridgeHandler Pubkey)}
    {h' : BridgeHandler Pubkey} (kind : managerUpdate? ix = some (h.manager, bridgeHandler, f))
    (updated : f h = .ok h') : CanBecome rt s bridgeHandler h' := by
  obtain ⟨trace, run, hevents⟩ := can.run
  let call : Call Pubkey Hash :=
    { signers := [h.manager], ixSysvar := { instructions := [], currentIndex := 0 }, ix }
  have hstep : execute rt (s.setData bridgeHandler (.program (.bridgeHandler h))) call =
      .ok (s.setData bridgeHandler (.program (.bridgeHandler h')), none) := by
    rw [managed_ok can.handler kind (List.mem_singleton_self _) updated, setData_setData]
  obtain ⟨hidentity, -⟩ := managerUpdate_frame kind updated
  refine ⟨⟨by simp, ?_⟩, _, run.snoc (.call hstep), ?_⟩
  · rw [hidentity.initNonce, hidentity.bump]
    exact can.handler.address
  · intro u hu
    rcases List.mem_append.mp hu with hold | hnew
    · exact hevents u hold
    · rw [List.mem_singleton.mp hnew]
      change managerUpdate? ix ≠ none
      rw [kind]
      simp

/-- The handler without a pause and without fees, with another fee vault. -/
def openHandler (h : BridgeHandler Pubkey) (feeVault : Pubkey) : BridgeHandler Pubkey :=
  { h with
    pause := false
    feeVault
    feeInfo := { bridgeAssetFee := 0, bridgeMessageFee := 0, crossChainCallFee := 0 } }

theorem canBecome_open {bridgeHandler feeVault : Pubkey}
    (handler : HandlerAt rt s.programData bridgeHandler h) (differs : feeVault ≠ h.feeVault) :
    CanBecome rt s bridgeHandler (openHandler h feeVault) := by
  have hunpaused : CanBecome rt s bridgeHandler { h with pause := false } :=
    (CanBecome.refl handler).update (.unpauseBridge ⟨h.manager, bridgeHandler⟩) rfl rfl
  have hvault : CanBecome rt s bridgeHandler { h with pause := false, feeVault } := by
    refine hunpaused.update (.updateFeeVault ⟨h.manager, bridgeHandler, feeVault⟩) rfl ?_
    simp only [updateFeeVault, bind_eq_ok, require_eq_ok, pure_eq_ok]
    exact ⟨(), differs, trivial⟩
  exact hvault.update (.updateFeeInfo ⟨h.manager, bridgeHandler⟩
    { bridgeAssetFee := 0, bridgeMessageFee := 0, crossChainCallFee := 0 }) rfl rfl

omit [DecidableEq Hash] in
theorem canCall_withWallet (unused : Unused s a)
    (handler : HandlerAt rt s.programData a.bridgeHandler h)
    (opened : HandlerAt rt ((withWallet rt s a).setData a.bridgeHandler
      (.program (.bridgeHandler (openHandler h a.signer)))).programData a.bridgeHandler
      (openHandler h a.signer))
    (token : s.data a.tokenInfo = .program (.tokenInfo t))
    (registered : t.isSolanaNativeToken = true ∨ t.isSolayerNativeToken = true)
    (tokenUnpaused : t.pause = false) (room : h.nonce.toNat + 1 < 2 ^ 64)
    (program : a.tokenProgram ∈ rt.tokenPrograms)
    (mint : ∃ m, s.data a.mint = .mint a.tokenProgram m)
    (tokenAddress : (rt.findProgramAddress (.tokenInfo a.bridgeHandler a.mint)).1 = a.tokenInfo)
    (proofAddress : sourceProofAddress rt a.bridgeHandler a.signer n = a.bridgeProof)
    (vaultAddress : a.bridgeHandlerVault =
      rt.associatedTokenAddress a.bridgeHandler a.mint a.tokenProgram)
    (feeVault : a.feeVault = a.signer) :
    CanCall rt ((withWallet rt s a).setData a.bridgeHandler
      (.program (.bridgeHandler (openHandler h a.signer)))) a n (openHandler h a.signer) t := by
  obtain ⟨m, hmint⟩ := mint
  obtain ⟨hm₁, hm₂, hm₃, hm₄⟩ := unused.mint_ne
  obtain ⟨hh₁, hh₂, hh₃, hh₄⟩ := unused.ne_of_stored (by rw [handler.stored]; simp)
  obtain ⟨ht₁, ht₂, ht₃, ht₄⟩ := unused.ne_of_stored
    (by rw [programData_eq_some.mpr token]; simp)
  obtain ⟨hsigner, hproof, hvault, hsignerVault⟩ := withWallet_data rt unused
  have hhandler := programData_eq_some.mp handler.stored
  have htoken_ne : a.tokenInfo ≠ a.bridgeHandler := ne_of_contents token hhandler (by simp)
  have hmint_ne : a.mint ≠ a.bridgeHandler := ne_of_contents hmint hhandler (by simp)
  exact
    { program
      mint := ⟨m, by
        rw [setData_data, Function.update_of_ne hmint_ne,
          withWallet_data_of_ne hm₁ hm₂ hm₃ hm₄, hmint]⟩
      handler := opened
      feeVault := ⟨rfl, feeVault⟩
      fee := rfl
      unpaused := rfl
      room
      signerVault := by rw [setData_data, Function.update_of_ne hh₄.symm, hsignerVault]
      token := by
        rw [setData_data, Function.update_of_ne htoken_ne,
          withWallet_data_of_ne ht₁ ht₂ ht₃ ht₄, token]
      tokenAddress
      tokenRent := by
        simp only [setData_lamports, withWallet, ht₁, ht₂, ht₃, or_self, if_false]
        exact Nat.le_max_right _ _
      registered
      tokenUnpaused
      signer := by rw [setData_data, Function.update_of_ne hh₁.symm, hsigner]
      proof := by rw [setData_data, Function.update_of_ne hh₂.symm, hproof]
      proofAddress
      vault := by rw [setData_data, Function.update_of_ne hh₃.symm, hvault]
      vaultAddress
      signer_ne_proof := unused.signer_ne_proof
      signer_ne_vault := unused.signer_ne_vault
      proof_ne_vault := unused.proof_ne_vault
      signerLamports := by simp [withWallet]
      proofLamports := by simp [withWallet, unused.signer_ne_proof.symm]
      vaultLamports := by simp [withWallet, unused.signer_ne_vault.symm] }

/-- The call is about this token of this handler. -/
def SourceCallOn (bridgeHandler mint : Pubkey) (call : Call Pubkey Hash) : Prop :=
  ∃ a n amount recipient targetMint gas,
    call.ix = .bridgeAssetSourceChain a n amount recipient targetMint gas ∧
      a.bridgeHandler = bridgeHandler ∧ a.mint = mint

/-- As long as a handler has request numbers left, a registered token can be
bridged after some updates by the manager. -/
theorem exists_source_call (collisionFree : CollisionFree rt) (assoc : AssociatedAddresses rt)
    (rentFits : RentFits rt) (reachable : LedgerReachable rt s)
    {bridgeHandler mint tokenInfo tokenProgram : Pubkey} {m : Mint Pubkey}
    (handler : HandlerAt rt s.programData bridgeHandler h) (room : h.nonce.toNat + 1 < 2 ^ 64)
    (token : TokenInfoAt rt s.programData bridgeHandler mint tokenInfo t)
    (mintData : s.data mint = .mint tokenProgram m) (program : tokenProgram ∈ rt.tokenPrograms) :
    ∃ trace x, LedgerRun rt s trace x ∧ (∀ u ∈ trace, ManagedOrOther u.label) ∧
      ∃ call x' returned, SourceCallOn bridgeHandler mint call ∧
        execute rt x call = .ok (x', returned) := by
  have registered := registeredToken_of_tokenInfoAt collisionFree reachable token
  let vault := rt.associatedTokenAddress bridgeHandler mint tokenProgram
  have hvault : s.programData vault = none := by
    by_contra hstored
    obtain ⟨seeds, bump, haddress⟩ := derived_of_reachable reachable hstored
    exact assoc.not_program _ _ _ _ _ haddress
  -- keys that are not used yet
  have hfinite : ({b | s.programData b ≠ none} ∪ {mint, vault, h.feeVault}).Finite :=
    (finite_accounts_of_reachable reachable).union (by simp)
  obtain ⟨signer, n, hsigner, hproof, hne⟩ :=
    exists_wallet collisionFree bridgeHandler hfinite
  have := infinite_pubkey collisionFree bridgeHandler
  obtain ⟨signerVault, hsignerVault⟩ := (hfinite.union (Set.toFinite
    {signer, sourceProofAddress rt bridgeHandler signer n})).exists_notMem
  simp only [Set.mem_union, Set.mem_ofPred_eq, Set.mem_insert_iff, Set.mem_singleton_iff, not_or,
    not_not] at hsigner hproof hsignerVault
  obtain ⟨hsigner, hs₁, hs₂, hs₃⟩ := hsigner
  obtain ⟨hproof, hp₁, hp₂, -⟩ := hproof
  obtain ⟨⟨hsignerVault, hw₁, hw₂, -⟩, hw₃, hw₄⟩ := hsignerVault
  let a : BridgeAssetSourceChain Pubkey :=
    { signer, mint, signerVault, bridgeHandler, bridgeHandlerVault := vault
      bridgeProof := sourceProofAddress rt bridgeHandler signer n, tokenInfo
      feeVault := signer, tokenProgram }
  have unused : Unused s a :=
    { signer := hsigner
      proof := hproof
      vault := hvault
      signerVault := hsignerVault
      signer_ne_proof := hne
      signer_ne_vault := hs₂
      proof_ne_vault := hp₂
      signerVault_ne := ⟨hw₃, hw₄, hw₂⟩
      mint_ne := ⟨Ne.symm hs₁, Ne.symm hp₁, (assoc.ne_mint _ _ _).symm, Ne.symm hw₁⟩ }
  have change := otherChange_withWallet rt unused
  have handler' : HandlerAt rt (withWallet rt s a).programData bridgeHandler h := by
    rw [change.programData]
    exact handler
  have becomes := canBecome_open handler' hs₃
  obtain ⟨trace, run, hevents⟩ := becomes.run
  have hnative : t.isSolanaNativeToken = true ∨ t.isSolayerNativeToken = true := by
    rw [registered.native]
    cases t.isSolanaNativeToken <;> simp
  have can := canCall_withWallet (n := n) unused handler becomes.handler
    (programData_eq_some.mp token.stored) hnative registered.unpaused room program ⟨m, mintData⟩
    (by rw [registered.address]) rfl rfl rfl
  obtain ⟨x', returned, hcall⟩ :=
    can.source_ok rentFits (List.mem_singleton_self signer) signer signer
  refine ⟨_, _, .cons (.other change) run, ?_,
    { signers := [signer], ixSysvar := { instructions := [], currentIndex := 0 }
      ix := .bridgeAssetSourceChain a n 0 signer signer 0 }, x', some returned,
    ⟨a, n, 0, signer, signer, 0, rfl, rfl, rfl⟩, ?_⟩
  · intro u hu
    rcases List.mem_cons.mp hu with rfl | hlater
    · trivial
    · exact hevents u hlater
  · simp only [execute]
    rw [hcall]
    rfl

end BridgeProgram.SourceAvailability
