import BridgeProgram.AccountEffects
import BridgeProgram.RegistryModel

namespace BridgeProgram.RegistryRefinement

open BridgeProgram.AccountEffects
open BridgeProgram.AnchorAccounts
open BridgeProgram.BridgeProgramEntry
open BridgeProgram.CheckedResult
open BridgeProgram.HandlerInstructions
open BridgeProgram.ProgramStates
open BridgeProgram.RegistryModel
open BridgeProgram.SignatureInstructions
open BridgeProgram.SolanaRuntime
open BridgeProgram.SourceInstructions
open BridgeProgram.TargetInstructions
open BridgeProgram.TokenInstructions
open BridgeProgram.TokenPrograms
open Function (update)

variable {Pubkey Hash : Type} [DecidableEq Pubkey]
  {rt : Runtime Pubkey Hash} {s s' : State Pubkey Hash} {signers : List Pubkey}
  {ixSysvar : InstructionsSysvar Pubkey}

/-- The registry makes the step of a call, and the clock stands still. -/
def Refines (rt : Runtime Pubkey Hash) (s s' : State Pubkey Hash)
    (call : Call Pubkey Hash) (returned : Option UInt64) : Prop :=
  RegistryStep rt s.clock s.programData call returned s'.programData ∧ s'.clock = s.clock

theorem handlerAt_of_load {a : Pubkey} {h : BridgeHandler Pubkey}
    (load : loadBridgeHandler rt s a = .ok h) : HandlerAt rt s.programData a h := by
  obtain ⟨hdata, haddress⟩ := loadBridgeHandler_eq_ok.mp load
  exact ⟨programData_eq_some.mpr hdata, haddress⟩

theorem guardiansAt_of_load {bridgeHandler a : Pubkey} {g : GuardianInfo Pubkey}
    (load : loadGuardianInfo rt s bridgeHandler a = .ok g) :
    GuardiansAt rt s.programData bridgeHandler a g := by
  obtain ⟨hdata, haddress⟩ := loadGuardianInfo_eq_ok.mp load
  exact ⟨programData_eq_some.mpr hdata, haddress⟩

theorem tokenInfoAt_of_load {bridgeHandler mint a : Pubkey} {t : TokenInfo Pubkey}
    (load : loadTokenInfo rt s bridgeHandler mint a = .ok t) :
    TokenInfoAt rt s.programData bridgeHandler mint a t := by
  obtain ⟨hdata, haddress⟩ := loadTokenInfo_eq_ok.mp load
  exact ⟨programData_eq_some.mpr hdata, haddress⟩

theorem approvalsAt_of_load {bridgeHandler a : Pubkey} {msgHash : Hash}
    {v : VerifiedSignatures}
    (load : loadVerifiedSignatures rt s bridgeHandler msgHash a = .ok v) :
    ApprovalsAt rt s.programData bridgeHandler msgHash a v := by
  obtain ⟨hdata, haddress⟩ := loadVerifiedSignatures_eq_ok.mp load
  exact ⟨programData_eq_some.mpr hdata, haddress⟩

theorem programData_of_exit {a : Pubkey} {d : ProgramData Pubkey Hash}
    (exit : exitAccount .mutable s a d = .ok s') :
    s'.programData = update s.programData a (some d) ∧ s'.clock = s.clock ∧
      d.serializedLen ≤ d.space := by
  obtain ⟨hfits, rfl⟩ := exitAccount_eq_ok.mp exit
  exact ⟨by simp [AccountData.program?], rfl, hfits⟩

theorem programData_of_close {a target : Pubkey}
    (close : closeAccount s a target = .ok s') :
    s'.programData = update s.programData a none ∧ s'.clock = s.clock := by
  obtain ⟨-, rfl⟩ := closeAccount_eq_ok.mp close
  exact ⟨by simp [AccountData.program?], rfl⟩

theorem initializeHandler_refines {a : Initialize Pubkey} {initNonce : UInt64} {n : UInt8}
    (h : initializeHandler rt signers s a initNonce n = .ok s') :
    Refines rt s s' ⟨signers, ixSysvar, .initializeHandler a initNonce n⟩ none := by
  simp only [initializeHandler, bind_eq_ok, checkSigner_eq_ok, Prod.exists] at h
  obtain ⟨-, signed, s₁, handlerBump, hinit₁, s₂, guardianBump, hinit₂, chain, hchain, s₃,
    hexit₁, hexit₂⟩ := h
  obtain ⟨haddr₁, hfresh₁, hdata₁, hclock₁⟩ := initAccount_effect hinit₁
  obtain ⟨haddr₂, hfresh₂, hdata₂, hclock₂⟩ := initAccount_effect hinit₂
  obtain ⟨hdata₃, hclock₃, -⟩ := programData_of_exit hexit₁
  obtain ⟨hdata₄, hclock₄, -⟩ := programData_of_exit hexit₂
  have hdistinct : a.guardianInfo ≠ a.bridgeHandler := by
    intro heq
    rw [hdata₁, heq, Function.update_self] at hfresh₂
    cases hfresh₂
  have hclock : s₂.clock = s.clock := hclock₂.trans hclock₁
  have hpost : s'.programData = update (update s.programData a.bridgeHandler
      (some (.bridgeHandler (initialHandler a handlerBump initNonce chain s.clock))))
      a.guardianInfo (some (.guardianInfo { bump := guardianBump, guardians := [] })) := by
    rw [hdata₄, hdata₃, hdata₂, hdata₁, hclock, Function.update_comm hdistinct.symm,
      Function.update_idem, Function.update_comm hdistinct, Function.update_idem]
  rw [hdata₁, Function.update_of_ne hdistinct] at hfresh₂
  refine ⟨?_, by rw [hclock₄, hclock₃, hclock]⟩
  rw [hpost]
  exact .initializeHandler signed haddr₁ haddr₂ hfresh₁ hfresh₂ hdistinct hchain

theorem updateByManager_refines {call : Call Pubkey Hash} {manager bridgeHandler : Pubkey}
    {f : BridgeHandler Pubkey → Except ProgramError (BridgeHandler Pubkey)}
    (kind : managerUpdate? call.ix = some (manager, bridgeHandler, f))
    (h : updateByManager rt call.signers s manager bridgeHandler f = .ok s') :
    Refines rt s s' call none := by
  simp only [updateByManager, bind_eq_ok, checkSigner_eq_ok, require_eq_ok] at h
  obtain ⟨-, signed, old, hload, -, hmanager, new, hnew, hexit⟩ := h
  obtain ⟨hdata, hclock, -⟩ := programData_of_exit hexit
  refine ⟨?_, hclock⟩
  rw [hdata]
  exact .managed kind signed (handlerAt_of_load hload) hmanager hnew

theorem managedGuardians_of_load {manager bridgeHandler guardianInfo : Pubkey}
    {h : BridgeHandler Pubkey} {g : GuardianInfo Pubkey}
    (load : loadManagedGuardians rt signers s manager bridgeHandler guardianInfo =
      .ok (h, g)) :
    ManagedGuardians rt s.programData signers manager bridgeHandler guardianInfo h g := by
  simp only [loadManagedGuardians, bind_eq_ok, checkSigner_eq_ok, require_eq_ok,
    pure_eq_ok, Prod.mk.injEq] at load
  obtain ⟨-, signed, h', hload, -, hmanager, g', gload, rfl, rfl⟩ := load
  exact ⟨signed, handlerAt_of_load hload, hmanager, guardiansAt_of_load gload⟩

theorem addGuardian_refines {a : AddGuardian Pubkey}
    (h : addGuardian rt signers s a = .ok s') :
    Refines rt s s' ⟨signers, ixSysvar, .addGuardian a⟩ none := by
  simp only [addGuardian, bind_eq_ok, require_eq_ok, Prod.exists] at h
  obtain ⟨handler, g, hload, -, habsent, hexit⟩ := h
  obtain ⟨hdata, hclock, hfits⟩ := programData_of_exit hexit
  have hroom : g.guardians.length < maxGuardianCount := by
    simp only [ProgramData.serializedLen, ProgramData.space, List.length_append,
      List.length_singleton] at hfits
    omega
  refine ⟨?_, hclock⟩
  rw [hdata]
  exact .addGuardian (managedGuardians_of_load hload) habsent hroom

theorem removeGuardian_refines {a : RemoveGuardian Pubkey}
    (h : removeGuardian rt signers s a = .ok s') :
    Refines rt s s' ⟨signers, ixSysvar, .removeGuardian a⟩ none := by
  simp only [removeGuardian, bind_eq_ok, require_eq_ok, Prod.exists] at h
  obtain ⟨handler, g, hload, -, hpresent, -, henough, hexit⟩ := h
  obtain ⟨hdata, hclock, -⟩ := programData_of_exit hexit
  refine ⟨?_, hclock⟩
  rw [hdata]
  exact .removeGuardian (managedGuardians_of_load hload) hpresent henough

theorem updateGuardianThreshold_refines {a : UpdateGuardianThreshold Pubkey}
    {guardianThreshold : UInt8}
    (h : updateGuardianThreshold rt signers s a guardianThreshold = .ok s') :
    Refines rt s s' ⟨signers, ixSysvar, .updateGuardianThreshold a guardianThreshold⟩
      none := by
  simp only [updateGuardianThreshold, bind_eq_ok, require_eq_ok, Prod.exists] at h
  obtain ⟨handler, g, hload, -, hrange, -, hmajority, -, hattainable, hexit⟩ := h
  obtain ⟨hdata, hclock, -⟩ := programData_of_exit hexit
  refine ⟨?_, hclock⟩
  rw [hdata]
  exact .updateGuardianThreshold (managedGuardians_of_load hload) hrange hmajority
    hattainable

theorem storedOrNew_of_initIfNeeded {α : Type} {payer a : Pubkey}
    {seeds : Seeds Pubkey Hash} {read : ProgramData Pubkey Hash → Option α}
    {fresh : ProgramData Pubkey Hash} {x : α} {bump : UInt8} {d : ProgramData Pubkey Hash}
    (hread : ∀ d', read d' = some x → d' = d)
    (h : initIfNeeded rt s payer seeds a read fresh = .ok (s', x, bump)) :
    rt.findProgramAddress seeds = (a, bump) ∧ StoredOrNew s.programData a d fresh ∧
      s'.programData = update s.programData a (some d) ∧ s'.clock = s.clock := by
  obtain ⟨haddress, hclock, ⟨hnone, hx, hdata⟩ | ⟨⟨d', hd', hx⟩, hdata⟩⟩ :=
    initIfNeeded_effect h
  · obtain rfl := hread _ hx
    exact ⟨haddress, .inr ⟨hnone, rfl⟩, hdata, hclock⟩
  · obtain rfl := hread _ hx
    refine ⟨haddress, .inl hd', ?_, hclock⟩
    rw [hdata, ← hd', Function.update_eq_self]

theorem verifySignature_refines {a : VerifySignature Pubkey} {msgHash : Hash}
    {signerIndexes : List UInt8}
    (h : verifySignature rt signers ixSysvar s a msgHash signerIndexes = .ok s') :
    Refines rt s s' ⟨signers, ixSysvar, .verifySignature a msgHash signerIndexes⟩ none := by
  simp only [verifySignature, bind_eq_ok, checkSigner_eq_ok, Prod.exists] at h
  obtain ⟨-, signed, handler, hload, g, gload, s₁, v, bump, hinit, guardianSigners,
    hselect, _, hverify, hexit⟩ := h
  obtain ⟨haddress, hfound, hdata₁, hclock₁⟩ := storedOrNew_of_initIfNeeded
    (fun _ => ProgramData.verifiedSignatures?_eq_some.mp) hinit
  obtain ⟨hdata₂, hclock₂, -⟩ := programData_of_exit hexit
  refine ⟨?_, hclock₂.trans hclock₁⟩
  rw [hdata₂, hdata₁, Function.update_idem, hclock₁]
  exact .verifySignature signed (handlerAt_of_load hload) (guardiansAt_of_load gload)
    haddress hfound hselect hverify

theorem initMintIfNeeded_sameProgram {a : AddToken Pubkey} {decimal : UInt8}
    (h : initMintIfNeeded rt s a decimal = .ok s') :
    (rt.findProgramAddress (.mint a.bridgeHandler a.sourceMint)).1 = a.mint ∧
      SameProgram s s' := by
  simp only [initMintIfNeeded, bind_eq_ok, require_eq_ok, pure_eq_ok] at h
  obtain ⟨-, haddress, t, hcreate, -, -, -, -, -, -, rfl⟩ := h
  refine ⟨haddress, ?_⟩
  split at hcreate
  · exact createAccount_sameProgram hcreate rfl
  · obtain rfl := pure_eq_ok.mp hcreate
    exact .refl s

theorem addToken_refines {a : AddToken Pubkey} {decimal : UInt8}
    {name symbol uri : Option String}
    (h : addToken rt signers s a decimal name symbol uri = .ok s') :
    Refines rt s s' ⟨signers, ixSysvar, .addToken a decimal name symbol uri⟩ none := by
  simp only [addToken, bind_eq_ok, checkSigner_eq_ok, require_eq_ok, Prod.exists] at h
  obtain ⟨-, signed, -, -, handler, hload, -, hoperator, s₁, hmint, -, -, s₂, t, bump, hinit,
    s₃, hvault, h⟩ := h
  obtain ⟨hmintAddress, hsame₁⟩ := initMintIfNeeded_sameProgram hmint
  obtain ⟨haddress, hfound, hdata₂, hclock₂⟩ := storedOrNew_of_initIfNeeded
    (fun _ => ProgramData.tokenInfo?_eq_some.mp) hinit
  have hsame₃ := initIfNeededAndCheckBridgeHandlerVault_sameProgram hvault
  rw [hsame₁.1] at hfound hdata₂
  have hdata₃ := hsame₃.1.trans hdata₂
  have hclock₃ := (hsame₃.2.trans hclock₂).trans hsame₁.2
  split at h
  next hflags =>
      obtain ⟨hdata₄, hclock₄, -⟩ := programData_of_exit h
      have hregistered : t.isSolanaNativeToken = true ∨ t.isSolayerNativeToken = true := by
        simpa using hflags
      have hstored : s.programData a.tokenInfo = some (.tokenInfo t) := by
        rcases hfound with hstored | ⟨-, hnew⟩
        · exact hstored
        · cases hnew
          simp [zeroTokenInfo] at hregistered
      refine ⟨?_, hclock₄.trans hclock₃⟩
      rw [hdata₄, hdata₃, Function.update_idem, ← hstored, Function.update_eq_self]
      exact .addTokenAgain signed (handlerAt_of_load hload) hoperator hmintAddress haddress
        hstored hregistered
  next hflags =>
      simp only [bind_eq_ok] at h
      obtain ⟨s₄, hmetadata, hexit⟩ := h
      have hsame₄ : SameProgram s₃ s₄ := by
        split at hmetadata
        · exact createAccount_sameProgram hmetadata rfl
        · obtain rfl := pure_eq_ok.mp hmetadata
          exact .refl s₃
      obtain ⟨hdata₅, hclock₅, -⟩ := programData_of_exit hexit
      have hunregistered : t.isSolanaNativeToken = false ∧ t.isSolayerNativeToken = false := by
        simpa using hflags
      refine ⟨?_, (hclock₅.trans hsame₄.2).trans hclock₃⟩
      rw [hdata₅, hsame₄.1, hdata₃, Function.update_idem]
      exact .addToken signed (handlerAt_of_load hload) hoperator hmintAddress haddress hfound
        hunregistered

theorem setTokenPause_refines {call : Call Pubkey Hash} {a : PauseToken Pubkey}
    {pause : Bool} (kind : tokenPause? call.ix = some a)
    (h : setTokenPause rt call.signers s a pause = .ok s') :
    Refines rt s s' call none := by
  simp only [setTokenPause, bind_eq_ok, checkSigner_eq_ok, require_eq_ok, exitAccount,
    pure_eq_ok] at h
  obtain ⟨-, signed, handler, hload, -, hmanager, -, -, -, -, t, htoken, rfl⟩ := h
  exact ⟨.tokenPause kind signed (handlerAt_of_load hload) hmanager
    (tokenInfoAt_of_load htoken), rfl⟩

theorem burnSol_sameProgram {signer : Pubkey} {lamports : UInt64}
    (h : burnSol rt s signer lamports = .ok s') : SameProgram s s' := by
  simp only [burnSol, bind_eq_ok, require_eq_ok, checkedSub_eq_ok, pure_eq_ok] at h
  obtain ⟨-, -, -, -, left, -, rfl⟩ := h
  exact .refl s

theorem takeAdditionalSolGas_sameProgram {chain : Chain} {signer bridgeHandler : Pubkey}
    {gas : UInt64}
    (h : takeAdditionalSolGas rt s chain signer bridgeHandler gas = .ok s') :
    SameProgram s s' := by
  simp only [takeAdditionalSolGas, bind_eq_ok, require_eq_ok] at h
  obtain ⟨-, -, h⟩ := h
  split at h
  · simp only [bind_eq_ok, require_eq_ok] at h
    obtain ⟨-, -, h⟩ := h
    cases chain with
    | solana => exact systemTransfer_sameProgram h
    | solayer => exact burnSol_sameProgram h
  · obtain rfl := pure_eq_ok.mp h
    exact .refl s

theorem takeTokens_effect {a : BridgeAssetSourceChain Pubkey} {chain : Chain}
    {decimals bump : UInt8} {t t' : TokenInfo Pubkey} {amount : UInt64} {targetMint : Pubkey}
    (h : takeTokens rt s a chain decimals t bump amount targetMint = .ok (s', t')) :
    SameProgram s s' ∧
      (t.isSolanaNativeToken = false ∧ t.isSolayerNativeToken = false ∧
          t' = registeredTokenInfo chain bump a.mint targetMint ∨
        (t.isSolanaNativeToken = true ∨ t.isSolayerNativeToken = true) ∧
          t.pause = false ∧ t' = t) := by
  unfold takeTokens at h
  split at h
  next hflags =>
      simp only [bind_eq_ok, pure_eq_ok, Prod.mk.injEq] at h
      obtain ⟨s₁, htransfer, s₂, hfee, rfl, rfl⟩ := h
      have hsame : SameProgram s₁ s₂ := by
        cases chain with
        | solana => exact pure_eq_ok.mp hfee ▸ .refl s₁
        | solayer => exact systemTransfer_sameProgram hfee
      exact ⟨(transferChecked_sameProgram htransfer).trans hsame,
        .inl (by simpa using hflags)⟩
  next hflags =>
      simp only [bind_eq_ok, require_eq_ok] at h
      obtain ⟨-, hpause, h⟩ := h
      have hregistered : t.isSolanaNativeToken = true ∨ t.isSolayerNativeToken = true := by
        cases hs : t.isSolanaNativeToken <;> simp_all
      split at h
      · simp only [bind_eq_ok, pure_eq_ok, Prod.mk.injEq] at h
        obtain ⟨s₁, htransfer, rfl, rfl⟩ := h
        exact ⟨transferChecked_sameProgram htransfer, .inr ⟨hregistered, hpause, rfl⟩⟩
      · split at h
        · simp only [bind_eq_ok, pure_eq_ok, Prod.mk.injEq] at h
          obtain ⟨s₁, hburn, rfl, rfl⟩ := h
          exact ⟨burn_sameProgram hburn, .inr ⟨hregistered, hpause, rfl⟩⟩
        · simp only [pure_eq_ok, Prod.mk.injEq] at h
          obtain ⟨rfl, rfl⟩ := h
          exact ⟨.refl s, .inr ⟨hregistered, hpause, rfl⟩⟩

omit [DecidableEq Pubkey] in
theorem takeNonce_eq_ok {h h' : BridgeHandler Pubkey} {nonce : UInt64}
    (taken : takeNonce h = .ok (nonce, h')) :
    h.nonce.toNat + 1 < 2 ^ 64 ∧ nonce = h.nonce ∧ h' = { h with nonce := h.nonce + 1 } := by
  simp only [takeNonce, bind_eq_ok, checkedAdd_eq_ok, pure_eq_ok, Prod.mk.injEq] at taken
  obtain ⟨next, ⟨hroom, rfl⟩, rfl, rfl⟩ := taken
  have hnext : UInt64.ofNat (h.nonce.toNat + 1) = h.nonce + 1 := by
    simp [UInt64.ofNat_add]
  exact ⟨hroom, rfl, by rw [hnext]⟩

theorem bridgeAssetSourceChain_refines {a : BridgeAssetSourceChain Pubkey}
    {bridgeProofNonce amount : UInt64} {recipient targetMint : Pubkey} {gas returned : UInt64}
    (h : bridgeAssetSourceChain rt signers s a bridgeProofNonce amount recipient targetMint
      gas = .ok (s', returned)) :
    Refines rt s s' ⟨signers, ixSysvar, .bridgeAssetSourceChain a bridgeProofNonce amount
      recipient targetMint gas⟩ (some returned) := by
  simp only [bridgeAssetSourceChain, bind_eq_ok, checkSigner_eq_ok, require_eq_ok,
    Prod.exists, pure_eq_ok, Prod.mk.injEq] at h
  obtain ⟨-, signed, -, -, m, -, signerVault, -, handler, hload, -, hfeeVault, s₁, proofBump,
    hproof, s₂, t, tokenBump, htoken, s₃, hvault, -, hunpaused, -, -, s₄, hfee, s₅, hgas, s₆,
    t', htokens, nonce, handler', hnonce, s₇, hexit₁, s₈, hexit₂, s₉, hexit₃, rfl, rfl⟩ := h
  obtain ⟨hproofAddr, hfresh, hdata₁, hclock₁⟩ := initAccount_effect hproof
  obtain ⟨htokenAddr, hfound, hdata₂, hclock₂⟩ := storedOrNew_of_initIfNeeded
    (fun _ => ProgramData.tokenInfo?_eq_some.mp) htoken
  obtain ⟨htokensSame, hregistry⟩ := takeTokens_effect htokens
  have hsame : SameProgram s₂ s₆ :=
    (((initIfNeededAndCheckBridgeHandlerVault_sameProgram hvault).trans
      (systemTransfer_sameProgram hfee)).trans
      (takeAdditionalSolGas_sameProgram hgas)).trans htokensSame
  obtain ⟨hroom, rfl, rfl⟩ := takeNonce_eq_ok hnonce
  obtain ⟨hdata₇, hclock₇, -⟩ := programData_of_exit hexit₁
  obtain ⟨hdata₈, hclock₈, -⟩ := programData_of_exit hexit₂
  obtain ⟨hdata₉, hclock₉, -⟩ := programData_of_exit hexit₃
  have hclock : s₆.clock = s.clock := (hsame.2.trans hclock₂).trans hclock₁
  have hdistinct : a.tokenInfo ≠ a.bridgeProof := by
    rintro heq
    rcases hfound with hstored | ⟨hnone, -⟩
    · rw [hdata₁, heq, Function.update_self] at hstored
      cases hstored
    · rw [hdata₁, heq, Function.update_self] at hnone
      cases hnone
  have hhandler := handlerAt_of_load hload
  have hne₁ : a.bridgeHandler ≠ a.bridgeProof :=
    ne_of_contents hhandler.stored hfresh (by simp)
  have hfound' : StoredOrNew s.programData a.tokenInfo (.tokenInfo t)
      (.tokenInfo (zeroTokenInfo rt)) := by
    rwa [StoredOrNew, hdata₁, Function.update_of_ne hdistinct] at hfound
  have hne₂ : a.bridgeHandler ≠ a.tokenInfo := by
    rintro heq
    rcases hfound' with hstored | ⟨hnone, -⟩
    · rw [← heq, hhandler.stored] at hstored
      cases hstored
    · rw [← heq, hhandler.stored] at hnone
      cases hnone
  refine ⟨?_, ((hclock₉.trans hclock₈).trans hclock₇).trans hclock⟩
  rw [hdata₉, hdata₈, hdata₇, hsame.1, hdata₂, hdata₁, hclock,
    Function.update_comm hne₂.symm, Function.update_comm hdistinct, Function.update_idem,
    Function.update_comm hne₁.symm, Function.update_idem]
  exact .bridgeAssetSourceChain
    ⟨signed, hhandler, hfeeVault, hproofAddr, hfresh, hunpaused, hroom⟩
    htokenAddr hdistinct hfound' hregistry

theorem bridgeAssetSourceChainSol_refines {a : BridgeAssetSourceChainSol Pubkey}
    {bridgeProofNonce amount : UInt64} {recipient : Pubkey} {returned : UInt64}
    (h : bridgeAssetSourceChainSol rt signers s a bridgeProofNonce amount recipient =
      .ok (s', returned)) :
    Refines rt s s' ⟨signers, ixSysvar, .bridgeAssetSourceChainSol a bridgeProofNonce amount
      recipient⟩ (some returned) := by
  simp only [bridgeAssetSourceChainSol, bind_eq_ok, checkSigner_eq_ok, require_eq_ok,
    Prod.exists, pure_eq_ok, Prod.mk.injEq] at h
  obtain ⟨-, signed, handler, hload, -, hfeeVault, s₁, proofBump, hproof, -, hunpaused, -, -,
    s₂, hfee, -, -, s₃, hsol, nonce, handler', hnonce, s₄, hexit₁, s₅, hexit₂, rfl, rfl⟩ := h
  obtain ⟨hproofAddr, hfresh, hdata₁, hclock₁⟩ := initAccount_effect hproof
  have hsame₃ : SameProgram s₂ s₃ := by
    split at hsol
    · exact systemTransfer_sameProgram hsol
    · exact burnSol_sameProgram hsol
  have hsame := (systemTransfer_sameProgram hfee).trans hsame₃
  obtain ⟨hroom, rfl, rfl⟩ := takeNonce_eq_ok hnonce
  obtain ⟨hdata₄, hclock₄, -⟩ := programData_of_exit hexit₁
  obtain ⟨hdata₅, hclock₅, -⟩ := programData_of_exit hexit₂
  have hclock : s₃.clock = s.clock := hsame.2.trans hclock₁
  have hhandler := handlerAt_of_load hload
  have hne : a.bridgeHandler ≠ a.bridgeProof :=
    ne_of_contents hhandler.stored hfresh (by simp)
  refine ⟨?_, (hclock₅.trans hclock₄).trans hclock⟩
  rw [hdata₅, hdata₄, hsame.1, hdata₁, hclock, Function.update_comm hne.symm,
    Function.update_idem]
  exact .bridgeAssetSourceChainSol
    ⟨signed, hhandler, hfeeVault, hproofAddr, hfresh, hunpaused, hroom⟩

theorem initRecipientVaultIfNeeded_sameProgram {a : BridgeAssetTargetChain Pubkey}
    (h : initRecipientVaultIfNeeded rt s a = .ok s') : SameProgram s s' := by
  simp only [initRecipientVaultIfNeeded, bind_eq_ok, require_eq_ok, pure_eq_ok,
    Prod.exists] at h
  obtain ⟨t, hcreate, -, -, -, -, -, -, -, -, -, -, -, -, -, rfl⟩ := h
  split at hcreate
  · exact createAssociatedToken_sameProgram hcreate
  · obtain rfl := pure_eq_ok.mp hcreate
    exact .refl s

theorem paySol_sameProgram {chain : Chain} {bridgeHandler recipient : Pubkey}
    {dataLen : Nat} {lamports accountIdx : UInt64}
    (h : paySol rt s chain bridgeHandler recipient dataLen lamports accountIdx = .ok s') :
    SameProgram s s' := by
  cases chain with
  | solana =>
      simp only [paySol, transferSolToRecipient, bind_eq_ok, require_eq_ok,
        checkedAdd_eq_ok, checkedSub_eq_ok, pure_eq_ok] at h
      obtain ⟨floor, -, -, -, left, -, total, -, rfl⟩ := h
      exact .refl s
  | solayer =>
      simp only [paySol, mintSolToRecipient, bind_eq_ok, require_eq_ok, checkedAdd_eq_ok,
        pure_eq_ok] at h
      obtain ⟨-, -, -, -, total, -, rfl⟩ := h
      exact .refl s

theorem payTokens_sameProgram {a : BridgeAssetTargetChain Pubkey} {chain : Chain}
    {t : TokenInfo Pubkey} {vaultAmount : Nat} {decimals : UInt8} {receiveAmount : UInt64}
    (h : payTokens rt s a chain t vaultAmount decimals receiveAmount = .ok s') :
    (isNativeOn chain t = true ∨ isWrappedOn chain t = true) ∧ SameProgram s s' := by
  unfold payTokens at h
  split at h
  next hnative =>
      simp only [bind_eq_ok, require_eq_ok] at h
      obtain ⟨-, -, htransfer⟩ := h
      exact ⟨.inl hnative, transferChecked_sameProgram htransfer⟩
  next =>
      split at h
      next hwrapped => exact ⟨.inr hwrapped, mintTo_sameProgram h⟩
      next => cases h

omit [DecidableEq Pubkey] in
theorem checkApprovals_eq_ok {h : BridgeHandler Pubkey} {g : GuardianInfo Pubkey}
    {v : VerifiedSignatures} {u : Unit} :
    checkApprovals h g v = .ok u ↔
      (v.pubkeyIndex ≠ [] ∧ v.pubkeyIndex.length ≤ g.guardians.length ∧
        v.pubkeyIndex.length ≤ maxGuardianSignatures) ∧
      h.guardianThreshold.toNat ≤ v.pubkeyIndex.length := by
  simp [checkApprovals]

theorem registry_afterPayout {clock : Clock} {signers : List Pubkey}
    {p : PayoutCall Pubkey Hash} {h h' : BridgeHandler Pubkey} {g : GuardianInfo Pubkey}
    {v : VerifiedSignatures} {bump : UInt8} {fresh : ProgramData Pubkey Hash}
    {s₁ s₂ s₃ s₄ : State Pubkey Hash} (payout : Payout rt s.programData signers p h g v bump)
    (hcreated : s₁.programData = update s.programData p.bridgeProof (some fresh))
    (hexit₁ : exitAccount .mutable s₁ p.bridgeHandler (.bridgeHandler h') = .ok s₂)
    (hexit₂ : exitAccount .mutable s₂ p.bridgeProof
      (.bridgeProof (payoutProof clock bump p.msgHash p.sourceTxId p.recipient)) = .ok s₃)
    (hclose : closeAccount s₃ p.verifiedSignatures p.operator = .ok s₄) :
    s₄.programData = afterPayout clock s.programData p h' bump ∧ s₄.clock = s₁.clock := by
  obtain ⟨hdata₂, hclock₂, -⟩ := programData_of_exit hexit₁
  obtain ⟨hdata₃, hclock₃, -⟩ := programData_of_exit hexit₂
  obtain ⟨hdata₄, hclock₄⟩ := programData_of_close hclose
  have hne : p.bridgeHandler ≠ p.bridgeProof :=
    ne_of_contents payout.handler.stored payout.proofFresh (by simp)
  refine ⟨?_, (hclock₄.trans hclock₃).trans hclock₂⟩
  rw [hdata₄, hdata₃, hdata₂, hcreated, Function.update_comm hne.symm,
    Function.update_idem, afterPayout]

theorem bridgeAssetTargetChain_refines [DecidableEq Hash] {a : BridgeAssetTargetChain Pubkey}
    {msgHash : Hash} {sourceTxId : Vector UInt8 64} {sender sourceMint : Pubkey}
    {receiveAmount nonce gas : UInt64}
    (h : bridgeAssetTargetChain rt signers s a msgHash sourceTxId sender sourceMint
      receiveAmount nonce gas = .ok s') :
    Refines rt s s' ⟨signers, ixSysvar, .bridgeAssetTargetChain a msgHash sourceTxId sender
      sourceMint receiveAmount nonce gas⟩ none := by
  simp only [bridgeAssetTargetChain, bind_eq_ok, checkSigner_eq_ok, require_eq_ok,
    Prod.exists, checkApprovals_eq_ok] at h
  obtain ⟨-, signed, -, -, m, -, handler, hload, -, hoperator, vault, -, g, gload, v, vload, -,
    -, t, tload, s₁, hvault, s₂, proofBump, hproof, -, hunpaused, handler', hcharge, -,
    ⟨hcounted, happroved⟩, -, hgas, -, hmessage, s₃, htokens, s₄, hsol, s₅, hexit₁, s₆, hexit₂,
    hclose⟩ := h
  have hsame₁ := initRecipientVaultIfNeeded_sameProgram hvault
  obtain ⟨hproofAddr, hfresh, hdata₂, hclock₂⟩ := initAccount_effect hproof
  obtain ⟨hkind, hsame₃⟩ := payTokens_sameProgram htokens
  have hsame₄ : SameProgram s₃ s₄ := by
    split at hsol
    · exact paySol_sameProgram hsol
    · exact pure_eq_ok.mp hsol ▸ .refl s₃
  have hsame := hsame₃.trans hsame₄
  rw [hsame₁.1] at hfresh hdata₂
  have hclock₁ : s₂.clock = s.clock := hclock₂.trans hsame₁.2
  rw [hclock₁] at hcharge
  rw [hsame₃.2, hclock₁, hmessage] at hexit₂
  have hcap := chargeTokenPayout_sameButCap hcharge
  rw [hcap.chain] at hkind
  rw [hcap.guardianThreshold] at happroved
  have hpayout : Payout rt s.programData signers
      (BridgeAssetTargetChain.payout a msgHash sourceTxId) handler g v proofBump :=
    ⟨signed, handlerAt_of_load hload, hoperator, guardiansAt_of_load gload,
      approvalsAt_of_load vload, hproofAddr, hfresh, hunpaused, hcounted, happroved⟩
  obtain ⟨hpost, hclock⟩ := registry_afterPayout hpayout (hsame.1.trans hdata₂) hexit₁ hexit₂
    hclose
  refine ⟨?_, (hclock.trans hsame.2).trans hclock₁⟩
  rw [hpost]
  exact .payout rfl hpayout ⟨⟨t, tokenInfoAt_of_load tload, hkind⟩, hgas, hmessage, _, hcharge⟩

theorem bridgeAssetTargetChainSol_refines [DecidableEq Hash]
    {a : BridgeAssetTargetChainSol Pubkey} {msgHash : Hash} {sourceTxId : Vector UInt8 64}
    {sender : Pubkey} {receiveAmount nonce : UInt64}
    (h : bridgeAssetTargetChainSol rt signers s a msgHash sourceTxId sender receiveAmount
      nonce = .ok s') :
    Refines rt s s' ⟨signers, ixSysvar, .bridgeAssetTargetChainSol a msgHash sourceTxId
      sender receiveAmount nonce⟩ none := by
  simp only [bridgeAssetTargetChainSol, bind_eq_ok, checkSigner_eq_ok, require_eq_ok,
    Prod.exists, checkApprovals_eq_ok] at h
  obtain ⟨-, signed, handler, hload, -, hoperator, g, gload, v, vload, -, -, s₁, proofBump,
    hproof, -, hunpaused, handler', hcharge, -, ⟨hcounted, happroved⟩, -, hmessage, s₂, hsol,
    s₃, hexit₁, s₄, hexit₂, hclose⟩ := h
  obtain ⟨hproofAddr, hfresh, hdata₁, hclock₁⟩ := initAccount_effect hproof
  have hsame := paySol_sameProgram hsol
  rw [hclock₁] at hcharge
  rw [hclock₁, hmessage] at hexit₂
  rw [(chargeSolPayout_sameButCap hcharge).guardianThreshold] at happroved
  have hpayout : Payout rt s.programData signers
      (BridgeAssetTargetChainSol.payout a msgHash sourceTxId) handler g v proofBump :=
    ⟨signed, handlerAt_of_load hload, hoperator, guardiansAt_of_load gload,
      approvalsAt_of_load vload, hproofAddr, hfresh, hunpaused, hcounted, happroved⟩
  obtain ⟨hpost, hclock⟩ := registry_afterPayout hpayout (hsame.1.trans hdata₁) hexit₁ hexit₂
    hclose
  refine ⟨?_, (hclock.trans hsame.2).trans hclock₁⟩
  rw [hpost]
  exact .payout rfl hpayout ⟨hmessage, hcharge⟩

/-- Every successful call is a step of the registry. -/
theorem execute_refines [DecidableEq Hash] {call : Call Pubkey Hash}
    {returned : Option UInt64} (h : execute rt s call = .ok (s', returned)) :
    Refines rt s s' call returned := by
  obtain ⟨signers, ixSysvar, ix⟩ := call
  cases ix <;>
    simp only [execute, bind_eq_ok, pure_eq_ok, Prod.mk.injEq, Prod.exists] at h
  case bridgeAssetSourceChain | bridgeAssetSourceChainSol =>
      obtain ⟨t, nonce, h, rfl, rfl⟩ := h
      first
        | exact bridgeAssetSourceChain_refines h
        | exact bridgeAssetSourceChainSol_refines h
  all_goals obtain ⟨t, h, rfl, rfl⟩ := h
  case initializeHandler => exact initializeHandler_refines h
  case addToken => exact addToken_refines h
  case pauseToken | unpauseToken => exact setTokenPause_refines rfl h
  case bridgeAssetTargetChain => exact bridgeAssetTargetChain_refines h
  case bridgeAssetTargetChainSol => exact bridgeAssetTargetChainSol_refines h
  case addGuardian => exact addGuardian_refines h
  case removeGuardian => exact removeGuardian_refines h
  case updateGuardianThreshold => exact updateGuardianThreshold_refines h
  case verifySignature => exact verifySignature_refines h
  all_goals exact updateByManager_refines rfl h

theorem ledgerStep_registry [DecidableEq Hash] {event : Event Pubkey Hash}
    (h : LedgerStep rt s event s') :
    s'.programData = s.programData ∨
      ∃ call returned, event = .call call returned ∧
        RegistryStep rt s.clock s.programData call returned s'.programData := by
  cases h with
  | call executed => exact .inr ⟨_, _, rfl, (execute_refines executed).1⟩
  | other change => exact .inl change.programData

/-- The event is a successful call of the payout `p`. -/
def Pays (p : PayoutCall Pubkey Hash) (event : Event Pubkey Hash) : Prop :=
  ∃ call returned, event = .call call returned ∧ payout? call.ix = some p

theorem payout_of_pays [DecidableEq Hash] {event : Event Pubkey Hash}
    (step : LedgerStep rt s event s') {p : PayoutCall Pubkey Hash} (pays : Pays p event) :
    ∃ call returned h h' g v bump, event = .call call returned ∧
      Payout rt s.programData call.signers p h g v bump ∧
      PayoutTerms rt s.clock s.programData h h' v call.ix ∧
      s'.programData = afterPayout s.clock s.programData p h' bump := by
  obtain ⟨call, returned, rfl, kind⟩ := pays
  cases step with
  | call executed =>
      obtain ⟨h, h', g, v, bump, payout, terms, hpost⟩ :=
        (execute_refines executed).1.of_payout kind
      exact ⟨call, returned, h, h', g, v, bump, rfl, payout, terms, hpost⟩

end BridgeProgram.RegistryRefinement
