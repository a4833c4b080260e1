import BridgeProgram.CallEffects
import BridgeProgram.SymbolicRuntime

namespace BridgeProgram.RentExemption

open BridgeProgram.AccountEffects
open BridgeProgram.AnchorAccounts
open BridgeProgram.BalanceEffects
open BridgeProgram.BalanceShifts
open BridgeProgram.BridgeProgramEntry
open BridgeProgram.CheckedResult
open BridgeProgram.HandlerInstructions
open BridgeProgram.PayoutSteps
open BridgeProgram.ProgramStates
open BridgeProgram.RegistryModel
open BridgeProgram.RegistryRefinement
open BridgeProgram.SignatureInstructions
open BridgeProgram.SolanaRuntime
open BridgeProgram.SourceInstructions
open BridgeProgram.SourceSteps
open BridgeProgram.SymbolicRuntime
open BridgeProgram.TargetInstructions
open BridgeProgram.TokenInstructions

variable {Pubkey Hash : Type}

/-- Every account of the program has the rent of its size. -/
def RentExempt (rt : Runtime Pubkey Hash) (s : State Pubkey Hash) : Prop :=
  ∀ a d, s.programData a = some d → rt.minimumBalance d.space ≤ s.lamports a

/-- Accounts keep their sizes and their rent. -/
structure KeepsRent (rt : Runtime Pubkey Hash) (s s' : State Pubkey Hash) : Prop where
  space : ∀ a d, s.programData a = some d →
    ∃ d', s'.programData a = some d' ∧ d'.space = d.space
  rent : RentExempt rt s → RentExempt rt s'

variable {rt : Runtime Pubkey Hash} {s t s' : State Pubkey Hash} {a payer : Pubkey}

theorem KeepsRent.refl (s : State Pubkey Hash) : KeepsRent rt s s where
  space _ d h := ⟨d, h, rfl⟩
  rent h := h

theorem KeepsRent.trans (h₁ : KeepsRent rt s t) (h₂ : KeepsRent rt t s') :
    KeepsRent rt s s' where
  space a d h := by
    obtain ⟨d₁, hd₁, hspace₁⟩ := h₁.space a d h
    obtain ⟨d₂, hd₂, hspace₂⟩ := h₂.space a d₁ hd₁
    exact ⟨d₂, hd₂, hspace₂.trans hspace₁⟩
  rent h := h₂.rent (h₁.rent h)

theorem KeepsRent.sized (keeps : KeepsRent rt s s') {d : ProgramData Pubkey Hash} {len : ℕ}
    (stored : s.programData a = some d) (hlen : d.space = len) :
    ∃ d', s'.programData a = some d' ∧ d'.space = len := by
  rw [← hlen]
  exact keeps.space a d stored

theorem keepsRent_of_shifted (same : s'.programData = s.programData) {δ : Pubkey → ℤ}
    (shifted : Shifted s.lamports s'.lamports δ)
    (nonneg : ∀ a, s.programData a ≠ none → 0 ≤ δ a) : KeepsRent rt s s' where
  space a d h := ⟨d, by rw [same, h], rfl⟩
  rent exempt a d h := by
    rw [same] at h
    have hrent := exempt a d h
    have hshift := shifted a
    have hgain := nonneg a (by rw [h]; exact Option.some_ne_none d)
    omega

theorem ne_of_stored {b : Pubkey} (stored : s.programData a ≠ none)
    (free : s.programData b = none) : a ≠ b := by
  rintro rfl
  exact stored free

variable [DecidableEq Pubkey]

theorem exitAccount_keepsRent {w : Writability} {d : ProgramData Pubkey Hash}
    (h : exitAccount w s a d = .ok s')
    (hold : ∃ d₀, s.programData a = some d₀ ∧ d₀.space = d.space) : KeepsRent rt s s' := by
  cases w with
  | readonly =>
      obtain rfl := pure_eq_ok.mp h
      exact .refl s
  | mutable =>
      obtain ⟨-, rfl⟩ := exitAccount_eq_ok.mp h
      obtain ⟨d₀, hd₀, hspace⟩ := hold
      constructor
      · intro b e hb
        rw [programData_setData]
        by_cases hsame : b = a
        · subst hsame
          rw [hd₀] at hb
          obtain rfl := Option.some.inj hb
          exact ⟨d, Function.update_self .., hspace.symm⟩
        · exact ⟨e, by rw [Function.update_of_ne hsame, hb], rfl⟩
      · intro exempt b e hb
        rw [programData_setData] at hb
        rw [setData_lamports]
        by_cases hsame : b = a
        · subst hsame
          rw [Function.update_self] at hb
          obtain rfl := Option.some.inj hb
          rw [← hspace]
          exact exempt b d₀ hd₀
        · rw [Function.update_of_ne hsame] at hb
          exact exempt b e hb

theorem systemTransfer_keepsRent {b : Pubkey} {n : ℕ} (h : systemTransfer s a b n = .ok s') :
    KeepsRent rt s s' := by
  obtain ⟨hsystem, -, -, hmoves, -⟩ := systemTransfer_moves h
  refine keepsRent_of_shifted (systemTransfer_sameProgram h).1 hmoves.lamports ?_
  intro c hc
  exact moved_nonneg _ (ne_of_stored hc (programData_eq_none_of_system hsystem))

theorem createAccount_keepsRent {len : ℕ} {d : AccountData Pubkey Hash}
    (hlen : ∀ fresh, d = .program fresh → len = fresh.space)
    (h : createAccount rt s payer a len d = .ok s') : KeepsRent rt s s' := by
  simp only [createAccount, bind_eq_ok, require_eq_ok, pure_eq_ok,
    AccountData.isSystem_iff] at h
  obtain ⟨-, hsystem, -, hne, t, htransfer, rfl⟩ := h
  have htransferred : KeepsRent rt s t := systemTransfer_keepsRent htransfer
  obtain ⟨-, -, hdata, hmoves, -⟩ := systemTransfer_moves htransfer
  have hfree : t.programData a = none := by
    rw [(systemTransfer_sameProgram htransfer).1, programData_eq_none_of_system hsystem]
  refine htransferred.trans ⟨?_, ?_⟩
  · intro b e hb
    have hother : b ≠ a := ne_of_stored (by rw [hb]; exact Option.some_ne_none e) hfree
    exact ⟨e, by rw [programData_setData, Function.update_of_ne hother, hb], rfl⟩
  · intro exempt b e hb
    rw [programData_setData] at hb
    rw [setData_lamports]
    by_cases hsame : b = a
    · subst hsame
      rw [Function.update_self] at hb
      have hspace : len = e.space := by
        cases d with
        | program fresh =>
            obtain rfl := Option.some.inj hb
            exact hlen _ rfl
        | _ => cases hb
      have hpaid := hmoves.lamports b
      rw [moved_apply, if_pos rfl, if_neg hne.symm] at hpaid
      rw [← hspace]
      omega
    · rw [Function.update_of_ne hsame] at hb
      exact exempt b e hb

theorem initAccount_keepsRent {seeds : Seeds Pubkey Hash} {fresh : ProgramData Pubkey Hash}
    {bump : UInt8} (h : initAccount rt s payer seeds a fresh = .ok (s', bump)) :
    KeepsRent rt s s' ∧ s'.programData a = some fresh := by
  obtain ⟨-, -, hdata, -⟩ := initAccount_effect h
  simp only [initAccount, bind_eq_ok, pure_eq_ok, Prod.mk.injEq] at h
  obtain ⟨-, -, t, hcreate, rfl, -⟩ := h
  constructor
  · apply createAccount_keepsRent _ hcreate
    rintro fresh' heq
    rw [AccountData.program.inj heq]
  · rw [hdata, Function.update_self]

theorem created_keepsRent {p : Prop} [Decidable p] {len : ℕ} {d : AccountData Pubkey Hash}
    (hlen : ∀ fresh, d = .program fresh → len = fresh.space)
    (h : (if p then createAccount rt s payer a len d else pure s) = .ok s') :
    KeepsRent rt s s' := by
  split at h
  · exact createAccount_keepsRent hlen h
  · obtain rfl := pure_eq_ok.mp h
    exact .refl s

theorem initIfNeeded_keepsRent {α : Type} {seeds : Seeds Pubkey Hash}
    {read : ProgramData Pubkey Hash → Option α} {fresh : ProgramData Pubkey Hash} {x : α}
    {bump : UInt8} (h : initIfNeeded rt s payer seeds a read fresh = .ok (s', x, bump)) :
    KeepsRent rt s s' ∧ ∃ d, s'.programData a = some d ∧ read d = some x := by
  simp only [initIfNeeded, bind_eq_ok, pure_eq_ok, Prod.mk.injEq, loadAccount_eq_ok] at h
  obtain ⟨-, -, t, hcreate, x', ⟨d, hd, hread⟩, -, -, rfl, rfl, -⟩ := h
  constructor
  · apply created_keepsRent _ hcreate
    rintro fresh' heq
    rw [AccountData.program.inj heq]
  · exact ⟨d, programData_eq_some.mpr hd, hread⟩

theorem vault_keepsRent {bridgeHandler mint tokenProgram : Pubkey}
    (h : initIfNeededAndCheckBridgeHandlerVault rt s payer a bridgeHandler mint tokenProgram =
      .ok s') : KeepsRent rt s s' := by
  simp only [initIfNeededAndCheckBridgeHandlerVault, bind_eq_ok, Prod.exists, pure_eq_ok] at h
  obtain ⟨t, hcreate, -, -, -, -, -, -, -, -, -, -, -, -, -, rfl⟩ := h
  split at hcreate
  · simp only [TokenPrograms.createAssociatedToken, bind_eq_ok] at hcreate
    obtain ⟨-, -, -, -, hcreate⟩ := hcreate
    exact createAccount_keepsRent (by simp) hcreate
  · obtain rfl := pure_eq_ok.mp hcreate
    exact .refl s

theorem solTaken_nonneg (chain : Chain) {signer : Pubkey} (bridgeHandler : Pubkey) (n : ℕ)
    (h : a ≠ signer) : 0 ≤ solTaken chain signer bridgeHandler n a := by
  cases chain with
  | solana => exact moved_nonneg n h
  | solayer => simp [solTaken, Pi.single_eq_of_ne h]

theorem burnSol_keepsRent {signer : Pubkey} {lamports : UInt64}
    (free : s.programData signer = none) (h : burnSol rt s signer lamports = .ok s') :
    KeepsRent rt s s' := by
  obtain ⟨hmoves, -⟩ := burnSol_moves h
  refine keepsRent_of_shifted (burnSol_sameProgram h).1 hmoves.lamports ?_
  intro c hc
  rw [Pi.single_eq_of_ne (ne_of_stored hc free)]

theorem takeAdditionalSolGas_keepsRent {chain : Chain} {signer bridgeHandler : Pubkey}
    {gas : UInt64} (free : s.programData signer = none)
    (h : takeAdditionalSolGas rt s chain signer bridgeHandler gas = .ok s') :
    KeepsRent rt s s' := by
  obtain ⟨hmoves, -⟩ := takeAdditionalSolGas_moves h
  refine keepsRent_of_shifted (takeAdditionalSolGas_sameProgram h).1 hmoves.lamports ?_
  intro c hc
  exact solTaken_nonneg _ _ _ (ne_of_stored hc free)

theorem takeTokens_keepsRent {x : BridgeAssetSourceChain Pubkey} {chain : Chain}
    {decimals bump : UInt8} {info info' : TokenInfo Pubkey} {amount : UInt64}
    {targetMint : Pubkey} (free : s.programData x.signer = none)
    (h : takeTokens rt s x chain decimals info bump amount targetMint = .ok (s', info')) :
    KeepsRent rt s s' := by
  obtain ⟨hmoves, -⟩ := takeTokens_moves h
  obtain ⟨hsame, -⟩ := takeTokens_effect h
  refine keepsRent_of_shifted hsame.1 hmoves.lamports ?_
  intro c hc
  exact moved_nonneg _ (ne_of_stored hc free)

theorem paySol_keepsRent {chain : Chain} {bridgeHandler recipient : Pubkey} {dataLen : ℕ}
    {lamports accountIdx : UInt64} {d : ProgramData Pubkey Hash}
    (handler : s.programData bridgeHandler = some d) (hlen : d.space = dataLen)
    (h : paySol rt s chain bridgeHandler recipient dataLen lamports accountIdx = .ok s') :
    KeepsRent rt s s' := by
  cases chain with
  | solayer =>
      simp only [paySol, mintSolToRecipient, bind_eq_ok, checkedAdd_eq_ok, pure_eq_ok] at h
      obtain ⟨-, -, -, -, total, ⟨-, rfl⟩, rfl⟩ := h
      refine keepsRent_of_shifted rfl (shifted_credit _ _ _) ?_
      intro c hc
      by_cases hsame : c = recipient
      · rw [hsame, Pi.single_eq_same]
        omega
      · rw [Pi.single_eq_of_ne hsame]
  | solana =>
      simp only [paySol, transferSolToRecipient, bind_eq_ok, require_eq_ok, checkedAdd_eq_ok,
        checkedSub_eq_ok, pure_eq_ok] at h
      obtain ⟨floor, ⟨-, rfl⟩, -, hfloor, left, ⟨hle, rfl⟩, total, ⟨-, rfl⟩, rfl⟩ := h
      refine ⟨fun c e hc => ⟨e, hc, rfl⟩, ?_⟩
      intro exempt c e hc
      have hrent := exempt c e hc
      have hshift := shifted_move s.lamports bridgeHandler recipient hle c
      rw [moved_apply] at hshift
      simp only [setLamports_lamports]
      by_cases hsame : c = bridgeHandler
      · subst hsame
        obtain rfl := Option.some.inj (handler.symm.trans hc)
        rw [if_pos rfl] at hshift
        rw [hlen]
        split_ifs at hshift <;> omega
      · rw [if_neg hsame] at hshift
        split_ifs at hshift <;> omega

theorem closeAccount_rentExempt {target : Pubkey} (hne : a ≠ target)
    (h : closeAccount s a target = .ok s') (exempt : RentExempt rt s) : RentExempt rt s' := by
  obtain ⟨-, rfl⟩ := closeAccount_eq_ok.mp h
  intro c e hc
  rw [programData_setData] at hc
  by_cases hsame : c = a
  · rw [hsame, Function.update_self] at hc
    cases hc
  · rw [Function.update_of_ne hsame] at hc
    have hrent := exempt c e hc
    have hshift := shifted_empty s.lamports hne c
    have hgain : 0 ≤ moved a target (s.lamports a) c := moved_nonneg _ hsame
    simp only [setData_lamports, setLamports_lamports]
    omega

theorem initializeHandler_keepsRent {signers : List Pubkey} {x : Initialize Pubkey}
    {initNonce : UInt64} {n : UInt8}
    (h : initializeHandler rt signers s x initNonce n = .ok s') : KeepsRent rt s s' := by
  simp only [initializeHandler, bind_eq_ok, Prod.exists] at h
  obtain ⟨-, -, s₁, handlerBump, hhandler, s₂, guardianBump, hguardians, chain, -, s₃, hexit₁,
    hexit₂⟩ := h
  obtain ⟨hopened₁, hstored₁⟩ := initAccount_keepsRent hhandler
  obtain ⟨hopened₂, hstored₂⟩ := initAccount_keepsRent hguardians
  have hexited : KeepsRent rt s₂ s₃ := exitAccount_keepsRent hexit₁ (hopened₂.sized hstored₁ rfl)
  exact ((hopened₁.trans hopened₂).trans hexited).trans
    (exitAccount_keepsRent hexit₂ (hexited.sized hstored₂ rfl))

theorem verifySignature_keepsRent {signers : List Pubkey}
    {ixSysvar : InstructionsSysvar Pubkey} {x : VerifySignature Pubkey} {msgHash : Hash}
    {signerIndexes : List UInt8}
    (h : verifySignature rt signers ixSysvar s x msgHash signerIndexes = .ok s') :
    KeepsRent rt s s' := by
  simp only [verifySignature, bind_eq_ok, Prod.exists] at h
  obtain ⟨-, -, y, -, g, -, s₁, v, bump, hinit, keys, -, -, -, hexit⟩ := h
  obtain ⟨hopened, d, hstored, hread⟩ := initIfNeeded_keepsRent hinit
  obtain rfl := ProgramData.verifiedSignatures?_eq_some.mp hread
  exact hopened.trans (exitAccount_keepsRent hexit ⟨_, hstored, rfl⟩)

theorem addToken_keepsRent {signers : List Pubkey} {x : AddToken Pubkey} {decimal : UInt8}
    {name symbol uri : Option String}
    (h : addToken rt signers s x decimal name symbol uri = .ok s') : KeepsRent rt s s' := by
  simp only [addToken, initMintIfNeeded, bind_eq_ok, Prod.exists, pure_eq_ok] at h
  obtain ⟨-, -, -, -, y, -, -, -, s₁, ⟨-, -, _, hmint, -, -, -, -, -, -, rfl⟩, -, -, s₂, info,
    bump, htoken, s₃, hvault, h⟩ := h
  obtain ⟨hopened₂, d, hstored, hread⟩ := initIfNeeded_keepsRent htoken
  obtain rfl := ProgramData.tokenInfo?_eq_some.mp hread
  have hopened₃ : KeepsRent rt s₂ s₃ := vault_keepsRent hvault
  have hopened := ((created_keepsRent (by simp) hmint).trans hopened₂).trans hopened₃
  split at h
  · exact hopened.trans (exitAccount_keepsRent h (hopened₃.sized hstored rfl))
  · simp only [bind_eq_ok] at h
    obtain ⟨s₄, hmetadata, hexit⟩ := h
    have hopened₄ : KeepsRent rt s₃ s₄ := created_keepsRent (by simp) hmetadata
    exact (hopened.trans hopened₄).trans
      (exitAccount_keepsRent hexit ((hopened₃.trans hopened₄).sized hstored rfl))

theorem setTokenPause_keepsRent {signers : List Pubkey} {x : PauseToken Pubkey} {pause : Bool}
    (h : setTokenPause rt signers s x pause = .ok s') : KeepsRent rt s s' := by
  simp only [setTokenPause, bind_eq_ok] at h
  obtain ⟨-, -, y, -, -, -, -, -, m, -, t, -, hexit⟩ := h
  obtain rfl := pure_eq_ok.mp hexit
  exact .refl s

theorem updateByManager_keepsRent {signers : List Pubkey} {manager bridgeHandler : Pubkey}
    {update : BridgeHandler Pubkey → Except ProgramError (BridgeHandler Pubkey)}
    (h : updateByManager rt signers s manager bridgeHandler update = .ok s') :
    KeepsRent rt s s' := by
  simp only [updateByManager, bind_eq_ok, loadBridgeHandler_eq_ok] at h
  obtain ⟨-, -, x, ⟨hdata, -⟩, -, -, y, -, hexit⟩ := h
  exact exitAccount_keepsRent hexit ⟨_, programData_eq_some.mpr hdata, rfl⟩

section Guardians

open BridgeProgram.AccountKeeping

theorem addGuardian_keepsRent {signers : List Pubkey} {x : AddGuardian Pubkey}
    (h : addGuardian rt signers s x = .ok s') : KeepsRent rt s s' := by
  simp only [addGuardian, bind_eq_ok, Prod.exists] at h
  obtain ⟨y, g, hload, -, -, hexit⟩ := h
  exact exitAccount_keepsRent hexit
    ⟨_, programData_eq_some.mpr (loadManagedGuardians_data hload).2, rfl⟩

theorem removeGuardian_keepsRent {signers : List Pubkey} {x : RemoveGuardian Pubkey}
    (h : removeGuardian rt signers s x = .ok s') : KeepsRent rt s s' := by
  simp only [removeGuardian, bind_eq_ok, Prod.exists] at h
  obtain ⟨y, g, hload, -, -, -, -, hexit⟩ := h
  exact exitAccount_keepsRent hexit
    ⟨_, programData_eq_some.mpr (loadManagedGuardians_data hload).2, rfl⟩

theorem updateGuardianThreshold_keepsRent {signers : List Pubkey}
    {x : UpdateGuardianThreshold Pubkey} {n : UInt8}
    (h : updateGuardianThreshold rt signers s x n = .ok s') : KeepsRent rt s s' := by
  simp only [updateGuardianThreshold, bind_eq_ok, Prod.exists] at h
  obtain ⟨y, g, hload, -, -, -, -, -, -, hexit⟩ := h
  exact exitAccount_keepsRent hexit
    ⟨_, programData_eq_some.mpr (loadManagedGuardians_data hload).1, rfl⟩

end Guardians

theorem bridgeAssetSourceChainSol_keepsRent {signers : List Pubkey}
    {x : BridgeAssetSourceChainSol Pubkey} {n amount : UInt64} {recipient : Pubkey}
    {nonce : UInt64}
    (h : bridgeAssetSourceChainSol rt signers s x n amount recipient = .ok (s', nonce)) :
    KeepsRent rt s s' := by
  simp only [bridgeAssetSourceChainSol, bind_eq_ok, Prod.exists, loadBridgeHandler_eq_ok,
    pure_eq_ok, Prod.mk.injEq] at h
  obtain ⟨-, -, y, ⟨hdata, -⟩, -, -, s₁, bump, hinit, -, -, -, -, s₂, hfee, -, -, s₃, hsol,
    nonce', y', -, s₄, hexit₁, s₅, hexit₂, rfl, -⟩ := h
  obtain ⟨hopened, hstored⟩ := initAccount_keepsRent hinit
  have hfeed : KeepsRent rt s₁ s₂ := systemTransfer_keepsRent hfee
  have hfree : s₂.programData x.signer = none := by
    obtain ⟨hsystem, -⟩ := systemTransfer_moves hfee
    rw [(systemTransfer_sameProgram hfee).1, programData_eq_none_of_system hsystem]
  have hpaid : KeepsRent rt s₂ s₃ := by
    cases hchain : y.chain with
    | solana =>
        rw [hchain] at hsol
        exact systemTransfer_keepsRent hsol
    | solayer =>
        rw [hchain] at hsol
        exact burnSol_keepsRent hfree hsol
  have hbefore : KeepsRent rt s₁ s₃ := hfeed.trans hpaid
  have hexited : KeepsRent rt s₃ s₄ := exitAccount_keepsRent hexit₁
    ((hopened.trans hbefore).sized (programData_eq_some.mpr hdata) rfl)
  exact ((hopened.trans hbefore).trans hexited).trans
    (exitAccount_keepsRent hexit₂ ((hbefore.trans hexited).sized hstored rfl))

theorem bridgeAssetSourceChain_keepsRent {signers : List Pubkey}
    {x : BridgeAssetSourceChain Pubkey} {n amount : UInt64} {recipient targetMint : Pubkey}
    {gas nonce : UInt64}
    (h : bridgeAssetSourceChain rt signers s x n amount recipient targetMint gas =
      .ok (s', nonce)) : KeepsRent rt s s' := by
  simp only [bridgeAssetSourceChain, bind_eq_ok, Prod.exists, loadBridgeHandler_eq_ok,
    pure_eq_ok, Prod.mk.injEq] at h
  obtain ⟨-, -, -, -, m, -, -, -, y, ⟨hdata, -⟩, -, -, s₁, bump, hinit, s₂, info, infoBump, htoken,
    s₃, hvault, -, -, -, -, s₄, hfee, s₅, hgas, s₆, info', htaken, nonce', y', -, s₇, hexit₁,
    s₈, hexit₂, s₉, hexit₃, rfl, -⟩ := h
  obtain ⟨hopened, hproof⟩ := initAccount_keepsRent hinit
  obtain ⟨hregistered, d, hstored, hread⟩ := initIfNeeded_keepsRent htoken
  obtain rfl := ProgramData.tokenInfo?_eq_some.mp hread
  have hfree : s₄.programData x.signer = none := by
    obtain ⟨hsystem, -⟩ := systemTransfer_moves hfee
    rw [(systemTransfer_sameProgram hfee).1, programData_eq_none_of_system hsystem]
  have hfree' : s₅.programData x.signer = none := by
    rw [(takeAdditionalSolGas_sameProgram hgas).1, hfree]
  have hpaid : KeepsRent rt s₂ s₆ := (((vault_keepsRent hvault).trans
    (systemTransfer_keepsRent hfee)).trans (takeAdditionalSolGas_keepsRent hfree hgas)).trans
    (takeTokens_keepsRent hfree' htaken)
  have hbefore : KeepsRent rt s₁ s₆ := hregistered.trans hpaid
  have hexited₁ : KeepsRent rt s₆ s₇ := exitAccount_keepsRent hexit₁
    ((hopened.trans hbefore).sized (programData_eq_some.mpr hdata) rfl)
  have hexited₂ : KeepsRent rt s₇ s₈ := exitAccount_keepsRent hexit₂
    ((hbefore.trans hexited₁).sized hproof rfl)
  have hexited := hexited₁.trans hexited₂
  exact ((hopened.trans hbefore).trans hexited).trans
    (exitAccount_keepsRent hexit₃ ((hpaid.trans hexited).sized hstored rfl))

variable {call : Call Pubkey Hash} {p : PayoutCall Pubkey Hash} {q : PayoutQuote Pubkey}

omit [DecidableEq Pubkey] in
theorem programData_of_shape (h : shape s' = shape s) : s'.programData = s.programData := by
  funext b
  have hb := congrFun h b
  unfold shape at hb
  unfold State.programData
  cases hdata : s.data b <;> cases hdata' : s'.data b <;>
    simp_all [shapeOf, AccountData.program?]

theorem openStep_sameData (h : openStep rt s call.ix = .ok s') :
    s'.programData = s.programData := by
  cases hix : call.ix with
  | bridgeAssetTargetChain =>
      rw [hix] at h
      exact (initRecipientVaultIfNeeded_sameProgram h).1
  | _ =>
      rw [hix] at h
      obtain rfl := pure_eq_ok.mp h
      rfl

theorem solStep_keepsRent {chain : Chain} {d : ProgramData Pubkey Hash}
    (kind : payout? call.ix = some p) (handler : s.programData p.bridgeHandler = some d)
    (hlen : d.space = handlerLen) (h : solStep rt s chain call.ix = .ok s') :
    KeepsRent rt s s' := by
  cases hix : call.ix with
  | bridgeAssetTargetChain =>
      rw [hix] at kind h
      obtain rfl := Option.some.inj kind
      simp only [solStep] at h
      split at h
      · exact paySol_keepsRent handler hlen h
      · obtain rfl := pure_eq_ok.mp h
        exact .refl s
  | bridgeAssetTargetChainSol =>
      rw [hix] at kind h
      obtain rfl := Option.some.inj kind
      exact paySol_keepsRent handler hlen h
  | _ => simp [hix, payout?] at kind

/-- A payout leaves every account its rent, until it closes the approvals. -/
theorem payout_rentExempt (pays : PaysWith rt s call p q s') (exempt : RentExempt rt s) :
    RentExempt rt s' := by
  have operator := pays.accounts.operator
  have apart := pays.apart
  obtain ⟨kind, s₁, s₂, s₃, s₄, run⟩ := pays
  obtain ⟨hmoves₁, -⟩ := openStep_moves kind run.opened
  have hopened : KeepsRent rt s s₁ := by
    refine keepsRent_of_shifted (openStep_sameData run.opened) hmoves₁.lamports ?_
    intro c hc
    exact moved_nonneg _ (ne_of_stored hc (programData_eq_none_of_system operator))
  obtain ⟨hcreated, hproof⟩ := initAccount_keepsRent run.created
  obtain ⟨hmoves₃, hshape₃⟩ := tokenStep_moves run.tokens
  have htokens : KeepsRent rt s₂ s₃ := by
    refine keepsRent_of_shifted (programData_of_shape hshape₃) hmoves₃.lamports ?_
    intro c _
    exact Int.le_refl 0
  have hbefore := (hopened.trans hcreated).trans htokens
  have hlen : (ProgramData.bridgeHandler q.handler : ProgramData Pubkey Hash).space = handlerLen :=
    rfl
  obtain ⟨d, handler, hlen⟩ := hbefore.sized run.payout.handler.stored hlen
  have hpaid : KeepsRent rt s₃ s₄ := solStep_keepsRent kind handler hlen run.sol
  have hfinished := run.finished
  simp only [finishStep, bind_eq_ok] at hfinished
  obtain ⟨s₅, hexit₁, s₆, hexit₂, hclose⟩ := hfinished
  have hexited₁ : KeepsRent rt s₄ s₅ := exitAccount_keepsRent hexit₁
    ((hbefore.trans hpaid).sized run.payout.handler.stored rfl)
  have hexited₂ : KeepsRent rt s₅ s₆ := exitAccount_keepsRent hexit₂
    (((htokens.trans hpaid).trans hexited₁).sized hproof rfl)
  exact closeAccount_rentExempt apart hclose
    ((((hbefore.trans hpaid).trans hexited₁).trans hexited₂).rent exempt)

variable [DecidableEq Hash] {event : Event Pubkey Hash} {returned : Option UInt64}

theorem execute_rentExempt (executed : execute rt s call = .ok (s', returned))
    (exempt : RentExempt rt s) : RentExempt rt s' := by
  cases hpayout : payout? call.ix with
  | some p =>
      obtain ⟨q, pays⟩ := paysWith_of_executed hpayout executed
      exact payout_rentExempt pays exempt
  | none =>
      obtain ⟨signers, ixSysvar, ix⟩ := call
      have hkeeps : KeepsRent rt s s' := by
        cases ix with
        | bridgeAssetTargetChain | bridgeAssetTargetChainSol => simp [payout?] at hpayout
        | bridgeAssetSourceChain =>
            simp only [execute, bind_eq_ok, Prod.exists, pure_eq_ok, Prod.mk.injEq] at executed
            obtain ⟨u, nonce, hcall, rfl, -⟩ := executed
            exact bridgeAssetSourceChain_keepsRent hcall
        | bridgeAssetSourceChainSol =>
            simp only [execute, bind_eq_ok, Prod.exists, pure_eq_ok, Prod.mk.injEq] at executed
            obtain ⟨u, nonce, hcall, rfl, -⟩ := executed
            exact bridgeAssetSourceChainSol_keepsRent hcall
        | _ =>
            simp only [execute, bind_eq_ok, pure_eq_ok, Prod.mk.injEq] at executed
            obtain ⟨u, hcall, rfl, -⟩ := executed
            first
              | exact initializeHandler_keepsRent hcall
              | exact addToken_keepsRent hcall
              | exact setTokenPause_keepsRent hcall
              | exact updateByManager_keepsRent hcall
              | exact addGuardian_keepsRent hcall
              | exact removeGuardian_keepsRent hcall
              | exact updateGuardianThreshold_keepsRent hcall
              | exact verifySignature_keepsRent hcall
      exact hkeeps.rent exempt

theorem rentExempt_step (step : LedgerStep rt s event s') (exempt : RentExempt rt s) :
    RentExempt rt s' := by
  cases step with
  | call executed => exact execute_rentExempt executed exempt
  | other change =>
      intro c e hc
      rw [change.programData] at hc
      exact (exempt c e hc).trans (change.lamports c (by rw [hc]; exact Option.some_ne_none e))

/-- In every reachable state every account of the program has its rent, whoever opened it
and whatever has been paid out of it since. -/
theorem accounts_rent_exempt {s₀ : State Pubkey Hash}
    {trace : List (LedgerTransition Pubkey Hash)} (genesis : Genesis s₀)
    (run : LedgerRun rt s₀ trace s) : RentExempt rt s := by
  refine run.invariant (RentExempt rt) (fun t _ step => rentExempt_step step) ?_
  intro a d h
  rw [genesis a] at h
  cases h

theorem accounts_rent_exempt_sample :
    RentExempt (symbolicRuntime true) (stateAfter (symbolicRuntime true) sampleLedger
      samplePayout) :=
  accounts_rent_exempt (genesis_ledgerOf _) (run_callTrace samplePayout_isOk)

end BridgeProgram.RentExemption
