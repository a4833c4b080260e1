import BridgeProgram.BalanceEffects
import BridgeProgram.BridgeProgramEntry

namespace BridgeProgram.AccountKeeping

open BridgeProgram.AccountEffects
open BridgeProgram.AnchorAccounts
open BridgeProgram.BalanceEffects
open BridgeProgram.BalanceShifts
open BridgeProgram.BridgeProgramEntry
open BridgeProgram.CheckedResult
open BridgeProgram.HandlerInstructions
open BridgeProgram.ProgramStates
open BridgeProgram.SignatureInstructions
open BridgeProgram.SolanaRuntime
open BridgeProgram.TokenInstructions
open BridgeProgram.TokenPrograms

variable {Pubkey Hash : Type}

/-- Accounts keep their data, unless it is the program's own, and only wallets lose
lamports. New accounts hold no tokens, and new mints are among `mints`. -/
structure Keeps (mints : Set Pubkey) (s s' : State Pubkey Hash) : Prop where
  data : ∀ a, s.data a ≠ .system → s.programData a = none → s'.data a = s.data a
  program : ∀ a, s.programData a ≠ none → s'.programData a ≠ none
  empty : ∀ a, s.data a = .system → amounts s' a = 0
  created : ∀ a tokenProgram m, s.data a = .system → s'.data a = .mint tokenProgram m →
    a ∈ mints
  lamports : ∀ a, s.data a ≠ .system → s.lamports a ≤ s'.lamports a

variable {mints : Set Pubkey} {s s' t : State Pubkey Hash}

theorem data_ne_system_of_program {a : Pubkey} (h : s.programData a ≠ none) :
    s.data a ≠ .system :=
  fun hsystem => h (programData_eq_none_of_system hsystem)

theorem Keeps.refl (s : State Pubkey Hash) : Keeps mints s s where
  data _ _ _ := rfl
  program _ h := h
  empty a h := by rw [amounts, h]; rfl
  created a tokenProgram m h h' := by
    rw [h] at h'
    cases h'
  lamports _ _ := Nat.le_refl _

theorem Keeps.exists_still (keeps : Keeps mints s s') {a : Pubkey} (h : s.data a ≠ .system) :
    s'.data a ≠ .system := by
  by_cases hprogram : s.programData a = none
  · rw [keeps.data a h hprogram]
    exact h
  · exact data_ne_system_of_program (keeps.program a hprogram)

theorem Keeps.trans (h₁ : Keeps mints s t) (h₂ : Keeps mints t s') : Keeps mints s s' where
  data a h hprogram := by
    have hdata := h₁.data a h hprogram
    have hprogram' : t.programData a = none := by rw [State.programData, hdata]; exact hprogram
    rw [h₂.data a (by rw [hdata]; exact h) hprogram', hdata]
  program a h := h₂.program a (h₁.program a h)
  empty a h := by
    by_cases hsystem : t.data a = .system
    · exact h₂.empty a hsystem
    by_cases hprogram : t.programData a = none
    · rw [amounts, h₂.data a hsystem hprogram]
      exact h₁.empty a h
    · obtain ⟨d, hd⟩ := Option.ne_none_iff_exists'.mp (h₂.program a hprogram)
      rw [amounts, programData_eq_some.mp hd]
      rfl
  created a tokenProgram m h h' := by
    by_cases hsystem : t.data a = .system
    · exact h₂.created a tokenProgram m hsystem h'
    by_cases hprogram : t.programData a = none
    · exact h₁.created a tokenProgram m h ((h₂.data a hsystem hprogram).symm.trans h')
    · exact absurd (programData_eq_none_of_mint h') (h₂.program a hprogram)
  lamports a h := (h₁.lamports a h).trans (h₂.lamports a (h₁.exists_still h))

/-- Existing accounts keep their lamports as well. -/
structure KeepsExactly (mints : Set Pubkey) (s s' : State Pubkey Hash) : Prop
    extends Keeps mints s s' where
  sameLamports : ∀ a, s.data a ≠ .system → s'.lamports a = s.lamports a

theorem KeepsExactly.refl (s : State Pubkey Hash) : KeepsExactly mints s s where
  toKeeps := .refl s
  sameLamports _ _ := rfl

theorem KeepsExactly.trans (h₁ : KeepsExactly mints s t) (h₂ : KeepsExactly mints t s') :
    KeepsExactly mints s s' where
  toKeeps := h₁.toKeeps.trans h₂.toKeeps
  sameLamports a h :=
    (h₂.sameLamports a (h₁.exists_still h)).trans (h₁.sameLamports a h)

theorem KeepsExactly.mono {mints' : Set Pubkey} (keeps : KeepsExactly mints s s')
    (subset : mints ⊆ mints') : KeepsExactly mints' s s' :=
  { keeps with
    created := fun a tokenProgram m h h' => subset (keeps.created a tokenProgram m h h') }

variable [DecidableEq Pubkey] {rt : Runtime Pubkey Hash} {a payer : Pubkey}

theorem keeps_of_moved {b : Pubkey} {n : ℕ} (hsystem : s.data payer = .system)
    (htarget : s.data b = .system) (hdata : s'.data = s.data)
    (hlamports : Shifted s.lamports s'.lamports (moved payer b n)) : KeepsExactly mints s s' := by
  have hsame : ∀ a, s.data a ≠ .system → s'.lamports a = s.lamports a := by
    intro a h
    have htarget_ne : a ≠ b := fun heq => h (heq ▸ htarget)
    have hpayer_ne : a ≠ payer := fun heq => h (heq ▸ hsystem)
    have hshift := hlamports a
    rw [moved_apply_of_ne n htarget_ne hpayer_ne] at hshift
    omega
  exact
    { data := fun a _ _ => by rw [hdata]
      program := fun a h => by rw [State.programData, hdata]; exact h
      empty := fun a h => by rw [amounts, hdata, h]; rfl
      created := fun a tokenProgram m h h' => by
        rw [hdata, h] at h'
        cases h'
      lamports := fun a h => (hsame a h).ge
      sameLamports := hsame }

theorem keeps_setData_of_system {d : AccountData Pubkey Hash} (hsystem : s.data a = .system)
    (hempty : amountOf d = 0) (hmint : ∀ tokenProgram m, d = .mint tokenProgram m → a ∈ mints) :
    KeepsExactly mints s (s.setData a d) where
  data b h _ := by
    have hne : b ≠ a := by
      rintro rfl
      exact h hsystem
    rw [setData_data, Function.update_of_ne hne]
  program b h := by
    have hne : b ≠ a := by
      rintro rfl
      exact h (programData_eq_none_of_system hsystem)
    rw [programData_setData, Function.update_of_ne hne]
    exact h
  empty b h := by
    rw [amounts_setData]
    by_cases hb : b = a
    · rw [hb, Function.update_self, hempty]
    · rw [Function.update_of_ne hb, amounts, h]
      rfl
  created b tokenProgram m h h' := by
    by_cases hb : b = a
    · subst hb
      rw [setData_data, Function.update_self] at h'
      exact hmint tokenProgram m h'
    · rw [setData_data, Function.update_of_ne hb, h] at h'
      cases h'
  lamports _ _ := Nat.le_refl _
  sameLamports _ _ := rfl

theorem keeps_setData_of_program {d : ProgramData Pubkey Hash} (h : s.programData a ≠ none) :
    KeepsExactly mints s (s.setData a (.program d)) where
  data b _ hb := by
    have hne : b ≠ a := by
      rintro rfl
      exact h hb
    rw [setData_data, Function.update_of_ne hne]
  program b hb := by
    rw [programData_setData]
    by_cases heq : b = a
    · rw [heq, Function.update_self]
      exact Option.some_ne_none d
    · rw [Function.update_of_ne heq]
      exact hb
  empty b hb := by
    have hne : b ≠ a := by
      rintro rfl
      exact h (programData_eq_none_of_system hb)
    rw [amounts_setData, Function.update_of_ne hne, amounts, hb]
    rfl
  created b tokenProgram m hb hb' := by
    have hne : b ≠ a := by
      rintro rfl
      exact h (programData_eq_none_of_system hb)
    rw [setData_data, Function.update_of_ne hne, hb] at hb'
    cases hb'
  lamports _ _ := Nat.le_refl _
  sameLamports _ _ := rfl

theorem exitAccount_keeps {w : Writability} {d : ProgramData Pubkey Hash}
    (hprogram : s.programData a ≠ none) (h : exitAccount w s a d = .ok s') :
    KeepsExactly mints s s' := by
  cases w with
  | readonly =>
      obtain rfl := pure_eq_ok.mp h
      exact .refl s
  | mutable =>
      obtain ⟨-, rfl⟩ := exitAccount_eq_ok.mp h
      exact keeps_setData_of_program hprogram

theorem createAccount_keeps {len : ℕ} {d : AccountData Pubkey Hash} (hempty : amountOf d = 0)
    (hmint : ∀ tokenProgram m, d = .mint tokenProgram m → a ∈ mints)
    (h : createAccount rt s payer a len d = .ok s') : KeepsExactly mints s s' := by
  simp only [createAccount, bind_eq_ok, require_eq_ok, pure_eq_ok,
    AccountData.isSystem_iff] at h
  obtain ⟨-, hsystem, -, -, t, htransfer, rfl⟩ := h
  obtain ⟨hpayer, -, hdata, hmoves, -⟩ := systemTransfer_moves htransfer
  refine (keeps_of_moved hpayer hsystem hdata hmoves.lamports).trans
    (keeps_setData_of_system ?_ hempty hmint)
  rw [hdata, hsystem]

theorem initAccount_keeps {seeds : Seeds Pubkey Hash} {fresh : ProgramData Pubkey Hash}
    {bump : UInt8} (h : initAccount rt s payer seeds a fresh = .ok (s', bump)) :
    KeepsExactly mints s s' := by
  simp only [initAccount, bind_eq_ok, require_eq_ok, pure_eq_ok, Prod.mk.injEq] at h
  obtain ⟨-, -, t, hcreate, rfl, -⟩ := h
  exact createAccount_keeps rfl (by simp) hcreate

theorem initIfNeeded_keeps {α : Type} {seeds : Seeds Pubkey Hash}
    {read : ProgramData Pubkey Hash → Option α} {fresh : ProgramData Pubkey Hash} {x : α}
    {bump : UInt8} (h : initIfNeeded rt s payer seeds a read fresh = .ok (s', x, bump)) :
    KeepsExactly mints s s' ∧ s'.programData a ≠ none := by
  simp only [initIfNeeded, bind_eq_ok, require_eq_ok, pure_eq_ok, Prod.mk.injEq,
    loadAccount_eq_ok] at h
  obtain ⟨-, -, t, hcreate, x', ⟨d, hd, -⟩, -, -, rfl, -, -⟩ := h
  refine ⟨?_, by rw [programData_eq_some.mpr hd]; exact Option.some_ne_none d⟩
  split at hcreate
  · exact createAccount_keeps rfl (by simp) hcreate
  · obtain rfl := pure_eq_ok.mp hcreate
    exact .refl s

theorem createAssociatedToken_keeps {authority mint tokenProgram : Pubkey}
    (h : createAssociatedToken rt s payer a authority mint tokenProgram = .ok s') :
    KeepsExactly mints s s' := by
  simp only [createAssociatedToken, bind_eq_ok, require_eq_ok] at h
  obtain ⟨-, -, -, -, h⟩ := h
  exact createAccount_keeps rfl (by simp) h

theorem initIfNeededAndCheckBridgeHandlerVault_keeps
    {vault bridgeHandler mint tokenProgram : Pubkey}
    (h : initIfNeededAndCheckBridgeHandlerVault rt s payer vault bridgeHandler mint
      tokenProgram = .ok s') : KeepsExactly mints s s' := by
  simp only [initIfNeededAndCheckBridgeHandlerVault, bind_eq_ok, require_eq_ok, pure_eq_ok,
    Prod.exists] at h
  obtain ⟨t, hcreate, -, -, -, -, -, -, -, -, -, -, -, -, -, rfl⟩ := h
  split at hcreate
  · exact createAssociatedToken_keeps hcreate
  · obtain rfl := pure_eq_ok.mp hcreate
    exact .refl s

omit [DecidableEq Pubkey] in
theorem programData_ne_none {d : ProgramData Pubkey Hash} (h : s.data a = .program d) :
    s.programData a ≠ none := by
  rw [programData_eq_some.mpr h]
  exact Option.some_ne_none d

theorem initializeHandler_keeps {signers : List Pubkey} {x : Initialize Pubkey}
    {initNonce : UInt64} {n : UInt8}
    (h : initializeHandler rt signers s x initNonce n = .ok s') : KeepsExactly mints s s' := by
  simp only [initializeHandler, bind_eq_ok, Prod.exists] at h
  obtain ⟨-, -, s₁, handlerBump, hhandler, s₂, guardianBump, hguardians, chain, -, s₃, hexit₁,
    hexit₂⟩ := h
  have hkeeps₁ : KeepsExactly mints s s₁ := initAccount_keeps hhandler
  have hkeeps₂ : KeepsExactly mints s₁ s₂ := initAccount_keeps hguardians
  obtain ⟨-, -, hdata₁, -⟩ := initAccount_effect hhandler
  obtain ⟨-, -, hdata₂, -⟩ := initAccount_effect hguardians
  have hstored₁ : s₂.programData x.bridgeHandler ≠ none :=
    hkeeps₂.program _ (by rw [hdata₁, Function.update_self]; exact Option.some_ne_none _)
  have hstored₂ : s₂.programData x.guardianInfo ≠ none := by
    rw [hdata₂, Function.update_self]
    exact Option.some_ne_none _
  have hkeeps₃ : KeepsExactly mints s₂ s₃ := exitAccount_keeps hstored₁ hexit₁
  exact ((hkeeps₁.trans hkeeps₂).trans hkeeps₃).trans
    (exitAccount_keeps (hkeeps₃.program _ hstored₂) hexit₂)

theorem updateByManager_keeps {signers : List Pubkey} {manager bridgeHandler : Pubkey}
    {update : BridgeHandler Pubkey → Except ProgramError (BridgeHandler Pubkey)}
    (h : updateByManager rt signers s manager bridgeHandler update = .ok s') :
    KeepsExactly mints s s' := by
  simp only [updateByManager, bind_eq_ok, loadBridgeHandler_eq_ok] at h
  obtain ⟨-, -, x, ⟨hdata, -⟩, -, -, y, -, hexit⟩ := h
  exact exitAccount_keeps (programData_ne_none hdata) hexit

theorem loadManagedGuardians_data {signers : List Pubkey}
    {manager bridgeHandler guardianInfo : Pubkey} {x : BridgeHandler Pubkey}
    {g : GuardianInfo Pubkey}
    (h : loadManagedGuardians rt signers s manager bridgeHandler guardianInfo = .ok (x, g)) :
    s.data bridgeHandler = .program (.bridgeHandler x) ∧
      s.data guardianInfo = .program (.guardianInfo g) := by
  simp only [loadManagedGuardians, bind_eq_ok, loadBridgeHandler_eq_ok, loadGuardianInfo_eq_ok,
    pure_eq_ok, Prod.mk.injEq] at h
  obtain ⟨-, -, _, ⟨hhandler, -⟩, -, -, _, ⟨hguardians, -⟩, rfl, rfl⟩ := h
  exact ⟨hhandler, hguardians⟩

theorem addGuardian_keeps {signers : List Pubkey} {x : AddGuardian Pubkey}
    (h : addGuardian rt signers s x = .ok s') : KeepsExactly mints s s' := by
  simp only [addGuardian, bind_eq_ok, Prod.exists] at h
  obtain ⟨y, g, hload, -, -, hexit⟩ := h
  exact exitAccount_keeps (programData_ne_none (loadManagedGuardians_data hload).2) hexit

theorem removeGuardian_keeps {signers : List Pubkey} {x : RemoveGuardian Pubkey}
    (h : removeGuardian rt signers s x = .ok s') : KeepsExactly mints s s' := by
  simp only [removeGuardian, bind_eq_ok, Prod.exists] at h
  obtain ⟨y, g, hload, -, -, -, -, hexit⟩ := h
  exact exitAccount_keeps (programData_ne_none (loadManagedGuardians_data hload).2) hexit

theorem updateGuardianThreshold_keeps {signers : List Pubkey}
    {x : UpdateGuardianThreshold Pubkey} {n : UInt8}
    (h : updateGuardianThreshold rt signers s x n = .ok s') : KeepsExactly mints s s' := by
  simp only [updateGuardianThreshold, bind_eq_ok, Prod.exists] at h
  obtain ⟨y, g, hload, -, -, -, -, -, -, hexit⟩ := h
  exact exitAccount_keeps (programData_ne_none (loadManagedGuardians_data hload).1) hexit

theorem verifySignature_keeps {signers : List Pubkey} {ixSysvar : InstructionsSysvar Pubkey}
    {x : VerifySignature Pubkey} {msgHash : Hash} {signerIndexes : List UInt8}
    (h : verifySignature rt signers ixSysvar s x msgHash signerIndexes = .ok s') :
    KeepsExactly mints s s' := by
  simp only [verifySignature, bind_eq_ok, Prod.exists] at h
  obtain ⟨-, -, y, -, g, -, s₁, v, bump, hinit, keys, -, -, -, hexit⟩ := h
  obtain ⟨hkeeps, hstored⟩ := initIfNeeded_keeps hinit
  exact hkeeps.trans (exitAccount_keeps hstored hexit)

theorem setTokenPause_keeps {signers : List Pubkey} {x : PauseToken Pubkey} {pause : Bool}
    (h : setTokenPause rt signers s x pause = .ok s') : KeepsExactly mints s s' := by
  simp only [setTokenPause, bind_eq_ok] at h
  obtain ⟨-, -, y, -, -, -, -, -, m, -, t, -, hexit⟩ := h
  obtain rfl := pure_eq_ok.mp hexit
  exact .refl s

theorem initMintIfNeeded_keeps {x : AddToken Pubkey} {decimal : UInt8}
    (h : initMintIfNeeded rt s x decimal = .ok s') :
    KeepsExactly {x.mint} s s' ∧ ∃ m, s'.data x.mint = .mint x.tokenProgram m ∧
      m.mintAuthority = some x.bridgeHandler := by
  simp only [initMintIfNeeded, bind_eq_ok, require_eq_ok, pure_eq_ok, loadMint_eq_ok] at h
  obtain ⟨-, -, t, hcreate, m, ⟨hmint, -⟩, -, hauthority, -, -, rfl⟩ := h
  refine ⟨?_, m, hmint, hauthority⟩
  split at hcreate
  · exact createAccount_keeps rfl (fun _ _ _ => Set.mem_singleton _) hcreate
  · obtain rfl := pure_eq_ok.mp hcreate
    exact .refl s

theorem addToken_steps {signers : List Pubkey} {x : AddToken Pubkey} {decimal : UInt8}
    {name symbol uri : Option String}
    (h : addToken rt signers s x decimal name symbol uri = .ok s') :
    ∃ s₁ s₂ s₃, x.tokenProgram ∈ rt.tokenPrograms ∧ initMintIfNeeded rt s x decimal = .ok s₁ ∧
      KeepsExactly {x.mint} s₁ s₂ ∧
      initIfNeededAndCheckBridgeHandlerVault rt s₂ x.operator x.bridgeHandlerVault
        x.bridgeHandler x.mint x.tokenProgram = .ok s₃ ∧
      KeepsExactly {x.mint} s₃ s' := by
  simp only [addToken, bind_eq_ok, Prod.exists, checkTokenProgram, require_eq_ok] at h
  obtain ⟨-, -, -, hprogram, y, -, -, -, s₁, hmint, -, -, s₂, t, bump, htoken, s₃, hvault,
    h⟩ := h
  obtain ⟨hkeeps₂, hstored⟩ := initIfNeeded_keeps htoken
  have hkeeps₃ : KeepsExactly {x.mint} s₂ s₃ := initIfNeededAndCheckBridgeHandlerVault_keeps hvault
  have hstored₃ := hkeeps₃.program _ hstored
  refine ⟨s₁, s₂, s₃, hprogram, hmint, hkeeps₂, hvault, ?_⟩
  split at h
  · exact exitAccount_keeps hstored₃ h
  · simp only [bind_eq_ok] at h
    obtain ⟨s₄, hmetadata, hexit⟩ := h
    have hkeeps₄ : KeepsExactly {x.mint} s₃ s₄ := by
      split at hmetadata
      · exact createAccount_keeps rfl (by simp) hmetadata
      · obtain rfl := pure_eq_ok.mp hmetadata
        exact .refl s₃
    exact hkeeps₄.trans (exitAccount_keeps (hkeeps₄.program _ hstored₃) hexit)

theorem addToken_keeps {signers : List Pubkey} {x : AddToken Pubkey} {decimal : UInt8}
    {name symbol uri : Option String}
    (h : addToken rt signers s x decimal name symbol uri = .ok s') :
    KeepsExactly {x.mint} s s' ∧ ∃ m, s'.data x.mint = .mint x.tokenProgram m ∧
      m.mintAuthority = some x.bridgeHandler := by
  obtain ⟨s₁, s₂, s₃, -, hmint, hkeeps₂, hvault, hlast⟩ := addToken_steps h
  obtain ⟨hkeeps₁, m, hdata, hauthority⟩ := initMintIfNeeded_keeps hmint
  have hkeeps₃ : KeepsExactly {x.mint} s₂ s₃ := initIfNeededAndCheckBridgeHandlerVault_keeps hvault
  have hrest := (hkeeps₂.trans hkeeps₃).trans hlast
  refine ⟨hkeeps₁.trans hrest, m, ?_, hauthority⟩
  rw [hrest.data _ (by rw [hdata]; simp) (programData_eq_none_of_mint hdata), hdata]

theorem addToken_of_executed [DecidableEq Hash] {call : Call Pubkey Hash}
    {returned : Option UInt64} (executed : execute rt s call = .ok (s', returned))
    {x : AddToken Pubkey} {decimal : UInt8} {name symbol uri : Option String}
    (ix : call.ix = .addToken x decimal name symbol uri) :
    addToken rt call.signers s x decimal name symbol uri = .ok s' := by
  obtain ⟨signers, ixSysvar, ix'⟩ := call
  subst ix
  simp only [execute, bind_eq_ok, pure_eq_ok, Prod.mk.injEq] at executed
  obtain ⟨u, hcall, rfl, -⟩ := executed
  exact hcall

end BridgeProgram.AccountKeeping
