import BridgeProgram.AnchorAccounts
import BridgeProgram.TokenInstructions

namespace BridgeProgram.AccountEffects

open BridgeProgram.AnchorAccounts
open BridgeProgram.CheckedResult
open BridgeProgram.ProgramStates
open BridgeProgram.SolanaRuntime
open BridgeProgram.TokenInstructions
open BridgeProgram.TokenPrograms

variable {Pubkey Hash α : Type} [DecidableEq Pubkey]
  {rt : Runtime Pubkey Hash} {s s' : State Pubkey Hash} {a b payer : Pubkey}

omit [DecidableEq Pubkey] in
theorem ne_of_contents {D : Type} {f : Pubkey → D} {d e : D} (ha : f a = d) (hb : f b = e)
    (hne : d ≠ e) : a ≠ b :=
  ne_of_apply_ne f (by rwa [ha, hb])

/-- The program's data and the clock of two states agree. -/
def SameProgram (s s' : State Pubkey Hash) : Prop :=
  s'.programData = s.programData ∧ s'.clock = s.clock

omit [DecidableEq Pubkey] in
theorem SameProgram.refl (s : State Pubkey Hash) : SameProgram s s :=
  ⟨rfl, rfl⟩

omit [DecidableEq Pubkey] in
theorem SameProgram.trans {s t u : State Pubkey Hash} (h₁ : SameProgram s t)
    (h₂ : SameProgram t u) : SameProgram s u :=
  ⟨h₂.1.trans h₁.1, h₂.2.trans h₁.2⟩

@[simp] theorem programData_setLamports (s : State Pubkey Hash) (a : Pubkey) (n : Nat) :
    (s.setLamports a n).programData = s.programData := rfl

@[simp] theorem programData_setData (s : State Pubkey Hash) (a : Pubkey)
    (d : AccountData Pubkey Hash) :
    (s.setData a d).programData = Function.update s.programData a d.program? := by
  funext b
  by_cases hb : b = a
  · subst hb
    simp [State.programData]
  · simp [State.programData, hb]

omit [DecidableEq Pubkey] in
theorem programData_eq_none_of_system (h : s.data a = .system) :
    s.programData a = none := by
  simp [State.programData, h, AccountData.program?]

theorem sameProgram_setData {d : AccountData Pubkey Hash}
    (hold : s.programData a = none) (hnew : d.program? = none) :
    SameProgram s (s.setData a d) := by
  refine ⟨?_, rfl⟩
  rw [programData_setData, hnew, ← hold, Function.update_eq_self]

theorem systemTransfer_data {n : Nat} (h : systemTransfer s a b n = .ok s') :
    s'.data = s.data ∧ s'.clock = s.clock := by
  simp only [systemTransfer, bind_eq_ok, require_eq_ok, checkedSub_eq_ok, checkedAdd_eq_ok,
    pure_eq_ok] at h
  obtain ⟨_, _, left, _, total, _, rfl⟩ := h
  exact ⟨rfl, rfl⟩

theorem systemTransfer_sameProgram {n : Nat} (h : systemTransfer s a b n = .ok s') :
    SameProgram s s' := by
  obtain ⟨hdata, hclock⟩ := systemTransfer_data h
  exact ⟨by funext x; simp only [State.programData, hdata], hclock⟩

theorem createAccount_data {len : Nat} {d : AccountData Pubkey Hash}
    (h : createAccount rt s payer a len d = .ok s') :
    s.data a = .system ∧ s'.data = Function.update s.data a d ∧ s'.clock = s.clock := by
  simp only [createAccount, bind_eq_ok, require_eq_ok, pure_eq_ok,
    AccountData.isSystem_iff] at h
  obtain ⟨_, hsystem, _, _, t, htransfer, rfl⟩ := h
  obtain ⟨hdata, hclock⟩ := systemTransfer_data htransfer
  exact ⟨hsystem, by rw [setData_data, hdata], hclock⟩

theorem createAccount_programData {len : Nat} {d : AccountData Pubkey Hash}
    (h : createAccount rt s payer a len d = .ok s') :
    s.programData a = none ∧
      s'.programData = Function.update s.programData a d.program? ∧ s'.clock = s.clock := by
  obtain ⟨hsystem, hdata, hclock⟩ := createAccount_data h
  refine ⟨programData_eq_none_of_system hsystem, ?_, hclock⟩
  rw [← programData_setData]
  funext x
  simp only [State.programData, hdata, setData_data]

theorem createAccount_sameProgram {len : Nat} {d : AccountData Pubkey Hash}
    (h : createAccount rt s payer a len d = .ok s') (hd : d.program? = none) :
    SameProgram s s' := by
  obtain ⟨hnone, hdata, hclock⟩ := createAccount_programData h
  exact ⟨by rw [hdata, hd, ← hnone, Function.update_eq_self], hclock⟩

theorem checkSigner_eq_ok {signers : List Pubkey} {u : Unit} :
    checkSigner signers a = .ok u ↔ a ∈ signers := by
  simp [checkSigner]

theorem initAccount_effect {seeds : Seeds Pubkey Hash} {fresh : ProgramData Pubkey Hash}
    {bump : UInt8} (h : initAccount rt s payer seeds a fresh = .ok (s', bump)) :
    rt.findProgramAddress seeds = (a, bump) ∧ s.programData a = none ∧
      s'.programData = Function.update s.programData a (some fresh) ∧
      s'.clock = s.clock := by
  simp only [initAccount, bind_eq_ok, require_eq_ok, pure_eq_ok, Prod.mk.injEq] at h
  obtain ⟨_, hseeds, t, hcreate, rfl, hbump⟩ := h
  obtain ⟨hnone, hdata, hclock⟩ := createAccount_programData hcreate
  exact ⟨Prod.ext hseeds hbump, hnone, hdata, hclock⟩

theorem initIfNeeded_effect {seeds : Seeds Pubkey Hash}
    {read : ProgramData Pubkey Hash → Option α} {fresh : ProgramData Pubkey Hash}
    {x : α} {bump : UInt8}
    (h : initIfNeeded rt s payer seeds a read fresh = .ok (s', x, bump)) :
    rt.findProgramAddress seeds = (a, bump) ∧ s'.clock = s.clock ∧
      ((s.programData a = none ∧ read fresh = some x ∧
          s'.programData = Function.update s.programData a (some fresh)) ∨
        ((∃ d, s.programData a = some d ∧ read d = some x) ∧
          s'.programData = s.programData)) := by
  simp only [initIfNeeded, bind_eq_ok, require_eq_ok, pure_eq_ok, Prod.mk.injEq,
    loadAccount_eq_ok] at h
  obtain ⟨_, hseeds, t, hcreate, x', ⟨d, hd, hread⟩, _, _, rfl, rfl, hbump⟩ := h
  have hd' : t.programData a = some d := programData_eq_some.mpr hd
  refine ⟨Prod.ext hseeds hbump, ?_⟩
  split at hcreate
  · obtain ⟨hnone, hdata, hclock⟩ := createAccount_programData hcreate
    rw [hdata, Function.update_self] at hd'
    obtain rfl := Option.some.inj hd'
    exact ⟨hclock, .inl ⟨hnone, hread, hdata⟩⟩
  · obtain rfl := pure_eq_ok.mp hcreate
    exact ⟨rfl, .inr ⟨⟨d, hd', hread⟩, rfl⟩⟩

theorem exitAccount_eq_ok {d : ProgramData Pubkey Hash} :
    exitAccount .mutable s a d = .ok s' ↔
      d.serializedLen ≤ d.space ∧ s' = s.setData a (.program d) := by
  simp only [exitAccount, bind_eq_ok, require_eq_ok, pure_eq_ok]
  constructor
  · rintro ⟨_, hfits, rfl⟩
    exact ⟨hfits, rfl⟩
  · rintro ⟨hfits, rfl⟩
    exact ⟨(), hfits, rfl⟩

theorem closeAccount_eq_ok :
    closeAccount s a b = .ok s' ↔ s.lamports b + s.lamports a < 2 ^ 64 ∧
      s' = ((s.setLamports b (s.lamports b + s.lamports a)).setLamports a 0).setData a
        .system := by
  simp only [closeAccount, bind_eq_ok, checkedAdd_eq_ok, pure_eq_ok]
  constructor
  · rintro ⟨total, ⟨hroom, rfl⟩, rfl⟩
    exact ⟨hroom, rfl⟩
  · rintro ⟨hroom, rfl⟩
    exact ⟨_, ⟨hroom, rfl⟩, rfl⟩

omit [DecidableEq Pubkey] in
theorem programData_eq_none_of_mint {tokenProgram : Pubkey} {m : Mint Pubkey}
    (h : s.data a = .mint tokenProgram m) : s.programData a = none := by
  simp [State.programData, h, AccountData.program?]

omit [DecidableEq Pubkey] in
theorem programData_eq_none_of_tokenAccount {tokenProgram : Pubkey}
    {t : TokenAccount Pubkey} (h : s.data a = .tokenAccount tokenProgram t) :
    s.programData a = none := by
  simp [State.programData, h, AccountData.program?]

theorem mintOf_eq_ok {tokenProgram : Pubkey} {m : Mint Pubkey} :
    mintOf s tokenProgram a = .ok m ↔ s.data a = .mint tokenProgram m := by
  simp [mintOf]

theorem tokenAccountOf_eq_ok {tokenProgram : Pubkey} {t : TokenAccount Pubkey} :
    tokenAccountOf s tokenProgram a = .ok t ↔ s.data a = .tokenAccount tokenProgram t := by
  simp [tokenAccountOf]

theorem loadMint_eq_ok {tokenProgram : Pubkey} {m : Mint Pubkey} :
    loadMint rt s tokenProgram a = .ok m ↔
      s.data a = .mint tokenProgram m ∧ tokenProgram ∈ rt.tokenPrograms := by
  simp only [loadMint, bind_eq_ok, require_eq_ok, pure_eq_ok, Prod.exists, readMint_eq_ok]
  constructor
  · rintro ⟨owner, m', hdata, _, hmem, _, rfl, rfl⟩
    exact ⟨hdata, hmem⟩
  · rintro ⟨hdata, hmem⟩
    exact ⟨tokenProgram, m, hdata, (), hmem, (), rfl, rfl⟩

theorem transferChecked_sameProgram {tokenProgram source target mint authority : Pubkey}
    {amount : Nat} {decimals : UInt8}
    (h : transferChecked rt s tokenProgram source target mint authority amount decimals =
      .ok s') : SameProgram s s' := by
  simp only [transferChecked, bind_eq_ok, tokenAccountOf_eq_ok, mintOf_eq_ok, require_eq_ok,
    checkedSub_eq_ok] at h
  obtain ⟨src, hsrc, dst, hdst, m, -, -, -, -, -, -, -, left, -, h⟩ := h
  split at h
  · obtain rfl := pure_eq_ok.mp h
    exact .refl s
  · simp only [bind_eq_ok, checkedAdd_eq_ok, pure_eq_ok] at h
    obtain ⟨total, -, rfl⟩ := h
    have hsource := sameProgram_setData (d := .tokenAccount tokenProgram { src with
      amount := left }) (programData_eq_none_of_tokenAccount hsrc) rfl
    refine hsource.trans (sameProgram_setData ?_ rfl)
    rw [hsource.1]
    exact programData_eq_none_of_tokenAccount hdst

theorem mintTo_sameProgram {tokenProgram mint target authority : Pubkey} {amount : Nat}
    (h : mintTo s tokenProgram mint target authority amount = .ok s') :
    SameProgram s s' := by
  simp only [mintTo, bind_eq_ok, tokenAccountOf_eq_ok, mintOf_eq_ok, require_eq_ok,
    checkedAdd_eq_ok, pure_eq_ok] at h
  obtain ⟨m, hm, dst, hdst, -, -, -, -, supply, -, total, -, rfl⟩ := h
  have hmint := sameProgram_setData (d := .mint tokenProgram { m with supply := supply })
    (programData_eq_none_of_mint hm) rfl
  refine hmint.trans (sameProgram_setData ?_ rfl)
  rw [hmint.1]
  exact programData_eq_none_of_tokenAccount hdst

theorem burn_sameProgram {tokenProgram mint source authority : Pubkey} {amount : Nat}
    (h : burn s tokenProgram mint source authority amount = .ok s') :
    SameProgram s s' := by
  simp only [burn, bind_eq_ok, tokenAccountOf_eq_ok, mintOf_eq_ok, require_eq_ok,
    checkedSub_eq_ok, pure_eq_ok] at h
  obtain ⟨m, hm, src, hsrc, -, -, -, -, left, -, supply, -, rfl⟩ := h
  have hmint := sameProgram_setData (d := .mint tokenProgram { m with supply := supply })
    (programData_eq_none_of_mint hm) rfl
  refine hmint.trans (sameProgram_setData ?_ rfl)
  rw [hmint.1]
  exact programData_eq_none_of_tokenAccount hsrc

theorem createAssociatedToken_sameProgram {authority mint tokenProgram : Pubkey}
    (h : createAssociatedToken rt s payer a authority mint tokenProgram = .ok s') :
    SameProgram s s' := by
  simp only [createAssociatedToken, bind_eq_ok, require_eq_ok] at h
  obtain ⟨-, -, -, -, h⟩ := h
  exact createAccount_sameProgram h rfl

theorem initIfNeededAndCheckBridgeHandlerVault_sameProgram
    {vault bridgeHandler mint tokenProgram : Pubkey}
    (h : initIfNeededAndCheckBridgeHandlerVault rt s payer vault bridgeHandler mint
      tokenProgram = .ok s') : SameProgram s s' := by
  simp only [initIfNeededAndCheckBridgeHandlerVault, bind_eq_ok, require_eq_ok,
    pure_eq_ok, Prod.exists] at h
  obtain ⟨t, hcreate, -, -, -, -, -, -, -, -, -, -, -, -, -, rfl⟩ := h
  split at hcreate
  · exact createAssociatedToken_sameProgram hcreate
  · obtain rfl := pure_eq_ok.mp hcreate
    exact .refl s

end BridgeProgram.AccountEffects
