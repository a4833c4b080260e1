import BridgeProgram.LocalComputations
import BridgeProgram.BridgeProgramEntry

namespace BridgeProgram.AccountFootprints

open BridgeProgram.AnchorAccounts
open BridgeProgram.CheckedResult
open BridgeProgram.LocalComputations
open BridgeProgram.ProgramStates
open BridgeProgram.SolanaRuntime
open BridgeProgram.SourceInstructions
open BridgeProgram.TargetInstructions
open BridgeProgram.TokenInstructions
open BridgeProgram.TokenPrograms

variable {Pubkey Hash : Type}

/-- A ledger has the lamports and the contents of an account in its cell. -/
def ledgerView (Pubkey Hash : Type) :
    View (State Pubkey Hash) Pubkey (ℕ × AccountData Pubkey Hash) Clock where
  cell s a := (s.lamports a, s.data a)
  env := State.clock
  ext := by
    rintro ⟨lamports, data, clock⟩ ⟨lamports', data', clock'⟩ hclock hcell
    obtain rfl : clock = clock' := hclock
    obtain rfl : lamports = lamports' := funext fun a => congrArg Prod.fst (congrFun hcell a)
    obtain rfl : data = data' := funext fun a => congrArg Prod.snd (congrFun hcell a)
    rfl

@[simp] theorem ledgerView_cell (s : State Pubkey Hash) (a : Pubkey) :
    (ledgerView Pubkey Hash).cell s a = (s.lamports a, s.data a) := rfl

/-- Two ledgers in which the accounts `A` are alike, after changes to accounts of `W`. -/
abbrev Twins (A W : Set Pubkey) (s₀ t₀ s t : State Pubkey Hash) : Prop :=
  (ledgerView Pubkey Hash).Twins A W s₀ t₀ s t

variable {A W : Set Pubkey} {s₀ t₀ s t : State Pubkey Hash} {a : Pubkey}

theorem clock_eq (twins : Twins A W s₀ t₀ s t) : t.clock = s.clock :=
  twins.agree.env.symm

theorem data_eq (twins : Twins A W s₀ t₀ s t) (ha : a ∈ A) : t.data a = s.data a :=
  (congrArg Prod.snd (twins.agree.cell a ha)).symm

theorem lamports_eq (twins : Twins A W s₀ t₀ s t) (ha : a ∈ A) :
    t.lamports a = s.lamports a :=
  (congrArg Prod.fst (twins.agree.cell a ha)).symm

theorem loadAccount_eq {α : Type} (twins : Twins A W s₀ t₀ s t) (ha : a ∈ A)
    (read : ProgramData Pubkey Hash → Option α) : loadAccount t read a = loadAccount s read a := by
  rw [loadAccount, data_eq twins ha, loadAccount]

theorem readMint_eq (twins : Twins A W s₀ t₀ s t) (ha : a ∈ A) : readMint t a = readMint s a := by
  rw [readMint, data_eq twins ha, readMint]

theorem readTokenAccount_eq (twins : Twins A W s₀ t₀ s t) (ha : a ∈ A) :
    readTokenAccount t a = readTokenAccount s a := by
  rw [readTokenAccount, data_eq twins ha, readTokenAccount]

theorem mintOf_eq [DecidableEq Pubkey] (twins : Twins A W s₀ t₀ s t) (ha : a ∈ A)
    (tokenProgram : Pubkey) : mintOf t tokenProgram a = mintOf s tokenProgram a := by
  rw [mintOf, readMint_eq twins ha, mintOf]

theorem tokenAccountOf_eq [DecidableEq Pubkey] (twins : Twins A W s₀ t₀ s t) (ha : a ∈ A)
    (tokenProgram : Pubkey) :
    tokenAccountOf t tokenProgram a = tokenAccountOf s tokenProgram a := by
  rw [tokenAccountOf, readTokenAccount_eq twins ha, tokenAccountOf]

variable [DecidableEq Pubkey] {rt : Runtime Pubkey Hash}

theorem loadMint_eq (twins : Twins A W s₀ t₀ s t) (ha : a ∈ A) (tokenProgram : Pubkey) :
    loadMint rt t tokenProgram a = loadMint rt s tokenProgram a := by
  rw [loadMint, readMint_eq twins ha, loadMint]

theorem loadSeeded_eq {α : Type} (twins : Twins A W s₀ t₀ s t) (ha : a ∈ A)
    (read : ProgramData Pubkey Hash → Option α) (seeds : α → Seeds Pubkey Hash)
    (bump : α → UInt8) : loadSeeded rt t read seeds bump a = loadSeeded rt s read seeds bump a := by
  rw [loadSeeded, loadAccount_eq twins ha, loadSeeded]

theorem loadBridgeHandler_eq (twins : Twins A W s₀ t₀ s t) (ha : a ∈ A) :
    loadBridgeHandler rt t a = loadBridgeHandler rt s a :=
  loadSeeded_eq twins ha ..

theorem loadGuardianInfo_eq (twins : Twins A W s₀ t₀ s t) (ha : a ∈ A) (bridgeHandler : Pubkey) :
    loadGuardianInfo rt t bridgeHandler a = loadGuardianInfo rt s bridgeHandler a :=
  loadSeeded_eq twins ha ..

theorem loadTokenInfo_eq (twins : Twins A W s₀ t₀ s t) (ha : a ∈ A)
    (bridgeHandler mint : Pubkey) :
    loadTokenInfo rt t bridgeHandler mint a = loadTokenInfo rt s bridgeHandler mint a :=
  loadSeeded_eq twins ha ..

theorem loadVerifiedSignatures_eq (twins : Twins A W s₀ t₀ s t) (ha : a ∈ A)
    (bridgeHandler : Pubkey) (msgHash : Hash) :
    loadVerifiedSignatures rt t bridgeHandler msgHash a =
      loadVerifiedSignatures rt s bridgeHandler msgHash a :=
  loadSeeded_eq twins ha ..

theorem agree_setLamports (s : State Pubkey Hash) (a : Pubkey) (n : ℕ) :
    (ledgerView Pubkey Hash).Agree {a}ᶜ s (s.setLamports a n) :=
  ⟨rfl, fun b hb => by simp [Function.update_of_ne hb]⟩

theorem agree_setData (s : State Pubkey Hash) (a : Pubkey) (d : AccountData Pubkey Hash) :
    (ledgerView Pubkey Hash).Agree {a}ᶜ s (s.setData a d) :=
  ⟨rfl, fun b hb => by simp [Function.update_of_ne hb]⟩

theorem setLamports_twins (twins : Twins A W s₀ t₀ s t) (ha : a ∈ W) (n : ℕ) :
    Twins A W s₀ t₀ (s.setLamports a n) (t.setLamports a n) := by
  apply twins.write ha (agree_setLamports s a n) (agree_setLamports t a n)
  simp [data_eq twins (twins.subset ha)]

theorem setData_twins (twins : Twins A W s₀ t₀ s t) (ha : a ∈ W)
    (d : AccountData Pubkey Hash) : Twins A W s₀ t₀ (s.setData a d) (t.setData a d) := by
  apply twins.write ha (agree_setData s a d) (agree_setData t a d)
  simp [lamports_eq twins (twins.subset ha)]

/-- Two runs of a block that changes the ledger. -/
abbrev TwinRuns (A W : Set Pubkey) (s₀ t₀ : State Pubkey Hash) :
    Except ProgramError (State Pubkey Hash) → Except ProgramError (State Pubkey Hash) → Prop :=
  Alike (Twins A W s₀ t₀)

theorem systemTransfer_twins (twins : Twins A W s₀ t₀ s t) {source target : Pubkey}
    (hsource : source ∈ W) (htarget : target ∈ W) (lamports : ℕ) :
    TwinRuns A W s₀ t₀ (systemTransfer s source target lamports)
      (systemTransfer t source target lamports) := by
  unfold systemTransfer
  rw [data_eq twins (twins.subset hsource), lamports_eq twins (twins.subset hsource)]
  refine .bind_same fun _ => .bind_same fun left => ?_
  have twins' := setLamports_twins twins hsource left
  dsimp only
  rw [lamports_eq twins' (twins.subset htarget)]
  exact .bind_same fun total => .pure (setLamports_twins twins' htarget total)

theorem createAccount_twins (twins : Twins A W s₀ t₀ s t) {payer : Pubkey} (hpayer : payer ∈ W)
    (ha : a ∈ W) (len : ℕ) (contents : AccountData Pubkey Hash) :
    TwinRuns A W s₀ t₀ (createAccount rt s payer a len contents)
      (createAccount rt t payer a len contents) := by
  unfold createAccount
  rw [data_eq twins (twins.subset ha), lamports_eq twins (twins.subset ha)]
  refine .bind_same fun _ => .bind_same fun _ => ?_
  refine .bind (systemTransfer_twins twins hpayer ha _) fun s' t' twins' => ?_
  exact .pure (setData_twins twins' ha contents)

/-- Two runs of a block that changes the ledger and returns something. -/
abbrev TwinResults {β : Type} (A W : Set Pubkey) (s₀ t₀ : State Pubkey Hash) :
    Except ProgramError (State Pubkey Hash × β) → Except ProgramError (State Pubkey Hash × β) →
      Prop :=
  Alike fun x y => x.2 = y.2 ∧ Twins A W s₀ t₀ x.1 y.1

omit [DecidableEq Pubkey] in
theorem bind_twins {β : Type} {γ : Type} {Q : γ → γ → Prop}
    {x y : Except ProgramError (State Pubkey Hash × β)}
    {f g : State Pubkey Hash × β → Except ProgramError γ} (h : TwinResults A W s₀ t₀ x y)
    (hf : ∀ s t b, Twins A W s₀ t₀ s t → Alike Q (f (s, b)) (g (t, b))) :
    Alike Q (x >>= f) (y >>= g) := by
  refine h.bind ?_
  rintro ⟨s, b⟩ ⟨t, b'⟩ ⟨hb, twins⟩
  obtain rfl : b = b' := hb
  exact hf s t b twins

theorem initAccount_twins (twins : Twins A W s₀ t₀ s t) {payer : Pubkey} (hpayer : payer ∈ W)
    (ha : a ∈ W) (seeds : Seeds Pubkey Hash) (fresh : ProgramData Pubkey Hash) :
    TwinResults A W s₀ t₀ (initAccount rt s payer seeds a fresh)
      (initAccount rt t payer seeds a fresh) := by
  refine .bind_same fun _ => .bind (createAccount_twins twins hpayer ha _ _) fun s' t' twins' => ?_
  exact .pure ⟨rfl, twins'⟩

omit [DecidableEq Pubkey] in
theorem created_twins (twins : Twins A W s₀ t₀ s t) (ha : a ∈ A) {x y : Except ProgramError _}
    (create : TwinRuns A W s₀ t₀ x y) :
    TwinRuns A W s₀ t₀ (if (s.data a).isSystem then x else pure s)
      (if (t.data a).isSystem then y else pure t) := by
  rw [data_eq twins ha]
  exact .ite (fun _ => create) fun _ => .pure twins

theorem initIfNeeded_twins {α : Type} (twins : Twins A W s₀ t₀ s t) {payer : Pubkey}
    (hpayer : payer ∈ W) (ha : a ∈ W) (seeds : Seeds Pubkey Hash)
    (read : ProgramData Pubkey Hash → Option α) (fresh : ProgramData Pubkey Hash) :
    TwinResults A W s₀ t₀ (initIfNeeded rt s payer seeds a read fresh)
      (initIfNeeded rt t payer seeds a read fresh) := by
  refine .bind_same fun _ => .bind (created_twins twins (twins.subset ha)
    (createAccount_twins twins hpayer ha _ _)) fun s' t' twins' => ?_
  rw [loadAccount_eq twins' (twins.subset ha), lamports_eq twins' (twins.subset ha)]
  exact .bind_same fun x => .bind_same fun _ => .pure ⟨rfl, twins'⟩

theorem exitAccount_twins (twins : Twins A W s₀ t₀ s t) {w : Writability}
    (ha : w = .mutable → a ∈ W) (d : ProgramData Pubkey Hash) :
    TwinRuns A W s₀ t₀ (exitAccount w s a d) (exitAccount w t a d) := by
  cases w with
  | readonly => exact .pure twins
  | mutable => exact .bind_same fun _ => .pure (setData_twins twins (ha rfl) _)

theorem closeAccount_twins (twins : Twins A W s₀ t₀ s t) {target : Pubkey} (ha : a ∈ W)
    (htarget : target ∈ W) :
    TwinRuns A W s₀ t₀ (closeAccount s a target) (closeAccount t a target) := by
  unfold closeAccount
  rw [lamports_eq twins (twins.subset htarget), lamports_eq twins (twins.subset ha)]
  refine .bind_same fun total => .pure ?_
  exact setData_twins (setLamports_twins (setLamports_twins twins htarget total) ha 0) ha .system

theorem transferChecked_twins (twins : Twins A W s₀ t₀ s t) {source target mint : Pubkey}
    (hsource : source ∈ W) (htarget : target ∈ W) (hmint : mint ∈ A)
    (tokenProgram authority : Pubkey) (amount : ℕ) (decimals : UInt8) :
    TwinRuns A W s₀ t₀
      (transferChecked rt s tokenProgram source target mint authority amount decimals)
      (transferChecked rt t tokenProgram source target mint authority amount decimals) := by
  unfold transferChecked
  rw [tokenAccountOf_eq twins (twins.subset hsource),
    tokenAccountOf_eq twins (twins.subset htarget), mintOf_eq twins hmint]
  refine .bind_same fun src => .bind_same fun dst => .bind_same fun m => .bind_same fun _ =>
    .bind_same fun _ => .bind_same fun _ => .bind_same fun left => .ite (fun _ => .pure twins)
      fun _ => .bind_same fun total => .pure ?_
  exact setData_twins (setData_twins twins hsource _) htarget _

theorem mintTo_twins (twins : Twins A W s₀ t₀ s t) {mint target : Pubkey} (hmint : mint ∈ W)
    (htarget : target ∈ W) (tokenProgram authority : Pubkey) (amount : ℕ) :
    TwinRuns A W s₀ t₀ (mintTo s tokenProgram mint target authority amount)
      (mintTo t tokenProgram mint target authority amount) := by
  unfold mintTo
  rw [mintOf_eq twins (twins.subset hmint), tokenAccountOf_eq twins (twins.subset htarget)]
  refine .bind_same fun m => .bind_same fun dst => .bind_same fun _ => .bind_same fun _ =>
    .bind_same fun supply => .bind_same fun total => .pure ?_
  exact setData_twins (setData_twins twins hmint _) htarget _

theorem burn_twins (twins : Twins A W s₀ t₀ s t) {mint source : Pubkey} (hmint : mint ∈ W)
    (hsource : source ∈ W) (tokenProgram authority : Pubkey) (amount : ℕ) :
    TwinRuns A W s₀ t₀ (burn s tokenProgram mint source authority amount)
      (burn t tokenProgram mint source authority amount) := by
  unfold burn
  rw [mintOf_eq twins (twins.subset hmint), tokenAccountOf_eq twins (twins.subset hsource)]
  refine .bind_same fun m => .bind_same fun src => .bind_same fun _ => .bind_same fun _ =>
    .bind_same fun left => .bind_same fun supply => .pure ?_
  exact setData_twins (setData_twins twins hmint _) hsource _

theorem createAssociatedToken_twins (twins : Twins A W s₀ t₀ s t) {payer mint : Pubkey}
    (hpayer : payer ∈ W) (ha : a ∈ W) (hmint : mint ∈ A) (authority tokenProgram : Pubkey) :
    TwinRuns A W s₀ t₀ (createAssociatedToken rt s payer a authority mint tokenProgram)
      (createAssociatedToken rt t payer a authority mint tokenProgram) := by
  unfold createAssociatedToken
  rw [mintOf_eq twins hmint]
  exact .bind_same fun _ => .bind_same fun _ => createAccount_twins twins hpayer ha _ _

theorem vault_twins (twins : Twins A W s₀ t₀ s t) {payer bridgeHandlerVault mint : Pubkey}
    (hpayer : payer ∈ W) (hvault : bridgeHandlerVault ∈ W) (hmint : mint ∈ A)
    (bridgeHandler tokenProgram : Pubkey) :
    TwinRuns A W s₀ t₀
      (initIfNeededAndCheckBridgeHandlerVault rt s payer bridgeHandlerVault bridgeHandler mint
        tokenProgram)
      (initIfNeededAndCheckBridgeHandlerVault rt t payer bridgeHandlerVault bridgeHandler mint
        tokenProgram) := by
  unfold initIfNeededAndCheckBridgeHandlerVault
  rw [data_eq twins (twins.subset hvault)]
  refine .bind (.ite (fun _ => createAssociatedToken_twins twins hpayer hvault hmint _ _)
    fun _ => .pure twins) fun s' t' twins' => ?_
  rw [readTokenAccount_eq twins' (twins.subset hvault), lamports_eq twins' (twins.subset hvault)]
  exact .bind_same fun _ => .bind_same fun _ => .bind_same fun _ => .bind_same fun _ =>
    .bind_same fun _ => .bind_same fun _ => .pure twins'

theorem burnSol_twins (twins : Twins A W s₀ t₀ s t) {signer : Pubkey} (hsigner : signer ∈ W)
    (lamports : UInt64) :
    TwinRuns A W s₀ t₀ (burnSol rt s signer lamports) (burnSol rt t signer lamports) := by
  unfold burnSol
  rw [lamports_eq twins (twins.subset hsigner)]
  exact .bind_same fun _ => .bind_same fun _ => .bind_same fun left =>
    .pure (setLamports_twins twins hsigner left)

theorem takeSol_twins (twins : Twins A W s₀ t₀ s t) {signer bridgeHandler : Pubkey}
    (hsigner : signer ∈ W) (hhandler : bridgeHandler ∈ W) (chain : Chain) (lamports : UInt64) :
    TwinRuns A W s₀ t₀
      (match chain with
        | .solana => systemTransfer s signer bridgeHandler lamports.toNat
        | .solayer => burnSol rt s signer lamports)
      (match chain with
        | .solana => systemTransfer t signer bridgeHandler lamports.toNat
        | .solayer => burnSol rt t signer lamports) := by
  cases chain with
  | solana => exact systemTransfer_twins twins hsigner hhandler _
  | solayer => exact burnSol_twins twins hsigner lamports

theorem paySol_twins (twins : Twins A W s₀ t₀ s t) {bridgeHandler recipient : Pubkey}
    (hhandler : bridgeHandler ∈ W) (hrecipient : recipient ∈ W) (chain : Chain) (dataLen : ℕ)
    (lamports accountIdx : UInt64) :
    TwinRuns A W s₀ t₀ (paySol rt s chain bridgeHandler recipient dataLen lamports accountIdx)
      (paySol rt t chain bridgeHandler recipient dataLen lamports accountIdx) := by
  cases chain with
  | solana =>
      unfold paySol transferSolToRecipient
      dsimp only
      rw [lamports_eq twins (twins.subset hhandler)]
      refine .bind_same fun _ => .bind_same fun _ => .bind_same fun left => ?_
      have twins' := setLamports_twins twins hhandler left
      rw [lamports_eq twins' (twins.subset hrecipient)]
      exact .bind_same fun total => .pure (setLamports_twins twins' hrecipient total)
  | solayer =>
      unfold paySol mintSolToRecipient
      dsimp only
      rw [lamports_eq twins (twins.subset hrecipient)]
      exact .bind_same fun _ => .bind_same fun _ => .bind_same fun total =>
        .pure (setLamports_twins twins hrecipient total)

end BridgeProgram.AccountFootprints
